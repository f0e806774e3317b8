import WireguardPanel.Foundation.Text

/-!
# Addresses as Node.js recognises them

`net.isIPv4` and `net.isIPv6`, on the segments of an address. In an address of
version 6, two colons stand for at least one segment of zeros, the last two
segments may be written as an address of version 4, and a zone may follow.

* `Net.plain_of_isIPv4`, `Net.plain_of_isIPv6`: the characters of an address.
* `Net.colon_of_isIPv6`: an address of version 6 has a colon.
-/

namespace Foundation

namespace Net

/-- A character of a word that cannot be taken apart: no white space, bracket or
    comment. -/
def Plain (c : Char) : Prop := Text.isSpace c = false ∧ c ≠ '#' ∧ c ≠ '['

/-- A number up to 255 without superfluous zeros. -/
def isOctet (cs : List Char) : Bool := (List.range 256).any fun n => cs = (toString n).toList

/-- `net.isIPv4`, on characters. -/
def isDotted (cs : List Char) : Bool :=
  let parts := cs.splitOn '.'
  parts.length = 4 && parts.all isOctet

/-- `net.isIPv4`. -/
def isIPv4 (s : String) : Bool := isDotted s.toList

/-- A digit to the base 16. -/
def isHexDigit (c : Char) : Bool := c ∈ "0123456789abcdefABCDEF".toList

/-- A segment of 16 bits. -/
def isSegment (cs : List Char) : Bool := 1 ≤ cs.length && cs.length ≤ 4 && cs.all isHexDigit

/-- How many segments a row of them has, where a dotted address at its end, if it
    is allowed, counts as two. -/
def countSegments (dotted : Bool) : List (List Char) → Option ℕ
  | [] => some 0
  | [part] =>
    if isSegment part then some 1
    else if dotted && isDotted part then some 2
    else none
  | part :: parts => if isSegment part then (countSegments dotted parts).map (· + 1) else none

/-- The segments between colons. -/
def segments (cs : List Char) : List (List Char) := if cs = [] then [] else cs.splitOn ':'

/-- Two colons after `k` characters, and at most seven segments around them. -/
def isShortenedAt (cs : List Char) (k : ℕ) : Bool :=
  match cs.drop k with
  | ':' :: ':' :: back =>
    match countSegments false (segments (cs.take k)), countSegments true (segments back) with
    | some m, some n => m + n ≤ 7
    | _, _ => false
  | _ => false

/-- An address of version 6 without a zone. -/
def isSegmented (cs : List Char) : Bool :=
  countSegments true (segments cs) = some 8 || (List.range cs.length).any (isShortenedAt cs)

/-- A letter or a digit, or one of three signs. -/
def isZoneChar (c : Char) : Bool := c.isAlphanum || c = '-' || c = '.' || c = ':'

/-- `net.isIPv6`. -/
def isIPv6 (s : String) : Bool :=
  isSegmented (s.toList.takeWhile (· ≠ '%')) &&
    match s.toList.dropWhile (· ≠ '%') with
    | [] => true
    | _ :: zone => zone ≠ [] && zone.all isZoneChar

/-- `net.isIP`, as far as it is not zero. -/
def isIP (s : String) : Bool := isIPv4 s || isIPv6 s

example : isIPv6 "2001:db8::1" = true ∧ isIPv6 "::" = true ∧ isIPv6 "fe80::1%eth0" = true ∧
    isIPv6 "::ffff:192.0.2.1" = true ∧ isIPv6 "1:2:3:4:5:6:7:8" = true ∧
    isIPv6 "vpn.example.net:51820" = false ∧ isIPv6 "1:2:3:4:5:6:7" = false ∧
    isIPv6 "1::2::3" = false ∧ isIPv6 "1:2:3:4:5:6:7::" = true ∧ isIPv6 ":1" = false := by
  decide +kernel

/-! ## The characters of addresses -/

theorem plain_of_isAlphanum {c : Char} (h : c.isAlphanum = true) : Plain c := by
  have hrange : 48 ≤ c.toNat ∧ c.toNat ≤ 57 ∨ 65 ≤ c.toNat ∧ c.toNat ≤ 90 ∨
      97 ≤ c.toNat ∧ c.toNat ≤ 122 := by
    have hbounds : ∀ {low high : UInt32}, low ≤ c.val ∧ c.val ≤ high →
        low.toNat ≤ c.toNat ∧ c.toNat ≤ high.toNat := fun h =>
      ⟨UInt32.le_iff_toNat_le.1 h.1, UInt32.le_iff_toNat_le.1 h.2⟩
    rcases Bool.or_eq_true_iff.1 h with halpha | hdigit
    · rcases Bool.or_eq_true_iff.1 halpha with hupper | hlower
      · exact .inr (.inl (hbounds (of_decide_eq_true hupper)))
      · exact .inr (.inr (hbounds
          ((Bool.and_eq_true_iff.1 hlower).imp of_decide_eq_true of_decide_eq_true)))
    · exact .inl (hbounds
        ((Bool.and_eq_true_iff.1 hdigit).imp of_decide_eq_true of_decide_eq_true))
  have hne : ∀ d : Char, (d.toNat < 48 ∨ (57 < d.toNat ∧ d.toNat < 65) ∨
      (90 < d.toNat ∧ d.toNat < 97)) → c ≠ d := by
    rintro d hd rfl
    omega
  refine ⟨?_, hne _ (by decide), hne _ (by decide)⟩
  simp only [Text.isSpace, Bool.or_eq_false_iff, decide_eq_false_iff_not, List.mem_cons,
    List.not_mem_nil, or_false, not_or, Bool.and_eq_false_iff]
  omega

theorem plain_of_isDotted {cs : List Char} (h : isDotted cs = true) :
    ∀ c ∈ cs, c = '.' ∨ c.isAlphanum = true := fun c hc => by
  obtain ⟨-, hparts⟩ := Bool.and_eq_true_iff.1 h
  refine (Text.mem_splitOn_of_mem hc).imp id fun ⟨part, hpart, hc⟩ => ?_
  obtain ⟨n, -, hn⟩ := List.any_eq_true.1 (List.all_eq_true.1 hparts part hpart)
  rw [of_decide_eq_true hn] at hc
  rw [Char.isAlphanum, Text.isDigit_toString hc, Bool.or_true]

theorem plain_of_isSegment {cs : List Char} (h : isSegment cs = true) :
    ∀ c ∈ cs, c.isAlphanum = true := fun c hc => by
  have hdigits : "0123456789abcdefABCDEF".toList.all Char.isAlphanum = true := by decide
  obtain ⟨-, hall⟩ := Bool.and_eq_true_iff.1 h
  exact List.all_eq_true.1 hdigits c (of_decide_eq_true (List.all_eq_true.1 hall c hc))

theorem plain_of_countSegments {dotted : Bool} {parts : List (List Char)} {n : ℕ}
    (h : countSegments dotted parts = some n) :
    ∀ part ∈ parts, ∀ c ∈ part, c = '.' ∨ c.isAlphanum = true := by
  induction parts generalizing n with
  | nil => exact fun _ hmem => absurd hmem List.not_mem_nil
  | cons part parts ih =>
    cases parts with
    | nil =>
      rw [countSegments] at h
      intro only hmem c hc
      obtain rfl := List.mem_singleton.1 hmem
      split_ifs at h with hsegment hdotted
      · exact .inr (plain_of_isSegment hsegment c hc)
      · exact plain_of_isDotted (Bool.and_eq_true_iff.1 hdotted).2 c hc
    | cons next parts =>
      rw [countSegments] at h
      · split_ifs at h with hsegment
        obtain ⟨m, hm, -⟩ := Option.map_eq_some_iff.1 h
        exact List.forall_mem_cons.2 ⟨fun c hc => .inr (plain_of_isSegment hsegment c hc), ih hm⟩
      · exact List.cons_ne_nil _ _

/-- A character of the part of an address before its zone. -/
def isAddressChar (c : Char) : Prop := c = ':' ∨ c = '.' ∨ c.isAlphanum = true

theorem isAddressChar_of_segments {dotted : Bool} {cs : List Char} {n : ℕ}
    (h : countSegments dotted (segments cs) = some n) : ∀ c ∈ cs, isAddressChar c := fun c hc => by
  rw [segments, if_neg (List.ne_nil_of_mem hc)] at h
  exact (Text.mem_splitOn_of_mem hc).imp id fun ⟨part, hpart, hc⟩ =>
    plain_of_countSegments h part hpart c hc

/-- What two colons stand between. -/
theorem isShortenedAt_spec {cs : List Char} {k : ℕ} (h : isShortenedAt cs k = true) :
    ∃ back m n, cs = cs.take k ++ ':' :: ':' :: back ∧
      countSegments false (segments (cs.take k)) = some m ∧
      countSegments true (segments back) = some n := by
  rw [isShortenedAt] at h
  split at h
  · next back hback =>
    split at h
    · next m n hm hn => exact ⟨back, m, n, hback ▸ (List.take_append_drop k cs).symm, hm, hn⟩
    · cases h
  · cases h

theorem isAddressChar_of_isSegmented {cs : List Char} (h : isSegmented cs = true) :
    ∀ c ∈ cs, isAddressChar c := by
  rcases Bool.or_eq_true_iff.1 h with hfull | hshort
  · exact isAddressChar_of_segments (of_decide_eq_true hfull)
  · obtain ⟨k, -, hk⟩ := List.any_eq_true.1 hshort
    obtain ⟨back, m, n, hcs, hm, hn⟩ := isShortenedAt_spec hk
    rw [hcs]
    intro c hc
    rcases List.mem_append.1 hc with hfront | hc
    · exact isAddressChar_of_segments hm c hfront
    · rcases List.mem_cons.1 hc with rfl | hc
      · exact .inl rfl
      · rcases List.mem_cons.1 hc with rfl | hback
        · exact .inl rfl
        · exact isAddressChar_of_segments hn c hback

theorem plain_of_isIPv4 {s : String} (h : isIPv4 s = true) : ∀ c ∈ s.toList, Plain c ∧ c ≠ ':' :=
  fun c hc => by
    rcases plain_of_isDotted h c hc with rfl | halnum
    · exact ⟨⟨by decide, by decide, by decide⟩, by decide⟩
    · exact ⟨plain_of_isAlphanum halnum, fun heq => absurd (heq ▸ halnum) (by decide)⟩

theorem plain_of_isIPv6 {s : String} (h : isIPv6 s = true) :
    ∀ c ∈ s.toList, Plain c := fun c hc => by
  obtain ⟨hsegmented, hzone⟩ := Bool.and_eq_true_iff.1 h
  have hsign : ∀ d ∈ [':', '.', '-', '%'], Plain d := fun d hd => by
    have hall : ([':', '.', '-', '%'].all fun d =>
        decide (Text.isSpace d = false ∧ d ≠ '#' ∧ d ≠ '[')) = true := by decide
    have hplain := of_decide_eq_true (List.all_eq_true.1 hall d hd)
    exact hplain
  rw [← List.takeWhile_append_dropWhile (p := (· ≠ '%')) (l := s.toList)] at hc
  rcases List.mem_append.1 hc with haddress | hc
  · rcases isAddressChar_of_isSegmented hsegmented c haddress with rfl | rfl | halnum
    · exact hsign _ (by decide)
    · exact hsign _ (by decide)
    · exact plain_of_isAlphanum halnum
  · have hpercent := List.head?_dropWhile_not (· ≠ '%') s.toList
    split at hzone
    · next hnil => exact absurd (hnil ▸ hc) List.not_mem_nil
    · next first zone hdrop =>
      rw [hdrop] at hc hpercent
      rcases List.mem_cons.1 hc with rfl | hc
      · have heq : c = '%' := by simpa using hpercent
        exact heq ▸ hsign _ (by decide)
      · have hall := List.all_eq_true.1 (Bool.and_eq_true_iff.1 hzone).2 c hc
        simp only [isZoneChar, Bool.or_eq_true, decide_eq_true_eq] at hall
        rcases hall with ((halnum | rfl) | rfl) | rfl
        · exact plain_of_isAlphanum halnum
        · exact hsign _ (by decide)
        · exact hsign _ (by decide)
        · exact hsign _ (by decide)

/-- An address of version 6 has a colon. -/
theorem colon_of_isIPv6 {s : String} (h : isIPv6 s = true) : ':' ∈ s.toList := by
  refine (List.takeWhile_prefix _).subset (?_ : ':' ∈ s.toList.takeWhile (· ≠ '%'))
  rcases Bool.or_eq_true_iff.1 (Bool.and_eq_true_iff.1 h).1 with hfull | hshort
  · by_contra hnone
    have hcount := of_decide_eq_true hfull
    rw [segments] at hcount
    split_ifs at hcount with hnil
    · cases hcount
    · rw [List.splitOn_eq_singleton hnone, countSegments] at hcount
      split_ifs at hcount <;> cases hcount
  · obtain ⟨k, -, hk⟩ := List.any_eq_true.1 hshort
    obtain ⟨back, m, n, hcs, -⟩ := isShortenedAt_spec hk
    rw [hcs]
    exact List.mem_append_right _ List.mem_cons_self

end Net

end Foundation
