import Mathlib.Data.List.Basic
import Mathlib.Data.List.DropRight
import Mathlib.Data.List.Infix

/-!
# Texts as ECMAScript handles them

The string operations of ECMAScript that cut a text into parts, on the
characters of the text, so that they can be evaluated.

* `trim` removes white space (`isSpace`) at both ends.
* `split` cuts a text at every occurrence of a character.
* `parseDigits` reads a text that consists of decimal digits.
* `split_join`, `parseDigits_toString`: what has been written is read back.
* `join_eq_join_iff`, `toString_int_injective`: what has been written tells
  what it was written from.
-/

namespace Foundation

namespace Text

/-- The white space and line terminators of ECMAScript. -/
def isSpace (c : Char) : Bool :=
  c.toNat ∈ [0x9, 0xA, 0xB, 0xC, 0xD, 0x20, 0xA0, 0x1680, 0x2028, 0x2029, 0x202F, 0x205F, 0x3000,
      0xFEFF] ||
    (0x2000 ≤ c.toNat && c.toNat ≤ 0x200A)

/-- A text without the white space at its end. -/
def trimRight (cs : List Char) : List Char := (cs.reverse.dropWhile isSpace).reverse

/-- `String.prototype.trim`. -/
def trim (s : String) : String := String.ofList (trimRight (s.toList.dropWhile isSpace))

/-- `String.prototype.split` with a separator of one character. -/
def split (sep : Char) (s : String) : List String := (s.toList.splitOn sep).map String.ofList

/-- `Array.prototype.join`. -/
def join (sep : String) : List String → String
  | [] => ""
  | [s] => s
  | s :: t :: ss => s ++ sep ++ join sep (t :: ss)

/-- The value of a non-empty row of decimal digits. -/
def parseDigits (s : String) : Option ℕ :=
  if s.toList ≠ [] ∧ s.toList.all Char.isDigit then
    some (s.toList.foldl (fun n c => n * 10 + (c.toNat - 48)) 0)
  else none

/-- Whether one text occurs in another. -/
def includes (s t : String) : Bool := decide (t.toList <:+: s.toList)

/-! ## Reading back what has been written -/

theorem split_eq_singleton {sep : Char} {s : String} (h : sep ∉ s.toList) : split sep s = [s] := by
  rw [split, List.splitOn_eq_singleton h]
  simp

/-- A text that is joined from pieces splits into them. -/
theorem split_join {sep : Char} {pieces : List String} (hne : pieces ≠ [])
    (h : ∀ s ∈ pieces, sep ∉ s.toList) :
    split sep (join (String.singleton sep) pieces) = pieces := by
  induction pieces with
  | nil => exact absurd rfl hne
  | cons s rest ih =>
    obtain ⟨hs, hrest⟩ := List.forall_mem_cons.1 h
    cases rest with
    | nil => exact split_eq_singleton hs
    | cons t rest =>
      have htail := ih (by simp) hrest
      rw [split] at htail ⊢
      rw [join, String.toList_append, String.toList_append, String.toList_singleton,
        List.append_assoc, List.singleton_append, List.splitOn_append_cons_self,
        List.splitOn_eq_singleton hs, List.map_append, htail]
      simp

/-- The characters of a joined text. -/
theorem mem_join {sep : String} {pieces : List String} {c : Char}
    (h : c ∈ (join sep pieces).toList) : c ∈ sep.toList ∨ ∃ s ∈ pieces, c ∈ s.toList := by
  induction pieces with
  | nil => simp [join] at h
  | cons s rest ih =>
    cases rest with
    | nil => exact .inr ⟨s, by simp, h⟩
    | cons t rest =>
      rw [join, String.toList_append, String.toList_append, List.mem_append, List.mem_append] at h
      rcases h with (h | h) | h
      · exact .inr ⟨s, by simp, h⟩
      · exact .inl h
      · rcases ih h with h | ⟨u, hu, h⟩
        · exact .inl h
        · exact .inr ⟨u, List.mem_cons_of_mem _ hu, h⟩

theorem isDigit_bounds {c : Char} (h : c.isDigit = true) : 48 ≤ c.toNat ∧ c.toNat ≤ 57 := by
  simpa [Char.isDigit, UInt32.le_iff_toNat_le] using h

theorem isSpace_of_isDigit {c : Char} (h : c.isDigit = true) : isSpace c = false := by
  have hbounds := isDigit_bounds h
  simp only [isSpace, Bool.or_eq_false_iff, decide_eq_false_iff_not, List.mem_cons,
    List.not_mem_nil, or_false, Bool.and_eq_false_iff]
  omega

/-- A text without white space at its ends is not trimmed. -/
theorem trim_eq_of_ends {s : String} (hhead : ∀ c ∈ s.toList.head?, isSpace c = false)
    (hlast : ∀ c ∈ s.toList.getLast?, isSpace c = false) : trim s = s := by
  have hdrop : ∀ cs : List Char, (∀ c ∈ cs.head?, isSpace c = false) →
      cs.dropWhile isSpace = cs := by
    rintro (_ | ⟨c, cs⟩) hcs
    · rfl
    · rw [List.dropWhile_cons, if_neg (by simp [hcs c (by simp)])]
  rw [trim, trimRight, hdrop _ hhead, hdrop _ (by rwa [List.head?_reverse]),
    List.reverse_reverse, String.ofList_toList]

/-- A text without white space is not trimmed. -/
theorem trim_eq_self {s : String} (h : ∀ c ∈ s.toList, isSpace c = false) : trim s = s :=
  trim_eq_of_ends (fun c hc => h c (List.mem_of_mem_head? hc))
    (fun c hc => h c (List.mem_of_mem_getLast? hc))

/-- The characters of a trimmed text. -/
theorem mem_trim {s : String} {c : Char} (h : c ∈ (trim s).toList) : c ∈ s.toList := by
  rw [trim, trimRight, String.toList_ofList, List.mem_reverse] at h
  exact List.dropWhile_subset _ (List.mem_reverse.1 (List.dropWhile_subset _ h))

/-- White space at the end comes after the last other character. -/
theorem trimRight_append_cons {c : Char} (hc : isSpace c = false) (front back : List Char) :
    trimRight (front ++ c :: back) = front ++ c :: trimRight back := by
  have hdrop : (back.reverse ++ c :: front.reverse).dropWhile isSpace =
      back.reverse.dropWhile isSpace ++ c :: front.reverse := by
    rw [List.dropWhile_append]
    split_ifs with hempty
    · rw [List.isEmpty_iff.1 hempty, List.dropWhile_cons_of_neg (by simp [hc]), List.nil_append]
    · rfl
  rw [trimRight, List.reverse_append, List.reverse_cons, List.append_assoc, List.singleton_append,
    hdrop, trimRight]
  simp

/-- It does not matter at which end white space is removed first. -/
theorem dropWhile_trimRight (cs : List Char) :
    (trimRight cs).dropWhile isSpace = trimRight (cs.dropWhile isSpace) := by
  have hall : ∀ c ∈ cs.takeWhile isSpace, isSpace c = true := fun c hc => List.mem_takeWhile_imp hc
  have hsplit := List.takeWhile_append_dropWhile (p := isSpace) (l := cs)
  have hnot := List.head?_dropWhile_not isSpace cs
  rcases hrest : cs.dropWhile isSpace with _ | ⟨c, rest⟩ <;> rw [hrest] at hsplit hnot
  · rw [List.append_nil] at hsplit
    have hnone : trimRight cs = [] := List.rdropWhile_eq_nil_iff.2 (hsplit ▸ hall)
    rw [hnone]
    rfl
  · have hc : isSpace c = false := by simpa using hnot
    have hback : trimRight (c :: rest) = c :: trimRight rest := trimRight_append_cons hc [] rest
    rw [← hsplit, trimRight_append_cons hc, List.dropWhile_append_of_pos hall,
      List.dropWhile_cons_of_neg (by simp [hc]), hback]

/-- White space at the end of a text is trimmed anyway. -/
theorem trim_ofList_trimRight (s : String) :
    trim (String.ofList (trimRight s.toList)) = trim s := by
  have hagain : ∀ cs : List Char, trimRight (trimRight cs) = trimRight cs := fun cs =>
    List.rdropWhile_idempotent isSpace cs
  rw [trim, trim, String.toList_ofList, dropWhile_trimRight, hagain]

theorem trim_ofList_dropWhile (s : String) :
    trim (String.ofList (s.toList.dropWhile isSpace)) = trim s := by
  rw [trim, trim, String.toList_ofList, List.dropWhile_idempotent]

/-- A text that is not trimmed does not begin with white space. -/
theorem head?_of_trim_eq {s : String} (h : trim s = s) :
    ∀ c ∈ s.toList.head?, isSpace c = false := by
  intro c hc
  by_contra hspace
  obtain ⟨rest, hrest⟩ := List.head?_eq_some_iff.1 hc
  -- A text that begins with white space gets shorter.
  have hlength := congrArg (fun s : String => s.toList.length) h
  rw [trim, String.toList_ofList, hrest, List.dropWhile_cons_of_pos (by simpa using hspace),
    trimRight, List.length_reverse, List.length_cons] at hlength
  have hright := (List.dropWhile_suffix (p := isSpace)
    (l := (rest.dropWhile isSpace).reverse)).length_le
  have hleft := (List.dropWhile_suffix (p := isSpace) (l := rest)).length_le
  rw [List.length_reverse] at hright
  omega

/-- A text is not trimmed if it does not begin with white space and there is none
    in its last part. -/
theorem trim_append_eq {s t : String} (hs : ∀ c ∈ s.toList.head?, isSpace c = false)
    (ht : ∀ c ∈ t.toList, isSpace c = false) (hne : t.toList ≠ []) : trim (s ++ t) = s ++ t := by
  refine trim_eq_of_ends (fun c hc => ?_) fun c hc => ?_
  · rw [String.toList_append, List.head?_append] at hc
    cases hhead : s.toList.head? with
    | none =>
      rw [hhead, Option.none_or] at hc
      exact ht c (List.mem_of_mem_head? hc)
    | some first =>
      rw [hhead, Option.some_or] at hc
      exact hs c (hhead ▸ hc)
  · rw [String.toList_append, List.getLast?_append_of_ne_nil _ hne] at hc
    exact ht c (List.mem_of_mem_getLast? hc)

/-- A trimmed text is not trimmed again. -/
theorem trim_trim (s : String) : trim (trim s) = trim s := by
  have hagain : ∀ cs : List Char, trimRight (trimRight cs) = trimRight cs := fun cs =>
    List.rdropWhile_idempotent isSpace cs
  rw [trim, trim, String.toList_ofList, dropWhile_trimRight, hagain, List.dropWhile_idempotent]

/-- The decimal form of a number consists of digits. -/
theorem isDigit_toString {n : ℕ} {c : Char} (h : c ∈ (toString n).toList) : c.isDigit = true := by
  rw [Nat.toString_eq_repr, Nat.toList_repr] at h
  exact Nat.isDigit_of_mem_toDigits (by omega) (by omega) h

theorem parseDigits_toString (n : ℕ) : parseDigits (toString n) = some n := by
  have hne : (toString n).toList ≠ [] := by
    rw [Nat.toString_eq_repr, Nat.toList_repr]
    exact Nat.toDigits_ne_nil
  rw [parseDigits, if_pos ⟨hne, List.all_eq_true.2 fun c hc => isDigit_toString hc⟩,
    Nat.toString_eq_repr, Nat.toList_repr, Option.some.injEq]
  have hread := Nat.ofDigitChars_ten_toDigits (n := n)
  rw [Nat.ofDigitChars_eq_foldl] at hread
  simpa only [Nat.mul_comm, show '0'.toNat = 48 from rfl] using hread

theorem toString_int (n : ℤ) :
    toString n = if 0 ≤ n then toString n.toNat else "-" ++ toString n.natAbs := by
  cases n with
  | ofNat m => rfl
  | negSucc m => rfl

theorem toString_nat_injective {m n : ℕ} (h : toString m = toString n) : m = n := by
  have hread := parseDigits_toString m
  rw [h, parseDigits_toString] at hread
  exact (Option.some.inj hread).symm

/-- The characters of the decimal form of an integer. -/
theorem mem_toString_int {n : ℤ} {c : Char} (h : c ∈ (toString n).toList) :
    c = '-' ∨ c.isDigit = true := by
  rw [toString_int] at h
  split_ifs at h
  · exact .inr (isDigit_toString h)
  · rcases List.mem_append.1 (String.toList_append ▸ h) with hsign | hdigit
    · exact .inl (List.mem_singleton.1 hsign)
    · exact .inr (isDigit_toString hdigit)

theorem toString_int_injective {m n : ℤ} (h : toString m = toString n) : m = n := by
  have hsign : ∀ k l : ℕ, toString k ≠ "-" ++ toString l := fun k l heq => by
    have hmem : '-' ∈ (toString k).toList := by
      rw [heq, String.toList_append]
      exact List.mem_append_left _ (List.mem_singleton_self _)
    exact absurd (isDigit_toString hmem) (by decide)
  rw [toString_int, toString_int] at h
  split_ifs at h with hm hn hn
  · have heq := toString_nat_injective h
    omega
  · exact absurd h (hsign _ _)
  · exact absurd h.symm (hsign _ _)
  · have heq := toString_nat_injective (String.append_right_inj _ |>.1 h)
    omega

/-! ## The occurrences of a character -/

theorem decide_ne {c : Char} {front : List Char} (h : c ∉ front) :
    ∀ a ∈ front, decide (a ≠ c) = true := fun _ ha => decide_eq_true fun heq => h (heq ▸ ha)

/-- What stands before the first occurrence of a character. -/
theorem takeWhile_ne {c : Char} {front : List Char} (h : c ∉ front) (back : List Char) :
    (front ++ c :: back).takeWhile (· ≠ c) = front := by
  rw [List.takeWhile_append_of_pos (decide_ne h), List.takeWhile_cons_of_neg (by simp),
    List.append_nil]

/-- What begins with the first occurrence of a character. -/
theorem dropWhile_ne {c : Char} {front : List Char} (h : c ∉ front) (back : List Char) :
    (front ++ c :: back).dropWhile (· ≠ c) = c :: back := by
  rw [List.dropWhile_append_of_pos (decide_ne h), List.dropWhile_cons_of_neg (by simp)]

/-- What stands before and after the first occurrence of a character. -/
theorem append_cons_inj {c : Char} {front front' back back' : List Char} (hfront : c ∉ front)
    (hfront' : c ∉ front') (h : front ++ c :: back = front' ++ c :: back') :
    front = front' ∧ back = back' := by
  have heq : front = front' := by rw [← takeWhile_ne hfront back, h, takeWhile_ne hfront']
  subst heq
  exact ⟨rfl, (List.cons.inj (List.append_cancel_left h)).2⟩

/-- The pieces into which a text is cut are parts of it, and the separator is in
    none of them. -/
theorem of_mem_splitOn {sep : Char} {cs piece : List Char} (h : piece ∈ cs.splitOn sep) :
    sep ∉ piece ∧ ∀ c ∈ piece, c ∈ cs := by
  induction cs generalizing piece with
  | nil =>
    rw [List.splitOn_nil, List.mem_singleton] at h
    subst h
    exact ⟨List.not_mem_nil, fun _ hc => hc⟩
  | cons x cs ih =>
    have hlater : ∀ {piece}, piece ∈ cs.splitOn sep → sep ∉ piece ∧ ∀ c ∈ piece, c ∈ x :: cs :=
      fun hmem => ⟨(ih hmem).1, fun c hc => List.mem_cons_of_mem _ ((ih hmem).2 c hc)⟩
    rw [List.splitOn_cons_eq_if_modifyHead] at h
    split_ifs at h with hx
    · rcases List.mem_cons.1 h with rfl | h
      · exact ⟨List.not_mem_nil, fun _ hc => absurd hc List.not_mem_nil⟩
      · exact hlater h
    · cases hpieces : cs.splitOn sep with
      | nil => exact absurd hpieces (List.splitOn_ne_nil sep cs)
      | cons first rest =>
        rw [hpieces, List.modifyHead_cons] at h
        rcases List.mem_cons.1 h with rfl | h
        · obtain ⟨hsep, hsub⟩ := hlater (hpieces ▸ List.mem_cons_self)
          refine ⟨fun hmem => ?_, List.forall_mem_cons.2 ⟨List.mem_cons_self, hsub⟩⟩
          rcases List.mem_cons.1 hmem with rfl | hmem
          · exact hx BEq.rfl
          · exact hsep hmem
        · exact hlater (hpieces ▸ List.mem_cons_of_mem _ h)

/-- Every character of a text is a separator or stands in a piece. -/
theorem mem_splitOn_of_mem {sep c : Char} {cs : List Char} (h : c ∈ cs) :
    c = sep ∨ ∃ piece ∈ cs.splitOn sep, c ∈ piece := by
  induction cs with
  | nil => exact absurd h List.not_mem_nil
  | cons x cs ih =>
    rw [List.splitOn_cons_eq_if_modifyHead]
    split_ifs with hx
    · rcases List.mem_cons.1 h with rfl | h
      · exact .inl (eq_of_beq hx)
      · refine (ih h).imp id fun ⟨piece, hpiece, hc⟩ => ⟨piece, ?_, hc⟩
        exact List.mem_cons_of_mem _ hpiece
    · cases hpieces : cs.splitOn sep with
      | nil => exact absurd hpieces (List.splitOn_ne_nil sep cs)
      | cons first rest =>
        rw [List.modifyHead_cons]
        rcases List.mem_cons.1 h with rfl | h
        · exact .inr ⟨_, List.mem_cons_self, List.mem_cons_self⟩
        · rcases ih h with hsep | ⟨piece, hpiece, hc⟩
          · exact .inl hsep
          · rcases List.mem_cons.1 (hpieces ▸ hpiece) with rfl | hrest
            · exact .inr ⟨_, List.mem_cons_self, List.mem_cons_of_mem _ hc⟩
            · exact .inr ⟨piece, List.mem_cons_of_mem _ hrest, hc⟩

/-- A list splits at the first separator. -/
theorem splitOn_of_mem {sep : Char} {cs : List Char} (h : sep ∈ cs) :
    ∃ front back, cs = front ++ sep :: back ∧ sep ∉ front ∧
      cs.splitOn sep = front :: back.splitOn sep := by
  obtain ⟨front, back, rfl, hfront⟩ := List.eq_append_cons_of_mem h
  refine ⟨front, back, rfl, hfront, ?_⟩
  rw [List.splitOn_append_cons_self, List.splitOn_eq_singleton hfront]
  rfl

/-- A piece of a joined text, between what comes before and after it. -/
theorem exists_join_eq (sep : String) (front back : List String) :
    ∃ before after, ∀ s, join sep (front ++ s :: back) = before ++ s ++ after := by
  induction front with
  | nil =>
    cases back with
    | nil => exact ⟨"", "", fun s => by simp [join]⟩
    | cons t back =>
      exact ⟨"", sep ++ join sep (t :: back), fun s => by simp [join, String.append_assoc]⟩
  | cons t front ih =>
    obtain ⟨before, after, ih⟩ := ih
    refine ⟨t ++ sep ++ before, after, fun s => ?_⟩
    have hne : ∃ u rest, front ++ s :: back = u :: rest := by
      cases front <;> exact ⟨_, _, rfl⟩
    obtain ⟨u, rest, hrest⟩ := hne
    rw [List.cons_append, hrest, join, ← hrest, ih]
    simp only [String.append_assoc]

/-- Joined texts that differ in one piece at most. -/
theorem join_eq_join_iff {sep : String} {front back : List String} {s t : String} :
    join sep (front ++ s :: back) = join sep (front ++ t :: back) ↔ s = t := by
  obtain ⟨before, after, h⟩ := exists_join_eq sep front back
  rw [h, h]
  constructor
  · intro heq
    exact (String.append_right_inj _).1 ((String.append_left_inj _).1 heq)
  · rintro rfl
    rfl

end Text

end Foundation
