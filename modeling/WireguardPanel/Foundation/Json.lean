import Mathlib.Data.List.Basic
import Mathlib.Data.List.Sort
import Mathlib.Data.List.Lex

/-!
# JSON texts

JSON values, their serialisation and the order in which a binary JSON column
keeps the members of an object.

* `Json.stringify`: the text of a value, as `JSON.stringify` of ECMAScript
  writes it: no white space, the members of an object in the order in which
  they were put there.
* `Json.stringify_inj`: the text determines the value, the order of the members
  included. The proof reads a text from the left: what a value writes is never
  a proper prefix of what another value writes (`Json.stringify_append_inj`).
* `Json.jsonb`: a value after a trip through a `JSONB` column. Its properties
  are the same (`Json.field_jsonb`), but the members of an object come back
  ordered by the length of their key and then bytewise (`Json.keysSorted_jsonb`).
-/

namespace Foundation

/-- A JSON value whose numbers are integers. The members of an object are
    listed in the order in which they are written. -/
inductive Json
  | null
  | bool (b : Bool)
  | num (n : ℤ)
  | str (s : String)
  | arr (elems : List Json)
  | obj (members : List (String × Json))

namespace Json

/-! ## Serialisation -/

/-- What follows the backslash in the escape of the control character `n`. -/
def controlEscape : ℕ → List Char
  | 8 => ['b']
  | 9 => ['t']
  | 10 => ['n']
  | 12 => ['f']
  | 13 => ['r']
  | n => ['u', '0', '0', Nat.digitChar (n / 16), Nat.digitChar (n % 16)]

/-- A character of a string literal. -/
def escape (c : Char) : List Char :=
  if c = '"' then ['\\', '"']
  else if c = '\\' then ['\\', '\\']
  else if c.toNat < 32 then '\\' :: controlEscape c.toNat
  else [c]

/-- A string literal. -/
def quote (s : String) : List Char := '"' :: (s.toList.flatMap escape ++ ['"'])

/-- A number literal. -/
def numText : ℤ → List Char
  | .ofNat n => Nat.toDigits 10 n
  | .negSucc n => '-' :: Nat.toDigits 10 (n + 1)

mutual

/-- The text of a value. -/
def stringify : Json → List Char
  | null => ['n', 'u', 'l', 'l']
  | bool true => ['t', 'r', 'u', 'e']
  | bool false => ['f', 'a', 'l', 's', 'e']
  | num n => numText n
  | str s => quote s
  | arr [] => ['[', ']']
  | arr (v :: vs) => '[' :: (stringify v ++ elemsText vs)
  | obj [] => ['{', '}']
  | obj ((k, v) :: ms) => '{' :: (quote k ++ ':' :: (stringify v ++ membersText ms))

/-- The text of the elements of an array after the first one. -/
def elemsText : List Json → List Char
  | [] => [']']
  | v :: vs => ',' :: (stringify v ++ elemsText vs)

/-- The text of the members of an object after the first one. -/
def membersText : List (String × Json) → List Char
  | [] => ['}']
  | (k, v) :: ms => ',' :: (quote k ++ ':' :: (stringify v ++ membersText ms))

end

/-! ## Unambiguity -/

/-- The text `r` does not go on with a digit. -/
def Stops (r : List Char) : Prop := ∀ c ∈ r.head?, c.isDigit = false

theorem toDigits_append_inj {a b : ℕ} {r r' : List Char} (hr : Stops r) (hr' : Stops r')
    (h : Nat.toDigits 10 a ++ r = Nat.toDigits 10 b ++ r') : a = b ∧ r = r' := by
  have htake : ∀ (n : ℕ) {x : List Char}, Stops x →
      (Nat.toDigits 10 n ++ x).takeWhile Char.isDigit = Nat.toDigits 10 n := by
    intro n x hx
    rw [List.takeWhile_append_of_pos fun c hc =>
      Nat.isDigit_of_mem_toDigits (by decide) (by decide) hc]
    cases x with
    | nil => simp
    | cons c x => simp [hx c (by simp)]
  have hdigits : Nat.toDigits 10 a = Nat.toDigits 10 b := by
    rw [← htake a hr, h, htake b hr']
  refine ⟨?_, ?_⟩
  · rw [← Nat.ofDigitChars_ten_toDigits (n := a), hdigits, Nat.ofDigitChars_ten_toDigits]
  · rw [hdigits] at h
    exact List.append_cancel_left h

/-- A number literal starts with a digit or a minus sign. -/
theorem numText_eq_cons (n : ℤ) :
    ∃ c cs, numText n = c :: cs ∧ (c = '-' ∨ c.isDigit = true) := by
  cases n with
  | ofNat n =>
    obtain ⟨c, cs, hc⟩ := List.exists_cons_of_ne_nil (Nat.toDigits_ne_nil (n := n) (b := 10))
    refine ⟨c, cs, hc, .inr ?_⟩
    exact Nat.isDigit_of_mem_toDigits (b := 10) (n := n) (by decide) (by decide) (by simp [hc])
  | negSucc n => exact ⟨'-', _, rfl, .inl rfl⟩

theorem numText_append_inj {a b : ℤ} {r r' : List Char} (hr : Stops r) (hr' : Stops r')
    (h : numText a ++ r = numText b ++ r') : a = b ∧ r = r' := by
  have hsign : ∀ (m n : ℕ) {x y : List Char},
      Nat.toDigits 10 m ++ x ≠ '-' :: (Nat.toDigits 10 (n + 1) ++ y) := by
    intro m n x y heq
    obtain ⟨c, cs, hc⟩ := List.exists_cons_of_ne_nil (Nat.toDigits_ne_nil (n := m) (b := 10))
    have hdigit : c.isDigit = true :=
      Nat.isDigit_of_mem_toDigits (b := 10) (n := m) (by decide) (by decide) (by simp [hc])
    rw [hc, List.cons_append, List.cons.injEq] at heq
    rw [heq.1] at hdigit
    exact absurd hdigit (by decide)
  cases a with
  | ofNat m =>
    cases b with
    | ofNat n =>
      obtain ⟨rfl, hrest⟩ := toDigits_append_inj hr hr' h
      exact ⟨rfl, hrest⟩
    | negSucc n => exact absurd h (hsign m n)
  | negSucc m =>
    cases b with
    | ofNat n => exact absurd h.symm (hsign n m)
    | negSucc n =>
      obtain ⟨hmn, hrest⟩ := toDigits_append_inj hr hr' (List.cons.inj h).2
      exact ⟨by rw [Nat.succ_injective hmn], hrest⟩

theorem controlEscape_ne_cons {a : ℕ} (ha : a < 32) {c : Char} (hc : c = '"' ∨ c = '\\')
    {x y : List Char} : controlEscape a ++ x ≠ c :: y := by
  have hhead : ∀ a < 32, (controlEscape a).head? ≠ some '"' ∧
      (controlEscape a).head? ≠ some '\\' ∧ controlEscape a ≠ [] := by decide
  intro h
  obtain ⟨hquote, hslash, hne⟩ := hhead a ha
  obtain ⟨d, ds, hd⟩ := List.exists_cons_of_ne_nil hne
  rw [hd, List.cons_append, List.cons.injEq] at h
  rw [hd, List.head?_cons, h.1] at hquote hslash
  rcases hc with rfl | rfl
  exacts [hquote rfl, hslash rfl]

theorem controlEscape_append_inj {a b : ℕ} (ha : a < 32) (hb : b < 32) {x y : List Char}
    (h : controlEscape a ++ x = controlEscape b ++ y) : a = b ∧ x = y := by
  have hpre : ∀ a < 32, ∀ b < 32, controlEscape a <+: controlEscape b → a = b := by
    decide +kernel
  have hab : a = b :=
    (List.prefix_or_prefix_of_prefix (List.prefix_append _ x) (h ▸ List.prefix_append _ y)).elim
      (hpre a ha b hb) fun hba => (hpre b hb a ha hba).symm
  subst hab
  exact ⟨rfl, List.append_cancel_left h⟩

theorem escape_cases (c : Char) :
    ((c = '"' ∨ c = '\\') ∧ escape c = ['\\', c]) ∨
      (c.toNat < 32 ∧ escape c = '\\' :: controlEscape c.toNat) ∨
      ((c ≠ '"' ∧ c ≠ '\\') ∧ escape c = [c]) := by
  unfold escape
  split_ifs with hquote hslash hctrl
  · exact .inl ⟨.inl hquote, by rw [hquote]⟩
  · exact .inl ⟨.inr hslash, by rw [hslash]⟩
  · exact .inr (.inl ⟨hctrl, rfl⟩)
  · exact .inr (.inr ⟨⟨hquote, hslash⟩, rfl⟩)

theorem escape_append_inj {c d : Char} {x y : List Char} (h : escape c ++ x = escape d ++ y) :
    c = d ∧ x = y := by
  rcases escape_cases c with ⟨hc, hce⟩ | ⟨hc, hce⟩ | ⟨hc, hce⟩ <;>
    rcases escape_cases d with ⟨hd, hde⟩ | ⟨hd, hde⟩ | ⟨hd, hde⟩ <;>
    simp only [hce, hde, List.cons_append, List.nil_append, List.cons.injEq, true_and] at h
  · exact h
  · exact absurd h.symm (controlEscape_ne_cons hd hc)
  · exact absurd h.1.symm hd.2
  · exact absurd h (controlEscape_ne_cons hc hd)
  · obtain ⟨hcd, hxy⟩ := controlEscape_append_inj hc hd h
    exact ⟨Char.toNat_inj.1 hcd, hxy⟩
  · exact absurd h.1.symm hd.2
  · exact absurd h.1 hc.2
  · exact absurd h.1 hc.2
  · exact h

/-- The escape of a character is not empty and does not start with a quotation mark. -/
theorem exists_escape_eq_cons (c : Char) : ∃ e es, escape c = e :: es ∧ e ≠ '"' := by
  rcases escape_cases c with ⟨_, h⟩ | ⟨_, h⟩ | ⟨hc, h⟩
  · exact ⟨_, _, h, by decide⟩
  · exact ⟨_, _, h, by decide⟩
  · exact ⟨_, _, h, hc.1⟩

theorem quote_append_inj {s t : String} {r r' : List Char} (h : quote s ++ r = quote t ++ r') :
    s = t ∧ r = r' := by
  have hbody : ∀ (cs ds : List Char) {x y : List Char},
      cs.flatMap escape ++ '"' :: x = ds.flatMap escape ++ '"' :: y → cs = ds ∧ x = y := by
    intro cs
    induction cs with
    | nil =>
      intro ds x y hxy
      cases ds with
      | nil => exact ⟨rfl, by simpa using hxy⟩
      | cons d ds =>
        obtain ⟨e, es, he, hne⟩ := exists_escape_eq_cons d
        simp only [List.flatMap_nil, List.nil_append, List.flatMap_cons, he, List.cons_append,
          List.cons.injEq] at hxy
        exact absurd hxy.1.symm hne
    | cons c cs ih =>
      intro ds x y hxy
      cases ds with
      | nil =>
        obtain ⟨e, es, he, hne⟩ := exists_escape_eq_cons c
        simp only [List.flatMap_nil, List.nil_append, List.flatMap_cons, he, List.cons_append,
          List.cons.injEq] at hxy
        exact absurd hxy.1 hne
      | cons d ds =>
        simp only [List.flatMap_cons, List.append_assoc] at hxy
        obtain ⟨rfl, hrest⟩ := escape_append_inj hxy
        obtain ⟨rfl, hxy'⟩ := ih ds hrest
        exact ⟨rfl, hxy'⟩
  simp only [quote, List.cons_append, List.append_assoc, List.cons.injEq, true_and,
    List.nil_append] at h
  obtain ⟨hst, hr⟩ := hbody _ _ h
  exact ⟨String.toList_inj.1 hst, hr⟩

theorem stops_elemsText (vs : List Json) (r : List Char) : Stops (elemsText vs ++ r) := by
  cases vs <;> simp [Stops, elemsText]

theorem stops_membersText (ms : List (String × Json)) (r : List Char) :
    Stops (membersText ms ++ r) := by
  cases ms <;> simp [Stops, membersText]

/-- The first character of a text tells which kind of value it is. -/
def kind : Json → ℕ
  | null => 0
  | bool _ => 1
  | num _ => 2
  | str _ => 3
  | arr _ => 4
  | obj _ => 5

/-- The kind of value whose text starts with the character `c`. -/
def kindOf (c : Char) : ℕ :=
  if c = 'n' then 0 else if c = 't' ∨ c = 'f' then 1 else if c = '"' then 3
  else if c = '[' then 4 else if c = '{' then 5 else 2

theorem exists_stringify_eq_cons (v : Json) :
    ∃ c cs, stringify v = c :: cs ∧ kindOf c = kind v := by
  cases v with
  | null => exact ⟨_, _, rfl, rfl⟩
  | bool b => cases b <;> exact ⟨_, _, rfl, rfl⟩
  | num n =>
    obtain ⟨c, cs, hc, hdigit⟩ := numText_eq_cons n
    refine ⟨c, cs, hc, ?_⟩
    have hne : ∀ d ∈ ['n', 't', 'f', '"', '[', '{'], d ≠ '-' ∧ d.isDigit = false :=
      List.forall_iff_forall_mem.1 (by decide)
    have hc' : ∀ d ∈ ['n', 't', 'f', '"', '[', '{'], c ≠ d := by
      rintro d hd rfl
      rcases hdigit with hminus | hdigit
      · exact (hne _ hd).1 hminus
      · exact absurd hdigit (by simp [(hne _ hd).2])
    simp only [List.mem_cons, List.not_mem_nil, or_false, forall_eq_or_imp, forall_eq] at hc'
    simp [kindOf, kind, hc']
  | str s => exact ⟨_, _, rfl, rfl⟩
  | arr vs => cases vs <;> exact ⟨_, _, rfl, rfl⟩
  | obj ms => rcases ms with _ | ⟨⟨k, v⟩, ms⟩ <;> exact ⟨_, _, rfl, rfl⟩

/-- No text starts with a closing bracket. -/
theorem stringify_ne_bracket (v : Json) (r r' : List Char) : stringify v ++ r ≠ ']' :: r' := by
  obtain ⟨c, cs, hc, hkind⟩ := exists_stringify_eq_cons v
  intro h
  rw [hc, List.cons_append, List.cons.injEq] at h
  cases v with
  | num n =>
    obtain ⟨d, ds, hd, hdigit⟩ := numText_eq_cons n
    have hcd : c = d := (List.cons.inj (hc.symm.trans hd)).1
    rw [← hcd, h.1] at hdigit
    exact absurd hdigit (by decide)
  | _ => exact absurd (h.1 ▸ hkind) (by simp [kind, kindOf])

theorem kind_eq_of_append {v w : Json} {r r' : List Char}
    (h : stringify v ++ r = stringify w ++ r') : kind v = kind w := by
  obtain ⟨c, cs, hc, hv⟩ := exists_stringify_eq_cons v
  obtain ⟨d, ds, hd, hw⟩ := exists_stringify_eq_cons w
  rw [hc, hd, List.cons_append, List.cons_append, List.cons.injEq] at h
  rw [← hv, ← hw, h.1]

mutual

/-- Two values whose texts agree, each followed by something that is not a
    digit, are the same value, followed by the same. -/
theorem stringify_append_inj : ∀ (v w : Json) {r r' : List Char}, Stops r → Stops r' →
    stringify v ++ r = stringify w ++ r' → v = w ∧ r = r'
  | null, w, _, _, _, _, h => by
    cases w with
    | null => exact ⟨rfl, List.append_cancel_left h⟩
    | _ => exact absurd (kind_eq_of_append h) (by simp [kind])
  | bool b, w, _, _, _, _, h => by
    cases w with
    | bool c => cases b <;> cases c <;> simp_all [stringify]
    | _ => exact absurd (kind_eq_of_append h) (by simp [kind])
  | num n, w, _, _, hr, hr', h => by
    cases w with
    | num m =>
      obtain ⟨rfl, hrest⟩ := numText_append_inj hr hr' h
      exact ⟨rfl, hrest⟩
    | _ => exact absurd (kind_eq_of_append h) (by simp [kind])
  | str s, w, _, _, _, _, h => by
    cases w with
    | str t =>
      obtain ⟨rfl, hrest⟩ := quote_append_inj h
      exact ⟨rfl, hrest⟩
    | _ => exact absurd (kind_eq_of_append h) (by simp [kind])
  | arr [], w, _, _, _, _, h => by
    cases w with
    | arr ws =>
      cases ws with
      | nil => exact ⟨rfl, List.append_cancel_left h⟩
      | cons w ws =>
        simp only [stringify, List.cons_append, List.append_assoc, List.cons.injEq,
          true_and] at h
        exact absurd h.symm (stringify_ne_bracket w _ _)
    | _ => exact absurd (kind_eq_of_append h) (by simp [kind])
  | arr (v :: vs), w, _, _, hr, hr', h => by
    cases w with
    | arr ws =>
      cases ws with
      | nil =>
        simp only [stringify, List.cons_append, List.append_assoc, List.cons.injEq,
          true_and] at h
        exact absurd h (stringify_ne_bracket v _ _)
      | cons w ws =>
        simp only [stringify, List.cons_append, List.append_assoc, List.cons.injEq,
          true_and] at h
        obtain ⟨rfl, hrest⟩ :=
          stringify_append_inj v w (stops_elemsText vs _) (stops_elemsText ws _) h
        obtain ⟨rfl, hend⟩ := elemsText_append_inj vs ws hr hr' hrest
        exact ⟨rfl, hend⟩
    | _ => exact absurd (kind_eq_of_append h) (by simp [kind])
  | obj [], w, _, _, _, _, h => by
    cases w with
    | obj ns => rcases ns with _ | ⟨⟨l, w⟩, ns⟩ <;> simp_all [stringify, quote]
    | _ => exact absurd (kind_eq_of_append h) (by simp [kind])
  | obj ((k, v) :: ms), w, _, _, hr, hr', h => by
    cases w with
    | obj ns =>
      rcases ns with _ | ⟨⟨l, w⟩, ns⟩
      · simp [stringify, quote] at h
      · simp only [stringify, List.cons_append, List.append_assoc, List.cons.injEq,
          true_and] at h
        obtain ⟨rfl, hcolon⟩ := quote_append_inj h
        obtain ⟨rfl, hrest⟩ := stringify_append_inj v w (stops_membersText ms _)
          (stops_membersText ns _) (List.cons.inj hcolon).2
        obtain ⟨rfl, hend⟩ := membersText_append_inj ms ns hr hr' hrest
        exact ⟨rfl, hend⟩
    | _ => exact absurd (kind_eq_of_append h) (by simp [kind])

theorem elemsText_append_inj : ∀ (vs ws : List Json) {r r' : List Char}, Stops r → Stops r' →
    elemsText vs ++ r = elemsText ws ++ r' → vs = ws ∧ r = r'
  | [], [], _, _, _, _, h => ⟨rfl, List.append_cancel_left h⟩
  | [], _ :: _, _, _, _, _, h => by simp [elemsText] at h
  | _ :: _, [], _, _, _, _, h => by simp [elemsText] at h
  | v :: vs, w :: ws, _, _, hr, hr', h => by
    simp only [elemsText, List.cons_append, List.append_assoc, List.cons.injEq, true_and] at h
    obtain ⟨rfl, hrest⟩ := stringify_append_inj v w (stops_elemsText vs _) (stops_elemsText ws _) h
    obtain ⟨rfl, hend⟩ := elemsText_append_inj vs ws hr hr' hrest
    exact ⟨rfl, hend⟩

theorem membersText_append_inj : ∀ (ms ns : List (String × Json)) {r r' : List Char},
    Stops r → Stops r' → membersText ms ++ r = membersText ns ++ r' → ms = ns ∧ r = r'
  | [], [], _, _, _, _, h => ⟨rfl, List.append_cancel_left h⟩
  | [], (_, _) :: _, _, _, _, _, h => by simp [membersText] at h
  | (_, _) :: _, [], _, _, _, _, h => by simp [membersText] at h
  | (k, v) :: ms, (l, w) :: ns, _, _, hr, hr', h => by
    simp only [membersText, List.cons_append, List.append_assoc, List.cons.injEq, true_and] at h
    obtain ⟨rfl, hcolon⟩ := quote_append_inj h
    obtain ⟨rfl, hrest⟩ := stringify_append_inj v w (stops_membersText ms _)
      (stops_membersText ns _) (List.cons.inj hcolon).2
    obtain ⟨rfl, hend⟩ := membersText_append_inj ms ns hr hr' hrest
    exact ⟨rfl, hend⟩

end

/-- The text of a value determines it, the order of the members of its objects included. -/
theorem stringify_inj {v w : Json} : stringify v = stringify w ↔ v = w := by
  refine ⟨fun h => ?_, fun h => h ▸ rfl⟩
  have hstops : Stops [] := by simp [Stops]
  exact (stringify_append_inj v w hstops hstops (by rw [h])).1

/-! ## Storage in a JSONB column -/

/-- The place of a key among the members of a stored object: shorter keys come
    first, keys of the same length are compared bytewise. -/
def keyRank (k : String) : List ℕ :=
  k.utf8ByteSize :: k.toByteArray.data.toList.map UInt8.toNat

theorem keyRank_inj {k l : String} (h : keyRank k = keyRank l) : k = l := by
  have hmap := (List.cons.inj h).2
  have hdata := List.map_injective_iff.2 (fun _ _ => UInt8.toNat_inj.1) hmap
  exact String.toByteArray_inj.1 (ByteArray.ext (Array.toList_inj.1 hdata))

/-- Puts a member in its place among members that are in order. A member that
    is there already, under the same key, stays. -/
def insertMember (k : String) (v : Json) : List (String × Json) → List (String × Json)
  | [] => [(k, v)]
  | (l, w) :: ms =>
    if keyRank k < keyRank l then (k, v) :: (l, w) :: ms
    else if k = l then (l, w) :: ms
    else (l, w) :: insertMember k v ms

mutual

/-- What is read back from a `JSONB` column in which `v` was stored. Of two
    members with the same key the later one is kept. -/
def jsonb : Json → Json
  | arr vs => arr (jsonbElems vs)
  | obj ms => obj (jsonbMembers ms)
  | v => v

/-- `jsonb` on the elements of an array. -/
def jsonbElems : List Json → List Json
  | [] => []
  | v :: vs => jsonb v :: jsonbElems vs

/-- `jsonb` on the members of an object. -/
def jsonbMembers : List (String × Json) → List (String × Json)
  | [] => []
  | (k, v) :: ms => insertMember k (jsonb v) (jsonbMembers ms)

end

/-- `v || w` for two stored objects: the members of `w` replace those of `v`. -/
def merge : Json → Json → Json
  | obj ms, obj ns => jsonb (obj (ms ++ ns))
  | v, _ => v

/-- The member of an object under the key `k`; of several the last one. -/
def lookup (k : String) : List (String × Json) → Option Json
  | [] => none
  | (l, v) :: ms => (lookup k ms).or (if l = k then some v else none)

/-- The value of the property `k`, if there is one. -/
def field (v : Json) (k : String) : Option Json :=
  match v with
  | obj ms => lookup k ms
  | _ => none

/-- The keys of an object in the order of its members. -/
def keys : Json → List String
  | obj ms => ms.map Prod.fst
  | _ => []

/-- The keys of an object are in the order of a `JSONB` column. -/
def KeysSorted (v : Json) : Prop := v.keys.Pairwise (keyRank · < keyRank ·)

instance (v : Json) : Decidable v.KeysSorted :=
  inferInstanceAs (Decidable (v.keys.Pairwise (keyRank · < keyRank ·)))

theorem fst_insertMember_subset (k : String) (v : Json) (ms : List (String × Json)) :
    ∀ m ∈ insertMember k v ms, m = (k, v) ∨ m ∈ ms := by
  induction ms with
  | nil => simp [insertMember]
  | cons m ms ih =>
    obtain ⟨l, w⟩ := m
    unfold insertMember
    split_ifs with hlt heq
    · intro n hn
      simpa using hn
    · exact fun n hn => .inr hn
    · intro n hn
      rcases List.mem_cons.1 hn with rfl | hn
      · exact .inr (by simp)
      · exact (ih n hn).imp_right (List.mem_cons_of_mem _)

/-- Putting a member in its place keeps the members in order. -/
theorem sorted_insertMember (k : String) (v : Json) {ms : List (String × Json)}
    (h : (ms.map Prod.fst).Pairwise (keyRank · < keyRank ·)) :
    ((insertMember k v ms).map Prod.fst).Pairwise (keyRank · < keyRank ·) := by
  induction ms with
  | nil => simp [insertMember]
  | cons m ms ih =>
    obtain ⟨l, w⟩ := m
    obtain ⟨hhead, htail⟩ := List.pairwise_cons.1 h
    unfold insertMember
    split_ifs with hlt heq
    · refine List.pairwise_cons.2 ⟨fun x hx => ?_, h⟩
      rcases List.mem_cons.1 hx with rfl | hx
      · exact hlt
      · exact lt_trans hlt (hhead x hx)
    · exact h
    · refine List.pairwise_cons.2 ⟨fun x hx => ?_, ih htail⟩
      obtain ⟨n, hn, rfl⟩ := List.mem_map.1 hx
      rcases fst_insertMember_subset k v ms n hn with rfl | hn
      · exact lt_of_le_of_ne (not_lt.1 hlt) fun hrank => heq (keyRank_inj hrank).symm
      · exact hhead _ (List.mem_map_of_mem hn)

theorem sorted_jsonbMembers (ms : List (String × Json)) :
    ((jsonbMembers ms).map Prod.fst).Pairwise (keyRank · < keyRank ·) := by
  induction ms with
  | nil => simp [jsonbMembers]
  | cons m ms ih =>
    obtain ⟨k, v⟩ := m
    exact sorted_insertMember k (jsonb v) ih

/-- A stored object is read back with its keys in order. -/
theorem keysSorted_jsonb (v : Json) : (jsonb v).KeysSorted := by
  cases v with
  | obj ms => exact sorted_jsonbMembers ms
  | _ => exact List.Pairwise.nil

theorem lookup_eq_none {k : String} {ms : List (String × Json)} (h : ∀ m ∈ ms, m.1 ≠ k) :
    lookup k ms = none := by
  induction ms with
  | nil => rfl
  | cons m ms ih =>
    obtain ⟨l, v⟩ := m
    rw [lookup, ih fun n hn => h n (List.mem_cons_of_mem _ hn), if_neg (h (l, v) (by simp))]
    rfl

theorem lookup_append (k : String) (ms ns : List (String × Json)) :
    lookup k (ms ++ ns) = (lookup k ns).or (lookup k ms) := by
  induction ms with
  | nil => exact (Option.or_none (o := lookup k ns)).symm
  | cons m ms ih => rw [List.cons_append, lookup, ih, Option.or_assoc, lookup]

/-- A member put in its place is found unless its key was there before. -/
theorem lookup_insertMember (k l : String) (v : Json) {ms : List (String × Json)}
    (h : (ms.map Prod.fst).Pairwise (keyRank · < keyRank ·)) :
    lookup l (insertMember k v ms) = (lookup l ms).or (if k = l then some v else none) := by
  induction ms with
  | nil => simp [insertMember, lookup]
  | cons m ms ih =>
    obtain ⟨n, w⟩ := m
    obtain ⟨hhead, htail⟩ := List.pairwise_cons.1 h
    unfold insertMember
    by_cases hlt : keyRank k < keyRank n
    · rw [if_pos hlt, lookup]
    · rw [if_neg hlt]
      by_cases heq : k = n
      · subst heq
        have hnone : lookup k ms = none :=
          lookup_eq_none fun m hm hk =>
            lt_irrefl _ (hk ▸ hhead m.1 (List.mem_map_of_mem hm))
        by_cases hkl : k = l
        · subst hkl
          simp [lookup, hnone]
        · simp [lookup, hkl]
      · rw [if_neg heq, lookup, ih htail, lookup]
        by_cases hkl : k = l
        · subst hkl
          simp [Ne.symm heq]
        · simp [hkl]

/-- Storage changes no property of an object but for what it does inside it. -/
theorem field_jsonb (v : Json) (k : String) : (jsonb v).field k = (v.field k).map jsonb := by
  cases v with
  | obj ms =>
    change lookup k (jsonbMembers ms) = (lookup k ms).map jsonb
    induction ms with
    | nil => rfl
    | cons m ms ih =>
      obtain ⟨l, v⟩ := m
      rw [jsonbMembers, lookup_insertMember l k _ (sorted_jsonbMembers ms), ih, lookup]
      cases lookup k ms <;> by_cases hlk : l = k <;> simp [hlk]
  | _ => rfl

/-- An object whose keys are not in the order of a `JSONB` column has another
    text than everything that is read from such a column. -/
theorem stringify_jsonb_ne {v : Json} (h : ¬ v.KeysSorted) (w : Json) :
    stringify v ≠ stringify (jsonb w) := fun heq =>
  h (stringify_inj.1 heq ▸ keysSorted_jsonb w)

end Json

end Foundation
