import Mathlib.Data.List.Basic
import Mathlib.Data.List.Infix
import Mathlib.Data.Nat.Notation
import Mathlib.Algebra.Group.Nat.Defs
import Mathlib.Tactic.SplitIfs

/-!
# Patterns

Regular expressions with groups, as matchers that try their alternatives in
turn. A pattern gives all its matches at the start of a text, the preferred one
first: what it captures, and the rest of the text.

* `Pattern.digits`, `Pattern.literal`, `Pattern.oneOf`, `Pattern.optional`,
  `Pattern.followedBy`: the parts of a pattern, each with its matches (`mem_digits`
  and its likes).
* `Pattern.head?_followedBy` and its likes: the match that is preferred.
* `Pattern.exactly`, `Pattern.padded`: rows of characters of a fixed length.
* `Pattern.matchWhole`: the first match that reaches the end of the text.
* `Pattern.matchAll`: the matches of a global pattern, one after the other.
* `Pattern.matchAll_append`, `Pattern.exists_rest_of_mem_matchAll`: texts that
  consist of matches, and matches as parts of the text.
-/

namespace Foundation

/-- The matches of a pattern at the start of a text. -/
abbrev Pattern (α : Type) := List Char → List (α × List Char)

namespace Pattern

variable {α β : Type}

/-- A row of decimal digits. -/
def IsDigits (ds : List Char) : Prop := ds ≠ [] ∧ ∀ c ∈ ds, c.isDigit = true

instance (ds : List Char) : Decidable (IsDigits ds) :=
  decidable_of_iff (ds ≠ [] ∧ ds.all Char.isDigit = true) (by rw [List.all_eq_true, IsDigits])

theorem not_mem_of_isDigits {ds : List Char} {c : Char} (hds : IsDigits ds)
    (hc : c.isDigit = false) : c ∉ ds := fun hmem =>
  Bool.false_ne_true (hc.symm.trans (hds.2 c hmem))

/-- The number that digits write. -/
def digitsValue (ds : List Char) : ℕ := ds.foldl (fun n c => n * 10 + (c.toNat - 48)) 0

theorem takeWhile_digits {ds back : List Char} (hds : ∀ c ∈ ds, c.isDigit = true)
    (hback : ∀ c ∈ back.head?, c.isDigit = false) : (ds ++ back).takeWhile Char.isDigit = ds := by
  rw [List.takeWhile_append_of_pos hds]
  cases back with
  | nil => rw [List.takeWhile_nil, List.append_nil]
  | cons c back => rw [List.takeWhile_cons_of_neg (by simp [hback c rfl]), List.append_nil]

/-- The digits at the start of a text end where something else begins. -/
theorem digits_append_inj {ds ds' back back' : List Char} (hds : IsDigits ds) (hds' : IsDigits ds')
    (hback : ∀ c ∈ back.head?, c.isDigit = false) (hback' : ∀ c ∈ back'.head?, c.isDigit = false)
    (h : ds ++ back = ds' ++ back') : ds = ds' ∧ back = back' := by
  have heq : ds = ds' := by
    rw [← takeWhile_digits hds.2 hback, h, takeWhile_digits hds'.2 hback']
  subst heq
  exact ⟨rfl, List.append_cancel_left h⟩

/-! ## The parts of a pattern -/

/-- The empty pattern. -/
def constant (a : α) : Pattern α := fun cs => [(a, cs)]

/-- A pattern followed by another. -/
def followedBy (p : Pattern α) (q : α → Pattern β) : Pattern β := fun cs =>
  (p cs).flatMap fun m => q m.1 m.2

/-- The text `t`. -/
def literal (t : List Char) : Pattern (List Char) := fun cs =>
  if t.isPrefixOf cs then [(t, cs.drop t.length)] else []

/-- `p|q|…`. -/
def oneOf (ps : List (Pattern α)) : Pattern α := fun cs => ps.flatMap fun p => p cs

/-- `(?:p)?`. -/
def optional (p : Pattern α) : Pattern (Option α) := fun cs =>
  (p cs).map (fun m => (some m.1, m.2)) ++ [(none, cs)]

/-- `\d+`. -/
def digits : Pattern (List Char)
  | [] => []
  | c :: cs =>
    if c.isDigit then (digits cs).map (fun m => (c :: m.1, m.2)) ++ [([c], cs)] else []

/-- `\d{m,n}`. -/
def digitsBetween (m n : ℕ) : Pattern (List Char) := fun cs =>
  (digits cs).filter fun found => m ≤ found.1.length ∧ found.1.length ≤ n

/-- Exactly `n` characters of a class. -/
def exactly (p : Char → Bool) (n : ℕ) : Pattern (List Char) := fun cs =>
  if (cs.take n).length = n ∧ (cs.take n).all p = true then [(cs.take n, cs.drop n)] else []

/-- `(\d+)c`. -/
def digitsBefore (c : Char) : Pattern (List Char) :=
  followedBy digits fun ds => followedBy (literal [c]) fun _ => constant ds

/-- `c(\d+)`. -/
def digitsAfter (c : Char) : Pattern (List Char) := followedBy (literal [c]) fun _ => digits

@[simp] theorem mem_constant {a b : α} {cs rest : List Char} :
    (b, rest) ∈ constant a cs ↔ b = a ∧ rest = cs := by
  rw [constant, List.mem_singleton, Prod.mk.injEq]

@[simp] theorem mem_followedBy {p : Pattern α} {q : α → Pattern β} {b : β} {cs rest : List Char} :
    (b, rest) ∈ followedBy p q cs ↔ ∃ a middle, (a, middle) ∈ p cs ∧ (b, rest) ∈ q a middle := by
  simp [followedBy]

@[simp] theorem mem_literal {t s cs rest : List Char} :
    (s, rest) ∈ literal t cs ↔ s = t ∧ cs = t ++ rest := by
  rw [literal]
  split_ifs with hprefix
  · obtain ⟨back, rfl⟩ := List.isPrefixOf_iff_prefix.1 hprefix
    simp [eq_comm]
  · refine iff_of_false List.not_mem_nil fun h => hprefix ?_
    exact List.isPrefixOf_iff_prefix.2 ⟨rest, h.2.symm⟩

@[simp] theorem mem_optional {p : Pattern α} {o : Option α} {cs rest : List Char} :
    (o, rest) ∈ optional p cs ↔
      (o = none ∧ rest = cs) ∨ ∃ a, o = some a ∧ (a, rest) ∈ p cs := by
  cases o <;> simp [optional]

@[simp] theorem mem_digits {ds cs rest : List Char} :
    (ds, rest) ∈ digits cs ↔ IsDigits ds ∧ cs = ds ++ rest := by
  induction cs generalizing ds with
  | nil =>
    refine iff_of_false List.not_mem_nil fun h => h.1.1 ?_
    exact (List.append_eq_nil_iff.1 h.2.symm).1
  | cons c cs ih =>
    rw [digits]
    constructor
    · intro h
      split_ifs at h with hc
      · rcases List.mem_append.1 h with hlonger | hone
        · obtain ⟨⟨more, back⟩, hmore, heq⟩ := List.mem_map.1 hlonger
          obtain ⟨rfl, rfl⟩ := Prod.mk.inj heq
          obtain ⟨hdigits, hcs⟩ := ih.1 hmore
          exact ⟨⟨List.cons_ne_nil _ _, List.forall_mem_cons.2 ⟨hc, hdigits.2⟩⟩, by
            rw [hcs, List.cons_append]⟩
        · obtain ⟨rfl, rfl⟩ := Prod.mk.inj (List.mem_singleton.1 hone)
          exact ⟨⟨List.cons_ne_nil _ _, by simpa using hc⟩, rfl⟩
      · exact absurd h List.not_mem_nil
    · rintro ⟨⟨hne, hdigits⟩, heq⟩
      obtain ⟨d, more, rfl⟩ := List.exists_cons_of_ne_nil hne
      obtain ⟨rfl, hcs⟩ := List.cons.inj heq
      obtain ⟨hd, hrest⟩ := List.forall_mem_cons.1 hdigits
      rw [if_pos hd, List.mem_append]
      cases more with
      | nil => exact .inr (by rw [hcs]; exact List.mem_singleton_self _)
      | cons e more =>
        exact .inl (List.mem_map.2 ⟨(e :: more, rest),
          ih.2 ⟨⟨List.cons_ne_nil _ _, hrest⟩, hcs⟩, rfl⟩)

@[simp] theorem mem_digitsBetween {m n : ℕ} {ds cs rest : List Char} :
    (ds, rest) ∈ digitsBetween m n cs ↔
      IsDigits ds ∧ (m ≤ ds.length ∧ ds.length ≤ n) ∧ cs = ds ++ rest := by
  simp only [digitsBetween, List.mem_filter, mem_digits, decide_eq_true_eq]
  tauto

@[simp] theorem mem_digitsBefore {c : Char} {ds cs rest : List Char} :
    (ds, rest) ∈ digitsBefore c cs ↔ IsDigits ds ∧ cs = ds ++ c :: rest := by
  simp only [digitsBefore, mem_followedBy, mem_digits, mem_literal, mem_constant]
  constructor
  · rintro ⟨_, _, ⟨hdigits, rfl⟩, _, _, ⟨-, rfl⟩, rfl, rfl⟩
    exact ⟨hdigits, rfl⟩
  · rintro ⟨hdigits, rfl⟩
    exact ⟨ds, _, ⟨hdigits, rfl⟩, [c], rest, ⟨rfl, rfl⟩, rfl, rfl⟩

@[simp] theorem mem_digitsAfter {c : Char} {ds cs rest : List Char} :
    (ds, rest) ∈ digitsAfter c cs ↔ IsDigits ds ∧ cs = c :: (ds ++ rest) := by
  simp only [digitsAfter, mem_followedBy, mem_digits, mem_literal]
  constructor
  · rintro ⟨_, _, ⟨-, rfl⟩, hdigits, rfl⟩
    exact ⟨hdigits, rfl⟩
  · rintro ⟨hdigits, rfl⟩
    exact ⟨[c], _, ⟨rfl, rfl⟩, hdigits, rfl⟩

/-! ## Patterns with one match -/

theorem followedBy_of_eq {p : Pattern α} {q : α → Pattern β} {a : α} {cs rest : List Char}
    (h : p cs = [(a, rest)]) : followedBy p q cs = q a rest := by
  rw [followedBy, h, List.flatMap_singleton]

theorem literal_cons (c : Char) (rest : List Char) : literal [c] (c :: rest) = [([c], rest)] := by
  rw [literal, if_pos (by simp)]
  rfl

theorem exactly_append {p : Char → Bool} {n : ℕ} {t : List Char} (hlength : t.length = n)
    (h : ∀ c ∈ t, p c = true) (rest : List Char) : exactly p n (t ++ rest) = [(t, rest)] := by
  subst hlength
  rw [exactly, List.take_left, List.drop_left, if_pos ⟨rfl, List.all_eq_true.2 h⟩]

/-- A text that does not begin with a character of the class. -/
theorem exactly_cons_of_not {p : Char → Bool} {n : ℕ} {c : Char} (h : p c = false)
    (rest : List Char) : exactly p (n + 1) (c :: rest) = [] := by
  rw [exactly, List.take_succ_cons, List.all_cons, h, Bool.false_and,
    if_neg fun hall => Bool.false_ne_true hall.2]

/-! ## The preferred match -/

theorem head?_followedBy {p : Pattern α} {q : α → Pattern β} {a : α} {x : β × List Char}
    {cs middle : List Char} (hp : (p cs).head? = some (a, middle))
    (hq : (q a middle).head? = some x) : (followedBy p q cs).head? = some x := by
  obtain ⟨later, hlater⟩ := List.head?_eq_some_iff.1 hp
  rw [followedBy, hlater, List.flatMap_cons, List.head?_append, hq, Option.some_or]

theorem head?_optional_some {p : Pattern α} {a : α} {cs rest : List Char}
    (h : (p cs).head? = some (a, rest)) : (optional p cs).head? = some (some a, rest) := by
  rw [optional, List.head?_append, List.head?_map, h, Option.map_some, Option.some_or]

theorem head?_optional_none {p : Pattern α} {cs : List Char} (h : p cs = []) :
    (optional p cs).head? = some (none, cs) := by
  rw [optional, h]
  rfl

/-- As many digits as there are. -/
theorem head?_digits {ds back : List Char} (hds : IsDigits ds)
    (hback : ∀ c ∈ back.head?, c.isDigit = false) :
    (digits (ds ++ back)).head? = some (ds, back) := by
  have hnone : digits back = [] := by
    cases back with
    | nil => rfl
    | cons c back => rw [digits, if_neg (by simp [hback c rfl])]
  obtain ⟨hne, hdigits⟩ := hds
  induction ds with
  | nil => exact absurd rfl hne
  | cons c ds ih =>
    obtain ⟨hc, hrest⟩ := List.forall_mem_cons.1 hdigits
    rw [List.cons_append, digits, if_pos hc, List.head?_append, List.head?_map]
    cases ds with
    | nil =>
      rw [List.nil_append, hnone]
      rfl
    | cons d ds =>
      rw [ih (List.cons_ne_nil _ _) hrest]
      rfl

theorem head?_digitsAfter {c : Char} {ds back : List Char} (hds : IsDigits ds)
    (hback : ∀ c ∈ back.head?, c.isDigit = false) :
    (digitsAfter c (c :: (ds ++ back))).head? = some (ds, back) := by
  rw [digitsAfter, followedBy_of_eq (literal_cons _ _), head?_digits hds hback]

theorem digitsAfter_of_ne {c : Char} {cs : List Char} (h : cs.head? ≠ some c) :
    digitsAfter c cs = [] := by
  have hliteral : literal [c] cs = [] := by
    cases cs with
    | nil => rfl
    | cons d cs =>
      have hne : d ≠ c := by simpa using h
      simp [literal, hne.symm]
  rw [digitsAfter, followedBy, hliteral, List.flatMap_nil]

/-! ## Numbers of a fixed width -/

/-- A number in `k` digits. -/
def padded : ℕ → ℕ → List Char
  | 0, _ => []
  | k + 1, n => padded k (n / 10) ++ [Nat.digitChar (n % 10)]

@[simp] theorem length_padded (k n : ℕ) : (padded k n).length = k := by
  induction k generalizing n with
  | zero => rfl
  | succ k ih => rw [padded, List.length_append, ih, List.length_singleton]

theorem isDigit_of_mem_padded {k n : ℕ} {c : Char} (h : c ∈ padded k n) : c.isDigit = true := by
  induction k generalizing n with
  | zero => exact absurd h List.not_mem_nil
  | succ k ih =>
    rcases List.mem_append.1 h with hfront | hlast
    · exact ih hfront
    · have hall : ∀ m < 10, (Nat.digitChar m).isDigit = true := by decide
      rw [List.mem_singleton.1 hlast]
      exact hall _ (Nat.mod_lt n (by decide))

theorem digitsValue_padded {k n : ℕ} (h : n < 10 ^ k) : digitsValue (padded k n) = n := by
  induction k generalizing n with
  | zero =>
    have hzero : n = 0 := by simpa using h
    rw [hzero]
    rfl
  | succ k ih =>
    have hall : ∀ m < 10, (Nat.digitChar m).toNat - 48 = m := by decide
    have hrest : n / 10 < 10 ^ k := Nat.div_lt_of_lt_mul (by rwa [pow_succ'] at h)
    have hfront := ih hrest
    rw [digitsValue] at hfront ⊢
    rw [padded, List.foldl_append, hfront, List.foldl_cons, List.foldl_nil,
      hall _ (Nat.mod_lt n (by decide))]
    omega

/-! ## Matching a text -/

/-- `text.match(/^p$/)`. -/
def matchWhole (p : Pattern α) (cs : List Char) : Option α :=
  ((p cs).find? fun m => m.2.isEmpty).map Prod.fst

theorem mem_of_matchWhole {p : Pattern α} {cs : List Char} {a : α}
    (h : matchWhole p cs = some a) : (a, []) ∈ p cs := by
  obtain ⟨⟨b, rest⟩, hfind, rfl⟩ := Option.map_eq_some_iff.1 h
  have hempty := List.find?_some hfind
  have hmem := List.mem_of_find?_eq_some hfind
  have hrest : rest = [] := List.isEmpty_iff.1 hempty
  rwa [hrest] at hmem

/-- A match of the whole text is the result if there is no other one. -/
theorem matchWhole_eq_some {p : Pattern α} {cs : List Char} {a : α} (h : (a, []) ∈ p cs)
    (hunique : ∀ b, (b, []) ∈ p cs → b = a) : matchWhole p cs = some a := by
  cases hresult : matchWhole p cs with
  | some b => rw [hunique b (mem_of_matchWhole hresult)]
  | none =>
    have hnone := Option.map_eq_none_iff.1 hresult
    exact absurd rfl (List.find?_eq_none.1 hnone _ h)

theorem matchWhole_of_eq {p : Pattern α} {cs : List Char} {a : α} (h : p cs = [(a, [])]) :
    matchWhole p cs = some a := by
  rw [matchWhole, h]
  rfl

theorem matchWhole_of_nil {p : Pattern α} {cs : List Char} (h : p cs = []) :
    matchWhole p cs = none := by
  rw [matchWhole, h]
  rfl

/-- `text.matchAll(/p/g)`, for a pattern that does not match the empty text: what
    each match captures and its text. The first number counts the characters
    that belong to the last match. -/
def matchAll (p : Pattern α) : ℕ → List Char → List (α × List Char)
  | _, [] => []
  | skipped + 1, _ :: cs => matchAll p skipped cs
  | 0, c :: cs =>
    match (p (c :: cs)).head? with
    | some (a, rest) =>
      (a, (c :: cs).take (cs.length + 1 - rest.length)) :: matchAll p (cs.length - rest.length) cs
    | none => matchAll p 0 cs

theorem matchAll_skip (p : Pattern α) (front cs : List Char) :
    matchAll p front.length (front ++ cs) = matchAll p 0 cs := by
  induction front with
  | nil => rfl
  | cons c front ih => rw [List.length_cons, List.cons_append, matchAll, ih]

/-- A text that begins with a match. -/
theorem matchAll_append {p : Pattern α} {t rest : List Char} {a : α} (hne : t ≠ [])
    (h : (p (t ++ rest)).head? = some (a, rest)) :
    matchAll p 0 (t ++ rest) = (a, t) :: matchAll p 0 rest := by
  obtain ⟨c, front, rfl⟩ := List.exists_cons_of_ne_nil hne
  have hlength : (front ++ rest).length + 1 - rest.length = (c :: front).length := by
    rw [List.length_append, List.length_cons]
    omega
  have hskip : (front ++ rest).length - rest.length = front.length := by
    rw [List.length_append]
    omega
  rw [List.cons_append] at h ⊢
  rw [matchAll, h]
  simp only [hlength, hskip, matchAll_skip]
  rw [← List.cons_append, List.take_left]

/-- What has been found is a match at some place. -/
theorem exists_rest_of_mem_matchAll {p : Pattern α}
    (hsuffix : ∀ {cs : List Char} {a : α} {rest : List Char}, (a, rest) ∈ p cs → rest <:+ cs)
    {skipped : ℕ} {cs t : List Char} {a : α} (h : (a, t) ∈ matchAll p skipped cs) :
    ∃ rest, (a, rest) ∈ p (t ++ rest) := by
  induction cs generalizing skipped with
  | nil => cases skipped <;> exact absurd h List.not_mem_nil
  | cons c cs ih =>
    cases skipped with
    | succ skipped => exact ih h
    | zero =>
      rw [matchAll] at h
      cases hhead : (p (c :: cs)).head? with
      | none =>
        rw [hhead] at h
        exact ih h
      | some found =>
        obtain ⟨b, rest⟩ := found
        have hmem := List.mem_of_mem_head? (Option.mem_def.2 hhead)
        rw [hhead] at h
        rcases List.mem_cons.1 h with heq | hlater
        · obtain ⟨rfl, rfl⟩ := Prod.mk.inj heq
          obtain ⟨front, hfront⟩ := hsuffix hmem
          have hlength : cs.length + 1 - rest.length = front.length := by
            have hall := congrArg List.length hfront
            rw [List.length_append, List.length_cons] at hall
            omega
          refine ⟨rest, ?_⟩
          rw [hlength, ← hfront, List.take_left, hfront]
          exact hmem
        · exact ih hlater

end Pattern

end Foundation
