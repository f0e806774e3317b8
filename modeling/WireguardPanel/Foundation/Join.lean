import Mathlib.Algebra.BigOperators.Group.List.Basic
import Mathlib.Algebra.GroupWithZero.Nat
import Mathlib.Data.List.Count
import Mathlib.Data.List.Nodup
import Mathlib.Tactic.TypeStar

/-!
# Joins

The inner join of two tables: the pairs of a row of the first and the row of the second that it
references.

* `join`, `mem_join`: the pairs.
* `countP_join_fst`: where the reference is a key of the second table, the join has one pair
  for each row of the first.
* `sum_countP_join`: the groups of the join by the rows of the second table add up to it.
-/

namespace Foundation

variable {α β κ : Type*} [DecidableEq κ] (reference : α → κ) (key : β → κ)

/-- `JOIN ... ON key = reference`. -/
def join (xs : List α) (ys : List β) : List (α × β) :=
  xs.flatMap fun x => (ys.filter fun y => key y = reference x).map (x, ·)

variable {reference key} {xs : List α} {ys : List β}

theorem mem_join {x : α} {y : β} :
    (x, y) ∈ join reference key xs ys ↔ x ∈ xs ∧ y ∈ ys ∧ key y = reference x := by
  simp [join]

theorem join_cons (x : α) :
    join reference key (x :: xs) ys =
      (ys.filter fun y => key y = reference x).map (x, ·) ++ join reference key xs ys :=
  List.flatMap_cons ..

/-- A key references one row. -/
theorem filter_key_eq_singleton (hkey : (ys.map key).Nodup) {y : β} (hy : y ∈ ys) {k : κ}
    (hk : key y = k) : ys.filter (fun z => key z = k) = [y] := by
  induction ys with
  | nil => exact absurd hy List.not_mem_nil
  | cons z ys ih =>
    obtain ⟨hnew, hkey⟩ := List.nodup_cons.1 hkey
    rcases List.mem_cons.1 hy with rfl | hy
    · rw [List.filter_cons_of_pos (by simpa using hk)]
      refine congrArg _ (List.filter_eq_nil_iff.2 fun w hw => ?_)
      have hother : key w ≠ k := fun heq => hnew (hk ▸ heq ▸ List.mem_map_of_mem hw)
      simpa using hother
    · have hother : key z ≠ k := fun heq => hnew (heq.trans hk.symm ▸ List.mem_map_of_mem hy)
      rw [List.filter_cons_of_neg (by simpa using hother), ih hkey hy]

/-- If every reference is to a key, each row is joined once. -/
theorem countP_join_fst (hkey : (ys.map key).Nodup)
    (hreference : ∀ x ∈ xs, ∃ y ∈ ys, key y = reference x) (p : α → Bool) :
    (join reference key xs ys).countP (fun row => p row.1) = xs.countP p := by
  induction xs with
  | nil => rfl
  | cons x xs ih =>
    obtain ⟨⟨y, hy, hxy⟩, hreference⟩ := List.forall_mem_cons.1 hreference
    rw [join_cons, List.countP_append, ih hreference, filter_key_eq_singleton hkey hy hxy,
      List.countP_cons, add_comm]
    simp [List.countP_cons]

/-- A sum of ones counts. -/
theorem sum_map_ite_eq_countP (p : β → Bool) (ys : List β) :
    (ys.map fun y => if p y = true then 1 else 0).sum = ys.countP p := by
  induction ys with
  | nil => rfl
  | cons y ys ih => rw [List.map_cons, List.sum_cons, ih, List.countP_cons, add_comm]

/-- The groups of a join add up to it. -/
theorem sum_countP_join (p : α × β → Bool) :
    (ys.map fun y => xs.countP fun x => p (x, y) && key y = reference x).sum =
      (join reference key xs ys).countP p := by
  induction xs with
  | nil => simp [join]
  | cons x xs ih =>
    simp only [List.countP_cons, List.sum_map_add, ih]
    rw [sum_map_ite_eq_countP (fun y => p (x, y) && key y = reference x), join_cons,
      List.countP_append, List.countP_map, List.countP_filter, add_comm]
    rfl

end Foundation
