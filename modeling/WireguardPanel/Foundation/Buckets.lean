import Mathlib.Algebra.BigOperators.Group.Finset.Basic
import Mathlib.Algebra.BigOperators.Group.Finset.Piecewise
import Mathlib.Algebra.BigOperators.Group.List.Basic
import Mathlib.Algebra.Order.BigOperators.Group.List

/-!
# Buckets

Values that are summed up under keys, as a table with the primary key `κ` whose
other columns form the value.

* `ofRows`, `regroup`: the sums of `GROUP BY` queries.
* `upsert`: `INSERT … ON CONFLICT (key) DO UPDATE`.
* `sum_groups`: what is summed up in groups is the sum of the rows of these
  groups.
-/

namespace Foundation

/-- A table of values under keys. -/
structure Buckets (κ α : Type*) where
  keys : Finset κ
  value : κ → α

namespace Buckets

variable {κ κ' ρ α : Type*} [DecidableEq κ] [DecidableEq κ'] [AddCommMonoid α]

/-- The table without rows. -/
def empty : Buckets κ α := ⟨∅, fun _ => 0⟩

/-- The value under a key, if there is a row for it. -/
def lookup (b : Buckets κ α) (k : κ) : Option α := if k ∈ b.keys then some (b.value k) else none

/-- `SELECT key, sum(val) … GROUP BY key`. -/
def ofRows (key : ρ → κ) (val : ρ → α) (rows : List ρ) : Buckets κ α where
  keys := (rows.map key).toFinset
  value k := ((rows.filter fun r => key r = k).map val).sum

/-- `SELECT f(key), sum(value) … WHERE p GROUP BY f(key)`. -/
def regroup (p : κ → Prop) [DecidablePred p] (f : κ → κ') (b : Buckets κ α) : Buckets κ' α where
  keys := (b.keys.filter p).image f
  value k' := ∑ k ∈ b.keys with p k ∧ f k = k', b.value k

/-- `INSERT … ON CONFLICT (key) DO UPDATE`: the new rows replace the old ones
    that have their keys. -/
def upsert (new old : Buckets κ α) : Buckets κ α where
  keys := new.keys ∪ old.keys
  value k := if k ∈ new.keys then new.value k else old.value k

/-- The table without the rows that a `DELETE` selects. -/
def keep (p : κ → Prop) [DecidablePred p] (b : Buckets κ α) : Buckets κ α where
  keys := b.keys.filter p
  value := b.value

omit [AddCommMonoid α] in
theorem lookup_eq_some {b : Buckets κ α} {k : κ} {a : α} :
    b.lookup k = some a ↔ k ∈ b.keys ∧ b.value k = a := by
  unfold lookup
  split_ifs with hk <;> simp [hk]

omit [AddCommMonoid α] in
theorem value_upsert_of_mem {new : Buckets κ α} {k : κ} (old : Buckets κ α) (hk : k ∈ new.keys) :
    (new.upsert old).value k = new.value k := if_pos hk

omit [AddCommMonoid α] in
theorem value_upsert_of_notMem {new : Buckets κ α} {k : κ} (old : Buckets κ α)
    (hk : k ∉ new.keys) : (new.upsert old).value k = old.value k := if_neg hk

/-- The rows of the groups `s` are summed up in these groups. -/
theorem sum_groups (key : ρ → κ) (val : ρ → α) (s : Finset κ) (rows : List ρ) :
    ∑ k ∈ s, ((rows.filter fun r => key r = k).map val).sum =
      ((rows.filter fun r => key r ∈ s).map val).sum := by
  induction rows with
  | nil => simp
  | cons r rows ih =>
    have hrow : ∀ k, (((r :: rows).filter fun r => key r = k).map val).sum =
        (if key r = k then val r else 0) + ((rows.filter fun r => key r = k).map val).sum := by
      intro k
      by_cases hk : key r = k <;> simp [hk]
    rw [Finset.sum_congr rfl fun k _ => hrow k, Finset.sum_add_distrib, ih, Finset.sum_ite_eq]
    by_cases hr : key r ∈ s <;> simp [hr]

end Buckets

section Sums

variable {ρ α : Type*} [AddCommMonoid α] {val : ρ → α} {rows : List ρ}

/-- Rows that count for nothing may be left out of a sum. -/
theorem sum_filter_congr {p q : ρ → Bool} (hpq : ∀ r ∈ rows, p r = true → q r = true)
    (hzero : ∀ r ∈ rows, q r = true → p r = true ∨ val r = 0) :
    ((rows.filter p).map val).sum = ((rows.filter q).map val).sum := by
  induction rows with
  | nil => rfl
  | cons r rows ih =>
    have hrest := ih (fun s hs => hpq s (List.mem_cons_of_mem r hs)) fun s hs =>
      hzero s (List.mem_cons_of_mem r hs)
    by_cases hp : p r = true
    · rw [List.filter_cons_of_pos hp, List.filter_cons_of_pos (hpq r (by simp) hp), List.map_cons,
        List.map_cons, List.sum_cons, List.sum_cons, hrest]
    · rw [List.filter_cons_of_neg hp, hrest]
      by_cases hq : q r = true
      · have hr : val r = 0 := (hzero r (by simp) hq).resolve_left hp
        rw [List.filter_cons_of_pos hq, List.map_cons, List.sum_cons, hr, zero_add]
      · rw [List.filter_cons_of_neg hq]

end Sums

end Foundation
