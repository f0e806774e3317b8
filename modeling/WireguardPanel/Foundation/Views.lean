import Mathlib.Data.List.Nodup

/-!
# Views of rows

Rows with a key are looked up by it, as in a `Map` that is built from them, and a
list is shown in pages.

* `Views.lookup`: the row of a key, the last one if there are several.
* `Views.countP_lookup`: counting keys by their rows is counting rows.
* `Views.flatMap_pages`: the pages of a list, one after the other, are the list.
-/

namespace Foundation

namespace Views

section Lookup

variable {α κ : Type} [DecidableEq κ] {key : α → κ} {rows : List α}

/-- The row that a `Map` from the keys of rows to the rows has for a key. -/
def lookup (key : α → κ) (rows : List α) (k : κ) : Option α :=
  (rows.filter fun row => key row = k).getLast?

theorem mem_of_lookup {k : κ} {row : α} (h : lookup key rows k = some row) :
    row ∈ rows ∧ key row = k := by
  have hmem := List.mem_filter.1 (List.mem_of_getLast? h)
  exact ⟨hmem.1, of_decide_eq_true hmem.2⟩

/-- Where no two rows have the same key, every row is found. -/
theorem lookup_eq_some_iff (hunique : (rows.map key).Nodup) {k : κ} {row : α} :
    lookup key rows k = some row ↔ row ∈ rows ∧ key row = k := by
  refine ⟨mem_of_lookup, ?_⟩
  rintro ⟨hmem, rfl⟩
  have hfound : (rows.filter fun other => key other = key row) ≠ [] :=
    List.ne_nil_of_mem (List.mem_filter.2 ⟨hmem, decide_eq_true rfl⟩)
  have hlast := List.getLast?_eq_some_getLast hfound
  obtain ⟨hmem', hkey⟩ := mem_of_lookup hlast
  rw [lookup, hlast, List.inj_on_of_nodup_map hunique hmem' hmem hkey]

/-- The keys whose row is of some kind are as many as the rows of this kind, if
    these have one of the keys each. -/
theorem countP_lookup {keys : List κ} (hkeys : keys.Nodup) (hunique : (rows.map key).Nodup)
    (p : α → Bool) (hp : ∀ row ∈ rows, p row = true → key row ∈ keys) :
    keys.countP (fun k => (lookup key rows k).any p) = rows.countP p := by
  have hnodup : ((rows.filter p).map key).Nodup :=
    hunique.sublist (List.filter_sublist.map key)
  have hperm : (keys.filter fun k => (lookup key rows k).any p).Perm ((rows.filter p).map key) := by
    refine (List.perm_ext_iff_of_nodup (hkeys.filter _) hnodup).2 fun k => ?_
    rw [List.mem_filter, List.mem_map, Option.any_eq_true]
    constructor
    · rintro ⟨-, row, hrow, hkind⟩
      obtain ⟨hmem, hkey⟩ := mem_of_lookup hrow
      exact ⟨row, List.mem_filter.2 ⟨hmem, hkind⟩, hkey⟩
    · rintro ⟨row, hrow, rfl⟩
      obtain ⟨hmem, hkind⟩ := List.mem_filter.1 hrow
      exact ⟨hp row hmem hkind, row, (lookup_eq_some_iff hunique).2 ⟨hmem, rfl⟩, hkind⟩
  rw [List.countP_eq_length_filter, hperm.length_eq, List.length_map, List.countP_eq_length_filter]

end Lookup

section Pages

variable {α : Type}

/-- `Array.prototype.slice`, from one index up to another. -/
def slice (xs : List α) (start stop : ℕ) : List α := (xs.drop start).take (stop - start)

/-- How many pages of a size there are, at least one. -/
def pageCount (length size : ℕ) : ℕ := max 1 ((length + size - 1) / size)

/-- The first pages are the beginning of the list. -/
theorem flatMap_slice (xs : List α) (size count : ℕ) :
    ((List.range count).flatMap fun k => slice xs (k * size) ((k + 1) * size)) =
      xs.take (count * size) := by
  induction count with
  | zero => rw [Nat.zero_mul, List.take_zero, List.range_zero, List.flatMap_nil]
  | succ count ih =>
    have hwidth : (count + 1) * size - count * size = size := by
      rw [Nat.succ_mul, Nat.add_sub_cancel_left]
    rw [List.range_succ, List.flatMap_append, ih, List.flatMap_singleton, slice, hwidth,
      Nat.succ_mul, ← List.take_add]

/-- All pages are the list. -/
theorem flatMap_pages (xs : List α) {size : ℕ} (hsize : 0 < size) :
    ((List.range (pageCount xs.length size)).flatMap fun k =>
      slice xs (k * size) ((k + 1) * size)) = xs := by
  rw [flatMap_slice, List.take_of_length_le]
  have hceil : xs.length ≤ (xs.length + size - 1) / size * size := by
    have hdiv := Nat.div_add_mod (xs.length + size - 1) size
    have hmod := Nat.mod_lt (xs.length + size - 1) hsize
    rw [Nat.mul_comm] at hdiv
    omega
  exact Nat.le_trans hceil (Nat.mul_le_mul_right size (Nat.le_max_right _ _))

end Pages

end Views

end Foundation
