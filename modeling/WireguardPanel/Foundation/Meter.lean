import Mathlib.Algebra.Order.BigOperators.Group.List
import Mathlib.Data.List.Chain
import Mathlib.Tactic.Abel

/-!
# Meters

A meter is read again and again. Every reading knows by how much the meter has
grown since the reading before, and what it has counted in total. Only some of
the readings are kept.

* `total_eq_add_sum`: the total at the end of a row of readings is the total at
  its beginning and what the meter has grown by since.
* `growth_eq_sub_iff`: the growth of a kept reading accounts for everything
  since the kept reading before just when nothing grew in between.
-/

namespace Foundation

namespace Meter

variable {ρ α : Type*} [AddCommGroup α] {growth total : ρ → α}

/-- The second reading continues the total of the first. -/
def Continues (growth total : ρ → α) (r s : ρ) : Prop := total s = total r + growth s

/-- The total at the end of a row of readings. -/
theorem total_eq_add_sum {r s : ρ} {between : List ρ}
    (h : (r :: between ++ [s]).IsChain (Continues growth total)) :
    total s = total r + (between.map growth).sum + growth s := by
  induction between generalizing r with
  | nil =>
    have hs : total s = total r + growth s := by simpa [Continues] using h
    simpa using hs
  | cons t between ih =>
    obtain ⟨ht, hrest⟩ := List.isChain_cons_cons.1 h
    have ht : total t = total r + growth t := ht
    rw [ih hrest, ht, List.map_cons, List.sum_cons]
    abel

variable [LinearOrder α] [IsOrderedAddMonoid α]

/-- The growth of the last reading is the growth of the total since the first
    just when no reading in between has grown. -/
theorem growth_eq_sub_iff {r s : ρ} {between : List ρ}
    (h : (r :: between ++ [s]).IsChain (Continues growth total))
    (hpos : ∀ t ∈ between, 0 ≤ growth t) :
    growth s = total s - total r ↔ ∀ t ∈ between, growth t = 0 := by
  have hsum : growth s = total s - total r ↔ (between.map growth).sum = 0 := by
    have hgrown : total s - total r = (between.map growth).sum + growth s := by
      rw [total_eq_add_sum h]
      abel
    rw [hgrown, right_eq_add]
  rw [hsum]
  constructor
  · intro hzero t ht
    exact List.all_zero_of_le_zero_le_of_sum_eq_zero (by simpa using hpos) hzero
      (List.mem_map_of_mem ht)
  · intro hzero
    exact List.sum_eq_zero (by simpa using hzero)

end Meter

end Foundation
