import Mathlib.Data.Nat.Basic
import Mathlib.Tactic.SplitIfs

/-!
# Counters that are reset

A counter that only grows, but starts again at zero now and then. Whoever reads
it sees neither the resets nor what was counted before them.

* `Counter.Follows`: what is known of a counter that was read before.
* `Counter.Follows.growth_le`: whatever the resets, what can be inferred from
  two readings is no more than what was counted in between.
-/

namespace Foundation

/-- A counter: what it shows, what it has counted since it exists, and how
    often it was reset. -/
structure Counter where
  value : ℕ
  counted : ℕ
  resets : ℕ
  deriving DecidableEq

namespace Counter

/-- The counter after it has counted `n`. -/
def count (n : ℕ) (c : Counter) : Counter :=
  { c with value := c.value + n, counted := c.counted + n }

/-- The counter after a reset. -/
def reset (c : Counter) : Counter := { c with value := 0, resets := c.resets + 1 }

/-- What has been counted since the reading `c` bounds the counter `d`: after a
    reset it shows no more than that, and without one it shows just that more. -/
structure Follows (c d : Counter) : Prop where
  counted : c.counted ≤ d.counted
  resets : c.resets ≤ d.resets
  steady : d.resets = c.resets → d.value = c.value + (d.counted - c.counted)
  fresh : c.resets < d.resets → d.value ≤ d.counted - c.counted

namespace Follows

variable {c d : Counter}

theorem refl (c : Counter) : c.Follows c where
  counted := Nat.le_refl _
  resets := Nat.le_refl _
  steady _ := by simp
  fresh h := absurd h (Nat.lt_irrefl _)

theorem count (h : c.Follows d) (n : ℕ) : c.Follows (d.count n) where
  counted := Nat.le_add_right_of_le h.counted
  resets := h.resets
  steady hresets := by
    have hvalue := h.steady hresets
    have hcounted := h.counted
    simp only [Counter.count]
    omega
  fresh hresets := by
    have hvalue := h.fresh hresets
    have hcounted := h.counted
    simp only [Counter.count]
    omega

theorem reset (h : c.Follows d) : c.Follows d.reset where
  counted := h.counted
  resets := Nat.le_succ_of_le h.resets
  steady hresets := absurd hresets (Nat.ne_of_gt (Nat.lt_succ_of_le h.resets))
  fresh _ := Nat.zero_le _

/-- What two readings let one infer: the difference, or all of the second
    reading when it is smaller than the first. -/
theorem growth_le (h : c.Follows d) :
    (if c.value ≤ d.value then d.value - c.value else d.value) ≤ d.counted - c.counted := by
  rcases Nat.eq_or_lt_of_le h.resets with hresets | hresets
  · have hvalue := h.steady hresets.symm
    rw [if_pos (by omega)]
    omega
  · have hvalue := h.fresh hresets
    split_ifs
    · exact Nat.le_trans (Nat.sub_le _ _) hvalue
    · exact hvalue

/-- Without a reset the readings tell what was counted. -/
theorem growth_eq (h : c.Follows d) (hresets : d.resets = c.resets) :
    (if c.value ≤ d.value then d.value - c.value else d.value) = d.counted - c.counted := by
  have hvalue := h.steady hresets
  rw [if_pos (by omega)]
  omega

end Follows

end Counter

end Foundation
