import Mathlib.Data.Int.Notation
import Mathlib.Data.Set.Finite.Basic
import Mathlib.Tactic.Linarith
import Mathlib.Tactic.SplitIfs

/-!
# Time zones

A time zone as a piecewise-constant offset from UTC to local time, and the
search for the moment of a local time. Moments, local times and offsets are
counted in milliseconds.

* `Zone`: finitely many jumps, at least a week apart and of at most two hours,
  and offsets within 14 hours. `Zone.wholeSeconds` rounds the offsets down.
* `Zone.settle`: three steps of the iteration that corrects a guess by the
  difference between the wanted local time and the local time of the guess.
* `Zone.settle_le_iff_reached`, `Zone.lt_settle_iff`: when the result separates the
  moments whose local time has reached the wanted one from those before. It
  fails to do so around a jump that skips or repeats the wanted local time:
  the result is then one end of the skipped hour, or one of two moments.
-/

namespace Foundation

/-- A time zone. -/
structure Zone where
  /-- The offset of local time from UTC at a moment. -/
  offset : ℤ → ℤ
  finite_jumps : {t | offset (t - 1) ≠ offset t}.Finite
  apart : ∀ s t, offset (s - 1) ≠ offset s → offset (t - 1) ≠ offset t → s < t →
    s + 604800000 ≤ t
  jump_le : ∀ t, -7200000 ≤ offset t - offset (t - 1) ∧ offset t - offset (t - 1) ≤ 7200000
  offset_le : ∀ t, -50400000 ≤ offset t ∧ offset t ≤ 50400000

namespace Zone

variable (z : Zone)

/-- The zone jumps at `t` from the offset `a` to the offset `b`. -/
structure IsJump (t a b : ℤ) : Prop where
  before : z.offset (t - 1) = a
  after : z.offset t = b
  ne : a ≠ b

/-- The zone with its offsets rounded down to whole seconds. -/
def wholeSeconds : Zone where
  offset t := z.offset t / 1000 * 1000
  finite_jumps := z.finite_jumps.subset fun t ht heq => ht (by simp [heq])
  apart s t hs ht hst := z.apart s t (fun heq => hs (by simp [heq])) (fun heq => ht (by simp [heq]))
    hst
  jump_le t := by
    have := z.jump_le t
    omega
  offset_le t := by
    have := z.offset_le t
    omega

/-- Three corrections of the guess that the local time `m` is a moment in UTC. -/
def settle (m : ℤ) : ℤ := m - z.offset (m - z.offset (m - z.offset m))

/-- The local time `m` is skipped or repeated by a jump from `a` to `b` at `t`,
    and `now`, whose local time has reached `m`, comes before the moment that
    `settle` picks. -/
def StartMissed (m now : ℤ) : Prop :=
  ∃ t a b, z.IsJump t a b ∧
    ((t + a ≤ m ∧ m < t + b ∧ m < t ∧ t ≤ now ∧ now < m - a) ∨
      (t + b ≤ m ∧ m < t + a ∧ t ≤ m ∧ m - a ≤ now ∧ now < t))

/-- The local time `m` is skipped or repeated by a jump from `a` to `b` at `t`,
    and `now`, whose local time has not reached `m`, does not come before the
    moment that `settle` picks. -/
def EndMissed (m now : ℤ) : Prop :=
  ∃ t a b, z.IsJump t a b ∧
    ((t + a ≤ m ∧ m < t + b ∧ t ≤ m ∧ m - b ≤ now ∧ now < t) ∨
      (t + b ≤ m ∧ m < t + a ∧ m < t ∧ t ≤ now ∧ now < m - b))

variable {z}

/-- Between two moments without a jump the offset stays the same. -/
theorem offset_eq_of_forall {s t : ℤ} (hst : s ≤ t)
    (h : ∀ u, s < u → u ≤ t → z.offset (u - 1) = z.offset u) : z.offset t = z.offset s := by
  induction t, hst using Int.leInduction with
  | base => rfl
  | succ t hst ih =>
    have hstep := h (t + 1) (by omega) le_rfl
    rw [add_sub_cancel_right] at hstep
    rw [← hstep]
    exact ih fun u hu hut => h u hu (by omega)

/-- Less than a week holds at most one jump. -/
theorem const_or_jump (lo hi : ℤ) (hweek : hi < lo + 604800000) :
    (∀ t, lo ≤ t → t ≤ hi → z.offset t = z.offset lo) ∨
      ∃ t a b, z.IsJump t a b ∧ lo < t ∧ t ≤ hi ∧
        ∀ u, lo ≤ u → u ≤ hi → z.offset u = if u < t then a else b := by
  by_cases hjump : ∃ t, lo < t ∧ t ≤ hi ∧ z.offset (t - 1) ≠ z.offset t
  · obtain ⟨t, hlo, hhi, hne⟩ := hjump
    have honly : ∀ u, lo < u → u ≤ hi → u ≠ t → z.offset (u - 1) = z.offset u := by
      intro u hu hu' hut
      by_contra hne'
      rcases lt_or_gt_of_ne hut with hlt | hlt
      · have := z.apart u t hne' hne hlt
        omega
      · have := z.apart t u hne hne' hlt
        omega
    refine .inr ⟨t, z.offset (t - 1), z.offset t, ⟨rfl, rfl, hne⟩, hlo, hhi, ?_⟩
    intro u hu hu'
    split_ifs with hut
    · refine (offset_eq_of_forall (by omega) fun v hv hv' => honly v ?_ ?_ ?_).symm <;> omega
    · refine offset_eq_of_forall (by omega) fun v hv hv' => honly v ?_ ?_ ?_ <;> omega
  · push Not at hjump
    exact .inl fun t ht ht' =>
      offset_eq_of_forall ht fun u hu hu' => hjump u hu (hu'.trans ht')

/-- A jump near the wanted local time is the only one there. -/
theorem IsJump.unique {t a b t' a' b' : ℤ} (h : z.IsJump t a b) (h' : z.IsJump t' a' b')
    (lo hi : ℤ) (hweek : hi < lo + 604800000) (ht : lo < t) (ht' : t ≤ hi) (hs : lo < t')
    (hs' : t' ≤ hi) :
    t' = t ∧ a' = a ∧ b' = b := by
  have hne : z.offset (t - 1) ≠ z.offset t := by
    rw [h.before, h.after]
    exact h.ne
  have hne' : z.offset (t' - 1) ≠ z.offset t' := by
    rw [h'.before, h'.after]
    exact h'.ne
  have heq : t' = t := by
    rcases lt_trichotomy t' t with hlt | heq | hlt
    · have := z.apart t' t hne' hne hlt
      omega
    · exact heq
    · have := z.apart t t' hne hne' hlt
      omega
  subst heq
  exact ⟨rfl, h'.before.symm.trans h.before, h'.after.symm.trans h.after⟩

theorem IsJump.bounds {t a b : ℤ} (h : z.IsJump t a b) :
    (-50400000 ≤ a ∧ a ≤ 50400000) ∧ (-50400000 ≤ b ∧ b ≤ 50400000) ∧
      -7200000 ≤ b - a ∧ b - a ≤ 7200000 := by
  have hjump := z.jump_le t
  have ha := z.offset_le (t - 1)
  have hb := z.offset_le t
  rw [h.before] at hjump ha
  rw [h.after] at hjump hb
  exact ⟨ha, hb, hjump⟩

/-- A jump changes the offset. -/
theorem IsJump.not_const {t a b lo hi : ℤ} (h : z.IsJump t a b) (hlo : lo < t) (hhi : t ≤ hi) :
    ¬∀ u, lo ≤ u → u ≤ hi → z.offset u = z.offset lo := by
  intro hconst
  have hbefore := hconst (t - 1) (by omega) (by omega)
  have hafter := hconst t (by omega) hhi
  rw [h.before] at hbefore
  rw [h.after] at hafter
  exact h.ne (hbefore.trans hafter.symm)

/-- What `settle` picks is within 14 hours of the wanted local time. -/
theorem settle_bounds (z : Zone) (m : ℤ) :
    m - 50400000 ≤ z.settle m ∧ z.settle m ≤ m + 50400000 := by
  have := z.offset_le (m - z.offset (m - z.offset m))
  unfold settle
  omega

/-- Near the wanted local time the offset varies by at most two hours. -/
theorem offset_sub_le {m u v : ℤ} (hu : m - 50400000 ≤ u) (hu' : u ≤ m + 50400000)
    (hv : m - 50400000 ≤ v) (hv' : v ≤ m + 50400000) :
    -7200000 ≤ z.offset u - z.offset v ∧ z.offset u - z.offset v ≤ 7200000 := by
  rcases const_or_jump (z := z) (m - 50400000) (m + 50400000) (by omega) with
    hconst | ⟨t, a, b, hjump, -, -, hone⟩
  · rw [hconst u hu hu', hconst v hv hv']
    omega
  · obtain ⟨-, -, hab⟩ := hjump.bounds
    rw [hone u hu hu', hone v hv hv']
    split_ifs <;> omega

/-- Without a jump nearby, `settle` takes off the one offset there is. -/
theorem settle_eq {m c : ℤ}
    (h : ∀ u, m - 50400000 ≤ u → u ≤ m + 50400000 → z.offset u = c) : z.settle m = m - c := by
  have h₀ := z.offset_le m
  have h₁ := z.offset_le (m - z.offset m)
  rw [settle, h (m - z.offset (m - z.offset m)) (by omega) (by omega)]

/-- The result of `settle` near a single jump. -/
theorem settle_eq_ite {m t a b : ℤ} (hjump : z.IsJump t a b)
    (h : ∀ u, m - 50400000 ≤ u → u ≤ m + 50400000 → z.offset u = if u < t then a else b) :
    z.settle m =
      if m < t then (if m - a < t then m - a else if m - b < t then m - a else m - b)
      else (if m - b < t then (if m - a < t then m - a else m - b) else m - b) := by
  obtain ⟨ha, hb, -⟩ := hjump.bounds
  have hguess := h m (by omega) (by omega)
  have hbefore := h (m - a) (by omega) (by omega)
  have hafter := h (m - b) (by omega) (by omega)
  by_cases hm : m < t <;> by_cases hma : m - a < t <;> by_cases hmb : m - b < t <;>
    simp [settle, hguess, hbefore, hafter, hm, hma, hmb]

/-- For a moment whose local time has reached `m`, `settle m` lies in the past
    unless the moment is one of those that a jump hides. -/
theorem settle_le_iff {m now : ℤ} (hnow : m ≤ now + z.offset now) :
    z.settle m ≤ now ↔ ¬z.StartMissed m now := by
  have hoffset := z.offset_le now
  have hsettle := z.settle_bounds m
  rcases const_or_jump (z := z) (m - 50400000) (m + 50400000) (by omega) with
    hconst | ⟨t, a, b, hjump, hlo, hhi, hone⟩
  · have hnone : ¬z.StartMissed m now := by
      rintro ⟨t, a, b, hjump, hcase⟩
      obtain ⟨ha, hb, -⟩ := hjump.bounds
      exact hjump.not_const (by omega) (by omega) hconst
    rw [settle_eq hconst]
    refine iff_of_true ?_ hnone
    by_cases hfar : now ≤ m + 50400000
    · rw [hconst now (by omega) hfar] at hnow
      omega
    · have := z.offset_le (m - 50400000)
      omega
  · have hmissed : z.StartMissed m now ↔
        ((t + a ≤ m ∧ m < t + b ∧ m < t ∧ t ≤ now ∧ now < m - a) ∨
          (t + b ≤ m ∧ m < t + a ∧ t ≤ m ∧ m - a ≤ now ∧ now < t)) := by
      refine ⟨?_, fun h => ⟨t, a, b, hjump, h⟩⟩
      rintro ⟨t', a', b', hjump', hcase⟩
      obtain ⟨ha', hb', -⟩ := hjump'.bounds
      obtain ⟨rfl, rfl, rfl⟩ := hjump.unique hjump' (m - 50400000) (m + 50400000)
        (by omega) hlo hhi (by omega) (by omega)
      exact hcase
    obtain ⟨ha, hb, hab, hab'⟩ := hjump.bounds
    rw [hmissed]
    by_cases hfar : now ≤ m + 50400000
    · rw [hone now (by omega) hfar] at hnow
      rw [settle_eq_ite hjump hone]
      split_ifs at hnow ⊢ <;> omega
    · omega

/-- For a moment whose local time has not reached `m`, `settle m` lies in the
    future unless the moment is one of those that a jump hides. -/
theorem lt_settle_iff {m now : ℤ} (hnow : now + z.offset now < m) :
    now < z.settle m ↔ ¬z.EndMissed m now := by
  have hoffset := z.offset_le now
  have hsettle := z.settle_bounds m
  rcases const_or_jump (z := z) (m - 50400000) (m + 50400000) (by omega) with
    hconst | ⟨t, a, b, hjump, hlo, hhi, hone⟩
  · have hnone : ¬z.EndMissed m now := by
      rintro ⟨t, a, b, hjump, hcase⟩
      obtain ⟨ha, hb, -⟩ := hjump.bounds
      exact hjump.not_const (by omega) (by omega) hconst
    rw [settle_eq hconst]
    refine iff_of_true ?_ hnone
    by_cases hfar : m - 50400000 ≤ now
    · rw [hconst now hfar (by omega)] at hnow
      omega
    · have := z.offset_le (m - 50400000)
      omega
  · have hmissed : z.EndMissed m now ↔
        ((t + a ≤ m ∧ m < t + b ∧ t ≤ m ∧ m - b ≤ now ∧ now < t) ∨
          (t + b ≤ m ∧ m < t + a ∧ m < t ∧ t ≤ now ∧ now < m - b)) := by
      refine ⟨?_, fun h => ⟨t, a, b, hjump, h⟩⟩
      rintro ⟨t', a', b', hjump', hcase⟩
      obtain ⟨ha', hb', -⟩ := hjump'.bounds
      obtain ⟨rfl, rfl, rfl⟩ := hjump.unique hjump' (m - 50400000) (m + 50400000)
        (by omega) hlo hhi (by omega) (by omega)
      exact hcase
    obtain ⟨ha, hb, hab, hab'⟩ := hjump.bounds
    rw [hmissed]
    by_cases hfar : m - 50400000 ≤ now
    · rw [hone now hfar (by omega)] at hnow
      rw [settle_eq_ite hjump hone]
      split_ifs at hnow ⊢ <;> omega
    · omega

/-- The moment `now` is not before the one that `settle` picks for `m`. -/
def Reached (z : Zone) (m now : ℤ) : Prop :=
  if m ≤ now + z.offset now then ¬z.StartMissed m now else z.EndMissed m now

theorem settle_le_iff_reached {m now : ℤ} : z.settle m ≤ now ↔ z.Reached m now := by
  unfold Reached
  split_ifs with hnow
  · exact settle_le_iff hnow
  · rw [← not_lt, lt_settle_iff (not_le.1 hnow), not_not]

/-- The zone with a single jump, from the offset `a` to the offset `b` at `t`. -/
def single (t a b : ℤ) (hab : -7200000 ≤ b - a ∧ b - a ≤ 7200000)
    (ha : -50400000 ≤ a ∧ a ≤ 50400000) (hb : -50400000 ≤ b ∧ b ≤ 50400000) :
    Zone where
  offset u := if u < t then a else b
  finite_jumps := by
    refine (Set.finite_singleton t).subset fun u hu => ?_
    by_contra hne
    refine hu ?_
    have hne' : u ≠ t := hne
    split_ifs <;> omega
  apart u v hu hv huv := by
    split_ifs at hu hv <;> omega
  jump_le u := by
    split_ifs <;> omega
  offset_le u := by
    split_ifs <;> assumption

end Zone

end Foundation
