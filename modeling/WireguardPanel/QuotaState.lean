import WireguardPanel.Accounting
import WireguardPanel.Foundation.Double

/-!
# The state of a quota

How `quotaState` classifies what has been used of a limit: by a percentage that
is cut off at two decimals, as a whole number of any size first and as a double
then.

* `quotaState`: the source's computation.
* `quotaState_spec`: it classifies by the exact proportion, and as the poll does
  that marks a quota as reached.
-/

namespace WireguardPanel

open Foundation

/-- The `state` of a quota. -/
inductive QuotaLevel
  | unlimited
  | normal
  | warning
  | high
  | reached
  deriving DecidableEq

/-- What `quotaState` returns. The percentage is `null` without a limit, and
    `some none` for an infinite number with the sign of what has been used. -/
structure QuotaState where
  state : QuotaLevel
  percentage : Option (Option ℚ)
  deriving DecidableEq

/-- `Number((used * 10_000n) / limit) / 100`, where the division of whole numbers
    cuts off. -/
def quotaPercentage (used limit : ℤ) : Option ℚ := do
  let parts ← Double.ofRat ((used * 10000).tdiv limit)
  Double.ofRat (parts / 100)

/-- `quotaState`. -/
def quotaState (used : ℤ) (limit : Option ℤ) : QuotaState :=
  match limit with
  | none => ⟨.unlimited, none⟩
  | some limit =>
    if limit ≤ 0 then ⟨.unlimited, none⟩
    else
      let percentage := quotaPercentage used limit
      -- An infinite percentage is reached here, or it is negative.
      if limit ≤ used then ⟨.reached, some percentage⟩
      else if percentage.any (90 ≤ ·) then ⟨.high, some percentage⟩
      else if percentage.any (80 ≤ ·) then ⟨.warning, some percentage⟩
      else ⟨.normal, some percentage⟩

/-- The states of a limited quota in their order. -/
def QuotaLevel.rank : QuotaLevel → ℕ
  | unlimited | normal => 0
  | warning => 1
  | high => 2
  | reached => 3

/-! ## The percentage -/

/-- Hundredths of a percent that are less than the whole are rounded to a
    percentage that reaches the same whole numbers. -/
theorem exists_percentage {parts : ℕ} (h : parts < 10000) :
    ∃ percentage, Double.ofRat ((parts : ℚ) / 100) = some percentage ∧
      ∀ k : ℕ, (k : ℚ) ≤ percentage ↔ k * 100 ≤ parts := by
  have hparts : (parts : ℚ) + 1 ≤ 10000 := by exact_mod_cast h
  have hnonneg : (0 : ℚ) ≤ (parts : ℚ) / 100 := by positivity
  have hsmall : |(parts : ℚ) / 100| < Double.power 7 := by
    have hpower : (100 : ℚ) < Double.power 7 := by decide +kernel
    rw [abs_of_nonneg hnonneg]
    linarith
  have hlarge : Double.power 7 < Double.power 53 := by decide +kernel
  obtain ⟨percentage, hpercentage⟩ := Double.exists_ofRat (hsmall.trans hlarge)
  refine ⟨percentage, hpercentage, fun k => ⟨fun hk => ?_, fun hk => ?_⟩⟩
  · -- A percentage is rounded by less than the hundredth that it lacks.
    by_contra hlt
    have hlack : (parts : ℚ) + 1 ≤ (k : ℚ) * 100 := by exact_mod_cast not_le.1 hlt
    have hspacing : Double.spacing ((parts : ℚ) / 100) ≤ Double.power (6 - 52) :=
      Double.spacing_le hsmall (by decide)
    have htiny : Double.power (6 - 52) < 1 / 100 := by decide +kernel
    have hnear := abs_le.1 (Double.abs_ofRat_sub_le hpercentage)
    linarith
  · have hreached : (k : ℚ) * 100 ≤ parts := by exact_mod_cast hk
    refine Double.natCast_le_of_ofRat ?_ ?_ hpercentage
    · linarith
    · rw [abs_of_nonneg hnonneg] at hsmall
      exact hsmall.trans hlarge

/-- The percentage of what is used of a limit reaches a whole number just when the
    exact proportion does. -/
theorem any_quotaPercentage {used limit : ℤ} (hused : 0 ≤ used) (hlimit : used < limit) (k : ℕ) :
    (quotaPercentage used limit).any ((k : ℚ) ≤ ·) = true ↔ (k : ℤ) * limit ≤ 100 * used := by
  obtain ⟨parts, hparts⟩ : ∃ parts : ℕ, (used * 10000).tdiv limit = parts := by
    rw [Int.tdiv_eq_ediv_of_nonneg (by omega)]
    exact Int.eq_ofNat_of_zero_le (Int.ediv_nonneg (by omega) (by omega))
  have hquotient : used * 10000 / limit = parts := by
    rw [← hparts, Int.tdiv_eq_ediv_of_nonneg (by omega)]
  have hpos : 0 < limit := by omega
  have hless : parts < 10000 := by
    have hlt : used * 10000 / limit < 10000 := Int.ediv_lt_of_lt_mul hpos (by omega)
    omega
  obtain ⟨percentage, hpercentage, hreaches⟩ := exists_percentage hless
  have hpercent : quotaPercentage used limit = some percentage := by
    rw [quotaPercentage, hparts, Int.cast_natCast, Double.ofRat_natCast (by omega)]
    exact hpercentage
  rw [hpercent, Option.any_some, decide_eq_true_iff, hreaches]
  -- A whole number is not above a quotient that is cut off unless it is not above
  -- the exact one.
  calc k * 100 ≤ parts ↔ ((k * 100 : ℕ) : ℤ) ≤ used * 10000 / limit := by
        rw [hquotient, Nat.cast_le]
    _ ↔ ((k * 100 : ℕ) : ℤ) * limit ≤ used * 10000 := Int.le_ediv_iff_mul_le hpos
    _ ↔ (k : ℤ) * limit ≤ 100 * used := by
        push_cast
        constructor <;> intro h <;> nlinarith

/-! ## The classification -/

theorem quotaState_eq {used limit : ℤ} (hused : 0 ≤ used) (hlimit : 0 < limit) :
    (quotaState used (some limit)).state =
      if limit ≤ used then .reached
      else if 9 * limit ≤ 10 * used then .high
      else if 4 * limit ≤ 5 * used then .warning
      else .normal := by
  simp only [quotaState, if_neg (not_le.2 hlimit)]
  by_cases hreached : limit ≤ used
  · rw [if_pos hreached, if_pos hreached]
  · have hhigh := any_quotaPercentage hused (not_le.1 hreached) 90
    have hwarning := any_quotaPercentage hused (not_le.1 hreached) 80
    have hninety : ((90 : ℕ) : ℤ) * limit ≤ 100 * used ↔ 9 * limit ≤ 10 * used := by omega
    have heighty : ((80 : ℕ) : ℤ) * limit ≤ 100 * used ↔ 4 * limit ≤ 5 * used := by omega
    rw [if_neg hreached, if_neg hreached]
    rw [hninety] at hhigh
    rw [heighty] at hwarning
    simp only [Nat.cast_ofNat] at hhigh hwarning
    by_cases h : 9 * limit ≤ 10 * used
    · rw [if_pos (hhigh.2 h), if_pos h]
    · rw [if_neg fun hany => h (hhigh.1 hany), if_neg h]
      by_cases h : 4 * limit ≤ 5 * used
      · rw [if_pos (hwarning.2 h), if_pos h]
      · rw [if_neg fun hany => h (hwarning.1 hany), if_neg h]

/-- The poll marks a quota as reached just when its state is that. -/
theorem Counted.reached_iff {c : Counted} {limit : ℤ} (hlimit : 0 < limit)
    (hrow : c.peer.accounting.quotaLimitBytes = some limit) :
    c.reached = true ↔ limit ≤ c.used := by
  have hnonZero : nonZero (some limit) = some limit := by
    rw [nonZero, Option.filter_some, if_pos (decide_eq_true hlimit.ne')]
  rw [Counted.reached, hrow, hnonZero, Option.any_some, decide_eq_true_iff]

/-- `quotaState` classifies by the exact proportion of what is used to the limit.
    So does the poll, and more use is no lesser state. -/
theorem quotaState_spec (used limit : ℤ) (hused : 0 ≤ used) (hlimit : 0 < limit) :
    ((quotaState used (some limit)).state =
      if limit ≤ used then .reached
      else if 9 * limit ≤ 10 * used then .high
      else if 4 * limit ≤ 5 * used then .warning
      else .normal) ∧
    (∀ c : Counted, c.peer.accounting.quotaLimitBytes = some limit → c.used = used →
      (c.reached = true ↔ (quotaState used (some limit)).state = .reached)) ∧
    ∀ more, used ≤ more →
      (quotaState used (some limit)).state.rank ≤ (quotaState more (some limit)).state.rank := by
  refine ⟨quotaState_eq hused hlimit, fun c hrow hc => ?_, fun more hmore => ?_⟩
  · rw [Counted.reached_iff hlimit hrow, hc, quotaState_eq hused hlimit]
    split_ifs with h <;> simp [h]
  · rw [quotaState_eq hused hlimit, quotaState_eq (hused.trans hmore) hlimit]
    split_ifs <;> first | exact le_refl _ | decide | omega

/-- Ninety percent less one byte. -/
theorem quotaState_spec_warning :
    (quotaState 89999999999999999999 (some 100000000000000000000)).state = .warning :=
  (quotaState_spec 89999999999999999999 100000000000000000000 (by decide) (by decide)).1.trans
    (by decide)

end WireguardPanel
