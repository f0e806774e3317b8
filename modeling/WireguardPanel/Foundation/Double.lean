import Mathlib.Algebra.Order.Field.Power
import Mathlib.Data.Rat.Floor
import Mathlib.Tactic.FieldSimp
import Mathlib.Tactic.Linarith

/-!
# Double precision numbers

The finite numbers of ECMAScript, each as the rational that it is.

* `Double.ofRat`: the double nearest to a rational, `none` beyond the largest
  one. A sum or a product of doubles is the double nearest to the exact result.
* `Double.round`: `Math.round`.
* `Double.ofRat_natCast`: a whole number below `2 ^ 53` is a double.
* `Double.abs_ofRat_sub_le`, `Double.natCast_le_of_ofRat`: how far a number is rounded.
-/

namespace Foundation

namespace Double

/-- A power of two. -/
def power : ℤ → ℚ
  | .ofNat n => (2 ^ n : ℕ)
  | .negSucc n => ((2 ^ (n + 1) : ℕ) : ℚ)⁻¹

/-- The exponent of the largest power of two that is not above `x`. -/
def exponent (x : ℚ) : ℤ :=
  let e : ℤ := Nat.log2 x.num.natAbs - Nat.log2 x.den
  if power e ≤ |x| then e else e - 1

/-- The distance between the doubles around `x`. -/
def spacing (x : ℚ) : ℚ := power (max (exponent x - 52) (-1074))

/-- The nearest integer, and the even one of two. -/
def roundEven (x : ℚ) : ℤ :=
  let below := ⌊x⌋
  if x - below < 1 / 2 then below
  else if 1 / 2 < x - below then below + 1
  else if 2 ∣ below then below
  else below + 1

/-- The nearest double. -/
def ofRat (x : ℚ) : Option ℚ :=
  let y := roundEven (x / spacing x) * spacing x
  if |y| < power 1024 then some y else none

/-- `Math.round`: the nearest integer, and the upper one of two. -/
def round (x : ℚ) : ℤ := ⌊x + 1 / 2⌋

@[simp] theorem roundEven_intCast (n : ℤ) : roundEven n = n := by
  simp [roundEven]

@[simp] theorem round_natCast (n : ℕ) : round n = n := by
  rw [round, Int.floor_eq_iff]
  constructor <;> push_cast <;> linarith

/-- A power that is not above one is one part of a whole number of parts. -/
theorem exists_power_inv {e : ℤ} (he : e ≤ 0) : ∃ k : ℕ, 0 < k ∧ power e = (k : ℚ)⁻¹ := by
  rcases e with n | n
  · have hn : n = 0 := by
      have : (n : ℤ) ≤ 0 := he
      omega
    subst hn
    exact ⟨1, by omega, by simp [power]⟩
  · exact ⟨2 ^ (n + 1), Nat.two_pow_pos _, rfl⟩

theorem exponent_natCast_le {n : ℕ} (h : n < 2 ^ 53) : exponent n ≤ 52 := by
  have hlog : Nat.log2 n ≤ 52 := by
    rcases Nat.eq_zero_or_pos n with rfl | hpos
    · decide
    · exact Nat.le_of_lt_succ ((Nat.log2_lt hpos.ne').2 h)
  have hone : Nat.log2 1 = 0 := by decide
  simp only [exponent, Rat.num_natCast, Rat.den_natCast, Int.natAbs_natCast, hone]
  split_ifs <;> omega

theorem natCast_lt_power {n i : ℕ} (j : ℕ) (h : n < 2 ^ i) (hij : i ≤ j) :
    (n : ℚ) < power j := by
  have hlt : n < 2 ^ j := h.trans_le (Nat.pow_le_pow_right (by omega) hij)
  have hpower : power j = ((2 ^ j : ℕ) : ℚ) := rfl
  rw [hpower]
  exact_mod_cast hlt

/-- A whole number below `2 ^ 53` is a double. -/
theorem ofRat_natCast {n : ℕ} (h : n < 2 ^ 53) : ofRat n = some (n : ℚ) := by
  have hexponent := exponent_natCast_le h
  obtain ⟨k, hk, hspacing⟩ := exists_power_inv (e := max (exponent (n : ℚ) - 52) (-1074)) (by omega)
  have hk' : (k : ℚ) ≠ 0 := by exact_mod_cast hk.ne'
  have hparts : (n : ℚ) / spacing n = ((n * k : ℕ) : ℤ) := by
    rw [spacing, hspacing]
    push_cast
    field_simp
  have hbound : |(n : ℚ)| < power 1024 := by
    rw [abs_of_nonneg (Nat.cast_nonneg n)]
    exact natCast_lt_power 1024 h (by omega)
  have hvalue : ((n * k : ℕ) : ℤ) * spacing n = (n : ℚ) := by
    rw [spacing, hspacing]
    push_cast
    field_simp
  rw [ofRat, hparts, roundEven_intCast, hvalue]
  exact if_pos hbound

/-! ## Large whole numbers -/

theorem le_roundEven {k : ℤ} {x : ℚ} (h : (k : ℚ) ≤ x) : k ≤ roundEven x := by
  have hfloor : k ≤ ⌊x⌋ := Int.le_floor.2 h
  simp only [roundEven]
  split_ifs <;> omega

theorem le_round {k : ℤ} {x : ℚ} (h : (k : ℚ) ≤ x) : k ≤ round x :=
  Int.le_floor.2 (by linarith)

theorem exponent_natCast {n : ℕ} (h : n ≠ 0) : exponent n = Nat.log2 n := by
  have hone : Nat.log2 1 = 0 := by decide
  have hle : power (Nat.log2 n) ≤ |(n : ℚ)| := by
    have hpower : power (Nat.log2 n) = ((2 ^ Nat.log2 n : ℕ) : ℚ) := rfl
    rw [hpower, abs_of_nonneg (Nat.cast_nonneg n)]
    exact_mod_cast Nat.log2_self_le h
  simp only [exponent, Rat.num_natCast, Rat.den_natCast, Int.natAbs_natCast, hone, Nat.cast_zero,
    sub_zero, if_pos hle]

/-- A whole number from `2 ^ 53` on is not rounded below it. -/
theorem le_of_ofRat_natCast {n : ℕ} {y : ℚ} (h : 2 ^ 53 ≤ n) (hy : ofRat n = some y) :
    2 ^ 53 ≤ y := by
  have hne : n ≠ 0 := by omega
  have hlog : 53 ≤ Nat.log2 n := (Nat.le_log2 hne).2 h
  obtain ⟨k, hk⟩ : ∃ k, Nat.log2 n = k + 52 := ⟨Nat.log2 n - 52, by omega⟩
  have hspacing : spacing n = ((2 ^ k : ℕ) : ℚ) := by
    rw [spacing, exponent_natCast hne, hk]
    have hmax : max (((k + 52 : ℕ) : ℤ) - 52) (-1074) = (k : ℤ) := by
      push_cast
      omega
    rw [hmax]
    rfl
  have hpos : (0 : ℚ) < ((2 ^ k : ℕ) : ℚ) := by exact_mod_cast Nat.two_pow_pos k
  have hparts : (((2 ^ 52 : ℕ) : ℤ) : ℚ) ≤ (n : ℚ) / spacing n := by
    have hself := Nat.log2_self_le hne
    rw [hk, Nat.pow_add, Nat.mul_comm] at hself
    rw [hspacing, le_div_iff₀ hpos]
    exact_mod_cast hself
  have hround : (((2 ^ 52 : ℕ) : ℤ) : ℚ) ≤ (roundEven ((n : ℚ) / spacing n) : ℚ) := by
    exact_mod_cast le_roundEven hparts
  have htwo : (2 : ℚ) ≤ ((2 ^ k : ℕ) : ℚ) := by
    exact_mod_cast Nat.pow_le_pow_right (n := 2) (by omega) (show 1 ≤ k by omega)
  have hvalue : roundEven ((n : ℚ) / spacing n) * spacing n = y := by
    simp only [ofRat] at hy
    split_ifs at hy
    exact Option.some.inj hy
  calc (2 : ℚ) ^ 53 = (((2 ^ 52 : ℕ) : ℤ) : ℚ) * 2 := by norm_num
    _ ≤ roundEven ((n : ℚ) / spacing n) * spacing n := by
      rw [hspacing] at hround ⊢
      exact mul_le_mul hround htwo (by norm_num) (by linarith [hround])
    _ = y := hvalue

/-! ## How far a number is rounded -/

theorem power_eq_zpow (e : ℤ) : power e = (2 : ℚ) ^ e := by
  rcases e with n | n
  · simp [power]
  · rw [power, zpow_negSucc]
    push_cast
    rfl

theorem power_pos (e : ℤ) : 0 < power e := by
  rw [power_eq_zpow]
  positivity

theorem power_le_power {d e : ℤ} (h : d ≤ e) : power d ≤ power e := by
  rw [power_eq_zpow, power_eq_zpow]
  exact zpow_le_zpow_right₀ (by norm_num) h

/-- The exponent is that of a power of two that is not above the number. -/
theorem power_exponent_le {x : ℚ} (hx : x ≠ 0) : power (exponent x) ≤ |x| := by
  simp only [exponent]
  split_ifs with hle
  · exact hle
  · have hnum : 2 ^ Nat.log2 x.num.natAbs ≤ x.num.natAbs :=
      Nat.log2_self_le (Int.natAbs_ne_zero.2 (Rat.num_ne_zero.2 hx))
    have hden : x.den < 2 ^ (Nat.log2 x.den + 1) := Nat.lt_log2_self
    have habs : |x| = (x.num.natAbs : ℚ) / x.den := by
      calc |x| = |(x.num : ℚ) / x.den| := by rw [Rat.num_div_den]
        _ = (x.num.natAbs : ℚ) / x.den := by
          rw [abs_div, Nat.abs_cast, ← Int.cast_abs, Int.abs_eq_natAbs, Int.cast_natCast]
    have hpos : (0 : ℚ) < x.den := by exact_mod_cast x.den_pos
    rw [habs, le_div_iff₀ hpos, power_eq_zpow]
    have hden' : (x.den : ℚ) ≤ (2 : ℚ) ^ ((Nat.log2 x.den : ℤ) + 1) := by
      exact_mod_cast hden.le
    calc (2 : ℚ) ^ ((Nat.log2 x.num.natAbs : ℤ) - Nat.log2 x.den - 1) * x.den
        ≤ (2 : ℚ) ^ ((Nat.log2 x.num.natAbs : ℤ) - Nat.log2 x.den - 1) *
            (2 : ℚ) ^ ((Nat.log2 x.den : ℤ) + 1) := by gcongr
      _ = (2 : ℚ) ^ (Nat.log2 x.num.natAbs : ℤ) := by
        rw [← zpow_add₀ (by norm_num)]
        congr 1
        omega
      _ ≤ x.num.natAbs := by exact_mod_cast hnum

/-- The doubles below a power of two are close to each other. -/
theorem spacing_le {x : ℚ} {e : ℤ} (hx : |x| < power (e + 1)) (he : -1 ≤ e) :
    spacing x ≤ power (e - 52) := by
  refine power_le_power (max_le ?_ (by omega))
  by_contra hlt
  have hne : x ≠ 0 := by
    rintro rfl
    have hzero : exponent 0 = -1 := by decide +kernel
    omega
  have hle := power_exponent_le hne
  have hmono : power (e + 1) ≤ power (exponent x) := power_le_power (by omega)
  exact absurd hx (not_lt.2 (hmono.trans hle))

theorem abs_roundEven_sub_le (x : ℚ) : |roundEven x - x| ≤ 1 / 2 := by
  have hle := Int.floor_le x
  have hlt := Int.lt_floor_add_one x
  simp only [roundEven]
  rw [abs_le]
  split_ifs <;> push_cast <;> constructor <;> linarith

/-- A number is rounded by at most half of the distance between doubles. -/
theorem abs_rounded_sub_le (x : ℚ) :
    |roundEven (x / spacing x) * spacing x - x| ≤ spacing x / 2 := by
  have hpos : 0 < spacing x := power_pos _
  have hx : roundEven (x / spacing x) * spacing x - x =
      (roundEven (x / spacing x) - x / spacing x) * spacing x := by
    field_simp
  rw [hx, abs_mul, abs_of_pos hpos]
  have hround := abs_roundEven_sub_le (x / spacing x)
  nlinarith

theorem abs_ofRat_sub_le {x y : ℚ} (h : ofRat x = some y) : |y - x| ≤ spacing x / 2 := by
  simp only [ofRat] at h
  split_ifs at h
  cases h
  exact abs_rounded_sub_le x

/-- A number that is not too large is rounded to a finite one. -/
theorem exists_ofRat {x : ℚ} (hx : |x| < power 53) : ∃ y, ofRat x = some y := by
  have hspacing : spacing x ≤ power 0 := spacing_le (e := 52) hx (by decide)
  have hlarge : power 53 + power 0 < power 1024 := by decide +kernel
  have hrounded := abs_le.1 (abs_rounded_sub_le x)
  have hbound := abs_lt.1 hx
  have hpos : 0 < power 0 := power_pos 0
  refine ⟨_, if_pos ?_⟩
  rw [abs_lt]
  constructor <;> linarith

/-- A number is not rounded below a whole number that it has reached. -/
theorem natCast_le_of_ofRat {k : ℕ} {x y : ℚ} (hk : (k : ℚ) ≤ x) (hx : x < power 53)
    (h : ofRat x = some y) : (k : ℚ) ≤ y := by
  have hnonneg : 0 ≤ x := (Nat.cast_nonneg k).trans hk
  have hle : spacing x ≤ power 0 :=
    spacing_le (e := 52) (by rwa [abs_of_nonneg hnonneg]) (by decide)
  have hpos : 0 < spacing x := power_pos _
  -- The doubles near the number are parts of one, so that the whole number is one of them.
  obtain ⟨m, -, hm⟩ : ∃ m : ℕ, 0 < m ∧ spacing x = (m : ℚ)⁻¹ := by
    refine exists_power_inv ?_
    by_contra hlt
    have hone : power 1 ≤ spacing x := power_le_power (by omega)
    have htwo : power 0 < power 1 := by decide +kernel
    exact absurd (hone.trans hle) (not_le.2 htwo)
  have hparts : ((k * m : ℕ) : ℤ) ≤ roundEven (x / spacing x) := by
    refine le_roundEven ?_
    rw [hm, div_inv_eq_mul]
    push_cast
    gcongr
  simp only [ofRat] at h
  split_ifs at h
  cases h
  have hk' : (k : ℚ) = ((k * m : ℕ) : ℤ) * spacing x := by
    have hne : (m : ℚ) ≠ 0 := fun hzero => by
      rw [hm, hzero, inv_zero] at hpos
      exact lt_irrefl _ hpos
    rw [hm]
    push_cast
    field_simp
  rw [hk']
  gcongr

example : ofRat (1 / 10) = some (3602879701896397 / 36028797018963968) := by decide +kernel

end Double

end Foundation
