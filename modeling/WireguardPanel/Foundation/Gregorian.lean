import Mathlib.Data.Int.Notation
import Mathlib.Tactic.Linarith
import Mathlib.Tactic.SplitIfs

/-!
# The Gregorian calendar

The day arithmetic of ECMAScript dates. Days are counted from 1 January 1970,
years are those of the proleptic Gregorian calendar.

* `dayFromYear`, `makeDay`: the number of a day; months and days beyond their
  bounds run over into the neighbouring years and months.
* `yearOf`, `civil`: the year of a day and its civil date.
* `makeDay_civil`, `civil_makeDay`: the two are inverse to each other.
* `monthStart_succ`: a month has between 28 and 31 days.
-/

namespace Foundation

namespace Gregorian

/-- A civil date. -/
structure CivilDate where
  year : ℤ
  month : ℤ
  day : ℤ
  deriving DecidableEq

/-- One for a leap year and zero for a common year. -/
def leapDays (y : ℤ) : ℤ := if (y % 4 = 0 ∧ y % 100 ≠ 0) ∨ y % 400 = 0 then 1 else 0

/-- The first day of a year. -/
def dayFromYear (y : ℤ) : ℤ :=
  365 * (y - 1970) + (y - 1969) / 4 - (y - 1901) / 100 + (y - 1601) / 400

/-- The days of a year before its month `m`, counted from zero. -/
def monthOffset (leap m : ℤ) : ℤ :=
  if m ≤ 1 then 31 * m else 59 + leap + (153 * (m - 2) + 2) / 5

/-- The month, counted from zero, of the day `n` of a year. -/
def monthInYear (leap n : ℤ) : ℤ :=
  if n < 59 + leap then (if n < 31 then 0 else 1) else (5 * (n - 59 - leap) + 2) / 153 + 2

/-- The year of a day. -/
def yearOf (d : ℤ) : ℤ :=
  let y := 1970 + 400 * d / 146097
  if d < dayFromYear y then y - 1 else if dayFromYear (y + 1) ≤ d then y + 1 else y

/-- The civil date of a day. -/
def civil (d : ℤ) : CivilDate :=
  let y := yearOf d
  let n := d - dayFromYear y
  let m := monthInYear (leapDays y) n
  { year := y, month := m + 1, day := n - monthOffset (leapDays y) m + 1 }

/-- The first day of the month `m` of the year `y`, where `m` may lie outside
    of the year. -/
def monthStart (y m : ℤ) : ℤ :=
  dayFromYear (y + (m - 1) / 12) + monthOffset (leapDays (y + (m - 1) / 12)) ((m - 1) % 12)

/-- The day with the civil date `y`, `m`, `d`, none of which needs to be in bounds. -/
def makeDay (y m d : ℤ) : ℤ := monthStart y m + d - 1

/-! ## Years -/

theorem leapDays_cases (y : ℤ) : leapDays y = 0 ∨ leapDays y = 1 := by
  unfold leapDays
  split_ifs <;> simp

theorem dayFromYear_succ (y : ℤ) : dayFromYear (y + 1) = dayFromYear y + 365 + leapDays y := by
  unfold dayFromYear leapDays
  split_ifs <;> omega

theorem dayFromYear_le {y z : ℤ} (h : y ≤ z) : dayFromYear y ≤ dayFromYear z := by
  unfold dayFromYear
  omega

/-- A day lies in its year. -/
theorem yearOf_spec (d : ℤ) : dayFromYear (yearOf d) ≤ d ∧ d < dayFromYear (yearOf d + 1) := by
  have hbelow : dayFromYear (1970 + 400 * d / 146097 - 1) ≤ d := by
    unfold dayFromYear
    omega
  have habove : d < dayFromYear (1970 + 400 * d / 146097 + 1 + 1) := by
    unfold dayFromYear
    omega
  unfold yearOf
  dsimp only
  split_ifs with hlt hle
  · exact ⟨hbelow, by rwa [sub_add_cancel]⟩
  · exact ⟨hle, habove⟩
  · exact ⟨not_lt.1 hlt, not_le.1 hle⟩

theorem yearOf_eq {d y : ℤ} (hle : dayFromYear y ≤ d) (hlt : d < dayFromYear (y + 1)) :
    yearOf d = y := by
  obtain ⟨hle', hlt'⟩ := yearOf_spec d
  rcases lt_trichotomy (yearOf d) y with h | h | h
  · have := dayFromYear_le (Int.add_one_le_of_lt h)
    omega
  · exact h
  · have := dayFromYear_le (Int.add_one_le_of_lt h)
    omega

/-- The days of the years from `y` up to `z`. -/
theorem le_yearOf_iff {d y : ℤ} : y ≤ yearOf d ↔ dayFromYear y ≤ d := by
  obtain ⟨hle, hlt⟩ := yearOf_spec d
  constructor
  · exact fun h => (dayFromYear_le h).trans hle
  · intro h
    by_contra hlt'
    have := dayFromYear_le (Int.add_one_le_of_lt (not_le.1 hlt'))
    omega

/-! ## Months -/

theorem monthInYear_spec {leap n : ℤ} (hleap : leap = 0 ∨ leap = 1) (hn : 0 ≤ n)
    (hn' : n < 365 + leap) :
    (0 ≤ monthInYear leap n ∧ monthInYear leap n < 12) ∧
      monthOffset leap (monthInYear leap n) ≤ n ∧
      n < monthOffset leap (monthInYear leap n) + 31 ∧
      (monthInYear leap n < 11 → n < monthOffset leap (monthInYear leap n + 1)) := by
  unfold monthInYear monthOffset
  split_ifs <;> omega

theorem monthInYear_eq {leap n m : ℤ} (hleap : leap = 0 ∨ leap = 1) (hm : 0 ≤ m) (hm' : m < 12)
    (hle : monthOffset leap m ≤ n) (hlt : n < monthOffset leap m + 28) :
    monthInYear leap n = m := by
  unfold monthOffset at hle hlt
  unfold monthInYear
  split_ifs at * <;> omega

theorem monthOffset_bounds {leap m : ℤ} (hleap : leap = 0 ∨ leap = 1) (hm : 0 ≤ m)
    (hm' : m < 12) : 0 ≤ monthOffset leap m ∧ monthOffset leap m ≤ 334 + leap := by
  unfold monthOffset
  split_ifs <;> omega

/-- A month has at least 28 and at most 31 days. -/
theorem monthStart_succ (y m : ℤ) :
    monthStart y m + 28 ≤ monthStart y (m + 1) ∧ monthStart y (m + 1) ≤ monthStart y m + 31 := by
  have hleap := leapDays_cases (y + (m - 1) / 12)
  unfold monthStart
  by_cases hlast : (m - 1) % 12 = 11
  · have hyear : y + (m + 1 - 1) / 12 = y + (m - 1) / 12 + 1 := by omega
    have hmonth : (m + 1 - 1) % 12 = 0 := by omega
    rw [hyear, hmonth, hlast, dayFromYear_succ]
    unfold monthOffset
    split_ifs <;> omega
  · have hyear : y + (m + 1 - 1) / 12 = y + (m - 1) / 12 := by omega
    have hmonth : (m + 1 - 1) % 12 = (m - 1) % 12 + 1 := by omega
    rw [hyear, hmonth]
    unfold monthOffset
    split_ifs <;> omega

/-- A month that lies outside of its year is a month of another year. -/
theorem monthStart_normal (y m k : ℤ) :
    monthStart (y + (m - 1) / 12) ((m - 1) % 12 + 1 + k) = monthStart y (m + k) := by
  have hyear : y + (m - 1) / 12 + ((m - 1) % 12 + 1 + k - 1) / 12 = y + (m + k - 1) / 12 := by
    omega
  have hmonth : ((m - 1) % 12 + 1 + k - 1) % 12 = (m + k - 1) % 12 := by omega
  rw [monthStart, monthStart, hyear, hmonth]

/-! ## Dates -/

/-- A civil date is within its bounds. -/
theorem civil_bounds (d : ℤ) :
    (1 ≤ (civil d).month ∧ (civil d).month ≤ 12) ∧ 1 ≤ (civil d).day ∧ (civil d).day ≤ 31 := by
  obtain ⟨hle, hlt⟩ := yearOf_spec d
  rw [dayFromYear_succ] at hlt
  obtain ⟨⟨hm, hm'⟩, hoff, hoff', -⟩ := monthInYear_spec (leapDays_cases (yearOf d))
    (n := d - dayFromYear (yearOf d)) (by omega) (by omega)
  simp only [civil]
  omega

@[simp] theorem makeDay_civil (d : ℤ) :
    makeDay (civil d).year (civil d).month (civil d).day = d := by
  obtain ⟨⟨hm, hm'⟩, -⟩ := civil_bounds d
  have hyear : ((civil d).month - 1) / 12 = 0 := by omega
  have hmonth : ((civil d).month - 1) % 12 = (civil d).month - 1 := by omega
  rw [makeDay, monthStart, hyear, hmonth]
  simp only [civil, add_zero, add_sub_cancel_right]
  omega

/-- The first 28 days of a month keep their number in it. -/
theorem civil_makeDay (y m : ℤ) {r : ℤ} (hr : 1 ≤ r) (hr' : r ≤ 28) :
    civil (makeDay y m r) = ⟨y + (m - 1) / 12, (m - 1) % 12 + 1, r⟩ := by
  have hleap := leapDays_cases (y + (m - 1) / 12)
  have hm : 0 ≤ (m - 1) % 12 := by omega
  have hm' : (m - 1) % 12 < 12 := by omega
  have hoff := monthOffset_bounds hleap hm hm'
  have hyear : yearOf (makeDay y m r) = y + (m - 1) / 12 := by
    refine yearOf_eq ?_ ?_
    · rw [makeDay, monthStart]
      omega
    · rw [makeDay, monthStart, dayFromYear_succ]
      omega
  have hmonth : monthInYear (leapDays (y + (m - 1) / 12))
      (makeDay y m r - dayFromYear (y + (m - 1) / 12)) = (m - 1) % 12 := by
    refine monthInYear_eq hleap hm hm' ?_ ?_ <;>
    · rw [makeDay, monthStart]
      omega
  simp only [civil, hyear, hmonth, CivilDate.mk.injEq, true_and]
  rw [makeDay, monthStart]
  omega

@[simp] theorem makeDay_add (y m d k : ℤ) : makeDay y m (d + k) = makeDay y m d + k := by
  unfold makeDay
  omega

/-- A day is in the month of its civil date. -/
theorem civil_month_spec (d : ℤ) :
    monthStart (civil d).year (civil d).month ≤ d ∧
      d < monthStart (civil d).year ((civil d).month + 1) := by
  obtain ⟨hle, hlt⟩ := yearOf_spec d
  rw [dayFromYear_succ] at hlt
  obtain ⟨⟨hm, hm'⟩, hoff, -, hnext⟩ := monthInYear_spec (leapDays_cases (yearOf d))
    (n := d - dayFromYear (yearOf d)) (by omega) (by omega)
  simp only [civil, monthStart, add_sub_cancel_right]
  generalize monthInYear (leapDays (yearOf d)) (d - dayFromYear (yearOf d)) = m at *
  have hyear : yearOf d + m / 12 = yearOf d := by omega
  have hmonth : m % 12 = m := by omega
  rw [hyear, hmonth]
  refine ⟨by omega, ?_⟩
  by_cases hlast : m = 11
  · have hnextYear : yearOf d + (m + 1) / 12 = yearOf d + 1 := by omega
    have hjanuary : (m + 1) % 12 = 0 := by omega
    rw [hnextYear, hjanuary, dayFromYear_succ, monthOffset]
    split_ifs <;> omega
  · have hsame : yearOf d + (m + 1) / 12 = yearOf d := by omega
    have hsucc : (m + 1) % 12 = m + 1 := by omega
    rw [hsame, hsucc]
    have := hnext (by omega)
    omega

/-- The day of the week, where Sunday is `0`. -/
def weekday (d : ℤ) : ℤ := (4 + d) % 7

example : civil 0 = ⟨1970, 1, 1⟩ := by decide

example : civil (makeDay 2024 2 29) = ⟨2024, 2, 29⟩ := by decide

end Gregorian

end Foundation
