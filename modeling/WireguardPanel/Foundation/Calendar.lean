import WireguardPanel.Foundation.Gregorian
import Mathlib.Order.SuccPred.Basic
import Mathlib.Data.Int.SuccPred

/-!
# Calendars of database sessions

The functions of PostgreSQL on moments that depend on the time zone of the
session: truncation to an hour, a day or a month, and intervals of days and
months. Moments are counted in milliseconds.

* `Calendar`: the functions, with what holds of them in every time zone.
* `Calendar.utc`: the calendar of a session in UTC.
-/

namespace Foundation

/-- `date_trunc` and the subtraction of intervals in a time zone. -/
structure Calendar where
  hourStart : ℤ → ℤ
  dayStart : ℤ → ℤ
  monthStart : ℤ → ℤ
  /-- `t - n * interval '1 day'`. -/
  daysBefore : ℤ → ℤ → ℤ
  /-- `t - n * interval '1 month'`. -/
  monthsBefore : ℤ → ℤ → ℤ
  dayStart_hourStart : ∀ t, dayStart (hourStart t) = dayStart t
  dayStart_le : ∀ t, dayStart t ≤ t
  dayStart_mono : ∀ t u, t ≤ u → dayStart t ≤ dayStart u
  monthStart_le : ∀ t, monthStart t ≤ t
  monthStart_mono : ∀ t u, t ≤ u → monthStart t ≤ monthStart u
  dayStart_daysBefore : ∀ n t, dayStart (daysBefore n (dayStart t)) = daysBefore n (dayStart t)
  monthStart_monthsBefore :
    ∀ n t, monthStart (monthsBefore n (monthStart t)) = monthsBefore n (monthStart t)

namespace Gregorian

/-- The months of all years in one row. -/
theorem monthStart_eq_index (y m : ℤ) : monthStart y m = monthStart 0 (12 * y + m) := by
  have hyear : 0 + (12 * y + m - 1) / 12 = y + (m - 1) / 12 := by omega
  have hmonth : (12 * y + m - 1) % 12 = (m - 1) % 12 := by omega
  rw [monthStart, monthStart, hyear, hmonth]

theorem monthStart_le_monthStart {m n : ℤ} (h : m ≤ n) : monthStart 0 m ≤ monthStart 0 n := by
  refine monotone_int_of_le_succ (fun m => ?_) h
  have hsucc := monthStart_succ 0 m
  omega

/-- The first day of the month of a day. -/
def monthOf (d : ℤ) : ℤ := monthStart (civil d).year (civil d).month

theorem monthOf_le (d : ℤ) : monthOf d ≤ d := (civil_month_spec d).1

theorem monthOf_mono {d e : ℤ} (h : d ≤ e) : monthOf d ≤ monthOf e := by
  have hd := (civil_month_spec d).1
  have he := (civil_month_spec e).2
  unfold monthOf
  rw [monthStart_eq_index] at hd he ⊢
  rw [monthStart_eq_index (civil e).year]
  refine monthStart_le_monthStart ?_
  by_contra hlt
  have hnext : 12 * (civil e).year + ((civil e).month + 1) ≤
      12 * (civil d).year + (civil d).month := by omega
  have := monthStart_le_monthStart hnext
  omega

/-- A month begins on the first day of a month. -/
theorem monthOf_monthStart (y m : ℤ) : monthOf (monthStart y m) = monthStart y m := by
  have hfirst : monthStart y m = makeDay y m 1 := by
    rw [makeDay]
    omega
  have hnormal := monthStart_normal y m 0
  rw [add_zero, add_zero] at hnormal
  rw [monthOf, hfirst, civil_makeDay y m (le_refl 1) (by omega), hnormal, hfirst]

/-- The day `n` months before the day `d`, or the last day of that month if it
    is shorter. -/
def monthsEarlier (n d : ℤ) : ℤ :=
  min (makeDay (civil d).year ((civil d).month - n) (civil d).day)
    (monthStart (civil d).year ((civil d).month - n + 1) - 1)

/-- The first day of a month has a counterpart in every month. -/
theorem monthsEarlier_monthOf (n d : ℤ) :
    ∃ y m, monthsEarlier n (monthOf d) = monthStart y m := by
  have hcivil := civil_makeDay (civil d).year (civil d).month (le_refl 1) (by omega)
  have hmonth : monthOf d = makeDay (civil d).year (civil d).month 1 := by
    rw [monthOf, makeDay]
    omega
  rw [monthsEarlier, hmonth, hcivil]
  refine ⟨_, _, min_eq_left ?_ |>.trans (by rw [makeDay, add_sub_cancel_right])⟩
  have hsucc := monthStart_succ ((civil d).year + ((civil d).month - 1) / 12)
    (((civil d).month - 1) % 12 + 1 - n)
  simp only [makeDay]
  omega

end Gregorian

namespace Calendar

/-- The milliseconds of a day. -/
def dayLength : ℤ := 86400000

/-- The calendar of a session in UTC. -/
def utc : Calendar where
  hourStart t := t / 3600000 * 3600000
  dayStart t := t / dayLength * dayLength
  monthStart t := Gregorian.monthOf (t / dayLength) * dayLength
  daysBefore n t := t - n * dayLength
  monthsBefore n t := Gregorian.monthsEarlier n (t / dayLength) * dayLength + t % dayLength
  dayStart_hourStart t := by
    unfold dayLength
    omega
  dayStart_le t := by
    unfold dayLength
    omega
  dayStart_mono t u h := by
    unfold dayLength
    omega
  monthStart_le t := by
    have hmonth := Gregorian.monthOf_le (t / dayLength)
    unfold dayLength at *
    omega
  monthStart_mono t u h := by
    have hmonth := Gregorian.monthOf_mono (Int.ediv_le_ediv (c := dayLength) (by decide) h)
    unfold dayLength at *
    omega
  dayStart_daysBefore n t := by
    unfold dayLength
    omega
  monthStart_monthsBefore n t := by
    have hday : ∀ d : ℤ, d * dayLength / dayLength = d ∧ d * dayLength % dayLength = 0 :=
      fun d => by
        unfold dayLength
        omega
    obtain ⟨y, m, hmonths⟩ := Gregorian.monthsEarlier_monthOf n (t / dayLength)
    rw [(hday _).1, (hday _).2, add_zero, (hday _).1, hmonths, Gregorian.monthOf_monthStart]

example : utc.monthsBefore 1 (Gregorian.makeDay 2024 3 31 * dayLength) =
    Gregorian.makeDay 2024 2 29 * dayLength := by decide

end Calendar

end Foundation
