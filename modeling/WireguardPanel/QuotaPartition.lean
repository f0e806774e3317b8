import WireguardPanel.QuotaWindow
import Mathlib.Order.SuccPred.IntervalSucc
import Mathlib.Algebra.Order.SuccPred
import Mathlib.Data.Int.SuccPred

/-!
# The windows of a quota period partition time

The local days on which the periods of a kind begin form an increasing sequence
(`boundary`). The period of a day lies between two neighbours of it
(`exists_boundary`), so the days of a period agree on the period
(`firstDay_eq`), and a period begins where the one before it ends
(`firstDay_nextDay`).

In a time zone with a constant offset a local midnight is one moment
(`localToUtc_fixed`). What holds of the days then holds of the windows of
`quotaPeriodWindow`, of which there is one spec lemma
(`quotaPeriodWindow_fixed`).
-/

namespace WireguardPanel

open Foundation Gregorian

/-! ## The first days of the periods -/

/-- The months in one row, where the first one is January of the year zero. -/
theorem monthStart_row (y m : ℤ) : monthStart y m = monthStart 0 (12 * y + m) := by
  have hyear : 0 + (12 * y + m - 1) / 12 = y + (m - 1) / 12 := by omega
  have hmonth : (12 * y + m - 1) % 12 = (m - 1) % 12 := by omega
  rw [monthStart, monthStart, hyear, hmonth]

/-- The local day on which the period with the number `k` begins. -/
def boundary (period : QuotaPeriod) (policy : QuotaPolicy) (k : ℤ) : ℤ :=
  match period with
  | .weekly => 7 * k + policy.weekStartsOn - 4
  | .monthly => makeDay 0 k policy.monthlyResetDay
  | _ => k

variable {period : QuotaPeriod} {policy : QuotaPolicy}

theorem boundary_lt_succ (k : ℤ) : boundary period policy k < boundary period policy (k + 1) := by
  cases period with
  | monthly =>
    have := monthStart_succ 0 k
    simp only [boundary, makeDay]
    omega
  | _ =>
    simp only [boundary]
    omega

variable (period policy) in
/-- The period of a day is one of the row. -/
theorem exists_boundary (d : ℤ) :
    ∃ k, firstDay period policy d = boundary period policy k ∧
      nextDay period policy d = boundary period policy (k + 1) := by
  cases period with
  | weekly =>
    refine ⟨(d + 4 - policy.weekStartsOn) / 7, ?_⟩
    simp only [firstDay, nextDay, boundary, weekday]
    omega
  | monthly =>
    refine ⟨12 * (civil d).year +
      if policy.monthlyResetDay ≤ (civil d).day then (civil d).month else (civil d).month - 1, ?_⟩
    simp only [firstDay, nextDay, boundary, makeDay, monthStart_row (civil d).year]
    split_ifs <;> simp [add_assoc]
  | _ => exact ⟨d, rfl, rfl⟩

/-- Two neighbours of an increasing sequence that enclose the same number are
    the same neighbours. -/
theorem index_unique {f : ℤ → ℤ} (hf : ∀ k, f k < f (k + 1)) {a b e : ℤ} (ha : f a ≤ e)
    (ha' : e < f (a + 1)) (hb : f b ≤ e) (hb' : e < f (b + 1)) : a = b := by
  have hmono : StrictMono f := strictMono_int_of_lt_succ hf
  have hlt : a < b + 1 := hmono.lt_iff_lt.1 (ha.trans_lt hb')
  have hgt : b < a + 1 := hmono.lt_iff_lt.1 (hb.trans_lt ha')
  omega

section ResetDay

variable (hr : 1 ≤ policy.monthlyResetDay) (hr' : policy.monthlyResetDay ≤ 28)

include hr hr'

variable (period) in
/-- The days of a period have the same first day, and the same next one. -/
theorem firstDay_eq {d e : ℤ} (hle : firstDay period policy d ≤ e)
    (hlt : e < nextDay period policy d) :
    firstDay period policy e = firstDay period policy d ∧
      nextDay period policy e = nextDay period policy d := by
  obtain ⟨j, hfirst, hnext⟩ := exists_boundary period policy d
  obtain ⟨k, hfirst', hnext'⟩ := exists_boundary period policy e
  have hbelow := (firstDay_le period hr hr' e).1
  have habove := (lt_nextDay period hr hr' e).1
  rw [hfirst] at hle ⊢
  rw [hnext] at hlt ⊢
  rw [hfirst'] at hbelow ⊢
  rw [hnext'] at habove ⊢
  have hsame : k = j := index_unique boundary_lt_succ hbelow habove hle hlt
  subst hsame
  exact ⟨rfl, rfl⟩

/-- A period begins on the day on which the one before it ends. -/
theorem firstDay_nextDay (d : ℤ) :
    firstDay period policy (nextDay period policy d) = nextDay period policy d := by
  obtain ⟨j, -, hnext⟩ := exists_boundary period policy d
  obtain ⟨k, hfirst', hnext'⟩ :=
    exists_boundary period policy (nextDay period policy d)
  have hbelow := (firstDay_le period hr hr' (nextDay period policy d)).1
  have habove := (lt_nextDay period hr hr' (nextDay period policy d)).1
  have hsucc : boundary period policy (j + 1) < boundary period policy (j + 1 + 1) :=
    boundary_lt_succ (j + 1)
  rw [hfirst', hnext] at hbelow
  rw [hnext', hnext] at habove
  have hsame : k = j + 1 := index_unique boundary_lt_succ hbelow habove le_rfl hsucc
  rw [hfirst', hnext, hsame]

/-- The first day of a monthly period is the reset day of a month, and that of
    the next period the reset day of the month after it. -/
theorem civil_firstDay_monthly (d : ℤ) :
    ∃ y m, civil (firstDay .monthly policy d) =
        ⟨y + (m - 1) / 12, (m - 1) % 12 + 1, policy.monthlyResetDay⟩ ∧
      civil (nextDay .monthly policy d) =
        ⟨y + m / 12, m % 12 + 1, policy.monthlyResetDay⟩ := by
  refine ⟨(civil d).year, if policy.monthlyResetDay ≤ (civil d).day then (civil d).month
    else (civil d).month - 1, ?_⟩
  rw [firstDay, nextDay, civil_makeDay _ _ hr hr', civil_makeDay _ _ hr hr']
  split_ifs <;> simp

end ResetDay

/-! ## Time zones with a constant offset -/

/-- The policy with the reset day that `quotaPeriodWindow` uses for it. -/
def QuotaPolicy.clamped (policy : QuotaPolicy) : QuotaPolicy :=
  { policy with monthlyResetDay := min 28 (max 1 policy.monthlyResetDay) }

theorem QuotaPolicy.clamped_bounds (policy : QuotaPolicy) :
    1 ≤ policy.clamped.monthlyResetDay ∧ policy.clamped.monthlyResetDay ≤ 28 := by
  simp only [QuotaPolicy.clamped]
  omega

theorem periodDates_clamped (parts : LocalParts) :
    periodDates parts period policy.clamped = periodDates parts period policy := by
  have hagain : min 28 (max 1 (min 28 (max 1 policy.monthlyResetDay))) =
      min 28 (max 1 policy.monthlyResetDay) := by omega
  cases period <;> simp only [periodDates, QuotaPolicy.clamped, hagain]

/-- Local time is ahead of UTC by `c`, a whole number of seconds and less than a
    day, at every moment. -/
structure FixedOffset (P : Platform) (timezone : String) (c : ℤ) : Prop where
  zone : P.timeZone timezone = some fun _ => c
  whole : 1000 ∣ c
  lt_day : -86400000 < c ∧ c < 86400000

variable {P : Platform} {c : ℤ}

/-- One correction of the first guess finds the moment of a local midnight, and
    the next one leaves it. -/
theorem localToUtc_fixed {timezone : String} (hzone : FixedOffset P timezone c) {d : ℤ}
    (hd : dayFromYear 1900 ≤ d) :
    localToUtc (fun _ => c) (midnight d) = d * 86400000 - c := by
  obtain ⟨k, hk⟩ := hzone.whole
  obtain ⟨hlo, hhi⟩ := hzone.lt_day
  have hyear : dayFromYear 1899 + 365 = dayFromYear 1900 := by decide
  have hread : ∀ u, 1000 ∣ u → (d - 1) * 86400000 ≤ u + c →
      dateUtc (zonedParts (fun _ => c) u) = u + c := by
    intro u hu hle
    rw [zonedParts, dateUtc_utcParts (not_inFirstCentury_of_le (by omega))]
    omega
  have hguess := hread (d * 86400000) ⟨d * 86400, by omega⟩ (by omega)
  have hmoment := hread (d * 86400000 - c) ⟨d * 86400 - k, by omega⟩ (by omega)
  rw [localToUtc, dateUtc_midnight (not_inFirstCentury_of_le (by omega)), correct_succ 2 hguess,
    correct_succ 1 hmoment, correct_succ 0 hmoment]
  rfl

/-- The window of a moment, between the midnights of two neighbouring first
    days. -/
theorem quotaPeriodWindow_fixed (hzone : FixedOffset P policy.timezone c)
    (hperiod : period ≠ .oneTime) (hws : 0 ≤ policy.weekStartsOn) (hws' : policy.weekStartsOn ≤ 6)
    {now : ℤ} (hnow : dayFromYear 1901 * 86400000 ≤ now + c) :
    quotaPeriodWindow P now period policy =
      .ok ⟨firstDay period policy.clamped ((now + c) / 86400000) * 86400000 - c,
        some (nextDay period policy.clamped ((now + c) / 86400000) * 86400000 - c)⟩ := by
  obtain ⟨hr, hr'⟩ := policy.clamped_bounds
  have hyears : dayFromYear 1899 + 365 = dayFromYear 1900 ∧
      dayFromYear 1900 + 365 = dayFromYear 1901 := by decide
  have hfirst := firstDay_le period hr hr' ((now + c) / 86400000)
  have hnext := lt_nextDay period hr hr' ((now + c) / 86400000)
  have hweek : 0 ≤ policy.clamped.weekStartsOn ∧ policy.clamped.weekStartsOn ≤ 6 := ⟨hws, hws'⟩
  obtain ⟨hstart, hstop⟩ := periodDates_eq period hweek.1 hweek.2 hr hr'
    (t := now + c) (not_inFirstCentury_of_le (by omega))
  have hstop := hstop (not_inFirstCentury_of_le (by omega))
  rw [periodDates_clamped] at hstart hstop
  simp only [quotaPeriodWindow, hzone.zone, if_neg hperiod, zonedParts, hstart, hstop]
  rw [localToUtc_fixed hzone (by omega), localToUtc_fixed hzone (by omega)]

/-- The local time of a midnight. -/
theorem zonedParts_midnight (d : ℤ) : zonedParts (fun _ => c) (d * 86400000 - c) = midnight d := by
  have hday : d * 86400000 - c + c = d * 86400000 := by omega
  have hd : d * 86400000 / 86400000 = d := by omega
  simp only [zonedParts, utcParts, midnight, hday, hd, LocalParts.mk.injEq, true_and]
  omega

/-! ## The partition -/

/-- Where a window of a recurring period begins and ends. -/
def WindowRegular (policy : QuotaPolicy) (offset : ℤ → ℤ) (start stop : ℤ) :
    QuotaPeriod → Prop
  | .oneTime => False
  | .daily => stop = start + 86400000
  | .weekly =>
    stop = start + 7 * 86400000 ∧ localWeekday (zonedParts offset start) = policy.weekStartsOn
  | .monthly =>
    ∃ year month, 1 ≤ month ∧ month ≤ 12 ∧
      zonedParts offset start = ⟨year, month, min 28 (max 1 policy.monthlyResetDay), 0, 0, 0⟩ ∧
      zonedParts offset stop =
        if month = 12 then ⟨year + 1, 1, min 28 (max 1 policy.monthlyResetDay), 0, 0, 0⟩
        else ⟨year, month + 1, min 28 (max 1 policy.monthlyResetDay), 0, 0, 0⟩

/-- The window between the midnights of two neighbouring first days is regular. -/
theorem windowRegular_midnights (hperiod : period ≠ .oneTime) (hws : 0 ≤ policy.weekStartsOn)
    (hws' : policy.weekStartsOn ≤ 6) {d : ℤ}
    (hd : dayFromYear 1899 ≤ firstDay period policy.clamped d) :
    WindowRegular policy (fun _ => c) (firstDay period policy.clamped d * 86400000 - c)
      (nextDay period policy.clamped d * 86400000 - c) period := by
  obtain ⟨hr, hr'⟩ := policy.clamped_bounds
  cases period with
  | oneTime => exact absurd rfl hperiod
  | daily =>
    simp only [WindowRegular, firstDay, nextDay]
    omega
  | weekly =>
    refine ⟨?_, ?_⟩
    · rw [nextDay]
      omega
    · rw [zonedParts_midnight, midnight, localWeekday_civil (not_inFirstCentury_of_le hd)]
      simp only [firstDay, weekday, QuotaPolicy.clamped]
      omega
  | monthly =>
    obtain ⟨y, m, hfirst, hnext⟩ := civil_firstDay_monthly hr hr' d
    refine ⟨y + (m - 1) / 12, (m - 1) % 12 + 1, by omega, by omega, ?_, ?_⟩
    · rw [zonedParts_midnight, midnight, hfirst]
      rfl
    · rw [zonedParts_midnight, midnight, hnext]
      split_ifs with hlast
      · have hyear : y + m / 12 = y + (m - 1) / 12 + 1 := by omega
        have hmonth : m % 12 + 1 = 1 := by omega
        rw [hyear, hmonth]
        rfl
      · have hyear : y + m / 12 = y + (m - 1) / 12 := by omega
        have hmonth : m % 12 + 1 = (m - 1) % 12 + 1 + 1 := by omega
        rw [hyear, hmonth]
        rfl

/-- In a time zone with a constant offset the windows of a recurring period
    partition time: the moments of a window have the same window, the next one
    starts where it ends, and the windows are regular. -/
theorem quotaPeriodWindow_partition (P : Platform) (policy : QuotaPolicy) (period : QuotaPeriod)
    (c t : ℤ) (hzone : FixedOffset P policy.timezone c) (hperiod : period ≠ .oneTime)
    (hws : 0 ≤ policy.weekStartsOn) (hws' : policy.weekStartsOn ≤ 6)
    (ht : 0 ≤ t ∧ t < dayFromYear 10000 * 86400000) :
    ∃ start stop, quotaPeriodWindow P t period policy = .ok ⟨start, some stop⟩ ∧
      (start ≤ t ∧ t < stop) ∧
      (∀ t', start ≤ t' → t' < stop →
        quotaPeriodWindow P t' period policy = .ok ⟨start, some stop⟩) ∧
      (∃ next, quotaPeriodWindow P stop period policy = .ok ⟨stop, some next⟩) ∧
      WindowRegular policy (fun _ => c) start stop period := by
  obtain ⟨hr, hr'⟩ := policy.clamped_bounds
  obtain ⟨hlo, hhi⟩ := hzone.lt_day
  have hyears : dayFromYear 1899 ≤ dayFromYear 1901 := dayFromYear_le (by omega)
  have hepoch : dayFromYear 1901 + 40 ≤ 0 := by decide
  obtain ⟨hfirst, hfirst'⟩ := firstDay_le period hr hr'
    ((t + c) / 86400000)
  obtain ⟨hnext, -⟩ := lt_nextDay period hr hr' ((t + c) / 86400000)
  refine ⟨_, _, quotaPeriodWindow_fixed hzone hperiod hws hws' (by omega),
    ⟨by omega, by omega⟩, fun t' hle hlt => ?_,
    ⟨nextDay period policy.clamped (nextDay period policy.clamped ((t + c) / 86400000)) *
      86400000 - c, ?_⟩,
    windowRegular_midnights hperiod hws hws' (by omega)⟩
  · obtain ⟨hsame, hsame'⟩ := firstDay_eq period hr hr'
      (d := (t + c) / 86400000) (e := (t' + c) / 86400000) (by omega) (by omega)
    rw [quotaPeriodWindow_fixed hzone hperiod hws hws' (by omega), hsame, hsame']
  · rw [quotaPeriodWindow_fixed hzone hperiod hws hws' (by omega)]
    have hday : (nextDay period policy.clamped ((t + c) / 86400000) * 86400000 - c + c) /
        86400000 = nextDay period policy.clamped ((t + c) / 86400000) := by omega
    rw [hday, firstDay_nextDay hr hr']

/-- A platform on which every time zone is five and a half hours ahead of UTC. -/
def aheadPlatform : Platform := { Platform.plain with timeZone := fun _ => some fun _ => 19800000 }

theorem fixedOffset_aheadPlatform (timezone : String) :
    FixedOffset aheadPlatform timezone 19800000 :=
  ⟨rfl, ⟨19800, rfl⟩, by decide⟩

/-- The month from 28 December to 28 January, for a reset day beyond the 28th. -/
theorem quotaPeriodWindow_partition_january :
    ∃ start stop, quotaPeriodWindow aheadPlatform (makeDay 2026 1 5 * 86400000) .monthly
        ⟨"Asia/Kolkata", 1, 31⟩ = .ok ⟨start, some stop⟩ ∧
      ∃ next, quotaPeriodWindow aheadPlatform stop .monthly ⟨"Asia/Kolkata", 1, 31⟩ =
        .ok ⟨stop, some next⟩ := by
  obtain ⟨start, stop, hwindow, -, -, hnext, -⟩ :=
    quotaPeriodWindow_partition aheadPlatform ⟨"Asia/Kolkata", 1, 31⟩ .monthly 19800000
      (makeDay 2026 1 5 * 86400000) (fixedOffset_aheadPlatform _) (by decide) (by decide)
      (by decide) (by decide)
  exact ⟨start, stop, hwindow, hnext⟩

end WireguardPanel
