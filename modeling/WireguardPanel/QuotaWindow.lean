import WireguardPanel.Ipv4
import WireguardPanel.Quota

/-!
# The window of a quota period

When `quotaPeriodWindow` returns a window around the moment it was asked for.

* `firstDay_le`, `lt_nextDay`: on the calendar the period of a day contains it.
* `localToUtc_eq_settle`: a local midnight is turned into a moment by
  `Zone.settle`, unless `Date.UTC` mistakes its year for one of the twentieth
  century.
* `quotaPeriodWindow_contains_iff`: the exact condition.
-/

namespace WireguardPanel

open Foundation Gregorian

/-! ## Periods on the calendar -/

/-- The local day on which the period of the day `d` begins. -/
def firstDay (period : QuotaPeriod) (policy : QuotaPolicy) (d : ℤ) : ℤ :=
  match period with
  | .weekly => d - (weekday d - policy.weekStartsOn) % 7
  | .monthly =>
    makeDay (civil d).year
      (if policy.monthlyResetDay ≤ (civil d).day then (civil d).month else (civil d).month - 1)
      policy.monthlyResetDay
  | _ => d

/-- The local day on which the period after that of the day `d` begins. -/
def nextDay (period : QuotaPeriod) (policy : QuotaPolicy) (d : ℤ) : ℤ :=
  match period with
  | .weekly => firstDay .weekly policy d + 7
  | .monthly =>
    makeDay (civil d).year
      (if policy.monthlyResetDay ≤ (civil d).day then (civil d).month + 1 else (civil d).month)
      policy.monthlyResetDay
  | _ => d + 1

variable {period : QuotaPeriod} {policy : QuotaPolicy}

variable (period) in
/-- A period begins at most a month before each of its days. -/
theorem firstDay_le (hr : 1 ≤ policy.monthlyResetDay) (hr' : policy.monthlyResetDay ≤ 28)
    (d : ℤ) : firstDay period policy d ≤ d ∧ d ≤ firstDay period policy d + 31 := by
  cases period with
  | monthly =>
    obtain ⟨hle, hlt⟩ := civil_month_spec d
    have hthis := monthStart_succ (civil d).year (civil d).month
    have hprev := monthStart_succ (civil d).year ((civil d).month - 1)
    have hday := makeDay_civil d
    rw [sub_add_cancel] at hprev
    simp only [firstDay, makeDay] at hday ⊢
    split_ifs <;> omega
  | _ =>
    simp only [firstDay]
    omega

variable (period) in
/-- Each day of a period comes before the next period. -/
theorem lt_nextDay (hr : 1 ≤ policy.monthlyResetDay) (hr' : policy.monthlyResetDay ≤ 28)
    (d : ℤ) : d < nextDay period policy d ∧ nextDay period policy d ≤ d + 31 := by
  cases period with
  | monthly =>
    obtain ⟨hle, hlt⟩ := civil_month_spec d
    have hthis := monthStart_succ (civil d).year (civil d).month
    have hday := makeDay_civil d
    simp only [nextDay, makeDay] at hday ⊢
    split_ifs <;> omega
  | _ =>
    simp only [nextDay, firstDay]
    omega

/-! ## Years that `Date.UTC` mistakes -/

/-- The day is in one of the years from 0 to 99. -/
def InFirstCentury (d : ℤ) : Prop := dayFromYear 0 ≤ d ∧ d < dayFromYear 100

instance (d : ℤ) : Decidable (InFirstCentury d) :=
  inferInstanceAs (Decidable (dayFromYear 0 ≤ d ∧ d < dayFromYear 100))

theorem inFirstCentury_iff {d : ℤ} :
    InFirstCentury d ↔ 0 ≤ (civil d).year ∧ (civil d).year ≤ 99 := by
  have hhundred := le_yearOf_iff (d := d) (y := 100)
  rw [InFirstCentury, ← le_yearOf_iff]
  change _ ↔ 0 ≤ yearOf d ∧ yearOf d ≤ 99
  omega

theorem fullYear_of_not {d : ℤ} (h : ¬InFirstCentury d) :
    fullYear (civil d).year = (civil d).year :=
  if_neg fun hyear => h (inFirstCentury_iff.2 hyear)

/-- Outside of the first century `Date.UTC` inverts the parts of a moment. -/
theorem dateUtc_utcParts {t : ℤ} (h : ¬InFirstCentury (t / 86400000)) :
    dateUtc (utcParts t) = t - t % 1000 := by
  have hday := makeDay_civil (t / 86400000)
  simp only [dateUtc, utcParts, fullYear_of_not h, hday]
  omega

/-- The beginning of a day. -/
def midnight (d : ℤ) : LocalParts := ⟨(civil d).year, (civil d).month, (civil d).day, 0, 0, 0⟩

@[simp] theorem utcDate_mul (d : ℤ) : utcDate (d * 86400000) = midnight d := by
  have hd : d * 86400000 / 86400000 = d := by omega
  simp [utcDate, utcParts, midnight, hd]

theorem dateUtc_midnight {d : ℤ} (h : ¬InFirstCentury d) :
    dateUtc (midnight d) = d * 86400000 := by
  simp [dateUtc, midnight, fullYear_of_not h]

theorem not_inFirstCentury_of_le {e : ℤ} (he : dayFromYear 1899 ≤ e) : ¬InFirstCentury e := by
  have := dayFromYear_le (show (100 : ℤ) ≤ 1899 by omega)
  simp only [InFirstCentury]
  omega

/-- `Date.UTC` of a date in the years from 0 to 99 is after the year 1898. -/
theorem dateUtc_mistaken {y m d : ℤ} (hy : 0 ≤ y ∧ y ≤ 99) (hm : 0 ≤ m) (hd : -6 ≤ d) :
    ∃ e, dayFromYear 1899 ≤ e ∧ dateUtc ⟨y, m, d, 0, 0, 0⟩ = e * 86400000 := by
  refine ⟨makeDay (1900 + y) m d, ?_, by simp [dateUtc, fullYear, hy]⟩
  have hcentury : dayFromYear 1900 = dayFromYear 1899 + 365 := by decide
  have hstart : dayFromYear 1899 + 334 ≤ monthStart (1900 + y) m := by
    rcases hm.eq_or_lt with rfl | hm
    · have hyear := dayFromYear_le (show 1899 ≤ 1900 + y + (0 - 1) / 12 by omega)
      have hleap := leapDays_cases (1900 + y + (0 - 1) / 12)
      simp only [monthStart, monthOffset]
      split_ifs <;> omega
    · have hyear := dayFromYear_le (show 1900 ≤ 1900 + y + (m - 1) / 12 by omega)
      have hoffset := (monthOffset_bounds (leapDays_cases (1900 + y + (m - 1) / 12))
        (m := (m - 1) % 12) (by omega) (by omega)).1
      unfold monthStart
      omega
  unfold makeDay
  omega

section Zone

variable {z : Zone}

/-- A step of the correction, whether or not the loop stops after it. -/
theorem correct_succ {offset : ℤ → ℤ} {m u o : ℤ} (n : ℕ)
    (hu : dateUtc (zonedParts offset u) = u + o) :
    correct offset m (n + 1) u = correct offset m n (m - o) := by
  by_cases hfix : m - (u + o) = 0
  · have hstay : m - o = u := by omega
    rw [hstay]
    cases n <;> simp [correct, hu, hfix]
  · have hnext : u + (m - (u + o)) = m - o := by omega
    simp [correct, hu, hfix, hnext]

/-- A local midnight outside of the first century is settled. -/
theorem localToUtc_eq_settle {d : ℤ} (hcentury : ¬InFirstCentury d) (hd : d ≠ dayFromYear 100) :
    localToUtc z.offset (midnight d) = z.wholeSeconds.settle (d * 86400000) := by
  have hdesired := dateUtc_midnight hcentury
  -- a guess whose local time is within 14 hours of midnight is read back to the second
  have hread : ∀ u, 1000 ∣ u → d * 86400000 - 50400000 ≤ u + z.wholeSeconds.offset u →
      u + z.wholeSeconds.offset u ≤ d * 86400000 + 50400000 →
      dateUtc (zonedParts z.offset u) = u + z.wholeSeconds.offset u := by
    intro u hu hlo hhi
    have hwhole : z.wholeSeconds.offset u = z.offset u / 1000 * 1000 := rfl
    rw [zonedParts, dateUtc_utcParts]
    · omega
    · simp only [InFirstCentury] at hcentury ⊢
      omega
  have hwhole : ∀ u, (1000 : ℤ) ∣ z.wholeSeconds.offset u := fun u => ⟨z.offset u / 1000, by
    rw [mul_comm]
    rfl⟩
  generalize hm : d * 86400000 = m at *
  have hm' : (1000 : ℤ) ∣ m := ⟨d * 86400, by omega⟩
  generalize z.wholeSeconds = w at *
  have hzero := w.offset_le m
  have hone := w.offset_le (m - w.offset m)
  have hzero' := hwhole m
  have hone' := hwhole (m - w.offset m)
  have hvary := w.offset_sub_le (m := m) (u := m - w.offset m) (v := m)
    (by omega) (by omega) (by omega) (by omega)
  have hvary' := w.offset_sub_le (m := m) (u := m - w.offset (m - w.offset m))
    (v := m - w.offset m) (by omega) (by omega) (by omega) (by omega)
  rw [localToUtc, hdesired, correct_succ 2 (hread m hm' (by omega) (by omega)),
    correct_succ 1 (hread _ (by omega) (by omega) (by omega)),
    correct_succ 0 (hread _ (by omega) (by omega) (by omega))]
  rfl

/-- A midnight whose year `Date.UTC` mistakes becomes a moment after the year 1898. -/
theorem localToUtc_mistaken (parts : LocalParts) {e : ℤ} (he : dayFromYear 1899 ≤ e)
    (hparts : dateUtc parts = e * 86400000) :
    dayFromYear 1899 * 86400000 - 50400000 ≤ localToUtc z.offset parts := by
  have hcentury := not_inFirstCentury_of_le he
  have hd : e ≠ dayFromYear 100 := by
    have : dayFromYear 100 < dayFromYear 1899 := by decide
    omega
  have hsettle := z.wholeSeconds.settle_bounds (e * 86400000)
  have hsame : localToUtc z.offset parts = z.wholeSeconds.settle (e * 86400000) := by
    rw [← localToUtc_eq_settle hcentury hd, localToUtc, localToUtc, hparts,
      dateUtc_midnight hcentury]
  rw [hsame]
  omega

end Zone

/-! ## The dates of a period -/

theorem shiftDate_civil {d : ℤ} (h : ¬InFirstCentury d) (hour minute second k : ℤ) :
    shiftDate ⟨(civil d).year, (civil d).month, (civil d).day, hour, minute, second⟩ k =
      midnight (d + k) := by
  have hdate : dateUtc ⟨(civil d).year, (civil d).month, (civil d).day + k, 0, 0, 0⟩ =
      (d + k) * 86400000 := by
    simp [dateUtc, fullYear_of_not h]
  rw [shiftDate, hdate, utcDate_mul]

theorem localWeekday_civil {d : ℤ} (h : ¬InFirstCentury d) (hour minute second : ℤ) :
    localWeekday ⟨(civil d).year, (civil d).month, (civil d).day, hour, minute, second⟩ =
      weekday d := by
  have hmidnight := dateUtc_midnight h
  rw [midnight] at hmidnight
  rw [localWeekday, hmidnight]
  congr 1
  omega

theorem monthDate_eq {y m r : ℤ} (hy : fullYear y = y) :
    monthDate y m r = midnight (makeDay y m r) := by
  have hdate : dateUtc ⟨y, m, r, 0, 0, 0⟩ = makeDay y m r * 86400000 := by
    simp [dateUtc, hy]
  rw [monthDate, hdate, utcDate_mul]

variable (period) in
/-- Outside of the first century the dates of a period are those of the calendar. -/
theorem periodDates_eq {t : ℤ} (hws : 0 ≤ policy.weekStartsOn) (hws' : policy.weekStartsOn ≤ 6)
    (hr : 1 ≤ policy.monthlyResetDay) (hr' : policy.monthlyResetDay ≤ 28)
    (hday : ¬InFirstCentury (t / 86400000)) :
    (periodDates (utcParts t) period policy).1 = midnight (firstDay period policy (t / 86400000)) ∧
      (¬InFirstCentury (firstDay period policy (t / 86400000)) →
        (periodDates (utcParts t) period policy).2 =
          midnight (nextDay period policy (t / 86400000))) := by
  generalize hd : t / 86400000 = d at *
  have hparts : utcParts t = ⟨(civil d).year, (civil d).month, (civil d).day,
      (utcParts t).hour, (utcParts t).minute, (utcParts t).second⟩ := by
    simp [utcParts, hd]
  rw [hparts]
  cases period with
  | weekly =>
    have hback : (localWeekday ⟨(civil d).year, (civil d).month, (civil d).day,
        (utcParts t).hour, (utcParts t).minute, (utcParts t).second⟩ - policy.weekStartsOn +
          7).tmod 7 = (weekday d - policy.weekStartsOn) % 7 := by
      rw [localWeekday_civil hday, Int.tmod_eq_emod_of_nonneg (by unfold weekday; omega)]
      omega
    simp only [periodDates, hback, shiftDate_civil hday]
    exact ⟨rfl, fun hfirst => shiftDate_civil hfirst 0 0 0 7⟩
  | monthly =>
    have hreset : min 28 (max 1 policy.monthlyResetDay) = policy.monthlyResetDay := by omega
    simp only [periodDates, hreset]
    have hmonth : (civil d).month + (if policy.monthlyResetDay ≤ (civil d).day then 0 else -1) =
        if policy.monthlyResetDay ≤ (civil d).day then (civil d).month
        else (civil d).month - 1 := by
      split_ifs <;> omega
    rw [hmonth, monthDate_eq (fullYear_of_not hday)]
    refine ⟨rfl, fun hfirst => ?_⟩
    have hyear := fullYear_of_not hfirst
    rw [firstDay] at hyear
    simp only [midnight, civil_makeDay _ _ hr hr'] at hyear ⊢
    rw [monthDate_eq hyear, makeDay, monthStart_normal]
    simp only [nextDay, makeDay, midnight]
    split_ifs <;> simp
  | _ =>
    refine ⟨rfl, fun _ => ?_⟩
    exact shiftDate_civil hday 0 0 0 1

variable (period policy) in
/-- In the first century the first date of a period is mistaken for a later one. -/
theorem periodDates_mistaken {t : ℤ} (hday : InFirstCentury (t / 86400000)) :
    ∃ e, dayFromYear 1899 ≤ e ∧
      dateUtc (periodDates (utcParts t) period policy).1 = e * 86400000 := by
  obtain ⟨⟨hm, hm'⟩, hd, -⟩ := civil_bounds (t / 86400000)
  have hyear := inFirstCentury_iff.1 hday
  cases period with
  | weekly =>
    have hback := Int.tmod_lt_of_pos (localWeekday (utcParts t) - policy.weekStartsOn + 7)
      (show (0 : ℤ) < 7 by omega)
    obtain ⟨e, he, hdate⟩ := dateUtc_mistaken hyear (m := (civil (t / 86400000)).month)
      (d := (civil (t / 86400000)).day +
        -(localWeekday (utcParts t) - policy.weekStartsOn + 7).tmod 7) (by omega) (by omega)
    refine ⟨e, he, ?_⟩
    rw [← dateUtc_midnight (not_inFirstCentury_of_le he), ← utcDate_mul, ← hdate]
    rfl
  | monthly =>
    obtain ⟨e, he, hdate⟩ := dateUtc_mistaken hyear
      (m := (civil (t / 86400000)).month +
        if min 28 (max 1 policy.monthlyResetDay) ≤ (civil (t / 86400000)).day then 0 else -1)
      (d := min 28 (max 1 policy.monthlyResetDay)) (by split_ifs <;> omega) (by omega)
    refine ⟨e, he, ?_⟩
    rw [← dateUtc_midnight (not_inFirstCentury_of_le he), ← utcDate_mul, ← hdate]
    rfl
  | _ =>
    exact dateUtc_mistaken (m := (civil (t / 86400000)).month) (d := (civil (t / 86400000)).day)
      hyear (by omega) (by omega)

/-! ## The window -/

/-- The number of the local day of a moment. -/
def localDay (offset : ℤ → ℤ) (now : ℤ) : ℤ := (now + offset now) / 86400000

/-- The window that `quotaPeriodWindow` returns contains the moment `now`. -/
def WindowContains (P : Platform) (now : ℤ) (period : QuotaPeriod) (policy : QuotaPolicy) :
    Prop :=
  ∃ start stop, quotaPeriodWindow P now period policy = .ok ⟨start, some stop⟩ ∧
    start ≤ now ∧ now < stop

theorem windowContains_iff {P : Platform} {offset : ℤ → ℤ} {now : ℤ}
    (hz : P.timeZone policy.timezone = some offset) (hp : period ≠ .oneTime) :
    WindowContains P now period policy ↔
      localToUtc offset (periodDates (zonedParts offset now) period policy).1 ≤ now ∧
        now < localToUtc offset (periodDates (zonedParts offset now) period policy).2 := by
  simp [WindowContains, quotaPeriodWindow, hz, hp]

/-- A midnight in the first century becomes a moment after the year 1898. -/
theorem le_localToUtc_midnight (z : Zone) {d : ℤ} (h : InFirstCentury d) :
    dayFromYear 1899 * 86400000 - 50400000 ≤ localToUtc z.offset (midnight d) := by
  obtain ⟨⟨hm, -⟩, hd, -⟩ := civil_bounds d
  obtain ⟨e, he, hdate⟩ := dateUtc_mistaken (m := (civil d).month) (d := (civil d).day)
    (inFirstCentury_iff.1 h) (by omega) (by omega)
  exact localToUtc_mistaken (z := z) (midnight d) he hdate

/-- In a time zone `z`, the window of a recurring period contains `now` if and
    only if neither the local date of `now` nor the first date of its period is
    in the years from 0 to 99, `now` has reached the first midnight of the
    period, and no jump hides it behind the midnight of the next period. -/
theorem quotaPeriodWindow_contains_iff (P : Platform) (z : Zone) (now : ℤ)
    (hz : P.timeZone policy.timezone = some z.offset) (hp : period ≠ .oneTime)
    (hws : 0 ≤ policy.weekStartsOn) (hws' : policy.weekStartsOn ≤ 6)
    (hr : 1 ≤ policy.monthlyResetDay) (hr' : policy.monthlyResetDay ≤ 28)
    (hfirst : firstDay period policy (localDay z.offset now) ≠ dayFromYear 100) :
    WindowContains P now period policy ↔
      ¬InFirstCentury (localDay z.offset now) ∧
      ¬InFirstCentury (firstDay period policy (localDay z.offset now)) ∧
      z.wholeSeconds.Reached (firstDay period policy (localDay z.offset now) * 86400000) now ∧
      (InFirstCentury (nextDay period policy (localDay z.offset now)) ∨
        ¬z.wholeSeconds.EndMissed (nextDay period policy (localDay z.offset now) * 86400000)
          now) := by
  rw [windowContains_iff hz hp, zonedParts]
  have hoffset := z.offset_le now
  obtain ⟨hle, hmonth⟩ := firstDay_le period hr hr' (localDay z.offset now)
  obtain ⟨hlt, hmonth'⟩ := lt_nextDay period hr hr' (localDay z.offset now)
  have hzero : dayFromYear 0 + 31 < dayFromYear 100 := by decide
  have hlate : dayFromYear 100 + 100 < dayFromYear 1899 := by decide
  have hday : (now + z.offset now) / 86400000 = localDay z.offset now := rfl
  by_cases hlocal : InFirstCentury (localDay z.offset now)
  · obtain ⟨e, he, hdate⟩ := periodDates_mistaken period policy hlocal
    have hstart := localToUtc_mistaken (z := z) _ he hdate
    refine iff_of_false (fun h => ?_) (fun h => h.1 hlocal)
    have hnow := h.1
    have hcentury := hlocal.2
    omega
  obtain ⟨hstartDate, hendDate⟩ := periodDates_eq period hws hws' hr hr' hlocal
  rw [hstartDate, hday]
  rw [hday] at hendDate
  by_cases hcentury : InFirstCentury (firstDay period policy (localDay z.offset now))
  · have hstart := le_localToUtc_midnight z hcentury
    refine iff_of_false (fun h => ?_) (fun h => h.2.1 hcentury)
    have hnow := h.1
    have hbefore := hcentury.2
    omega
  rw [hendDate hcentury, localToUtc_eq_settle hcentury hfirst, Zone.settle_le_iff_reached]
  by_cases hnext : InFirstCentury (nextDay period policy (localDay z.offset now))
  · have hend := le_localToUtc_midnight z hnext
    have hbefore := hnext.2
    have hfuture : now < localToUtc z.offset
        (midnight (nextDay period policy (localDay z.offset now))) := by omega
    simp [hlocal, hcentury, hnext, hfuture]
  · have hne : nextDay period policy (localDay z.offset now) ≠ dayFromYear 100 := fun heq =>
      hlocal ⟨by omega, by omega⟩
    have hwhole : z.wholeSeconds.offset now = z.offset now / 1000 * 1000 := rfl
    rw [localToUtc_eq_settle hnext hne, Zone.lt_settle_iff (by omega)]
    simp [hlocal, hcentury, hnext]

/-- A zone two hours ahead of UTC in which the first hour of 28 March 2021 is skipped. -/
def skippedMidnight : Zone :=
  Zone.single (makeDay 2021 3 28 * 86400000 - 7200000) 7200000 10800000 (by decide) (by decide)
    (by decide)

/-- A platform on which every time zone is `skippedMidnight`. -/
def skippedMidnightPlatform : Platform :=
  { Platform.plain with timeZone := fun _ => some skippedMidnight.offset }

/-- The daily window half an hour before the skipped midnight. -/
theorem quotaPeriodWindow_contains_iff_skippedMidnight :
    WindowContains skippedMidnightPlatform (makeDay 2021 3 27 * 86400000 + 77400000) .daily
        ⟨"Asia/Beirut", 1, 1⟩ ↔
      ¬InFirstCentury (makeDay 2021 3 27) ∧ ¬InFirstCentury (makeDay 2021 3 27) ∧
      skippedMidnight.wholeSeconds.Reached (makeDay 2021 3 27 * 86400000)
        (makeDay 2021 3 27 * 86400000 + 77400000) ∧
      (InFirstCentury (makeDay 2021 3 28) ∨
        ¬skippedMidnight.wholeSeconds.EndMissed (makeDay 2021 3 28 * 86400000)
          (makeDay 2021 3 27 * 86400000 + 77400000)) :=
  quotaPeriodWindow_contains_iff skippedMidnightPlatform skippedMidnight
    (makeDay 2021 3 27 * 86400000 + 77400000) rfl (by decide) (by decide) (by decide) (by decide)
    (by decide) (by decide)

/-- Half an hour before a skipped midnight the window of the day is over already. -/
theorem quotaPeriodWindow_over_early :
    ¬∀ (P : Platform) (z : Zone) (now : ℤ) (period : QuotaPeriod) (policy : QuotaPolicy),
      P.timeZone policy.timezone = some z.offset → period ≠ .oneTime →
      0 ≤ policy.weekStartsOn → policy.weekStartsOn ≤ 6 → 1 ≤ policy.monthlyResetDay →
      policy.monthlyResetDay ≤ 28 → WindowContains P now period policy := by
  intro h
  have hwindow := (windowContains_iff (P := skippedMidnightPlatform) rfl (by decide)).1
    (h skippedMidnightPlatform skippedMidnight (makeDay 2021 3 27 * 86400000 + 77400000) .daily
      ⟨"Asia/Beirut", 1, 1⟩ rfl (by decide) (by decide) (by decide) (by decide) (by decide))
  exact absurd hwindow.2 (by decide +kernel)

end WireguardPanel
