import WireguardPanel.Foundation.Gregorian
import WireguardPanel.Foundation.Zone
import WireguardPanel.Platform

/-!
# Quota periods

The window of the quota period that contains a moment, in the time zone of the
quota policy, and the traffic between two readings of a byte counter.

* `quotaPeriodWindow`: the source's computation, from the civil date of the
  moment and back through `localToUtc`.
* `firstDay`, `nextDay`: the local days on which the period of a day and the
  following period begin.
-/

namespace WireguardPanel

open Foundation Gregorian

/-- The length of a quota period. -/
inductive QuotaPeriod
  | oneTime
  | daily
  | weekly
  | monthly
  deriving DecidableEq

/-- `QuotaPolicy`. -/
structure QuotaPolicy where
  timezone : String
  weekStartsOn : ℤ
  monthlyResetDay : ℤ
  deriving DecidableEq

/-- `counterDelta`. -/
def counterDelta (previous : Option ℤ) (current : ℤ) : ℤ :=
  if current < 0 then 0
  else
    match previous with
    | none => 0
    | some previous => if previous ≤ current then current - previous else current

theorem counterDelta_nonneg (previous : Option ℤ) (current : ℤ) :
    0 ≤ counterDelta previous current := by
  unfold counterDelta
  cases previous with
  | none => split_ifs <;> simp
  | some previous => dsimp only; split_ifs <;> omega

/-! ## Dates -/

/-- `LocalParts`. -/
structure LocalParts where
  year : ℤ
  month : ℤ
  day : ℤ
  hour : ℤ
  minute : ℤ
  second : ℤ

/-- `Date.UTC` reads the years from 0 to 99 as years of the twentieth century. -/
def fullYear (year : ℤ) : ℤ := if 0 ≤ year ∧ year ≤ 99 then 1900 + year else year

/-- `Date.UTC`, with months counted from one. -/
def dateUtc (parts : LocalParts) : ℤ :=
  makeDay (fullYear parts.year) parts.month parts.day * 86400000 + parts.hour * 3600000 +
    parts.minute * 60000 + parts.second * 1000

/-- The parts of a moment in UTC. -/
def utcParts (t : ℤ) : LocalParts where
  year := (civil (t / 86400000)).year
  month := (civil (t / 86400000)).month
  day := (civil (t / 86400000)).day
  hour := t % 86400000 / 3600000
  minute := t % 3600000 / 60000
  second := t % 60000 / 1000

/-- The midnight at which the UTC day of a moment begins. -/
def utcDate (t : ℤ) : LocalParts := { utcParts t with hour := 0, minute := 0, second := 0 }

/-- `shiftDate`. -/
def shiftDate (parts : LocalParts) (days : ℤ) : LocalParts :=
  utcDate (dateUtc ⟨parts.year, parts.month, parts.day + days, 0, 0, 0⟩)

/-- `monthDate`. -/
def monthDate (year month day : ℤ) : LocalParts := utcDate (dateUtc ⟨year, month, day, 0, 0, 0⟩)

/-- `localWeekday`. -/
def localWeekday (parts : LocalParts) : ℤ :=
  weekday (dateUtc ⟨parts.year, parts.month, parts.day, 0, 0, 0⟩ / 86400000)

section Zone

variable (offset : ℤ → ℤ)

/-- `zonedParts`. -/
def zonedParts (date : ℤ) : LocalParts := utcParts (date + offset date)

/-- The loop of `localToUtc`, with the number of attempts that are left. -/
def correct (desired : ℤ) : ℕ → ℤ → ℤ
  | 0, value => value
  | attempts + 1, value =>
    let correction := desired - dateUtc (zonedParts offset value)
    if correction = 0 then value else correct desired attempts (value + correction)

/-- `localToUtc`. -/
def localToUtc (parts : LocalParts) : ℤ := correct offset (dateUtc parts) 3 (dateUtc parts)

end Zone

/-! ## Windows -/

/-- What `quotaPeriodWindow` returns. -/
structure QuotaWindow where
  start : ℤ
  stop : Option ℤ
  deriving DecidableEq

/-- The first local date of the period that contains the local time `parts`,
    and that of the following period. -/
def periodDates (parts : LocalParts) (period : QuotaPeriod) (policy : QuotaPolicy) :
    LocalParts × LocalParts :=
  match period with
  | .weekly =>
    let daysBack := (localWeekday parts - policy.weekStartsOn + 7).tmod 7
    let startParts := shiftDate parts (-daysBack)
    (startParts, shiftDate startParts 7)
  | .monthly =>
    let resetDay := min 28 (max 1 policy.monthlyResetDay)
    let startMonthOffset := if resetDay ≤ parts.day then 0 else -1
    let startParts := monthDate parts.year (parts.month + startMonthOffset) resetDay
    (startParts, monthDate startParts.year (startParts.month + 1) resetDay)
  | _ =>
    let startParts := { parts with hour := 0, minute := 0, second := 0 }
    (startParts, shiftDate startParts 1)

/-- `quotaPeriodWindow`. -/
def quotaPeriodWindow (P : Platform) (now : ℤ) (period : QuotaPeriod) (policy : QuotaPolicy) :
    Except AppError QuotaWindow :=
  match P.timeZone policy.timezone with
  | none => .error (.error ("Invalid quota timezone: " ++ policy.timezone))
  | some offset =>
    if period = .oneTime then .ok { start := now, stop := none }
    else
      let (startParts, endParts) := periodDates (zonedParts offset now) period policy
      .ok { start := localToUtc offset startParts, stop := some (localToUtc offset endParts) }

end WireguardPanel
