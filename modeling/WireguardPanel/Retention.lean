import WireguardPanel.Snapshots
import WireguardPanel.Foundation.Buckets
import WireguardPanel.Foundation.Calendar
import WireguardPanel.Foundation.System
import Mathlib.Algebra.Order.BigOperators.Group.Finset
import Mathlib.Algebra.Order.Monoid.Prod

/-!
# Traffic retention

Every run of `aggregateAndRetainTraffic` sums up the recent snapshots of each
peer by the hour, the recent hours by the day and the recent days by the month,
and then deletes what is older than the policy asks to keep.

* `aggregateAndRetainTraffic`: the transaction.
* `Retention`: runs of snapshots and of retention, with what has been deleted.
* `retained_of_reaches`: in a run that never cuts an hour, a day or a month that
  it sums up again, every retained hour has all of its traffic.
-/

namespace WireguardPanel

open Foundation

/-! ## Tables -/

/-- The sums of a row of `traffic_usage_aggregates`. -/
@[ext] structure Usage where
  rxBytes : ℤ
  txBytes : ℤ
  sampleCount : ℕ
  deriving DecidableEq

namespace Usage

instance : Zero Usage := ⟨⟨0, 0, 0⟩⟩

instance : Add Usage :=
  ⟨fun u v => ⟨u.rxBytes + v.rxBytes, u.txBytes + v.txBytes, u.sampleCount + v.sampleCount⟩⟩

@[simp] theorem add_def (u v : Usage) : u + v =
    ⟨u.rxBytes + v.rxBytes, u.txBytes + v.txBytes, u.sampleCount + v.sampleCount⟩ := rfl

@[simp] theorem zero_def : (0 : Usage) = ⟨0, 0, 0⟩ := rfl

instance : AddCommMonoid Usage where
  add_assoc u v w := by simp [add_assoc]
  zero_add u := by simp
  add_zero u := by simp
  add_comm u v := by simp [add_comm]
  nsmul := nsmulRec

/-- The traffic of a row. -/
def bytes : Usage →+ ℤ × ℤ where
  toFun u := (u.rxBytes, u.txBytes)
  map_zero' := rfl
  map_add' _ _ := rfl

end Usage

/-- A peer and the beginning of an hour, a day or a month. -/
abbrev BucketKey := String × ℤ

/-- `RetentionPolicy`. -/
structure RetentionPolicy where
  rawTrafficHours : ℤ
  hourlyDays : ℤ
  dailyMonths : ℤ
  deriving DecidableEq

/-- The snapshots, and the rows of `traffic_usage_aggregates` by `bucket_type`. -/
structure TrafficStore where
  snapshots : List SnapshotRow
  hours : Buckets BucketKey Usage
  days : Buckets BucketKey Usage
  months : Buckets BucketKey Usage

/-- What a run returns. -/
structure RetentionResult where
  hourlyBucketsUpdated : ℕ
  rawDeleted : ℕ
  hourlyDeleted : ℕ
  dailyDeleted : ℕ
  deriving DecidableEq

/-- `validatePolicy`. -/
def validatePolicy (value : RetentionPolicy) : Except AppError Unit := do
  rejectIf (value.rawTrafficHours < 1 ∨ 24 * 31 < value.rawTrafficHours)
    (.error "Raw traffic retention must be between 1 hour and 31 days.")
  rejectIf (value.hourlyDays < 1 ∨ 3660 < value.hourlyDays)
    (.error "Hourly retention must be between 1 and 3660 days.")
  rejectIf (value.dailyMonths < 1 ∨ 120 < value.dailyMonths)
    (.error "Daily retention must be between 1 and 120 months.")

/-! ## The transaction -/

/-- The traffic that a snapshot stands for. -/
def snapshotUsage (s : SnapshotRow) : Usage := ⟨s.deltaRxBytes, s.deltaTxBytes, 1⟩

/-- The statements that insert the sums `new` into the table `old`. -/
def upsertUsage (new old : Buckets BucketKey Usage) : Except AppError (Buckets BucketKey Usage) :=
  if ∀ k ∈ new.keys, 0 ≤ (new.value k).rxBytes ∧ 0 ≤ (new.value k).txBytes then
    .ok (new.upsert old)
  else .error (.database .check)

/-- How many rows of `old` the insertion of `new` adds or changes. -/
def changedRows (new old : Buckets BucketKey Usage) : ℕ :=
  (new.keys.filter fun k => old.lookup k ≠ some (new.value k)).card

section Calendar

variable (C : Calendar)

/-- The hour of a snapshot. -/
def hourKey (s : SnapshotRow) : BucketKey := (s.peerId, C.hourStart s.capturedAt)

/-- The day of an hour, or of a snapshot. -/
def dayKey (k : BucketKey) : BucketKey := (k.1, C.dayStart k.2)

/-- The month of a day. -/
def monthKey (k : BucketKey) : BucketKey := (k.1, C.monthStart k.2)

namespace RetentionPolicy

variable (policy : RetentionPolicy) (now : ℤ)

/-- The moment before which snapshots are deleted. -/
def cutOff : ℤ := now - policy.rawTrafficHours * 3600000

/-- The moment before which hours are deleted. -/
def hourLimit : ℤ := C.daysBefore policy.hourlyDays now

/-- The moment before which days are deleted. -/
def dayLimit : ℤ := C.monthsBefore policy.dailyMonths now

end RetentionPolicy

/-- The first day that is summed up again. -/
def firstDaySummed (now : ℤ) : ℤ := C.daysBefore 2 (C.dayStart now)

/-- The first day of the first month that is summed up again. -/
def firstMonthSummed (now : ℤ) : ℤ := C.monthsBefore 2 (C.monthStart now)

/-- The snapshots that the policy asks to keep. -/
def TrafficStore.recent (policy : RetentionPolicy) (now : ℤ) (s : TrafficStore) :
    List SnapshotRow :=
  s.snapshots.filter fun a => policy.cutOff now ≤ a.capturedAt

/-- `aggregateAndRetainTraffic` at the time `now`. -/
def aggregateAndRetainTraffic (policy : RetentionPolicy) (now : ℤ) (s : TrafficStore) :
    Except AppError (RetentionResult × TrafficStore) := do
  validatePolicy policy
  let recent := s.recent policy now
  let hourly := Buckets.ofRows (hourKey C) snapshotUsage recent
  let hours ← upsertUsage hourly s.hours
  let days ← upsertUsage
    (hours.regroup (fun k => firstDaySummed C now ≤ k.2) (dayKey C)) s.days
  let months ← upsertUsage
    (days.regroup (fun k => firstMonthSummed C now ≤ k.2) (monthKey C)) s.months
  let keptHours := hours.keep fun k => policy.hourLimit C now ≤ k.2
  let keptDays := days.keep fun k => policy.dayLimit C now ≤ k.2
  return ({
      hourlyBucketsUpdated := changedRows hourly s.hours
      rawDeleted := s.snapshots.length - recent.length
      hourlyDeleted := hours.keys.card - keptHours.keys.card
      dailyDeleted := days.keys.card - keptDays.keys.card },
    { snapshots := recent, hours := keptHours, days := keptDays, months })

/-! ## What a run leaves behind -/

namespace TrafficStore

variable (policy : RetentionPolicy) (now : ℤ) (s : TrafficStore)

/-- The hours after they have been summed up. -/
def hoursSummed : Buckets BucketKey Usage :=
  (Buckets.ofRows (hourKey C) snapshotUsage (s.recent policy now)).upsert s.hours

/-- The sums of the days, from the hours. -/
def daySums : Buckets BucketKey Usage :=
  (s.hoursSummed C policy now).regroup (fun k => firstDaySummed C now ≤ k.2) (dayKey C)

/-- The days after they have been summed up. -/
def daysSummed : Buckets BucketKey Usage := (s.daySums C policy now).upsert s.days

/-- The sums of the months, from the days. -/
def monthSums : Buckets BucketKey Usage :=
  (s.daysSummed C policy now).regroup (fun k => firstMonthSummed C now ≤ k.2) (monthKey C)

end TrafficStore

theorem upsertUsage_ok {new old b : Buckets BucketKey Usage} (h : upsertUsage new old = .ok b) :
    b = new.upsert old := by
  unfold upsertUsage at h
  split_ifs at h
  cases h
  rfl

variable {C} {policy : RetentionPolicy} {now : ℤ}

/-- A run that succeeds leaves the recent snapshots, the hours and days that the
    policy asks to keep, and all months. -/
theorem aggregateAndRetainTraffic_ok {s t : TrafficStore} {result : RetentionResult}
    (h : aggregateAndRetainTraffic C policy now s = .ok (result, t)) :
    t.snapshots = s.recent policy now ∧
      t.hours = (s.hoursSummed C policy now).keep (fun k => policy.hourLimit C now ≤ k.2) ∧
      t.days = (s.daysSummed C policy now).keep (fun k => policy.dayLimit C now ≤ k.2) ∧
      t.months = (s.monthSums C policy now).upsert s.months := by
  obtain ⟨_, -, h⟩ := except_bind_ok.1 h
  obtain ⟨hours, hhours, h⟩ := except_bind_ok.1 h
  obtain ⟨days, hdays, h⟩ := except_bind_ok.1 h
  obtain ⟨months, hmonths, h⟩ := except_bind_ok.1 h
  cases upsertUsage_ok hhours
  cases upsertUsage_ok hdays
  cases upsertUsage_ok hmonths
  cases h
  exact ⟨rfl, rfl, rfl, rfl⟩

/-! ## Runs -/

/-- The tables, with what has been done to them. -/
structure Retention where
  store : TrafficStore
  /-- The snapshots that runs have deleted. -/
  gone : List SnapshotRow
  /-- How many of the present snapshots were there at the last run. -/
  seen : ℕ
  /-- The snapshots that runs have added to the sums of their hours. -/
  counted : List SnapshotRow
  /-- The traffic of the days that runs have deleted, by month. -/
  goneDays : BucketKey → ℤ × ℤ

namespace Retention

/-- Before the first snapshot. -/
def start : Retention where
  store := { snapshots := [], hours := .empty, days := .empty, months := .empty }
  gone := []
  seen := 0
  counted := []
  goneDays _ := 0

/-- What happens to the tables. -/
inductive Event
  | store (row : SnapshotRow)
  | run (policy : RetentionPolicy) (now : ℤ)

/-- The traffic that a snapshot has recorded. -/
def delta (a : SnapshotRow) : ℤ × ℤ := (a.deltaRxBytes, a.deltaTxBytes)

/-- All snapshots that were ever stored. -/
def stored (s : Retention) : List SnapshotRow := s.gone ++ s.store.snapshots

/-- The snapshots that were stored before the last run. -/
def past (s : Retention) : List SnapshotRow := s.gone ++ s.store.snapshots.take s.seen

/-- The snapshots that a run will have deleted. -/
def goneAt (policy : RetentionPolicy) (now : ℤ) (s : Retention) : List SnapshotRow :=
  s.gone ++ s.store.snapshots.filter fun a => !decide (policy.cutOff now ≤ a.capturedAt)

variable (C)

/-- The traffic of an hour in some snapshots. -/
def hourTotal (rows : List SnapshotRow) (k : BucketKey) : ℤ × ℤ :=
  ((rows.filter fun a => hourKey C a = k).map delta).sum

/-- The traffic of a day in some snapshots. -/
def dayTotal (rows : List SnapshotRow) (k : BucketKey) : ℤ × ℤ :=
  ((rows.filter fun a => dayKey C (hourKey C a) = k).map delta).sum

/-- The traffic of a month in some days. -/
def monthTotal (days : Buckets BucketKey Usage) (k : BucketKey) : ℤ × ℤ :=
  ∑ d ∈ days.keys with monthKey C d = k, (days.value d).bytes

/-- The state after an event, if it succeeds. Polls store no negative traffic. -/
def Event.next (s : Retention) : Event → Option Retention
  | .store row =>
    if 0 ≤ delta row then
      some { s with store := { s.store with snapshots := s.store.snapshots ++ [row] } }
    else none
  | .run policy now =>
    match aggregateAndRetainTraffic C policy now s.store with
    | .ok (_, tables) => some {
        store := tables, gone := s.goneAt policy now, seen := tables.snapshots.length
        counted := s.counted ++ s.store.recent policy now
        goneDays := fun k => s.goneDays k + monthTotal C
          ((s.store.daysSummed C policy now).keep fun d => ¬policy.dayLimit C now ≤ d.2) k }
    | .error _ => none

/-- The runs. -/
def system : System Retention Event where
  step e s t := e.next C s = some t

/-- The condition on a run: it finds everything that it sums up again complete.

    * It sees all snapshots that were stored since the last run.
    * No hour that it sums up, and keeps or adds to a day, has traffic in a
      snapshot that is deleted by then.
    * No day that it sums up has traffic in an hour without a row.
    * No month that it sums up has traffic in a day that was deleted. -/
structure Complete (policy : RetentionPolicy) (now : ℤ) (s : Retention) : Prop where
  fresh : ∀ a ∈ s.store.snapshots.drop s.seen, policy.cutOff now ≤ a.capturedAt
  hours : ∀ a ∈ s.store.recent policy now,
    policy.hourLimit C now ≤ (hourKey C a).2 ∨ firstDaySummed C now ≤ (hourKey C a).2 →
      ∀ b ∈ s.goneAt policy now, hourKey C b = hourKey C a → delta b = 0
  days : ∀ h ∈ (s.store.hoursSummed C policy now).keys, firstDaySummed C now ≤ h.2 →
    ∀ b ∈ s.stored, dayKey C (hourKey C b) = dayKey C h →
      delta b = 0 ∨ hourKey C b ∈ (s.store.hoursSummed C policy now).keys
  months : ∀ d ∈ (s.store.daysSummed C policy now).keys, firstMonthSummed C now ≤ d.2 →
    s.goneDays (monthKey C d) = 0

/-- The condition on the events of a run. -/
def Admits : Event → Retention → Prop
  | .store _, _ => True
  | .run policy now, s => s.Complete C policy now

/-! ## The invariant -/

/-- Every retained hour has the traffic of its snapshots, up to the last run. -/
def HoursExact (s : Retention) : Prop :=
  ∀ k u, s.store.hours.lookup k = some u → u.bytes = hourTotal C s.past k

/-- No snapshot was deleted before a run had added it to its hour. -/
def NoneLost (s : Retention) : Prop := ∀ a ∈ s.gone, a ∈ s.counted

/-- What is true of the tables between two events. -/
structure Inv (s : Retention) : Prop where
  seen : s.seen ≤ s.store.snapshots.length
  nonneg : ∀ a ∈ s.stored, 0 ≤ delta a
  counted : ∀ a ∈ s.past, a ∈ s.counted
  hours : ∀ k ∈ s.store.hours.keys, (s.store.hours.value k).bytes = hourTotal C s.past k
  days : ∀ k ∈ s.store.days.keys, (s.store.days.value k).bytes ≤ dayTotal C s.past k
  daysNonneg : ∀ k ∈ s.store.days.keys, 0 ≤ (s.store.days.value k).bytes
  months : ∀ k ∈ s.store.months.keys,
    (s.store.months.value k).bytes ≤ monthTotal C s.store.days k + s.goneDays k
  goneDaysNonneg : ∀ k, 0 ≤ s.goneDays k

variable {C} {s t : Retention}

theorem inv_start : Inv C start where
  seen := le_rfl
  nonneg _ ha := absurd ha List.not_mem_nil
  counted _ ha := absurd ha List.not_mem_nil
  hours _ hk := absurd hk (Finset.notMem_empty _)
  days _ hk := absurd hk (Finset.notMem_empty _)
  daysNonneg _ hk := absurd hk (Finset.notMem_empty _)
  months _ hk := absurd hk (Finset.notMem_empty _)
  goneDaysNonneg _ := le_rfl

/-- A new snapshot changes nothing that was stored before the last run. -/
theorem Inv.store {row : SnapshotRow} (hs : Inv C s) (hrow : 0 ≤ delta row) :
    Inv C { s with store := { s.store with snapshots := s.store.snapshots ++ [row] } } := by
  have hpast : past { s with store := { s.store with snapshots := s.store.snapshots ++ [row] } } =
      s.past := by
    simp only [past, List.take_append_of_le_length hs.seen]
  refine ⟨hs.seen.trans (by simp), fun a ha => ?_, hpast ▸ hs.counted, hpast ▸ hs.hours,
    hpast ▸ hs.days, hs.daysNonneg, hs.months, hs.goneDaysNonneg⟩
  have ha' : a ∈ s.stored ∨ a = row := by
    simpa [stored, ← or_assoc] using ha
  rcases ha' with ha' | rfl
  · exact hs.nonneg a ha'
  · exact hrow

/-! ## A run -/

theorem hourTotal_append (rows rows' : List SnapshotRow) (k : BucketKey) :
    hourTotal C (rows ++ rows') k = hourTotal C rows k + hourTotal C rows' k := by
  rw [hourTotal, List.filter_append, List.map_append, List.sum_append]
  rfl

theorem hourTotal_eq_zero {rows : List SnapshotRow} {k : BucketKey}
    (h : ∀ a ∈ rows, hourKey C a = k → delta a = 0) : hourTotal C rows k = 0 := by
  refine List.sum_eq_zero fun x hx => ?_
  obtain ⟨a, ha, rfl⟩ := List.mem_map.1 hx
  obtain ⟨ha, hk⟩ := List.mem_filter.1 ha
  exact h a ha (by simpa using hk)

theorem hourTotal_nonneg {rows : List SnapshotRow} (k : BucketKey) (h : ∀ a ∈ rows, 0 ≤ delta a) :
    0 ≤ hourTotal C rows k := by
  refine List.sum_nonneg fun x hx => ?_
  obtain ⟨a, ha, rfl⟩ := List.mem_map.1 hx
  exact h a (List.mem_of_mem_filter ha)

/-- A run splits the snapshots into those that it deletes and the recent ones. -/
theorem goneAt_append_recent_perm (policy : RetentionPolicy) (now : ℤ) (s : Retention) :
    (s.goneAt policy now ++ s.store.recent policy now).Perm s.stored := by
  rw [goneAt, List.append_assoc, stored]
  refine List.Perm.append_left _ (List.perm_append_comm.trans ?_)
  exact List.filter_append_perm _ _

theorem hourTotal_perm {rows rows' : List SnapshotRow} (h : rows.Perm rows') (k : BucketKey) :
    hourTotal C rows k = hourTotal C rows' k :=
  ((h.filter _).map delta).sum_eq

theorem dayTotal_perm {rows rows' : List SnapshotRow} (h : rows.Perm rows') (k : BucketKey) :
    dayTotal C rows k = dayTotal C rows' k :=
  ((h.filter _).map delta).sum_eq

/-- All snapshots are those before the last run and those since. -/
theorem stored_eq (s : Retention) : s.stored = s.past ++ s.store.snapshots.drop s.seen := by
  rw [stored, past, List.append_assoc, List.take_append_drop]

theorem hourTotal_past_le (hs : Inv C s) (k : BucketKey) :
    hourTotal C s.past k ≤ hourTotal C s.stored k := by
  rw [stored_eq, hourTotal_append]
  refine le_add_of_nonneg_right (hourTotal_nonneg k fun a ha => hs.nonneg a ?_)
  exact List.mem_append_right _ (List.mem_of_mem_drop ha)

theorem dayTotal_past_le (hs : Inv C s) (k : BucketKey) :
    dayTotal C s.past k ≤ dayTotal C s.stored k := by
  rw [stored_eq, dayTotal, dayTotal, List.filter_append, List.map_append, List.sum_append]
  refine le_add_of_nonneg_right (List.sum_nonneg fun x hx => ?_)
  obtain ⟨a, ha, rfl⟩ := List.mem_map.1 hx
  exact hs.nonneg a (List.mem_append_right _ (List.mem_of_mem_drop (List.mem_of_mem_filter ha)))

theorem dayTotal_nonneg (hs : Inv C s) (k : BucketKey) : 0 ≤ dayTotal C s.stored k := by
  refine List.sum_nonneg fun x hx => ?_
  obtain ⟨a, ha, rfl⟩ := List.mem_map.1 hx
  exact hs.nonneg a (List.mem_of_mem_filter ha)

/-- The sums of an hour in recent snapshots. -/
theorem bytes_ofRows (rows : List SnapshotRow) (k : BucketKey) :
    ((Buckets.ofRows (hourKey C) snapshotUsage rows).value k).bytes = hourTotal C rows k := by
  rw [Buckets.ofRows, map_list_sum, List.map_map]
  rfl

/-- An hour that is summed up and matters has all of its traffic. -/
theorem bytes_hoursSummed (hs : Inv C s) (hc : s.Complete C policy now) {k : BucketKey}
    (hk : k ∈ (s.store.hoursSummed C policy now).keys)
    (hmatters : policy.hourLimit C now ≤ k.2 ∨ firstDaySummed C now ≤ k.2) :
    ((s.store.hoursSummed C policy now).value k).bytes = hourTotal C s.stored k := by
  by_cases hnew : k ∈ (Buckets.ofRows (hourKey C) snapshotUsage (s.store.recent policy now)).keys
  · -- The hour is overwritten: what is missing in the recent snapshots counts for nothing.
    have hmissing : hourTotal C (s.goneAt policy now) k = 0 := by
      obtain ⟨a, ha, rfl⟩ := List.mem_map.1 (List.mem_toFinset.1 hnew)
      exact hourTotal_eq_zero (hc.hours a ha hmatters)
    rw [TrafficStore.hoursSummed, Buckets.value_upsert_of_mem _ hnew, bytes_ofRows,
      ← hourTotal_perm (goneAt_append_recent_perm policy now s), hourTotal_append, hmissing,
      zero_add]
  · -- The hour stays as it is: no snapshot of it was stored since the last run.
    have hold : k ∈ s.store.hours.keys := (Finset.mem_union.1 hk).resolve_left hnew
    have hfresh : hourTotal C (s.store.snapshots.drop s.seen) k = 0 := by
      refine hourTotal_eq_zero fun a ha hak => absurd ?_ hnew
      refine List.mem_toFinset.2 (List.mem_map.2 ⟨a, List.mem_filter.2 ⟨?_, ?_⟩, hak⟩)
      · exact List.mem_of_mem_drop ha
      · simpa using hc.fresh a ha
    rw [TrafficStore.hoursSummed, Buckets.value_upsert_of_notMem _ hnew, hs.hours k hold, stored_eq,
      hourTotal_append, hfresh, add_zero]

/-- A day that is summed up has all of its traffic. -/
theorem bytes_daySums (hs : Inv C s) (hc : s.Complete C policy now) {k : BucketKey}
    (hk : k ∈ (s.store.daySums C policy now).keys) :
    ((s.store.daySums C policy now).value k).bytes = dayTotal C s.stored k := by
  obtain ⟨h, hh, hhk⟩ := Finset.mem_image.1 hk
  obtain ⟨hh, hfirst⟩ := Finset.mem_filter.1 hh
  -- The day of a snapshot of that day is summed up from its beginning.
  have hfirst' : ∀ b : SnapshotRow, dayKey C (hourKey C b) = k →
      firstDaySummed C now ≤ (hourKey C b).2 := by
    intro b hb
    have hsame : C.dayStart (hourKey C b).2 = C.dayStart h.2 :=
      congrArg Prod.snd (hb.trans hhk.symm)
    calc firstDaySummed C now = C.dayStart (firstDaySummed C now) :=
          (C.dayStart_daysBefore 2 now).symm
      _ ≤ C.dayStart h.2 := C.dayStart_mono _ _ hfirst
      _ = C.dayStart (hourKey C b).2 := hsame.symm
      _ ≤ (hourKey C b).2 := C.dayStart_le _
  have hhours : ((s.store.daySums C policy now).value k).bytes =
      ∑ h ∈ (s.store.hoursSummed C policy now).keys with
        firstDaySummed C now ≤ h.2 ∧ dayKey C h = k, hourTotal C s.stored h := by
    rw [TrafficStore.daySums, Buckets.regroup, map_sum]
    refine Finset.sum_congr rfl fun h hh => ?_
    obtain ⟨hh, hday⟩ := Finset.mem_filter.1 hh
    exact bytes_hoursSummed hs hc hh (.inr hday.1)
  rw [hhours]
  refine (Buckets.sum_groups (hourKey C) delta _ s.stored).trans ?_
  refine sum_filter_congr (fun b _ hb => ?_) fun b hb hbk => ?_
  · have hbs := of_decide_eq_true hb
    exact decide_eq_true (Finset.mem_filter.1 hbs).2.2
  · have hbk' := of_decide_eq_true hbk
    rcases hc.days h hh hfirst b hb (hbk'.trans hhk.symm) with hzero | hpresent
    · exact .inr hzero
    · exact .inl (decide_eq_true (Finset.mem_filter.2 ⟨hpresent, hfirst' b hbk', hbk'⟩))

/-- What the days hold after they have been summed up: no less than before, no
    more than their traffic. -/
theorem bytes_daysSummed (hs : Inv C s) (hc : s.Complete C policy now) {k : BucketKey}
    (hk : k ∈ (s.store.daysSummed C policy now).keys) :
    (∀ u, s.store.days.lookup k = some u →
        u.bytes ≤ ((s.store.daysSummed C policy now).value k).bytes) ∧
      0 ≤ ((s.store.daysSummed C policy now).value k).bytes ∧
      ((s.store.daysSummed C policy now).value k).bytes ≤ dayTotal C s.stored k := by
  by_cases hnew : k ∈ (s.store.daySums C policy now).keys
  · rw [TrafficStore.daysSummed, Buckets.value_upsert_of_mem _ hnew, bytes_daySums hs hc hnew]
    refine ⟨fun u hu => ?_, dayTotal_nonneg hs k, le_rfl⟩
    obtain ⟨hold, rfl⟩ := Buckets.lookup_eq_some.1 hu
    exact (hs.days k hold).trans (dayTotal_past_le hs k)
  · have hold : k ∈ s.store.days.keys := (Finset.mem_union.1 hk).resolve_left hnew
    rw [TrafficStore.daysSummed, Buckets.value_upsert_of_notMem _ hnew]
    refine ⟨fun u hu => ?_, hs.daysNonneg k hold, (hs.days k hold).trans (dayTotal_past_le hs k)⟩
    obtain ⟨-, rfl⟩ := Buckets.lookup_eq_some.1 hu
    exact le_rfl

/-- The days of a month lose nothing when they are summed up. -/
theorem monthTotal_days_le (hs : Inv C s) (hc : s.Complete C policy now) (k : BucketKey) :
    monthTotal C s.store.days k ≤ monthTotal C (s.store.daysSummed C policy now) k := by
  have hkeys : s.store.days.keys ⊆ (s.store.daysSummed C policy now).keys :=
    Finset.subset_union_right
  calc monthTotal C s.store.days k
      ≤ ∑ d ∈ s.store.days.keys with monthKey C d = k,
          ((s.store.daysSummed C policy now).value d).bytes := by
        refine Finset.sum_le_sum fun d hd => ?_
        have hd := (Finset.mem_filter.1 hd).1
        exact (bytes_daysSummed hs hc (hkeys hd)).1 _ (Buckets.lookup_eq_some.2 ⟨hd, rfl⟩)
    _ ≤ monthTotal C (s.store.daysSummed C policy now) k := by
        refine Finset.sum_le_sum_of_subset_of_nonneg (Finset.filter_subset_filter _ hkeys) ?_
        exact fun d hd _ => (bytes_daysSummed hs hc (Finset.mem_filter.1 hd).1).2.1

/-- A month that is summed up has the traffic of its days, none of which with
    traffic was deleted. -/
theorem bytes_monthSums (hc : s.Complete C policy now) {k : BucketKey}
    (hk : k ∈ (s.store.monthSums C policy now).keys) :
    ((s.store.monthSums C policy now).value k).bytes =
        monthTotal C (s.store.daysSummed C policy now) k ∧ s.goneDays k = 0 := by
  obtain ⟨d, hd, hdk⟩ := Finset.mem_image.1 hk
  obtain ⟨hd, hfirst⟩ := Finset.mem_filter.1 hd
  have hfirst' : ∀ e : BucketKey, monthKey C e = k → firstMonthSummed C now ≤ e.2 := by
    intro e he
    have hsame : C.monthStart e.2 = C.monthStart d.2 := congrArg Prod.snd (he.trans hdk.symm)
    calc firstMonthSummed C now = C.monthStart (firstMonthSummed C now) :=
          (C.monthStart_monthsBefore 2 now).symm
      _ ≤ C.monthStart d.2 := C.monthStart_mono _ _ hfirst
      _ = C.monthStart e.2 := hsame.symm
      _ ≤ e.2 := C.monthStart_le _
  refine ⟨?_, hdk ▸ hc.months d hd hfirst⟩
  rw [TrafficStore.monthSums, Buckets.regroup, map_sum, monthTotal]
  refine Finset.sum_congr (Finset.filter_congr fun e _ => ?_) fun _ _ => rfl
  exact ⟨And.right, fun he => ⟨hfirst' e he, he⟩⟩

/-- What the months hold after they have been summed up: no less than before,
    and no more than their days, also those that were deleted. -/
theorem bytes_months (hs : Inv C s) (hc : s.Complete C policy now) {k : BucketKey}
    (hk : k ∈ ((s.store.monthSums C policy now).upsert s.store.months).keys) :
    (∀ u, s.store.months.lookup k = some u →
        u.bytes ≤ (((s.store.monthSums C policy now).upsert s.store.months).value k).bytes) ∧
      (((s.store.monthSums C policy now).upsert s.store.months).value k).bytes ≤
        monthTotal C (s.store.daysSummed C policy now) k + s.goneDays k := by
  have hdays : monthTotal C s.store.days k ≤ monthTotal C (s.store.daysSummed C policy now) k :=
    monthTotal_days_le hs hc k
  by_cases hnew : k ∈ (s.store.monthSums C policy now).keys
  · obtain ⟨hbytes, hgone⟩ := bytes_monthSums hc hnew
    rw [Buckets.value_upsert_of_mem _ hnew, hbytes, hgone, add_zero]
    refine ⟨fun u hu => ?_, le_rfl⟩
    obtain ⟨hold, rfl⟩ := Buckets.lookup_eq_some.1 hu
    have hmonth := hs.months k hold
    rw [hgone, add_zero] at hmonth
    exact hmonth.trans hdays
  · have hold : k ∈ s.store.months.keys := (Finset.mem_union.1 hk).resolve_left hnew
    rw [Buckets.value_upsert_of_notMem _ hnew]
    refine ⟨fun u hu => ?_, (hs.months k hold).trans (by gcongr)⟩
    obtain ⟨-, rfl⟩ := Buckets.lookup_eq_some.1 hu
    exact le_rfl

/-- The days of a month are those that a run keeps and those that it deletes. -/
theorem monthTotal_keep_add (days : Buckets BucketKey Usage) (p : BucketKey → Prop)
    [DecidablePred p] (k : BucketKey) :
    monthTotal C (days.keep p) k + monthTotal C (days.keep fun d => ¬p d) k =
      monthTotal C days k := by
  unfold monthTotal Buckets.keep
  rw [Finset.filter_filter, Finset.filter_filter]
  simp only [and_comm (b := monthKey C _ = k)]
  rw [← Finset.filter_filter, ← Finset.filter_filter]
  exact Finset.sum_filter_add_sum_filter_not _ _ _

/-- What an event that is a run has done. -/
theorem next_run (h : (Event.run policy now).next C s = some t) :
    t.store.snapshots = s.store.recent policy now ∧
      t.store.hours = (s.store.hoursSummed C policy now).keep
        (fun k => policy.hourLimit C now ≤ k.2) ∧
      t.store.days = (s.store.daysSummed C policy now).keep
        (fun k => policy.dayLimit C now ≤ k.2) ∧
      t.store.months = (s.store.monthSums C policy now).upsert s.store.months ∧
      t.gone = s.goneAt policy now ∧ t.seen = t.store.snapshots.length ∧
      t.counted = s.counted ++ s.store.recent policy now ∧
      ∀ k, t.goneDays k = s.goneDays k + monthTotal C
        ((s.store.daysSummed C policy now).keep fun d => ¬policy.dayLimit C now ≤ d.2) k := by
  cases hrun : aggregateAndRetainTraffic C policy now s.store with
  | error e => simp [Event.next, hrun] at h
  | ok result =>
    obtain ⟨result, tables⟩ := result
    obtain ⟨hsnapshots, hhours, hdays, hmonths⟩ := aggregateAndRetainTraffic_ok hrun
    simp only [Event.next, hrun, Option.some.injEq] at h
    cases h
    exact ⟨hsnapshots, hhours, hdays, hmonths, rfl, rfl, rfl, fun _ => rfl⟩

/-- After a run everything that was stored is from before the last run. -/
theorem past_perm (h : (Event.run policy now).next C s = some t) : t.past.Perm s.stored := by
  obtain ⟨hsnapshots, -, -, -, hgone, hseen, -⟩ := next_run h
  rw [past, hseen, List.take_length, hsnapshots, hgone]
  exact goneAt_append_recent_perm policy now s

/-- A run that finds everything complete keeps the invariant. -/
theorem Inv.run (hs : Inv C s) (hc : s.Complete C policy now)
    (h : (Event.run policy now).next C s = some t) : Inv C t := by
  have hpast := past_perm h
  obtain ⟨hsnapshots, hhours, hdays, hmonths, hgone, hseen, hcounted, hgoneDays⟩ := next_run h
  have hstored : t.stored.Perm s.stored := by
    rw [stored, hgone, hsnapshots]
    exact goneAt_append_recent_perm policy now s
  constructor
  case seen => exact hseen.le
  case nonneg => exact fun a ha => hs.nonneg a (hstored.mem_iff.1 ha)
  case counted =>
    intro a ha
    rw [hcounted]
    rcases List.mem_append.1 ((stored_eq s) ▸ hpast.mem_iff.1 ha) with hold | hfresh
    · exact List.mem_append_left _ (hs.counted a hold)
    · refine List.mem_append_right _ (List.mem_filter.2 ⟨List.mem_of_mem_drop hfresh, ?_⟩)
      simpa using hc.fresh a hfresh
  case hours =>
    intro k hk
    rw [hhours] at hk ⊢
    obtain ⟨hk, hkept⟩ := Finset.mem_filter.1 hk
    rw [hourTotal_perm hpast]
    exact bytes_hoursSummed hs hc hk (.inl hkept)
  case days =>
    intro k hk
    rw [hdays] at hk ⊢
    rw [dayTotal_perm hpast]
    exact (bytes_daysSummed hs hc (Finset.mem_filter.1 hk).1).2.2
  case daysNonneg =>
    intro k hk
    rw [hdays] at hk ⊢
    exact (bytes_daysSummed hs hc (Finset.mem_filter.1 hk).1).2.1
  case months =>
    intro k hk
    rw [hmonths] at hk ⊢
    rw [hgoneDays, hdays, add_left_comm, monthTotal_keep_add, add_comm]
    exact (bytes_months hs hc hk).2
  case goneDaysNonneg =>
    intro k
    rw [hgoneDays]
    refine add_nonneg (hs.goneDaysNonneg k) (Finset.sum_nonneg fun d hd => ?_)
    exact (bytes_daysSummed hs hc (Finset.mem_filter.1 (Finset.mem_filter.1 hd).1).1).2.1

/-- An invariant of all runs whose events are admitted. -/
theorem inv_of_reaches (h : (system C).Reaches (Admits C) start s) : Inv C s := by
  refine h.invariant inv_start fun e s t hs hallow hstep => ?_
  cases e with
  | store row =>
    simp only [system, Event.next] at hstep
    split_ifs at hstep with hrow
    cases hstep
    exact hs.store hrow
  | run policy now => exact hs.run hallow hstep

/-- No total that is kept gets smaller. -/
def NotLower (old new : Buckets BucketKey Usage) : Prop :=
  ∀ k u v, old.lookup k = some u → new.lookup k = some v → u.bytes ≤ v.bytes

theorem notLower_hours (hs : Inv C s) (hc : s.Complete C policy now)
    (h : (Event.run policy now).next C s = some t) :
    NotLower s.store.hours t.store.hours := by
  intro k u v hu hv
  obtain ⟨hold, rfl⟩ := Buckets.lookup_eq_some.1 hu
  obtain ⟨hnew, rfl⟩ := Buckets.lookup_eq_some.1 hv
  rw [hs.hours k hold, (hs.run hc h).hours k hnew, hourTotal_perm (past_perm h)]
  exact hourTotal_past_le hs k

theorem notLower_days (hs : Inv C s) (hc : s.Complete C policy now)
    (h : (Event.run policy now).next C s = some t) :
    NotLower s.store.days t.store.days := by
  obtain ⟨-, -, hdays, -⟩ := next_run h
  intro k u v hu hv
  rw [hdays] at hv
  obtain ⟨hnew, rfl⟩ := Buckets.lookup_eq_some.1 hv
  exact (bytes_daysSummed hs hc (Finset.mem_filter.1 hnew).1).1 u hu

theorem notLower_months (hs : Inv C s) (hc : s.Complete C policy now)
    (h : (Event.run policy now).next C s = some t) :
    NotLower s.store.months t.store.months := by
  obtain ⟨-, -, -, hmonths, -⟩ := next_run h
  intro k u v hu hv
  rw [hmonths] at hv
  obtain ⟨hnew, rfl⟩ := Buckets.lookup_eq_some.1 hv
  exact (bytes_months hs hc hnew).1 u hu

theorem noneLost (hs : Inv C s) : s.NoneLost := fun a ha =>
  hs.counted a (List.mem_append_left _ ha)

/-- In every run of snapshots and of retention that always finds what it sums up
    again complete, every retained hour has all of its traffic, nothing is
    deleted before it is counted, and the next run lowers no total. -/
theorem retained_of_reaches (C : Calendar) {s : Retention}
    (h : (system C).Reaches (Admits C) start s) :
    s.HoursExact C ∧ s.NoneLost ∧
      ∀ policy now t, s.Complete C policy now → (system C).step (.run policy now) s t →
        NotLower s.store.hours t.store.hours ∧ NotLower s.store.days t.store.days ∧
          NotLower s.store.months t.store.months := by
  have hs := inv_of_reaches h
  refine ⟨fun k u hu => ?_, noneLost hs, fun policy now t hc hstep => ?_⟩
  · obtain ⟨hk, rfl⟩ := Buckets.lookup_eq_some.1 hu
    exact hs.hours k hk
  · exact ⟨notLower_hours hs hc hstep, notLower_days hs hc hstep, notLower_months hs hc hstep⟩

end Retention

end Calendar

namespace Retention

/-! ## Two runs -/

/-- The state after an event, which has no effect if it fails. -/
def Event.after (C : Calendar) (e : Event) (s : Retention) : Retention := (e.next C s).getD s

theorem Event.step_after {C : Calendar} {e : Event} {s : Retention}
    (h : (e.next C s).isSome = true) : (system C).step e s (e.after C s) := by
  obtain ⟨t, ht⟩ := Option.isSome_iff_exists.1 h
  change e.next C s = some (e.after C s)
  rw [after, ht, Option.getD_some]

/-- A policy that keeps snapshots for some hours. -/
def plainRetention (rawTrafficHours : ℤ) : RetentionPolicy where
  rawTrafficHours := rawTrafficHours
  hourlyDays := 90
  dailyMonths := 24

/-- Two snapshots of the plain peer in one hour, at ten and at fifty minutes. -/
def plainHour : Retention :=
  (Event.store (plainSnapshot 3000000 150 50 150)).after .utc
    ((Event.store (plainSnapshot 600000 100 100 100)).after .utc start)

theorem plainHour_reaches {admits : Event → Retention → Prop}
    (h : ∀ row s, admits (.store row) s) : (system .utc).Reaches admits start plainHour :=
  .tail (.tail .refl (h _ _) (Event.step_after (by decide +kernel))) (h _ _)
    (Event.step_after (by decide +kernel))

/-- A run within a day of the two snapshots finds their hour complete. -/
theorem plainHour_complete : plainHour.Complete .utc (plainRetention 24) 5400000 := by
  refine ⟨?_, ?_, ?_, ?_⟩ <;> decide +kernel

/-- The hour after that run. -/
def plainKept : Retention := (Event.run (plainRetention 24) 5400000).after .utc plainHour

/-- The hour is retained, with the traffic of both snapshots. -/
theorem retained_of_reaches_plainKept :
    plainKept.HoursExact .utc ∧ plainKept.NoneLost ∧
      ∀ policy now t, plainKept.Complete .utc policy now →
        (system .utc).step (.run policy now) plainKept t →
        NotLower plainKept.store.hours t.store.hours ∧
          NotLower plainKept.store.days t.store.days ∧
          NotLower plainKept.store.months t.store.months :=
  retained_of_reaches .utc <| .tail (a := .run (plainRetention 24) 5400000)
    (plainHour_reaches fun _ _ => trivial) plainHour_complete
    (Event.step_after (by decide +kernel))

/-- The hour is summed up at its end and again half an hour later, when only
    its second half is within the hour for which snapshots are kept. -/
theorem exists_not_hoursExact :
    ∃ s t, (system .utc).Reaches (fun _ _ => True) start s ∧
      (system .utc).step (.run (plainRetention 1) 5400000) s t ∧
      s.store.hours.lookup ("p1", 0) = some ⟨150, 0, 2⟩ ∧
      t.store.hours.lookup ("p1", 0) = some ⟨50, 0, 1⟩ ∧ ¬HoursExact .utc t := by
  refine ⟨(Event.run (plainRetention 1) 3300000).after .utc plainHour,
    (Event.run (plainRetention 1) 5400000).after .utc
      ((Event.run (plainRetention 1) 3300000).after .utc plainHour),
    .tail (plainHour_reaches fun _ _ => trivial) trivial (Event.step_after (by decide +kernel)),
    Event.step_after (by decide +kernel), by decide +kernel, by decide +kernel, fun hexact => ?_⟩
  have hhour := hexact ("p1", 0) ⟨50, 0, 1⟩ (by decide +kernel)
  exact absurd hhour (by decide +kernel)

end Retention

end WireguardPanel
