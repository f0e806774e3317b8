import WireguardPanel.Worker

/-!
# The health of the worker

Every run of a job of the worker is written down in the table `worker_job_health`: when it
begins, and what has become of it. A page and the health check of the container read the
table.

* `updateWorkerHealth`: one write. `HealthRow.summary` says what the row is after any number of
  writes (`foldr_updateWorkerHealth`).
* `TrackedWorker.next`: the worker of `Worker.next` together with `runTracked`, whose writes
  may fail, each for itself.
* `rows_eq_summary`: which rows there are in every run, however many writes fail.
* `schedulerStatus_spec`: what the health check answers, as long as no write fails: it
  names a failure if and only if the last run of a job has failed, and takes no worker for a
  stale one that is in time.
-/

namespace WireguardPanel

open Foundation

/-! ## The table -/

/-- `status`, of a job that has been started. -/
inductive JobStatus
  | running
  | healthy
  | degraded
  | failed
  deriving DecidableEq, Repr

/-- A row of `worker_job_health`. -/
structure HealthRow where
  status : JobStatus
  lastStartedAt : Option ℤ
  lastSuccessAt : Option ℤ
  lastFailureAt : Option ℤ
  lastError : Option String
  consecutiveFailures : ℕ
  nextRunAt : Option ℤ
  lastDurationMs : Option ℤ
  details : Json
  updatedAt : ℤ

/-- The input of `updateWorkerHealth`, its error as `redactError` leaves it. -/
structure HealthInput where
  status : JobStatus
  startedAt : Option ℤ := none
  success : Bool := false
  error : Option String := none
  nextRunAt : Option ℤ := none
  durationMs : Option ℤ := none
  details : Json := .obj []

/-- `updateWorkerHealth` at the time `now`: an `INSERT`, or the `UPDATE` of the row that is
    there. -/
def updateWorkerHealth (input : HealthInput) (now : ℤ) : Option HealthRow → HealthRow
  | none => {
      status := input.status
      lastStartedAt := input.startedAt
      lastSuccessAt := if input.success then some now else none
      lastFailureAt := if input.error.isSome then some now else none
      lastError := input.error
      consecutiveFailures := if input.error.isSome then 1 else 0
      nextRunAt := input.nextRunAt
      lastDurationMs := input.durationMs
      details := input.details.jsonb
      updatedAt := now }
  | some row => {
      status := input.status
      lastStartedAt := input.startedAt.or row.lastStartedAt
      lastSuccessAt := if input.success then some now else row.lastSuccessAt
      lastFailureAt := if input.error.isSome then some now else row.lastFailureAt
      lastError := input.error
      consecutiveFailures :=
        if input.success then 0
        else if input.error.isSome then row.consecutiveFailures + 1
        else row.consecutiveFailures
      nextRunAt := input.nextRunAt
      lastDurationMs := input.durationMs
      details := input.details.jsonb
      updatedAt := now }

@[simp] theorem updateWorkerHealth_status (input : HealthInput) (now : ℤ)
    (row : Option HealthRow) : (updateWorkerHealth input now row).status = input.status := by
  cases row <;> rfl

@[simp] theorem updateWorkerHealth_updatedAt (input : HealthInput) (now : ℤ)
    (row : Option HealthRow) : (updateWorkerHealth input now row).updatedAt = now := by
  cases row <;> rfl

/-- A write to the row of a job, and when it was done. -/
structure HealthWrite where
  input : HealthInput
  writtenAt : ℤ

/-- The row after some writes, the newest first: the failures that it counts are those
    since the last success. -/
def HealthRow.summary : List HealthWrite → Option HealthRow
  | [] => none
  | w :: writes => some {
      status := w.input.status
      lastStartedAt := (w :: writes).findSome? fun v => v.input.startedAt
      lastSuccessAt := ((w :: writes).find? fun v => v.input.success).map HealthWrite.writtenAt
      lastFailureAt :=
        ((w :: writes).find? fun v => v.input.error.isSome).map HealthWrite.writtenAt
      lastError := w.input.error
      consecutiveFailures :=
        ((w :: writes).takeWhile fun v => !v.input.success).countP fun v => v.input.error.isSome
      nextRunAt := w.input.nextRunAt
      lastDurationMs := w.input.durationMs
      details := w.input.details.jsonb
      updatedAt := w.writtenAt }

/-- A success is written without an error. -/
def HealthInput.Coherent (input : HealthInput) : Prop := input.success = true → input.error = none

/-- One write more. -/
theorem updateWorkerHealth_summary {w : HealthWrite} (hw : w.input.Coherent)
    (writes : List HealthWrite) :
    some (updateWorkerHealth w.input w.writtenAt (HealthRow.summary writes)) =
      HealthRow.summary (w :: writes) := by
  obtain ⟨input, writtenAt⟩ := w
  cases hsuccess : input.success with
  | true =>
    have herror : input.error = none := hw hsuccess
    cases writes <;> cases hstart : input.startedAt <;>
      simp [HealthRow.summary, updateWorkerHealth, List.takeWhile_cons, hsuccess, herror, hstart]
  | false =>
    cases writes <;> cases hstart : input.startedAt <;> cases herror : input.error <;>
      simp [HealthRow.summary, updateWorkerHealth, List.takeWhile_cons, hsuccess, herror, hstart]

/-! ## The runs -/

/-- What has become of a run: a value, as `safeDetails` leaves it, or an error. -/
inductive JobResult
  | returned (details : Json)
  | threw (error : String)

/-- The number of failures that a value reports. -/
def reportedFailures (details : Json) : ℤ :=
  match details.field "failed" with
  | some (.num n) => n
  | _ => 0

/-- Where `runTracked` is with the run of a job. -/
inductive Tracking
  | idle
  /-- Before the write of `running`. -/
  | announcing
  /-- While `job.run()` runs. -/
  | working
  /-- Before the write of what `job.run()` has returned. -/
  | reporting (input : HealthInput)
  /-- Before the write of an error. -/
  | failing (input : HealthInput)
  /-- Before the job is taken out of `active`. -/
  | closed

/-- The worker with the table that its runs are written to. The last three columns of the
    model are not stored: the writes of each job, the newest first, and its last result. -/
structure TrackedWorker where
  worker : Worker
  tracking : Job → Tracking
  rows : Job → Option HealthRow
  writes : Job → List HealthWrite
  last : Job → Option JobResult

/-- What happens to the worker and to its runs. A write has failed if there is an error. -/
inductive TrackedEvent
  | worker (a : WorkerEvent)
  | announce (job : Job) (error : Option String)
  | resolve (job : Job) (result : JobResult)
  | report (job : Job) (error : Option String)

namespace TrackedWorker

/-- The worker at its start. -/
def start (e : Env) (stored : Option Json) (now : ℤ) : TrackedWorker where
  worker := .start e stored now
  tracking _ := .idle
  rows _ := none
  writes _ := []
  last _ := none

variable (s : TrackedWorker) (job : Job)

/-- When the current run of a job began. -/
def startedAt : ℤ :=
  match (s.worker.jobs job).runs with
  | r :: _ => r.startedAt
  | [] => s.worker.now

/-- The write of `running`. -/
def runningInput : HealthInput where
  status := .running
  startedAt := some (s.startedAt job)
  nextRunAt := some (s.worker.jobs job).nextAt

/-- The write of a value without failures. -/
def healthyInput (details : Json) : HealthInput where
  status := .healthy
  success := true
  nextRunAt := some (s.worker.jobs job).nextAt
  durationMs := some (s.worker.now - s.startedAt job)
  details := details

/-- The write of a value with failures. -/
def degradedInput (details : Json) : HealthInput where
  status := .degraded
  error := some (toString (reportedFailures details) ++ " operation" ++
    (if reportedFailures details = 1 then "" else "s") ++ " failed.")
  nextRunAt := some (s.worker.jobs job).nextAt
  durationMs := some (s.worker.now - s.startedAt job)
  details := details

/-- The write of an error. -/
def failedInput (error : String) : HealthInput where
  status := .failed
  error := some error
  nextRunAt := some (s.worker.jobs job).nextAt
  durationMs := some (s.worker.now - s.startedAt job)

/-- The run goes on at `stage`. -/
def move (stage : Tracking) : TrackedWorker :=
  { s with tracking := Function.update s.tracking job stage }

/-- `job.run()` ends, and `runTracked` goes on at `stage`. -/
def resolve (result : JobResult) (stage : Tracking) : TrackedWorker :=
  { s.move job stage with last := Function.update s.last job (some result) }

/-- A write to the row of a job that does not fail. -/
def write (input : HealthInput) : TrackedWorker :=
  { s with
    rows := Function.update s.rows job
      (some (updateWorkerHealth input s.worker.now (s.rows job)))
    writes := Function.update s.writes job (⟨input, s.worker.now⟩ :: s.writes job) }

/-- The run of a job begins when the worker has started it, and is at its end when the
    worker has taken it out of `active`. -/
def follow (w : Worker) : TrackedWorker :=
  { s with
    worker := w
    tracking := fun job =>
      if (w.jobs job).active = (s.worker.jobs job).active then s.tracking job
      else if (w.jobs job).active then .announcing
      else .idle }

/-- The events of the worker that wait for a run: its end, and what the job that reads the
    settings has read. -/
def Allows : WorkerEvent → Prop
  | .settle job => s.tracking job = .closed
  | .refresh _ => s.tracking .performanceRefresh = .working
  | _ => True

/-- What an event makes of the worker and the table. -/
inductive Step (e : Env) : TrackedEvent → TrackedWorker → TrackedWorker → Prop
  | worker {a : WorkerEvent} {s : TrackedWorker} {w : Worker} (hallow : s.Allows a)
    (hstep : Worker.next e a s.worker = some w) : Step e (.worker a) s (s.follow w)
  | announced {s : TrackedWorker} {job : Job} (hstage : s.tracking job = .announcing) :
    Step e (.announce job none) s ((s.write job (s.runningInput job)).move job .working)
  /-- `.catch(() => undefined)`. -/
  | unannounced {s : TrackedWorker} {job : Job} (error : String)
    (hstage : s.tracking job = .announcing) :
    Step e (.announce job (some error)) s (s.move job .working)
  | healthy {s : TrackedWorker} {job : Job} {details : Json} (hstage : s.tracking job = .working)
    (hfine : reportedFailures details ≤ 0) :
    Step e (.resolve job (.returned details)) s
      (s.resolve job (.returned details) (.reporting (s.healthyInput job details)))
  | degraded {s : TrackedWorker} {job : Job} {details : Json} (hstage : s.tracking job = .working)
    (hfailures : 0 < reportedFailures details) :
    Step e (.resolve job (.returned details)) s
      (s.resolve job (.returned details) (.reporting (s.degradedInput job details)))
  | threw {s : TrackedWorker} {job : Job} {error : String} (hstage : s.tracking job = .working) :
    Step e (.resolve job (.threw error)) s
      (s.resolve job (.threw error) (.failing (s.failedInput job error)))
  | reported {s : TrackedWorker} {job : Job} {input : HealthInput}
    (hstage : s.tracking job = .reporting input) :
    Step e (.report job none) s ((s.write job input).move job .closed)
  /-- The `catch` clause also catches the error of this write. -/
  | unreported {s : TrackedWorker} {job : Job} {input : HealthInput} {error : String}
    (hstage : s.tracking job = .reporting input) :
    Step e (.report job (some error)) s (s.move job (.failing (s.failedInput job error)))
  | failed {s : TrackedWorker} {job : Job} {input : HealthInput}
    (hstage : s.tracking job = .failing input) :
    Step e (.report job none) s ((s.write job input).move job .closed)
  | unfailed {s : TrackedWorker} {job : Job} {input : HealthInput} {error : String}
    (hstage : s.tracking job = .failing input) :
    Step e (.report job (some error)) s (s.move job .closed)

/-- The runs of the worker with its table. -/
def system (e : Env) : System TrackedWorker TrackedEvent where
  step := Step e

/-- The rows are those of the writes, and what is about to be written is coherent. -/
structure Written (s : TrackedWorker) : Prop where
  rows : ∀ job, s.rows job = HealthRow.summary (s.writes job)
  coherent : ∀ job input, s.tracking job = .reporting input ∨ s.tracking job = .failing input →
    input.Coherent

namespace Written

variable {s : TrackedWorker} {job : Job}

theorem move (h : s.Written) {stage : Tracking}
    (hstage : ∀ input, stage = .reporting input ∨ stage = .failing input → input.Coherent) :
    (s.move job stage).Written := by
  refine ⟨h.rows, fun other input hother => ?_⟩
  by_cases heq : other = job
  · subst heq
    exact hstage input (by simpa [TrackedWorker.move] using hother)
  · exact h.coherent other input (by simpa [TrackedWorker.move, heq] using hother)

theorem resolve (h : s.Written) (result : JobResult) {stage : Tracking}
    (hstage : ∀ input, stage = .reporting input ∨ stage = .failing input → input.Coherent) :
    (s.resolve job result stage).Written := by
  have hmove : (s.move job stage).Written := h.move hstage
  exact ⟨hmove.rows, hmove.coherent⟩

theorem write (h : s.Written) {input : HealthInput} (hinput : input.Coherent) :
    (s.write job input).Written := by
  refine ⟨fun other => ?_, h.coherent⟩
  by_cases heq : other = job
  · subst heq
    simpa [TrackedWorker.write, h.rows] using
      updateWorkerHealth_summary (w := ⟨input, s.worker.now⟩) hinput (s.writes other)
  · simpa [TrackedWorker.write, heq] using h.rows other

/-- A run that begins or ends does not write. -/
theorem follow (h : s.Written) (w : Worker) : (s.follow w).Written := by
  refine ⟨h.rows, fun other input hother => h.coherent other input ?_⟩
  simp only [TrackedWorker.follow] at hother
  split_ifs at hother
  · exact hother
  · exact absurd hother (by simp)
  · exact absurd hother (by simp)

theorem step {e : Env} {a : TrackedEvent} {s' : TrackedWorker} (h : s.Written)
    (hstep : Step e a s s') : s'.Written := by
  cases hstep with
  | worker => exact h.follow _
  | @announced _ job =>
    have hinput : (s.runningInput job).Coherent := by simp [runningInput, HealthInput.Coherent]
    exact (h.write hinput).move (by simp)
  | unannounced => exact h.move (by simp)
  | healthy => exact h.resolve _ (by simp [healthyInput, HealthInput.Coherent])
  | degraded => exact h.resolve _ (by simp [degradedInput, HealthInput.Coherent])
  | threw => exact h.resolve _ (by simp [failedInput, HealthInput.Coherent])
  | reported hstage => exact (h.write (h.coherent _ _ (.inl hstage))).move (by simp)
  | unreported => exact h.move (by simp [failedInput, HealthInput.Coherent])
  | failed hstage => exact (h.write (h.coherent _ _ (.inr hstage))).move (by simp)
  | unfailed => exact h.move (by simp)

end Written

/-! ## The health check -/

end TrackedWorker

namespace Tracking

/-- The row says that the job is running. -/
def Busy : Tracking → Prop
  | working | reporting _ | failing _ => True
  | idle | announcing | closed => False

/-- The starts of a job that have been written down, if every write succeeds. -/
def announced (starts : List ℤ) : Tracking → List ℤ
  | announcing => starts.tail
  | _ => starts

end Tracking

/-- `scheduler.status`. -/
inductive SchedulerStatus
  | stale
  | failed
  | ok
  deriving DecidableEq, Repr

/-- When the last row was written. -/
def latestUpdate (rows : Job → Option HealthRow) : Option ℤ :=
  ((Job.all.filterMap rows).map HealthRow.updatedAt).max?

/-- What the health check answers about the worker. `warm` is `process.uptime()>120`. -/
def schedulerStatus (staleSeconds : ℤ) (warm : Bool) (now : ℤ) (rows : Job → Option HealthRow) :
    SchedulerStatus :=
  if warm && (latestUpdate rows).all fun latest => decide (staleSeconds * 1000 < now - latest) then
    .stale
  else if (Job.all.filterMap rows).countP (fun row => row.status = .failed) = 0 then .ok
  else .failed

theorem schedulerStatus_eq_failed_iff {staleSeconds : ℤ} {warm : Bool} {now : ℤ}
    {rows : Job → Option HealthRow} (h : schedulerStatus staleSeconds warm now rows ≠ .stale) :
    schedulerStatus staleSeconds warm now rows = .failed ↔
      ∃ job, ∃ row, rows job = some row ∧ row.status = .failed := by
  have hcount : (Job.all.filterMap rows).countP (fun row => row.status = .failed) = 0 ↔
      ¬ ∃ job, ∃ row, rows job = some row ∧ row.status = .failed := by
    rw [List.countP_eq_zero]
    constructor
    · rintro hnone ⟨job, row, hrow, hfailed⟩
      exact hnone row (List.mem_filterMap.2 ⟨job, job.mem_all, hrow⟩) (decide_eq_true hfailed)
    · intro hnone row hmem hfailed
      obtain ⟨job, -, hrow⟩ := List.mem_filterMap.1 hmem
      exact hnone ⟨job, row, hrow, of_decide_eq_true hfailed⟩
  unfold schedulerStatus at h ⊢
  split_ifs at h ⊢ with hstale hnone
  · exact absurd rfl h
  · exact iff_of_false (by simp) (hcount.1 hnone)
  · exact iff_of_true rfl (not_not.1 (mt hcount.2 hnone))

/-- In its first two minutes the panel takes no worker for a stale one. -/
theorem schedulerStatus_cold (staleSeconds now : ℤ) (rows : Job → Option HealthRow) :
    schedulerStatus staleSeconds false now rows ≠ .stale := by
  unfold schedulerStatus
  rw [Bool.false_and, if_neg Bool.false_ne_true]
  split_ifs <;> simp

/-- A row that is not old is enough. -/
theorem schedulerStatus_ne_stale {staleSeconds : ℤ} {warm : Bool} {now : ℤ}
    {rows : Job → Option HealthRow} {job : Job} {row : HealthRow} (hrow : rows job = some row)
    (hnow : now ≤ row.updatedAt + staleSeconds * 1000) :
    schedulerStatus staleSeconds warm now rows ≠ .stale := by
  have hmem : row.updatedAt ∈ (Job.all.filterMap rows).map HealthRow.updatedAt :=
    List.mem_map_of_mem (List.mem_filterMap.2 ⟨job, job.mem_all, hrow⟩)
  have hfresh : (latestUpdate rows).all
      (fun latest => decide (staleSeconds * 1000 < now - latest)) = false := by
    unfold latestUpdate
    cases hmax : ((Job.all.filterMap rows).map HealthRow.updatedAt).max? with
    | none => exact absurd (List.max?_eq_none_iff.1 hmax ▸ hmem) (List.not_mem_nil)
    | some latest =>
      have hle : row.updatedAt ≤ latest := (List.max?_eq_some_iff.1 hmax).2 _ hmem
      simp only [Option.all_some, decide_eq_false_iff_not, not_lt]
      omega
  unfold schedulerStatus
  rw [hfresh, Bool.and_false, if_neg Bool.false_ne_true]
  split_ifs <;> simp

namespace TrackedWorker

/-- Time goes on, as `Worker.InTime` says and not beyond the write of `running`, and no write
    fails. -/
def Punctual (limit : Job → ℤ) (slack delay : ℤ) : TrackedEvent → TrackedWorker → Prop
  | .worker a, s =>
    Worker.InTime limit slack a s.worker ∧
      ∀ ms, a = .wait ms → 0 ≤ ms ∧ ∀ job, s.tracking job = .announcing →
        ∀ t ∈ (s.worker.jobs job).starts.head?, s.worker.now + ms ≤ t + delay
  | .announce _ error, _ => error = none
  | .report _ error, _ => error = none
  | .resolve .., _ => True

/-- What the row of a job has to do with the job, when no write fails. -/
structure Reported (delay now : ℤ) (j : Periodic) (stage : Tracking) (row : Option HealthRow)
    (last : Option JobResult) : Prop where
  idle_iff : stage = .idle ↔ j.active = false
  began : ∀ t ∈ j.starts.head?, t ≤ now
  announcing : stage = .announcing → ∀ t ∈ j.starts.head?, now ≤ t + delay
  fresh : ∀ t ∈ (stage.announced j.starts).head?, ∃ r, row = some r ∧ t ≤ r.updatedAt
  busy : stage.Busy → ∃ r, row = some r ∧ r.status = .running
  settled : ¬ stage.Busy →
    ((∃ r, row = some r ∧ r.status = .failed) ↔ ∃ error, last = some (.threw error))
  reporting : ∀ input, stage = .reporting input →
    input.status ≠ .failed ∧ ∀ error, last ≠ some (.threw error)
  failing : ∀ input, stage = .failing input →
    input.status = .failed ∧ ∃ error, last = some (.threw error)

namespace Reported

variable {delay now : ℤ} {j : Periodic} {stage : Tracking} {row : Option HealthRow}
  {last : Option JobResult}

/-- Before anything has happened. -/
theorem unstarted (time : ℤ) : Reported delay now { nextAt := time } .idle none none where
  idle_iff := by simp
  began := by simp [Periodic.starts]
  announcing := by simp
  fresh := by simp [Periodic.starts, Tracking.announced]
  busy hbusy := hbusy.elim
  settled := by simp
  reporting := by simp
  failing := by simp

theorem wait (h : Reported delay now j stage row last) {ms : ℤ} (hms : 0 ≤ ms)
    (hannouncing : stage = .announcing → ∀ t ∈ j.starts.head?, now + ms ≤ t + delay) :
    Reported delay (now + ms) j stage row last :=
  { h with
    began := fun t ht => (h.began t ht).trans (le_add_of_nonneg_right hms)
    announcing := hannouncing }

/-- The worker starts the job. -/
theorem launch (h : Reported delay now j stage row last) (hdelay : 0 ≤ delay)
    (hidle : j.active = false) (interval : ℤ) :
    Reported delay now ⟨now + interval, true, ⟨now, interval, none⟩ :: j.runs⟩ .announcing row
      last := by
  obtain rfl := h.idle_iff.2 hidle
  refine ⟨by simp, ?_, ?_, h.fresh, fun hbusy => hbusy.elim, fun _ => h.settled id, by simp,
    by simp⟩
  · intro t ht
    cases ht
    exact le_rfl
  · intro _ t ht
    cases ht
    exact le_add_of_nonneg_right hdelay

/-- `running` is written. -/
theorem announce (h : Reported delay now j .announcing row last) {r : HealthRow}
    (hr : r.updatedAt = now) (hstatus : r.status = .running) :
    Reported delay now j .working (some r) last where
  idle_iff := iff_of_false (by simp) fun hidle => absurd (h.idle_iff.2 hidle) (by simp)
  began := h.began
  announcing := by simp
  fresh t ht := ⟨r, rfl, hr ▸ h.began t ht⟩
  busy _ := ⟨r, rfl, hstatus⟩
  settled hbusy := absurd trivial hbusy
  reporting := by simp
  failing := by simp

/-- `job.run()` returns. -/
theorem returned (h : Reported delay now j .working row last) (input : HealthInput)
    (hinput : input.status ≠ .failed) (details : Json) :
    Reported delay now j (.reporting input) row (some (.returned details)) where
  idle_iff := iff_of_false (by simp) fun hidle => absurd (h.idle_iff.2 hidle) (by simp)
  began := h.began
  announcing := by simp
  fresh := h.fresh
  busy _ := h.busy trivial
  settled hbusy := absurd trivial hbusy
  reporting _ heq := by
    cases heq
    exact ⟨hinput, by simp⟩
  failing := by simp

/-- `job.run()` throws. -/
theorem threw (h : Reported delay now j .working row last) (input : HealthInput)
    (hinput : input.status = .failed) (error : String) :
    Reported delay now j (.failing input) row (some (.threw error)) where
  idle_iff := iff_of_false (by simp) fun hidle => absurd (h.idle_iff.2 hidle) (by simp)
  began := h.began
  announcing := by simp
  fresh := h.fresh
  busy _ := h.busy trivial
  settled hbusy := absurd trivial hbusy
  reporting := by simp
  failing _ heq := by
    cases heq
    exact ⟨hinput, error, rfl⟩

/-- The result is written. -/
theorem report (h : Reported delay now j stage row last) (hbusy : stage.Busy) {r : HealthRow}
    (hr : r.updatedAt = now)
    (hstatus : r.status = .failed ↔ ∃ error, last = some (.threw error)) :
    Reported delay now j .closed (some r) last where
  idle_iff := by
    refine iff_of_false (by simp) fun hidle => ?_
    rw [h.idle_iff.2 hidle] at hbusy
    exact hbusy
  began := h.began
  announcing := by simp
  fresh t ht := ⟨r, rfl, hr ▸ h.began t ht⟩
  busy hbusy := hbusy.elim
  settled _ := by simpa using hstatus
  reporting := by simp
  failing := by simp

/-- The job is taken out of `active`. -/
theorem settle (h : Reported delay now j .closed row last) (time : ℤ) :
    Reported delay now (j.finish time) .idle row last where
  idle_iff := by simp
  began := by simpa using h.began
  announcing := by simp
  fresh := by simpa [Tracking.announced] using h.fresh
  busy hbusy := hbusy.elim
  settled _ := h.settled id
  reporting := by simp
  failing := by simp

end Reported

/-- The table tells the state of every job. -/
structure UpToDate (e : Env) (limit : Job → ℤ) (slack delay started : ℤ) (s : TrackedWorker) :
    Prop where
  keepsUp : Worker.KeepsUp e limit slack started s.worker
  reported : ∀ job, Reported delay s.worker.now (s.worker.jobs job) (s.tracking job) (s.rows job)
    (s.last job)

namespace UpToDate

variable {e : Env} {limit : Job → ℤ} {slack delay started : ℤ} {s s' : TrackedWorker}

theorem start (stored : Option Json) (now : ℤ) (hslack : 0 ≤ slack) :
    UpToDate e limit slack delay now (start e stored now) :=
  ⟨.start stored now hslack, fun _ => .unstarted _⟩

/-- An event of the worker, and what it does to the runs. -/
theorem follow (h : UpToDate e limit slack delay started s) (hslack : 0 ≤ slack)
    (hlimit : ∀ job, 0 ≤ limit job) (hdelay : 0 ≤ delay) {a : WorkerEvent} {w : Worker}
    (ha : Punctual limit slack delay (.worker a) s) (hallow : s.Allows a)
    (hnext : Worker.next e a s.worker = some w) :
    UpToDate e limit slack delay started (s.follow w) := by
  refine ⟨h.keepsUp.next hslack hlimit ha.1 hnext, fun job => ?_⟩
  have hjob := h.reported job
  -- A job that is as active as before is where it was.
  have hsame : (w.jobs job).active = (s.worker.jobs job).active →
      (s.follow w).tracking job = s.tracking job := fun heq => if_pos heq
  cases Worker.changes_of_next hnext with
  | wait ms =>
    rw [hsame rfl]
    obtain ⟨hms, hannouncing⟩ := ha.2 ms rfl
    exact hjob.wait hms (hannouncing job)
  | signal | leave | refresh | close =>
    rw [hsame rfl]
    exact hjob
  | visit =>
    obtain ⟨heq, -⟩ | ⟨heq, -, hidle⟩ := (s.worker.jobs job).launch_cases
      (job.intervalMs e s.worker.performance) s.worker.now
    · have hjobs : (s.worker.launchAll e).jobs job = s.worker.jobs job := heq
      rw [hsame (by rw [hjobs])]
      exact hjobs.symm ▸ hjob
    · have hjobs : (s.worker.launchAll e).jobs job = ⟨_, true, ⟨_, _, none⟩ :: _⟩ := heq
      have hstage : (s.follow (s.worker.launchAll e)).tracking job = .announcing := by
        simp [TrackedWorker.follow, hjobs, hidle]
      rw [hstage]
      exact hjobs.symm ▸ hjob.launch hdelay hidle _
  | settle other =>
    by_cases hother : job = other
    · subst hother
      have hclosed : s.tracking job = .closed := hallow
      have hactive : (s.worker.jobs job).active = true := by
        rw [← Bool.not_eq_false]
        intro hidle
        exact absurd (hclosed.symm.trans (hjob.idle_iff.2 hidle)) (by simp)
      have hstage : (s.follow (s.worker.finish job)).tracking job = .idle := by
        simp [TrackedWorker.follow, Worker.finish, hactive]
      have hjobs : (s.worker.finish job).jobs job = (s.worker.jobs job).finish s.worker.now := by
        simp [Worker.finish]
      rw [hclosed] at hjob
      rw [hstage]
      exact hjobs.symm ▸ hjob.settle _
    · have hjobs : (s.worker.finish other).jobs job = s.worker.jobs job := by
        simp [Worker.finish, hother]
      rw [hsame (by rw [hjobs])]
      exact hjobs.symm ▸ hjob

/-- An event of one run leaves the other jobs alone. -/
theorem of_job (h : UpToDate e limit slack delay started s) (job : Job)
    (hworker : s'.worker = s.worker)
    (hother : ∀ other, other ≠ job → s'.tracking other = s.tracking other ∧
      s'.rows other = s.rows other ∧ s'.last other = s.last other)
    (hjob : Reported delay s.worker.now (s.worker.jobs job) (s'.tracking job) (s'.rows job)
      (s'.last job)) :
    UpToDate e limit slack delay started s' := by
  refine ⟨hworker ▸ h.keepsUp, fun other => ?_⟩
  rw [hworker]
  by_cases heq : other = job
  · exact heq ▸ hjob
  · obtain ⟨htracking, hrow, hlast⟩ := hother other heq
    rw [htracking, hrow, hlast]
    exact h.reported other

theorem step (h : UpToDate e limit slack delay started s) (hslack : 0 ≤ slack)
    (hlimit : ∀ job, 0 ≤ limit job) (hdelay : 0 ≤ delay) {a : TrackedEvent}
    (ha : Punctual limit slack delay a s) (hstep : Step e a s s') :
    UpToDate e limit slack delay started s' := by
  cases hstep with
  | worker hallow hnext => exact h.follow hslack hlimit hdelay ha hallow hnext
  | unannounced | unreported | unfailed => exact absurd ha (by simp [Punctual])
  | @announced _ job hstage =>
    have hjob := h.reported job
    rw [hstage] at hjob
    refine h.of_job job rfl (fun other hne => by simp [move, write, hne]) ?_
    simpa [move, write] using hjob.announce (r := updateWorkerHealth (s.runningInput job) _ _)
      (by simp) (by simp [runningInput])
  | @healthy _ job details hstage =>
    have hjob := h.reported job
    rw [hstage] at hjob
    refine h.of_job job rfl (fun other hne => by simp [move, resolve, hne]) ?_
    simpa [move, resolve] using
      hjob.returned (s.healthyInput job details) (by simp [healthyInput]) details
  | @degraded _ job details hstage =>
    have hjob := h.reported job
    rw [hstage] at hjob
    refine h.of_job job rfl (fun other hne => by simp [move, resolve, hne]) ?_
    simpa [move, resolve] using
      hjob.returned (s.degradedInput job details) (by simp [degradedInput]) details
  | @threw _ job error hstage =>
    have hjob := h.reported job
    rw [hstage] at hjob
    refine h.of_job job rfl (fun other hne => by simp [move, resolve, hne]) ?_
    simpa [move, resolve] using hjob.threw (s.failedInput job error) (by simp [failedInput]) error
  | @reported _ job input hstage =>
    obtain ⟨hinput, hlast⟩ := (h.reported job).reporting input hstage
    refine h.of_job job rfl (fun other hne => by simp [move, write, hne]) ?_
    simpa [move, write] using (h.reported job).report (r := updateWorkerHealth input _ _)
      (hstage ▸ trivial) (by simp) (by simpa [hinput] using hlast)
  | @failed _ job input hstage =>
    obtain ⟨hinput, hlast⟩ := (h.reported job).failing input hstage
    refine h.of_job job rfl (fun other hne => by simp [move, write, hne]) ?_
    simpa [move, write] using (h.reported job).report (r := updateWorkerHealth input _ _)
      (hstage ▸ trivial) (by simp) (by simpa [hinput] using hlast)

/-- How old the row of a job can be while the worker has not been told to stop. -/
theorem now_le (h : UpToDate e limit slack delay started s) (hdelay : 0 ≤ delay)
    (hgo : s.worker.stopping = false) (job : Job) (bound : ℤ)
    (hbound : ∀ p, job.intervalMs e p ≤ bound) (hlimit : limit job ≤ bound) :
    s.worker.now ≤ started + job.firstMs + slack + delay ∨
      ∃ row, s.rows job = some row ∧ s.worker.now ≤ row.updatedAt + bound + slack + delay := by
  have hjob := h.reported job
  have hprompt := h.keepsUp.prompt job
  have horderly := h.keepsUp.orderly job
  have hnow := h.keepsUp.now_le hgo job
  have hinterval : ∀ r ∈ (s.worker.jobs job).runs, r.interval ≤ bound := fun r hr => by
    obtain ⟨p, hp⟩ := horderly.intervals r hr
    exact hp ▸ hbound p
  cases hruns : (s.worker.jobs job).runs with
  | nil =>
    rw [Periodic.deadline, hruns] at hnow
    have hdue := hprompt.due hruns
    exact .inl (by simp only at hnow; omega)
  | cons r runs =>
    have hr := hinterval r (by simp [hruns])
    by_cases hstage : s.tracking job = .announcing
    · have hlate := hjob.announcing hstage r.startedAt (by simp [Periodic.starts, hruns])
      cases runs with
      | nil =>
        have hfirst := hprompt.first_le r (by simp [hruns])
        exact .inl (by omega)
      | cons r' runs =>
        -- The row is still that of the run before.
        have hr' := hinterval r' (by simp [hruns])
        have hfollows := hprompt.follows
        rw [hruns] at hfollows
        have hlater : Periodic.Follows (limit job) slack r r' :=
          (List.isChain_cons_cons.1 hfollows).1
        obtain ⟨row, hrow, hwritten⟩ := hjob.fresh r'.startedAt (by
          rw [hstage]
          simp [Tracking.announced, Periodic.starts, hruns])
        rw [Periodic.Follows] at hlater
        exact .inr ⟨row, hrow, by omega⟩
    · have hnext := horderly.next r (by simp [hruns])
      obtain ⟨row, hrow, hwritten⟩ := hjob.fresh r.startedAt (by
        have hall : (s.tracking job).announced (s.worker.jobs job).starts =
            (s.worker.jobs job).starts := by
          cases hcase : s.tracking job <;> first | rfl | exact absurd hcase hstage
        rw [hall]
        simp [Periodic.starts, hruns])
      rw [Periodic.deadline, hruns] at hnow
      exact .inr ⟨row, hrow, by simp only at hnow; omega⟩

end UpToDate

end TrackedWorker

open TrackedWorker in
/-- However many writes fail, the row of a job is the summary of those that did not: its
    status is that of the last one, and its failures are those since the last success. -/
theorem rows_eq_summary {e : Env} {admits : TrackedEvent → TrackedWorker → Prop}
    {stored : Option Json} {started : ℤ} {s : TrackedWorker}
    (h : (TrackedWorker.system e).Reaches admits (start e stored started) s) (job : Job) :
    s.rows job = HealthRow.summary (s.writes job) := by
  have hwritten : s.Written := h.invariant ⟨fun _ => rfl, by simp [start]⟩
    fun a t t' ht _ hstep => ht.step hstep
  exact hwritten.rows job

open TrackedWorker in
/-- The beginning of the run could not be written, its failure could. -/
theorem rows_eq_summary_unannounced :
    ∃ s, (TrackedWorker.system {}).Reaches (fun _ _ => True) (start {} none 0) s ∧
      s.rows .routerHealth = HealthRow.summary (s.writes .routerHealth) ∧
      (s.rows .routerHealth).map HealthRow.lastStartedAt = some none := by
  have hlaunched : (TrackedWorker.system {}).Reaches (fun _ _ => True)
      (start {} none 0) ((start {} none 0).follow ((Worker.start {} none 0).launchAll {})) :=
    .tail .refl (a := .worker .iterate) trivial (Step.worker trivial rfl)
  have hunannounced := hlaunched.tail trivial (@Step.unannounced {} _ .routerHealth "Timeout." rfl)
  have hthrew := hunannounced.tail trivial (@Step.threw {} _ .routerHealth "No route." rfl)
  have hwritten := hthrew.tail trivial (@Step.failed {} _ .routerHealth _ rfl)
  exact ⟨_, hwritten, rows_eq_summary hwritten .routerHealth, rfl⟩

open TrackedWorker in
/-- While no write fails, the health check names a failure just when the last run of a job
    that is not running has thrown an error; and while the worker is in time and has not been
    told to stop, it is not taken for stale, if that is said to begin no earlier than a
    minute, the longest time that the settings take to be read, and the delays together. -/
theorem schedulerStatus_spec {e : Env} {limit : Job → ℤ} {slack delay : ℤ}
    (hlimit : ∀ job, 0 ≤ limit job) (hslack : 0 ≤ slack) (hdelay : 0 ≤ delay)
    {stored : Option Json} {started : ℤ} {s : TrackedWorker}
    (h : (TrackedWorker.system e).Reaches (Punctual limit slack delay) (start e stored started) s)
    (staleSeconds : ℤ) (warm : Bool) :
    (schedulerStatus staleSeconds warm s.worker.now s.rows ≠ .stale →
      (schedulerStatus staleSeconds warm s.worker.now s.rows = .failed ↔
        ∃ job, ¬ (s.tracking job).Busy ∧ ∃ error, s.last job = some (.threw error))) ∧
    (s.worker.stopping = false → started + 60000 + slack + delay < s.worker.now →
      max 60000 (limit .performanceRefresh) + slack + delay ≤ staleSeconds * 1000 →
      schedulerStatus staleSeconds warm s.worker.now s.rows ≠ .stale) := by
  have hup : UpToDate e limit slack delay started s := h.invariant (.start stored started hslack)
    fun a t t' ht ha hstep => ht.step hslack hlimit hdelay ha hstep
  refine ⟨fun hstale => ?_, fun hgo hwarm hbound => ?_⟩
  · rw [schedulerStatus_eq_failed_iff hstale]
    refine exists_congr fun job => ?_
    have hjob := hup.reported job
    by_cases hbusy : (s.tracking job).Busy
    · obtain ⟨row, hrow, hrunning⟩ := hjob.busy hbusy
      refine iff_of_false ?_ fun hidle => hidle.1 hbusy
      rintro ⟨row', hrow', hfailed⟩
      rw [Option.some.inj (hrow.symm.trans hrow'), hfailed] at hrunning
      exact absurd hrunning (by simp)
    · rw [hjob.settled hbusy]
      exact ⟨fun hthrew => ⟨hbusy, hthrew⟩, And.right⟩
  · have hfirst : Job.performanceRefresh.firstMs = 60000 := rfl
    obtain hearly | ⟨row, hrow, hnow⟩ := hup.now_le hdelay hgo .performanceRefresh
      (max 60000 (limit .performanceRefresh)) (fun _ => le_max_left ..) (le_max_right ..)
    · omega
    · exact schedulerStatus_ne_stale hrow (by omega)

open TrackedWorker in
/-- A first run of the job that visits the routers, which throws. -/
theorem schedulerStatus_spec_threw :
    ∃ s, (TrackedWorker.system {}).Reaches (Punctual (fun _ => 1000) 2000 500)
        (start {} none 0) s ∧
      schedulerStatus 900 false s.worker.now s.rows = .failed := by
  have hlaunched : (TrackedWorker.system {}).Reaches (Punctual (fun _ => 1000) 2000 500)
      (start {} none 0) ((start {} none 0).follow ((Worker.start {} none 0).launchAll {})) :=
    .tail .refl (a := .worker .iterate) ⟨trivial, by simp⟩ (Step.worker trivial rfl)
  have hannounced := hlaunched.tail (a := TrackedEvent.announce .routerHealth none) rfl
    (@Step.announced {} _ .routerHealth rfl)
  have hthrew := hannounced.tail (a := TrackedEvent.resolve .routerHealth (.threw "No route."))
    trivial (@Step.threw {} _ .routerHealth "No route." rfl)
  have hwritten := hthrew.tail (a := TrackedEvent.report .routerHealth none) rfl
    (@Step.failed {} _ .routerHealth _ rfl)
  have hspec := schedulerStatus_spec (fun _ => by decide) (by decide) (by decide) hwritten 900 false
  exact ⟨_, hwritten, (hspec.1 (schedulerStatus_cold _ _ _)).2 ⟨.routerHealth, id, _, rfl⟩⟩

end WireguardPanel
