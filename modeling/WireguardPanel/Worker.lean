import WireguardPanel.Foundation.Periodic
import WireguardPanel.Foundation.System
import WireguardPanel.PerformanceSettings

/-!
# The worker

The process that runs the jobs of the panel in the background: a loop that comes round every
second and starts every job that is due and not running, and the end of the process after
a signal.

* `Job`: the jobs, with their intervals. All but two of them are settings, which a job of
  their own reads again every minute.
* `Worker.next`: what the loop, the jobs, the signal and the clock do. The clock may be set
  to any time.
* `worker_orderly`: no job runs twice at the same time or before its interval is over,
  whatever is stored; no job starts after a signal, and none runs when the connections to the
  database are closed.
* `worker_prompt`: no job is forgotten. If the loop comes round in time and the runs end
  in time, every run begins in time.
-/

namespace WireguardPanel

open Foundation

/-! ## Jobs -/

/-- The jobs of `main`. -/
inductive Job
  | performanceRefresh
  | routerHealth
  | routerSync
  | trafficPoll
  | expirationEnforcement
  | bandwidthObservation
  | operationReconciliation
  | trafficRetention
  | maintenance
  deriving DecidableEq, Repr

namespace Job

/-- The jobs in the order of the loop. -/
def all : List Job :=
  [performanceRefresh, routerHealth, routerSync, trafficPoll, expirationEnforcement,
    bandwidthObservation, operationReconciliation, trafficRetention, maintenance]

theorem mem_all (job : Job) : job ∈ all := by cases job <;> decide

/-- How long after the start of the worker a job is first due. -/
def firstMs : Job → ℤ
  | performanceRefresh => 60000
  | routerHealth => 0
  | routerSync => 2000
  | trafficPoll => 4000
  | expirationEnforcement => 6000
  | bandwidthObservation => 8000
  | operationReconciliation => 10000
  | trafficRetention => 12000
  | maintenance => 14000

theorem firstMs_nonneg (job : Job) : 0 ≤ job.firstMs := by cases job <;> decide

/-- `intervalMs`. -/
def intervalMs (e : Env) (performance : PerformancePolicy) : Job → ℤ
  | performanceRefresh => 60000
  | routerHealth => performance.routerHealthSeconds * 1000
  | routerSync => performance.syncIntervalSeconds * 1000
  | trafficPoll => performance.trafficPollSeconds * 1000
  | expirationEnforcement => e.expirationIntervalSeconds * 1000
  | bandwidthObservation => performance.bandwidthSeconds * 1000
  | operationReconciliation => performance.operationReconciliationSeconds * 1000
  | trafficRetention => performance.trafficAggregationSeconds * 1000
  | maintenance => performance.maintenanceSeconds * 1000

/-- No job runs more often than every ten seconds. -/
theorem le_intervalMs {e : Env} (he : e.Accepted) {performance : PerformancePolicy}
    (h : performance.Valid) (job : Job) : 10000 ≤ job.intervalMs e performance := by
  have hpoll := h.trafficPoll.1
  have hsync := h.syncInterval.1
  have hhealth := h.routerHealth.1
  have hbandwidth := h.bandwidth.1
  have hoperations := h.operationReconciliation.1
  have haggregation := h.trafficAggregation.1
  have hmaintenance := h.maintenance.1
  have hexpiration := he.expirationInterval
  cases job <;> simp only [intervalMs] <;> omega

/-- No job but the one whose interval only the environment sets runs less often than every
    day. -/
theorem intervalMs_le {e : Env} {performance : PerformancePolicy} (h : performance.Valid)
    {job : Job} (hjob : job ≠ expirationEnforcement) :
    job.intervalMs e performance ≤ 86400000 := by
  have hpoll := h.trafficPoll.2
  have hsync := h.syncInterval.2
  have hhealth := h.routerHealth.2
  have hbandwidth := h.bandwidth.2
  have hoperations := h.operationReconciliation.2
  have haggregation := h.trafficAggregation.2
  have hmaintenance := h.maintenance.2
  cases job <;> simp only [intervalMs] at * <;> first | omega | exact absurd rfl hjob

end Job

/-! ## The process -/

/-- Where `main` is. -/
inductive Phase
  | running
  /-- The loop has been left, and waits for the runs of these jobs. -/
  | draining (waiting : List Job)
  /-- `pool.end()` has been called. -/
  | ended
  deriving DecidableEq, Repr

/-- The worker. `visited` is when the loop came round for the last time. -/
structure Worker where
  performance : PerformancePolicy
  jobs : Job → Periodic
  now : ℤ
  visited : ℤ
  stopping : Bool
  phase : Phase

/-- What happens to the worker. -/
inductive WorkerEvent
  /-- Time passes, or the clock is set. -/
  | wait (ms : ℤ)
  /-- `SIGINT` or `SIGTERM`. -/
  | signal
  /-- The loop comes round, or is left. -/
  | iterate
  /-- The job that reads the settings takes a policy. -/
  | refresh (stored : Option Json)
  /-- The run of a job ends. -/
  | settle (job : Job)
  /-- The last run has ended after the loop. -/
  | close

namespace Worker

/-- The worker when it begins its loop. -/
def start (e : Env) (stored : Option Json) (now : ℤ) : Worker where
  performance := (defaultPerformancePolicy e).getPerformancePolicy stored
  jobs job := { nextAt := now + job.firstMs }
  now := now
  visited := now
  stopping := false
  phase := .running

/-- `launch` for every job. -/
def launchAll (e : Env) (w : Worker) : Worker :=
  { w with
    jobs := fun job => (w.jobs job).launch (job.intervalMs e w.performance) w.now
    visited := w.now }

/-- The end of the run of `job`. -/
def finish (job : Job) (w : Worker) : Worker :=
  { w with jobs := Function.update w.jobs job ((w.jobs job).finish w.now) }

/-- `active`. -/
def active (w : Worker) : List Job := Job.all.filter fun job => (w.jobs job).active

theorem mem_active {w : Worker} {job : Job} : job ∈ w.active ↔ (w.jobs job).active = true := by
  simp [active, Job.mem_all]

/-- What an event makes of the worker, if it can happen. -/
def next (e : Env) : WorkerEvent → Worker → Option Worker
  | .wait ms, w => some { w with now := w.now + ms }
  | .signal, w => some { w with stopping := true }
  | .iterate, w =>
    if w.phase ≠ .running then none
    else if w.stopping then some { w with phase := .draining w.active }
    else some (w.launchAll e)
  | .refresh stored, w =>
    if (w.jobs .performanceRefresh).active then
      some { w with performance := (defaultPerformancePolicy e).getPerformancePolicy stored }
    else none
  | .settle job, w => if (w.jobs job).active then some (w.finish job) else none
  | .close, w =>
    match w.phase with
    | .draining waiting =>
      if waiting.all fun job => !(w.jobs job).active then some { w with phase := .ended } else none
    | _ => none

/-- The runs of the worker. -/
abbrev system (e : Env) : System Worker WorkerEvent := .ofNext (next e)

/-- All that the events do: they change the clock, the signal, the policy or the phase, or
    visit the jobs, or end a run. -/
inductive Changes (e : Env) : WorkerEvent → Worker → Worker → Prop
  | wait (ms : ℤ) {w : Worker} : Changes e (.wait ms) w { w with now := w.now + ms }
  | signal {w : Worker} : Changes e .signal w { w with stopping := true }
  | leave {w : Worker} (hphase : w.phase = .running) (hstop : w.stopping = true) :
    Changes e .iterate w { w with phase := .draining w.active }
  | visit {w : Worker} (hphase : w.phase = .running) (hgo : w.stopping = false) :
    Changes e .iterate w (w.launchAll e)
  | refresh (stored : Option Json) {w : Worker} :
    Changes e (.refresh stored) w
      { w with performance := (defaultPerformancePolicy e).getPerformancePolicy stored }
  | settle (job : Job) {w : Worker} : Changes e (.settle job) w (w.finish job)
  | close (waiting : List Job) {w : Worker} (hphase : w.phase = .draining waiting)
    (hended : ∀ job ∈ waiting, (w.jobs job).active = false) :
    Changes e .close w { w with phase := .ended }

theorem changes_of_next {e : Env} {a : WorkerEvent} {w w' : Worker} (h : next e a w = some w') :
    Changes e a w w' := by
  cases a with
  | wait ms =>
    cases h
    exact .wait ms
  | signal =>
    cases h
    exact .signal
  | iterate =>
    rw [next] at h
    split_ifs at h with hphase hstop <;> cases h
    · exact .leave (not_not.1 hphase) hstop
    · exact .visit (not_not.1 hphase) (Bool.eq_false_iff.2 hstop)
  | refresh stored =>
    rw [next] at h
    split_ifs at h
    cases h
    exact .refresh stored
  | settle job =>
    rw [next] at h
    split_ifs at h
    cases h
    exact .settle job
  | close =>
    rw [next] at h
    split at h
    · rename_i waiting hphase
      split_ifs at h with hended
      cases h
      exact .close waiting hphase (by simpa using hended)
    · cases h

/-! ## Order -/

/-- What is true of the worker whatever happens. -/
structure Sound (e : Env) (w : Worker) : Prop where
  performance : w.performance.Valid
  jobs : ∀ job, (w.jobs job).Orderly fun n => ∃ p : PerformancePolicy,
    p.Valid ∧ n = job.intervalMs e p
  draining : ∀ waiting, w.phase = .draining waiting →
    w.stopping = true ∧ ∀ job, (w.jobs job).active = true → job ∈ waiting
  ended : w.phase = .ended → w.stopping = true ∧ ∀ job, (w.jobs job).active = false

/-- A run that ends makes no other job active. -/
theorem active_of_active_finish {job other : Job} {w : Worker}
    (h : ((w.finish job).jobs other).active = true) : (w.jobs other).active = true := by
  by_cases heq : other = job
  · subst heq
    simp [finish] at h
  · simpa [finish, heq] using h

theorem Sound.start {e : Env} {stored : Option Json} (now : ℤ)
    (h : ((defaultPerformancePolicy e).getPerformancePolicy stored).Valid) :
    Sound e (start e stored now) where
  performance := h
  jobs _ := .unstarted _
  draining _ hphase := by cases hphase
  ended hphase := by cases hphase

theorem Sound.next {e : Env} (he : ∀ stored,
      ((defaultPerformancePolicy e).getPerformancePolicy stored).Valid)
    {a : WorkerEvent} {w w' : Worker} (hw : Sound e w) (h : next e a w = some w') :
    Sound e w' := by
  cases changes_of_next h with
  | wait ms => exact ⟨hw.performance, hw.jobs, hw.draining, hw.ended⟩
  | signal =>
    refine ⟨hw.performance, hw.jobs, fun waiting hphase => ⟨rfl, ?_⟩, fun hphase => ⟨rfl, ?_⟩⟩
    · exact (hw.draining waiting hphase).2
    · exact (hw.ended hphase).2
  | leave hphase hstop =>
    refine ⟨hw.performance, hw.jobs, fun waiting hleft => ⟨hstop, fun job hjob => ?_⟩,
      fun hended => by cases hended⟩
    cases hleft
    exact mem_active.2 hjob
  | visit hphase hgo =>
    refine ⟨hw.performance, fun job => (hw.jobs job).launch ⟨_, hw.performance, rfl⟩,
      fun waiting hleft => ?_, fun hended => ?_⟩
    · exact absurd (hphase.symm.trans hleft) (by simp)
    · exact absurd (hphase.symm.trans hended) (by simp)
  | refresh stored => exact ⟨he stored, hw.jobs, hw.draining, hw.ended⟩
  | settle job =>
    refine ⟨hw.performance, fun other => ?_, fun waiting hphase => ?_, fun hphase => ?_⟩
    · by_cases heq : other = job
      · subst heq
        simpa [finish] using (hw.jobs other).finish
      · simpa [finish, heq] using hw.jobs other
    · obtain ⟨hstop, hwaiting⟩ := hw.draining waiting hphase
      exact ⟨hstop, fun other hother => hwaiting other (active_of_active_finish hother)⟩
    · obtain ⟨hstop, hidle⟩ := hw.ended hphase
      refine ⟨hstop, fun other => Bool.eq_false_iff.2 fun hother => ?_⟩
      exact Bool.false_ne_true ((hidle other).symm.trans (active_of_active_finish hother))
  | close waiting hphase hended =>
    obtain ⟨hstop, hwaiting⟩ := hw.draining waiting hphase
    refine ⟨hw.performance, hw.jobs, fun _ hleft => absurd hleft (by simp),
      fun _ => ⟨hstop, fun job => ?_⟩⟩
    rw [Bool.eq_false_iff]
    intro hactive
    exact Bool.false_ne_true ((hended job (hwaiting job hactive)).symm.trans hactive)

/-- After the signal no job is started. -/
theorem starts_next {e : Env} {a : WorkerEvent} {w w' : Worker} (h : next e a w = some w')
    (hstop : w.stopping = true) :
    w'.stopping = true ∧ ∀ job, (w'.jobs job).starts = (w.jobs job).starts := by
  cases changes_of_next h with
  | visit hphase hgo => exact absurd (hgo.symm.trans hstop) Bool.false_ne_true
  | signal => exact ⟨rfl, fun _ => rfl⟩
  | settle job =>
    refine ⟨hstop, fun other => ?_⟩
    by_cases heq : other = job
    · subst heq
      simp [finish]
    · simp [finish, heq]
  | wait | leave | refresh | close => exact ⟨hstop, fun _ => rfl⟩

/-! ## Time -/

/-- Time passes no further than the loop takes to come round and the runs take to end. -/
def InTime (limit : Job → ℤ) (slack : ℤ) : WorkerEvent → Worker → Prop
  | .wait ms, w =>
    (w.stopping = false → w.now + ms ≤ w.visited + slack) ∧
      ∀ job, (w.jobs job).active = true →
        ∀ r ∈ (w.jobs job).runs.head?, w.now + ms ≤ r.startedAt + limit job
  | _, _ => True

/-- What is true of a worker that keeps up with its jobs. -/
structure KeepsUp (e : Env) (limit : Job → ℤ) (slack started : ℤ) (w : Worker) : Prop where
  comesRound : w.stopping = false → w.now ≤ w.visited + slack
  orderly : ∀ job, (w.jobs job).Orderly fun n => ∃ p, n = job.intervalMs e p
  timely : ∀ job, (w.jobs job).Timely (limit job) w.visited w.now
  prompt : ∀ job, (w.jobs job).Prompt (limit job) slack (started + job.firstMs)

variable {e : Env} {limit : Job → ℤ} {slack : ℤ}

theorem KeepsUp.start (stored : Option Json) (now : ℤ) (hslack : 0 ≤ slack) :
    KeepsUp e limit slack now (start e stored now) where
  comesRound _ := le_add_of_nonneg_right hslack
  orderly _ := .unstarted _
  timely job := .unstarted (le_add_of_nonneg_right job.firstMs_nonneg)
  prompt _ := .unstarted

/-- A worker that keeps up is late for no job. -/
theorem KeepsUp.now_le {started : ℤ} {w : Worker} (h : KeepsUp e limit slack started w)
    (hgo : w.stopping = false) (job : Job) : w.now ≤ (w.jobs job).deadline (limit job) + slack :=
  (h.comesRound hgo).trans (add_le_add_left (h.timely job).visited_le _)

theorem KeepsUp.next (hslack : 0 ≤ slack) (hlimit : ∀ job, 0 ≤ limit job) {started : ℤ}
    {a : WorkerEvent} {w w' : Worker} (hw : KeepsUp e limit slack started w)
    (ha : InTime limit slack a w) (h : next e a w = some w') :
    KeepsUp e limit slack started w' := by
  cases changes_of_next h with
  | wait ms => exact ⟨ha.1, hw.orderly, fun job => (hw.timely job).wait (ha.2 job), hw.prompt⟩
  | signal => exact ⟨fun hgo => absurd hgo (by simp), hw.orderly, hw.timely, hw.prompt⟩
  | visit hphase hgo =>
    refine ⟨fun _ => le_add_of_nonneg_right hslack, fun job => (hw.orderly job).launch ⟨_, rfl⟩,
      fun job => (hw.timely job).launch (hw.orderly job) (hlimit job), fun job => ?_⟩
    exact (hw.prompt job).launch (hw.orderly job) (hw.now_le hgo job)
  | settle job =>
    refine ⟨hw.comesRound, fun other => ?_, fun other => ?_, fun other => ?_⟩ <;>
      by_cases heq : other = job
    · subst heq
      simpa [finish] using (hw.orderly other).finish
    · simpa [finish, heq] using hw.orderly other
    · subst heq
      simpa [finish] using (hw.timely other).finish
    · simpa [finish, heq] using hw.timely other
    · subst heq
      simpa [finish] using (hw.prompt other).finish
    · simpa [finish, heq] using hw.prompt other
  | leave | refresh | close => exact ⟨hw.comesRound, hw.orderly, hw.timely, hw.prompt⟩

end Worker

open Worker in
/-- Whatever is stored and whatever the clock shows, the runs of a job neither overlap nor
    follow each other faster than the settings say, which is never faster than every ten
    seconds and, but for the expirations, never slower than every day. No job is started after
    the signal, and no job runs when the connections to the database have been closed. -/
theorem worker_orderly {e : Env} (he : e.Accepted)
    (hsync : Between 60 86400 e.syncIntervalSeconds)
    (hsamples : e.mikrotikStatsInterval ≤ e.rawTrafficSampleSeconds)
    {admits : WorkerEvent → Worker → Prop} {stored : Option Json} {started : ℤ} {w : Worker}
    (h : (system e).Reaches admits (start e stored started) w) :
    (∀ job, (w.jobs job).Orderly fun interval =>
        10000 ≤ interval ∧ (job ≠ .expirationEnforcement → interval ≤ 86400000)) ∧
      (w.phase = .ended → ∀ job, (w.jobs job).active = false) ∧
      ∀ w', (system e).Reaches admits w w' → w.stopping = true →
        ∀ job, (w'.jobs job).starts = (w.jobs job).starts := by
  have hvalid := (getPerformancePolicy_spec he).1.2 ⟨hsync, hsamples⟩
  have hsound : Sound e w := h.invariant (.start started (hvalid stored))
    fun a v v' hv _ hstep => hv.next hvalid hstep
  refine ⟨fun job => ?_, fun hended => (hsound.ended hended).2, fun w' h' hstop => ?_⟩
  · refine (hsound.jobs job).mono fun interval hinterval => ?_
    obtain ⟨p, hp, rfl⟩ := hinterval
    exact ⟨job.le_intervalMs he hp, fun hjob => Job.intervalMs_le hp hjob⟩
  · have hstill := h'.invariant
      (I := fun v => v.stopping = true ∧ ∀ job, (v.jobs job).starts = (w.jobs job).starts)
      ⟨hstop, fun _ => rfl⟩ fun a v v' hv _ hstep => by
        obtain ⟨hstop', hsame⟩ := starts_next hstep hv.1
        exact ⟨hstop', fun job => (hsame job).trans (hv.2 job)⟩
    exact hstill.2

/-- A worker that starts two jobs and is told to stop while the second one runs. -/
def shortEvents : List WorkerEvent :=
  [.iterate, .wait 1000, .settle .routerHealth, .iterate, .wait 1000, .iterate, .wait 500, .signal,
    .wait 500, .iterate, .settle .routerSync, .close]

/-- The worker at its end. -/
def shortWorker : Worker :=
  (System.run (Worker.next {}) shortEvents (Worker.start {} none 0)).getD (Worker.start {} none 0)

theorem defaultEnv_accepted : Env.Accepted {} :=
  ⟨by decide, by decide, by decide, by decide, by decide, by decide, by decide, by decide,
    by decide, by decide⟩

theorem worker_orderly_short :
    shortWorker.phase = .ended ∧ (∀ job, (shortWorker.jobs job).active = false) ∧
      (shortWorker.jobs .routerSync).runs = [⟨2000, 300000, some 3000⟩] := by
  have hrun : System.run (Worker.next {}) shortEvents (Worker.start {} none 0) =
      some shortWorker := rfl
  have hreach : (Worker.system {}).Reaches (fun _ _ => True) (Worker.start {} none 0)
      shortWorker := System.reaches_of_run (fun _ _ _ => trivial) hrun
  exact ⟨rfl, (worker_orderly defaultEnv_accepted (by decide) (by decide) hreach).2.1 rfl, rfl⟩

open Worker in
/-- While the loop comes round within `slack` and the runs of each job end within its
    `limit`, every job is first started within `slack` after it is first due, and again
    within `slack` after both its interval and its limit have passed; and no job is
    waiting for longer than that. -/
theorem worker_prompt {e : Env} {limit : Job → ℤ} {slack : ℤ} (hlimit : ∀ job, 0 ≤ limit job)
    (hslack : 0 ≤ slack) {stored : Option Json} {started : ℤ} {w : Worker}
    (h : (system e).Reaches (InTime limit slack) (start e stored started) w) (job : Job) :
    (w.jobs job).Prompt (limit job) slack (started + job.firstMs) ∧
      (w.stopping = false → w.now ≤ (w.jobs job).deadline (limit job) + slack) := by
  have hkeeps : KeepsUp e limit slack started w := h.invariant (.start stored started hslack)
    fun a v v' hv ha hstep => hv.next hslack hlimit ha hstep
  exact ⟨hkeeps.prompt job, fun hgo => hkeeps.now_le hgo job⟩

/-- The worker whose runs take at most a second, and whose loop comes round within two. -/
theorem worker_prompt_short :
    ∃ w, (Worker.system {}).Reaches (Worker.InTime (fun _ => 1000) 2000)
        (Worker.start {} none 0) w ∧
      w.now = 1000 ∧ w.now ≤ (w.jobs .routerHealth).deadline 1000 + 2000 := by
  have hfirst : (Worker.system {}).Reaches (Worker.InTime (fun _ => 1000) 2000)
      (Worker.start {} none 0) ((Worker.start {} none 0).launchAll {}) :=
    .tail .refl (a := .iterate) trivial rfl
  have hwait : Worker.InTime (fun _ => 1000) 2000 (.wait 1000)
      ((Worker.start {} none 0).launchAll {}) := by
    refine ⟨fun _ => by decide, fun job => ?_⟩
    cases job <;> decide
  have hreach := hfirst.tail hwait rfl
  exact ⟨_, hreach, rfl,
    (worker_prompt (fun _ => by decide) (by decide) hreach .routerHealth).2 rfl⟩

end WireguardPanel
