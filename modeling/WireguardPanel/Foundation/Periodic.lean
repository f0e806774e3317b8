import Mathlib.Algebra.Order.Ring.Int
import Mathlib.Data.List.Chain
import Mathlib.Order.Lattice
import Mathlib.Tactic.SplitIfs

/-!
# Periodic jobs

A job that a loop starts whenever it is due and not running. The job remembers its
runs, the newest first.

* `Periodic.launch`, `Periodic.finish`: what the loop does to a job that it visits, and
  the end of a run.
* `Periodic.Orderly`: no run begins before the one before it has ended and its interval
  has passed; kept by whatever the clock does.
* `Periodic.Prompt`: no run is late. It rests on a loop that comes round in time (`slack`)
  and on runs that end in time (`limit`), and is kept in step with the clock by
  `Periodic.Timely`.
-/

namespace Foundation

/-- A run of a job: when it began, how long the job was to wait from then on, and
    when it ended. -/
structure Run where
  startedAt : ℤ
  interval : ℤ
  endedAt : Option ℤ := none
  deriving DecidableEq, Repr

/-- A job that runs from time to time. -/
structure Periodic where
  nextAt : ℤ
  active : Bool := false
  runs : List Run := []
  deriving DecidableEq, Repr

namespace Periodic

variable (interval now : ℤ) (j : Periodic)

/-- The job is started if it is due and not running. -/
def launch : Periodic :=
  if now < j.nextAt ∨ j.active = true then j
  else ⟨now + interval, true, ⟨now, interval, none⟩ :: j.runs⟩

/-- The run ends. -/
def finish : Periodic where
  nextAt := j.nextAt
  active := false
  runs := j.runs.modifyHead fun r => { r with endedAt := some now }

@[simp] theorem finish_nextAt : (j.finish now).nextAt = j.nextAt := rfl
@[simp] theorem finish_active : (j.finish now).active = false := rfl

/-- A visit either leaves a job alone, because it is not due or is running, or starts it. -/
theorem launch_cases :
    j.launch interval now = j ∧ (now < j.nextAt ∨ j.active = true) ∨
      j.launch interval now = ⟨now + interval, true, ⟨now, interval, none⟩ :: j.runs⟩ ∧
        j.nextAt ≤ now ∧ j.active = false := by
  by_cases h : now < j.nextAt ∨ j.active = true
  · exact .inl ⟨if_pos h, h⟩
  · refine .inr ⟨if_neg h, ?_⟩
    obtain ⟨hdue, hidle⟩ := not_or.1 h
    exact ⟨not_lt.1 hdue, Bool.eq_false_iff.2 hidle⟩

/-- The times at which runs began. -/
def starts : List ℤ := j.runs.map Run.startedAt

@[simp] theorem starts_finish : (j.finish now).starts = j.starts := by
  unfold starts finish
  cases j.runs <;> rfl

/-! ## The order of the runs -/

/-- Of two runs that follow each other, the earlier one has ended, and the later one
    did not begin before the interval was over. -/
def Spaced (later earlier : Run) : Prop :=
  earlier.endedAt.isSome ∧ earlier.startedAt + earlier.interval ≤ later.startedAt

/-- The runs follow each other, each with an interval for which `P` holds, and the job is
    active while the newest has not ended. -/
structure Orderly (P : ℤ → Prop) (j : Periodic) : Prop where
  spaced : j.runs.IsChain Spaced
  active_iff : j.active = true ↔ ∃ r ∈ j.runs.head?, r.endedAt = none
  next : ∀ r ∈ j.runs.head?, j.nextAt = r.startedAt + r.interval
  intervals : ∀ r ∈ j.runs, P r.interval

namespace Orderly

variable {P : ℤ → Prop} {interval now} {j}

theorem unstarted (time : ℤ) : Orderly P { nextAt := time } where
  spaced := .nil
  active_iff := by simp
  next := by simp
  intervals := by simp

theorem mono {Q : ℤ → Prop} (h : j.Orderly P) (hle : ∀ n, P n → Q n) : j.Orderly Q :=
  ⟨h.spaced, h.active_iff, h.next, fun r hr => hle _ (h.intervals r hr)⟩

theorem launch (h : j.Orderly P) (hinterval : P interval) : (j.launch interval now).Orderly P := by
  obtain ⟨heq, -⟩ | ⟨heq, hdue, hidle⟩ := j.launch_cases interval now <;> rw [heq]
  · exact h
  · refine ⟨?_, by simp, by simp, List.forall_mem_cons.2 ⟨hinterval, h.intervals⟩⟩
    -- The job was idle, so its newest run has ended, and it was due.
    refine List.isChain_cons.2 ⟨fun r hr => ⟨?_, ?_⟩, h.spaced⟩
    · rw [Option.isSome_iff_ne_none]
      intro hnone
      exact Bool.false_ne_true (hidle.symm.trans (h.active_iff.2 ⟨r, hr, hnone⟩))
    · exact (h.next r hr).symm.trans_le hdue

theorem finish (h : j.Orderly P) : (j.finish now).Orderly P := by
  obtain ⟨nextAt, active, runs⟩ := j
  cases runs with
  | nil =>
    exact ⟨.nil, by simp [Periodic.finish], by simp [Periodic.finish], by simp [Periodic.finish]⟩
  | cons r runs =>
    obtain ⟨hhead, htail⟩ := List.isChain_cons.1 h.spaced
    refine ⟨List.isChain_cons.2 ⟨hhead, htail⟩, by simp [Periodic.finish], ?_, ?_⟩
    · intro r' hr'
      cases hr'
      exact h.next r rfl
    · exact List.forall_mem_cons.2 (List.forall_mem_cons.1 h.intervals)

end Orderly

/-! ## Runs in time -/

/-- Until when a job whose runs take at most `limit` can be started at the latest, if it
    is visited all the time. -/
def deadline (limit : ℤ) : ℤ :=
  match j.runs with
  | [] => j.nextAt
  | r :: _ => max j.nextAt (r.startedAt + limit)

@[simp] theorem deadline_finish (limit : ℤ) : (j.finish now).deadline limit = j.deadline limit := by
  unfold deadline finish
  cases j.runs <;> rfl

theorem nextAt_le_deadline (limit : ℤ) : j.nextAt ≤ j.deadline limit := by
  unfold deadline
  cases j.runs with
  | nil => exact le_rfl
  | cons r runs => exact le_max_left ..

/-- Of two runs that follow each other, the later one begins when the interval and
    the longest run are over, but for the time that the loop takes to come round. -/
def Follows (limit slack : ℤ) (later earlier : Run) : Prop :=
  later.startedAt ≤ max (earlier.startedAt + earlier.interval) (earlier.startedAt + limit) + slack

/-- The runs of a job that was first due at `first` are in time. -/
structure Prompt (limit slack first : ℤ) (j : Periodic) : Prop where
  follows : j.runs.IsChain (Follows limit slack)
  first_le : ∀ r ∈ j.runs.getLast?, r.startedAt ≤ first + slack
  due : j.runs = [] → j.nextAt = first

/-- What the clock has to do with a job: the loop has not come round since the job should
    have been started, and no run is longer than it may be. -/
structure Timely (limit visited now : ℤ) (j : Periodic) : Prop where
  visited_le : visited ≤ j.deadline limit
  ends : j.active = true → ∀ r ∈ j.runs.head?, now ≤ r.startedAt + limit

namespace Timely

variable {limit visited interval now} {j}

theorem unstarted {time : ℤ} (h : visited ≤ time) : Timely limit visited now { nextAt := time } :=
  ⟨h, by simp⟩

/-- A visit to a job that is in order. -/
theorem launch {P : ℤ → Prop} (h : j.Timely limit visited now) (hj : j.Orderly P)
    (hlimit : 0 ≤ limit) : (j.launch interval now).Timely limit now now := by
  obtain ⟨heq, hwait⟩ | ⟨heq, -, -⟩ := j.launch_cases interval now <;> rw [heq]
  · refine ⟨?_, h.ends⟩
    obtain hearly | hactive := hwait
    · exact hearly.le.trans (j.nextAt_le_deadline limit)
    · obtain ⟨r, hr, -⟩ := hj.active_iff.1 hactive
      have hend := h.ends hactive r hr
      unfold deadline
      cases hruns : j.runs with
      | nil => simp [hruns] at hr
      | cons r' runs =>
        rw [hruns] at hr
        cases hr
        exact hend.trans (le_max_right ..)
  · refine ⟨le_max_of_le_right ?_, fun _ r hr => ?_⟩
    · exact le_add_of_nonneg_right hlimit
    · cases hr
      exact le_add_of_nonneg_right hlimit

theorem finish (h : j.Timely limit visited now) : (j.finish now).Timely limit visited now :=
  ⟨(j.deadline_finish now limit).symm ▸ h.visited_le, fun hactive => absurd hactive (by simp)⟩

/-- Time passes, but not beyond the end of a run. -/
theorem wait {ms : ℤ} (h : j.Timely limit visited now)
    (hends : j.active = true → ∀ r ∈ j.runs.head?, now + ms ≤ r.startedAt + limit) :
    j.Timely limit visited (now + ms) :=
  ⟨h.visited_le, hends⟩

end Timely

namespace Prompt

variable {limit slack first interval now} {j}

theorem unstarted : Prompt limit slack first { nextAt := first } :=
  ⟨.nil, by simp, fun _ => rfl⟩

/-- A visit to a job that is in order, at a time at which it is not late. -/
theorem launch {P : ℤ → Prop} (h : j.Prompt limit slack first) (hj : j.Orderly P)
    (hnow : now ≤ j.deadline limit + slack) :
    (j.launch interval now).Prompt limit slack first := by
  obtain ⟨heq, -⟩ | ⟨heq, -, -⟩ := j.launch_cases interval now <;> rw [heq]
  · exact h
  · cases hruns : j.runs with
    | nil =>
      refine ⟨.singleton _, fun r hr => ?_, by simp⟩
      cases hr
      rw [deadline, hruns] at hnow
      exact h.due hruns ▸ hnow
    | cons r runs =>
      refine ⟨List.isChain_cons.2 ⟨fun r' hr' => ?_, hruns ▸ h.follows⟩, fun r' hr' => ?_, by simp⟩
      · cases hr'
        rw [deadline, hruns, hj.next r (by rw [hruns]; rfl)] at hnow
        exact hnow
      · exact h.first_le r' (by rw [hruns]; simpa using hr')

theorem finish (h : j.Prompt limit slack first) : (j.finish now).Prompt limit slack first := by
  obtain ⟨nextAt, active, runs⟩ := j
  cases runs with
  | nil => exact ⟨.nil, by simp [Periodic.finish], h.due⟩
  | cons r runs =>
    obtain ⟨hhead, htail⟩ := List.isChain_cons.1 h.follows
    refine ⟨List.isChain_cons.2 ⟨hhead, htail⟩, fun r' hr' => ?_, by simp [Periodic.finish]⟩
    cases runs with
    | nil =>
      cases hr'
      exact h.first_le r rfl
    | cons r'' runs => exact h.first_le r' (by simpa [Periodic.finish] using hr')

end Prompt

end Periodic

end Foundation
