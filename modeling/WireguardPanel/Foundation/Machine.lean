import Mathlib.Data.List.Basic

/-!
# Machines

State machines that answer every event. Some of their events are hidden: nobody
is told their answers.

* `Machine.run`, `Machine.answers`: the state after a run, and what the run has
  answered to the events that are not hidden.
* `Machine.answers_eq_of_simulates`: two machines that start in related states give the same
  answers, if the relation is kept by the events, and by the hidden ones when only
  the first machine takes part in them.
* `Machine.invariant`: what every event keeps is true after a run.
-/

namespace Foundation

/-- A machine with states `σ` that answers the events `α` by `ω`. -/
structure Machine (σ α ω : Type*) where
  next : α → σ → σ
  answer : α → σ → ω

namespace Machine

variable {σ τ α ω : Type*}

/-- The state after a run. -/
def run (M : Machine σ α ω) : List α → σ → σ
  | [], s => s
  | a :: events, s => M.run events (M.next a s)

/-- The answers to the events of a run that are not hidden. -/
def answers (M : Machine σ α ω) (hidden : α → Bool) : List α → σ → List ω
  | [], _ => []
  | a :: events, s =>
    if hidden a then M.answers hidden events (M.next a s)
    else M.answer a s :: M.answers hidden events (M.next a s)

/-- What every event of a run keeps is true after the run. -/
theorem invariant {M : Machine σ α ω} {I : σ → Prop} {events : List α}
    (hkeep : ∀ a ∈ events, ∀ s, I s → I (M.next a s)) {s : σ} (hs : I s) : I (M.run events s) := by
  induction events generalizing s with
  | nil => exact hs
  | cons a events ih =>
    obtain ⟨hfirst, hrest⟩ := List.forall_mem_cons.1 hkeep
    exact ih hrest (hfirst s hs)

/-- Two machines of which one leaves out the hidden events give the same answers,
    if a relation between their states and the events to come is kept. -/
theorem answers_eq_of_simulates {M : Machine σ α ω} {N : Machine τ α ω} {hidden : α → Bool}
    {R : List α → σ → τ → Prop}
    (hshown : ∀ a events s t, hidden a = false → R (a :: events) s t →
      M.answer a s = N.answer a t ∧ R events (M.next a s) (N.next a t))
    (hhidden : ∀ a events s t, hidden a = true → R (a :: events) s t → R events (M.next a s) t)
    {events : List α} {s : σ} {t : τ} (h : R events s t) :
    M.answers hidden events s = N.answers hidden (events.filter fun a => !hidden a) t := by
  induction events generalizing s t with
  | nil => rfl
  | cons a events ih =>
    rw [answers]
    cases ha : hidden a with
    | true =>
      rw [if_pos rfl, List.filter_cons_of_neg (by simp [ha])]
      exact ih (hhidden a events s t ha h)
    | false =>
      obtain ⟨hanswer, hrest⟩ := hshown a events s t ha h
      rw [if_neg (by simp), List.filter_cons_of_pos (by simp [ha]), answers, ha, if_neg (by simp),
        hanswer, ih hrest]

end Machine

end Foundation
