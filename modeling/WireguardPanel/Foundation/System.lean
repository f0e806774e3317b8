import Mathlib.Tactic.SplitIfs
import Mathlib.Tactic.TypeStar

/-!
# Labelled transition systems

Systems that change their state in steps, each of which carries a label, and
the states that they reach by steps that a condition admits.

* `System.Reaches.invariant`: what every admitted step preserves is true in
  every state that admitted steps reach.
* `System.Reaches.simulated`: a system whose steps another one can make as well.
* `System.ofNext`: a system whose steps can be computed, and `run`, which
  computes them (`reaches_of_run`).
-/

namespace Foundation

/-- A system with states `σ` whose steps are labelled by `α`. -/
structure System (σ α : Type*) where
  step : α → σ → σ → Prop

namespace System

variable {σ α : Type*} (S : System σ α)

/-- The states that are reached from `s` by steps that `admits` holds of, given
    the label and the state before the step. -/
inductive Reaches (admits : α → σ → Prop) (s : σ) : σ → Prop
  | refl : Reaches admits s s
  | tail {t u : σ} {a : α} (hreach : Reaches admits s t) (hallow : admits a t)
      (hstep : S.step a t u) : Reaches admits s u

namespace Reaches

variable {S} {admits admits' : α → σ → Prop} {s t u : σ}

/-- An invariant of the admitted steps holds wherever they lead. -/
theorem invariant {I : σ → Prop} (h : S.Reaches admits s t) (hs : I s)
    (hstep : ∀ a t u, I t → admits a t → S.step a t u → I u) : I t := by
  induction h with
  | refl => exact hs
  | tail _ hallow hmove ih => exact hstep _ _ _ ih hallow hmove

/-- Runs compose. -/
theorem trans (h : S.Reaches admits s t) (h' : S.Reaches admits t u) : S.Reaches admits s u := by
  induction h' with
  | refl => exact h
  | tail _ hallow hmove ih => exact .tail ih hallow hmove

/-- If every step can be made in another system as well, with the same label and the states
    still related, then so can every run. -/
theorem simulated {τ : Type*} {T : System τ α} {R : σ → τ → Prop} {t : τ}
    (h : S.Reaches (fun _ _ => True) s u) (ht : R s t)
    (hstep : ∀ a s t s', R s t → S.step a s s' → ∃ t', T.step a t t' ∧ R s' t') :
    ∃ v, T.Reaches (fun _ _ => True) t v ∧ R u v := by
  induction h with
  | refl => exact ⟨t, .refl, ht⟩
  | tail _ _ hmove ih =>
    obtain ⟨v, hreach, hv⟩ := ih
    obtain ⟨v', hmove', hv'⟩ := hstep _ _ _ _ hv hmove
    exact ⟨v', .tail hreach trivial hmove', hv'⟩

end Reaches

/-- The system whose steps are computed, where a label may allow no step. -/
def ofNext (next : α → σ → Option σ) : System σ α where
  step a s t := next a s = some t

/-- The state after steps with the given labels. -/
def run (next : α → σ → Option σ) : List α → σ → Option σ
  | [], s => some s
  | a :: labels, s => (next a s).bind (run next labels)

/-- A run that is computed, and whose steps are all admitted, is a run of the
    system. -/
theorem reaches_of_run {next : α → σ → Option σ} {admits : α → σ → Prop} {labels : List α}
    (hallowed : ∀ a ∈ labels, ∀ s, admits a s) {s t : σ} (h : run next labels s = some t) :
    (ofNext next).Reaches admits s t := by
  induction labels generalizing s with
  | nil =>
    cases h
    exact .refl
  | cons a labels ih =>
    obtain ⟨s₁, hstep, hrest⟩ := Option.bind_eq_some_iff.1 h
    have hfirst : (ofNext next).Reaches admits s s₁ :=
      .tail .refl (hallowed a (List.mem_cons_self ..) s) hstep
    exact hfirst.trans (ih (fun b hb => hallowed b (List.mem_cons_of_mem _ hb)) hrest)

/-- The steps that are admitted. -/
def guarded (admits : α → σ → Prop) [∀ a s, Decidable (admits a s)] (next : α → σ → Option σ)
    (a : α) (s : σ) : Option σ := if admits a s then next a s else none

/-- A run that is computed with the admitted steps only. -/
theorem reaches_of_guarded_run {next : α → σ → Option σ} {admits : α → σ → Prop}
    [∀ a s, Decidable (admits a s)] {labels : List α} {s t : σ}
    (h : run (guarded admits next) labels s = some t) : (ofNext next).Reaches admits s t := by
  induction labels generalizing s with
  | nil =>
    cases h
    exact .refl
  | cons a labels ih =>
    obtain ⟨s₁, hstep, hrest⟩ := Option.bind_eq_some_iff.1 h
    unfold guarded at hstep
    split_ifs at hstep with hallow
    have hfirst : (ofNext next).Reaches admits s s₁ := .tail .refl hallow hstep
    exact hfirst.trans (ih hrest)

end System

end Foundation
