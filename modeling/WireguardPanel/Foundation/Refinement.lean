import WireguardPanel.Foundation.Program

/-!
# Refinement of environments

A program that runs in one environment runs in another one as well, with the same calls and
answers, if every call that it makes can be answered there in the same way. What the states of
the two have to do with each other is told by a relation.

* `Environment.Refines`: the answers of one environment are answers of the other.
* `Runs.refines`, `Ends.refines`: so are the runs.
-/

namespace Foundation

universe u v w

variable {C : Type u} {R : C → Type} {σ : Type v} {τ : Type w} {α : Type}

/-- Whatever a call of `S` is answered in the first environment, it may be answered in the
    second one, and the states stay related. -/
def Environment.Refines (env : Environment C R σ) (env' : Environment C R τ) (S : C → Prop)
    (rel : σ → τ → Prop) : Prop :=
  ∀ c s r s' t, S c → rel s t → env c s r s' → ∃ t', env' c t r t' ∧ rel s' t'

namespace Program

variable {env : Environment C R σ} {env' : Environment C R τ} {S : C → Prop} {rel : σ → τ → Prop}
  {p p' : Program C R α} {s s' : σ} {t : τ} {Q : α → Prop}

/-- A part of a run is one in the other environment, with the same calls and answers. -/
theorem Runs.refines {calls : List (Answered R)} (hrun : p.Runs env s calls p' s')
    (henv : env.Refines env' S rel) (hp : p.Makes S Q) (ht : rel s t) :
    ∃ t', p.Runs env' t calls p' t' ∧ rel s' t' := by
  induction hrun generalizing t with
  | refl => exact ⟨t, .refl, ht⟩
  | head hcall _ ih =>
    obtain ⟨t₁, hcall', ht₁⟩ := henv _ _ _ _ _ hp.1 ht hcall
    obtain ⟨t', hrest, ht'⟩ := ih (hp.2 _) ht₁
    exact ⟨t', .head hcall' hrest, ht'⟩

/-- Whatever a program ends with, it may end with in the other environment. -/
theorem Ends.refines {a : α} (h : p.Ends env s a s') (henv : env.Refines env' S rel)
    (hp : p.Makes S Q) (ht : rel s t) : ∃ t', p.Ends env' t a t' ∧ rel s' t' := by
  obtain ⟨calls, hrun⟩ := h
  obtain ⟨t', hrun', ht'⟩ := hrun.refines henv hp ht
  exact ⟨t', ⟨calls, hrun'⟩, ht'⟩

end Program

end Foundation
