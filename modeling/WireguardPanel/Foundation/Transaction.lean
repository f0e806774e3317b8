import Mathlib.Order.Defs.Unbundled

/-!
# Frames of transactions

A transaction changes a state or fails, and then changes nothing. What it can
do to the state is told by a relation between the states before and after it; a
relation that is reflexive and transitive holds of a transaction when it holds
of its parts.

* `Within`: a transaction stays within a relation.
* `Within.bind`, `within_foldlM` and the others: one rule for each way to build
  a transaction.
-/

namespace Foundation

variable {σ ε α β : Type}

/-- The transaction `x` changes a state as `R` allows. -/
def Within (R : σ → σ → Prop) (x : StateT σ (Except ε) α) : Prop :=
  ∀ s a s', x s = .ok (a, s') → R s s'

variable {R R' : σ → σ → Prop} {x : StateT σ (Except ε) α}

theorem within_throw {e : ε} : Within R (throw e : StateT σ (Except ε) α) := nofun

/-- A transaction that does not touch the state. -/
theorem within_pure [Std.Refl R] {a : α} : Within R (pure a : StateT σ (Except ε) α) :=
  fun s b s' h => by
    cases h
    exact Std.Refl.refl s

theorem within_get [Std.Refl R] : Within R (get : StateT σ (Except ε) σ) := fun s b s' h => by
  cases h
  exact Std.Refl.refl s

theorem Within.bind [IsTrans σ R] {f : α → StateT σ (Except ε) β} (hx : Within R x)
    (hf : ∀ a, Within R (f a)) : Within R (x >>= f) := fun s b s' h => by
  simp only [Bind.bind, StateT.bind, Except.bind] at h
  cases hfirst : x s with
  | error e => simp [hfirst] at h
  | ok r =>
    obtain ⟨a, s₁⟩ := r
    simp only [hfirst] at h
    exact IsTrans.trans _ _ _ (hx s a s₁ hfirst) (hf a s₁ b s' h)

theorem within_foldlM [IsPreorder σ R] {f : β → α → StateT σ (Except ε) β} {l : List α} {b : β}
    (hf : ∀ a ∈ l, ∀ b, Within R (f b a)) : Within R (l.foldlM f b) := by
  induction l generalizing b with
  | nil => exact within_pure
  | cons a l ih =>
    rw [List.foldlM_cons]
    exact (hf a List.mem_cons_self b).bind fun b' =>
      ih fun a' ha' => hf a' (List.mem_cons_of_mem a ha')

end Foundation
