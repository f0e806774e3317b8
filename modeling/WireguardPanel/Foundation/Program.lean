import Mathlib.Order.Defs.Unbundled
import Mathlib.Tactic.TypeStar

/-!
# Programs that make calls

A program is a tree of calls to its environment, which answers each of them and
may change the state of the world when it does. What a program does is told by
the environment: which answers a call may get, and what they change.

* `Program`: the trees, a monad.
* `Program.Runs`: the parts of a run, with the calls made and their answers.
* `Program.Always`: what every call of every run does, and how it ends.
* `Procedure`: programs whose calls may fail, with exceptions and local
  variables that keep their values when an exception is thrown.
* `Procedure.wp`: the weakest precondition of a procedure, with one rule for
  each way to build one.
* `Procedure.Keeps`: the procedures that keep an invariant.
* `Procedure.Leaves`: what is true wherever a procedure ends.
* `Procedure.Makes`: the procedures that make certain calls only.
* `Procedure.Returns`: what is true of the runs that return.
-/

namespace Foundation

universe u v

/-! ## Programs -/

/-- A program that makes the calls `C`, of which `c` is answered by an `R c`. -/
inductive Program (C : Type u) (R : C → Type) (α : Type) : Type u
  | done (result : α)
  | call (c : C) (next : R c → Program C R α)

/-- A call with its answer. -/
structure Answered {C : Type u} (R : C → Type) where
  call : C
  reply : R call

/-- The answers that a call may get in a state, and the states that they lead to. -/
abbrev Environment (C : Type u) (R : C → Type) (σ : Type v) := (c : C) → σ → R c → σ → Prop

/-- The environment that remembers the calls and their answers. -/
def Environment.traced {C : Type u} {R : C → Type} {σ : Type v} (env : Environment C R σ) :
    Environment C R (σ × List (Answered R)) := fun c s r s' =>
  env c s.1 r s'.1 ∧ s'.2 = s.2 ++ [⟨c, r⟩]

namespace Program

variable {C : Type u} {R : C → Type} {σ : Type v} {α β : Type}

/-- One program after another. -/
protected def bind : Program C R α → (α → Program C R β) → Program C R β
  | done a, f => f a
  | call c next, f => call c fun r => (next r).bind f

instance : Monad (Program C R) where
  pure := done
  bind := Program.bind

instance : LawfulMonad (Program C R) := LawfulMonad.mk' _
  (fun p => by
    induction p with
    | done a => rfl
    | call c next ih => exact congrArg (call c) (funext ih))
  (fun _ _ => rfl)
  (fun p f g => by
    induction p with
    | done a => rfl
    | call c next ih => exact congrArg (call c) (funext ih))

section Environment

variable (env : Environment C R σ)

/-- The part of a run from one program and state to another. -/
inductive Runs : Program C R α → σ → List (Answered R) → Program C R α → σ → Prop
  | refl {p : Program C R α} {s : σ} : Runs p s [] p s
  | head {c : C} {next : R c → Program C R α} {r : R c} {s s' s'' : σ} {t : List (Answered R)}
      {p : Program C R α} (hcall : env c s r s') (hrest : Runs (next r) s' t p s'') :
      Runs (call c next) s (⟨c, r⟩ :: t) p s''

/-- In every run each call changes the state as `G` allows, and the run ends
    with `Q`. -/
def Always (G : σ → σ → Prop) (Q : α → σ → Prop) : Program C R α → σ → Prop
  | done a, s => Q a s
  | call c next, s => ∀ r s', env c s r s' → G s s' ∧ (next r).Always G Q s'

end Environment

variable {env : Environment C R σ} {G : σ → σ → Prop} {Q Q' : α → σ → Prop} {s s' : σ}
  {p p' : Program C R α} {t : List (Answered R)}

/-- What every call keeps is true after a run of any program. -/
theorem Runs.keeps {I : σ → Prop} (hrun : p.Runs env s t p' s')
    (henv : ∀ c s r s', env c s r s' → I s → I s') (hs : I s) : I s' := by
  induction hrun with
  | refl => exact hs
  | head hcall _ ih => exact ih (henv _ _ _ _ hcall hs)

/-- What is always true stays so in the course of a run. -/
theorem Always.runs (h : p.Always env G Q s) (hrun : p.Runs env s t p' s') :
    p'.Always env G Q s' := by
  induction hrun with
  | refl => exact h
  | head hcall _ ih => exact ih (h _ _ hcall).2

/-- What the calls of a run preserve is true in every state of it. -/
theorem Always.invariant {I : σ → Prop} (h : p.Always env G Q s) (hrun : p.Runs env s t p' s')
    (hs : I s) (hG : ∀ s s', I s → G s s' → I s') : I s' := by
  induction hrun with
  | refl => exact hs
  | head hcall _ ih => exact ih (h _ _ hcall).2 (hG _ _ hs (h _ _ hcall).1)

/-- Every call of a run changes the state as it is always changed. -/
theorem Always.step {a : Answered R} (h : p.Always env G Q s) (hrun : p.Runs env s [a] p' s') :
    G s s' := by
  cases hrun with
  | @head c next r _ s₁ _ _ _ hcall hrest =>
    have hsame : s' = s₁ := by
      generalize next r = q at hrest
      cases hrest
      rfl
    subst hsame
    exact (h _ _ hcall).1

/-- What is always true is true at the end of a run. -/
theorem Always.ends {a : α} (h : p.Always env G Q s) (hrun : p.Runs env s t (done a) s') :
    Q a s' := by
  generalize hdone : done a = q at hrun
  induction hrun with
  | refl =>
    subst hdone
    exact h
  | head hcall _ ih => exact ih (h _ _ hcall).2 hdone

theorem Always.mono (h : p.Always env G Q s) (hQ : ∀ a s, Q a s → Q' a s) :
    p.Always env G Q' s := by
  induction p generalizing s with
  | done a => exact hQ a s h
  | call c next ih => exact fun r s' hcall => ⟨(h r s' hcall).1, ih r (h r s' hcall).2⟩

/-- Two things that are always true are true together. -/
theorem Always.and (h : p.Always env G Q s) (h' : p.Always env G Q' s) :
    p.Always env G (fun a s => Q a s ∧ Q' a s) s := by
  induction p generalizing s with
  | done a => exact ⟨h, h'⟩
  | call c next ih =>
    exact fun r s' hcall => ⟨(h r s' hcall).1, ih r (h r s' hcall).2 (h' r s' hcall).2⟩

/-- Nothing is asked of a run. -/
theorem always_true : p.Always env (fun _ _ => True) (fun _ _ => True) s := by
  induction p generalizing s with
  | done a => trivial
  | call c next ih => exact fun r s' _ => ⟨trivial, ih r⟩

theorem always_congr (h : ∀ a s, Q a s ↔ Q' a s) :
    p.Always env G Q s ↔ p.Always env G Q' s :=
  ⟨fun hp => hp.mono fun a s => (h a s).1, fun hp => hp.mono fun a s => (h a s).2⟩

theorem always_bind {f : α → Program C R β} {Q : β → σ → Prop} :
    (p >>= f).Always env G Q s ↔ p.Always env G (fun a => (f a).Always env G Q) s := by
  induction p generalizing s with
  | done a => rfl
  | call c next ih => exact forall₃_congr fun r s' _ => and_congr_right' (ih r)

/-- A run with the calls that it makes. -/
theorem Runs.traced (h : p.Runs env s t p' s') (t₀ : List (Answered R)) :
    p.Runs env.traced (s, t₀) t p' (s', t₀ ++ t) := by
  induction h generalizing t₀ with
  | refl => simpa using Runs.refl
  | head hcall _ ih =>
    rw [List.append_cons]
    exact .head ⟨hcall, rfl⟩ (ih _)

/-- A run in the environment that remembers its calls. -/
theorem Runs.of_traced {x x' : σ × List (Answered R)} (h : p.Runs env.traced x t p' x') :
    p.Runs env x.1 t p' x'.1 ∧ x'.2 = x.2 ++ t := by
  induction h with
  | refl => exact ⟨.refl, by simp⟩
  | head hcall _ ih =>
    obtain ⟨henv, htrace⟩ := hcall
    exact ⟨.head henv ih.1, by rw [ih.2, htrace]; simp⟩

/-- A run of `p` ends with `a`. -/
def Ends (env : Environment C R σ) (p : Program C R α) (s : σ) (a : α) (s' : σ) : Prop :=
  ∃ t, p.Runs env s t (done a) s'

theorem ends_done {a b : α} : (done a : Program C R α).Ends env s b s' ↔ a = b ∧ s = s' := by
  constructor
  · rintro ⟨_, hrun⟩
    cases hrun
    exact ⟨rfl, rfl⟩
  · rintro ⟨rfl, rfl⟩
    exact ⟨[], .refl⟩

theorem ends_call {c : C} {next : R c → Program C R α} {a : α} :
    (call c next).Ends env s a s' ↔ ∃ r s₁, env c s r s₁ ∧ (next r).Ends env s₁ a s' := by
  constructor
  · rintro ⟨_, hrun⟩
    cases hrun with
    | head hcall hrest => exact ⟨_, _, hcall, _, hrest⟩
  · rintro ⟨r, s₁, hcall, t, hrest⟩
    exact ⟨_, .head hcall hrest⟩

theorem ends_bind {f : α → Program C R β} {b : β} :
    (p >>= f).Ends env s b s' ↔ ∃ a s₁, p.Ends env s a s₁ ∧ (f a).Ends env s₁ b s' := by
  induction p generalizing s with
  | done a =>
    change (f a).Ends env s b s' ↔ _
    simp only [ends_done]
    exact ⟨fun h => ⟨a, s, ⟨rfl, rfl⟩, h⟩, by rintro ⟨_, _, ⟨rfl, rfl⟩, h⟩; exact h⟩
  | call c next ih =>
    change (call c fun r => next r >>= f).Ends env s b s' ↔ _
    simp only [ends_call, ih]
    constructor
    · rintro ⟨r, s₁, hcall, a, s₂, hnext, hf⟩
      exact ⟨a, s₂, ⟨r, s₁, hcall, hnext⟩, hf⟩
    · rintro ⟨a, s₂, ⟨r, s₁, hcall, hnext⟩, hf⟩
      exact ⟨r, s₁, hcall, a, s₂, hnext, hf⟩

/-- The run in which the environment decides on the answers in turn. -/
def run {ω : Type} (answer : ω → σ → (c : C) → R c × σ) :
    Program C R α → List ω → σ → Option (α × σ)
  | done a, _, s => some (a, s)
  | call _ _, [], _ => none
  | call c next, o :: os, s =>
    let (r, s') := answer o s c
    (next r).run answer os s'

theorem ends_of_run {ω : Type} {answer : ω → σ → (c : C) → R c × σ} {os : List ω} {a : α}
    (henv : ∀ o ∈ os, ∀ s c, env c s (answer o s c).1 (answer o s c).2)
    (h : p.run answer os s = some (a, s')) : p.Ends env s a s' := by
  induction p generalizing os s with
  | done b =>
    cases h
    exact ends_done.2 ⟨rfl, rfl⟩
  | call c next ih =>
    cases os with
    | nil => cases h
    | cons o os =>
      exact ends_call.2 ⟨_, _, henv o List.mem_cons_self s c,
        ih _ (fun o' ho => henv o' (List.mem_cons_of_mem o ho)) h⟩

/-- The same run, as long as the answers are good. -/
def runWhile {ω : Type} (good : (c : C) → R c → Bool) (answer : ω → σ → (c : C) → R c × σ) :
    Program C R α → List ω → σ → Option (α × σ)
  | done a, _, s => some (a, s)
  | call _ _, [], _ => none
  | call c next, o :: os, s =>
    let (r, s') := answer o s c
    if good c r then (next r).runWhile good answer os s' else none

theorem ends_of_runWhile {ω : Type} {good : (c : C) → R c → Bool}
    {answer : ω → σ → (c : C) → R c × σ} {os : List ω} {a : α}
    (henv : ∀ o ∈ os, ∀ s c, good c (answer o s c).1 = true →
      env c s (answer o s c).1 (answer o s c).2)
    (h : p.runWhile good answer os s = some (a, s')) : p.Ends env s a s' := by
  induction p generalizing os s with
  | done b =>
    cases h
    exact ends_done.2 ⟨rfl, rfl⟩
  | call c next ih =>
    cases os with
    | nil => cases h
    | cons o os =>
      simp only [runWhile] at h
      by_cases hgood : good c (answer o s c).1 = true
      · rw [if_pos hgood] at h
        exact ends_call.2 ⟨_, _, henv o List.mem_cons_self s c hgood,
          ih _ (fun o' ho => henv o' (List.mem_cons_of_mem o ho)) h⟩
      · rw [if_neg hgood] at h
        cases h

/-! ### Calls -/

/-- Every call of the program is one of `S` and its result satisfies `Q`,
    whatever is answered. -/
def Makes (S : C → Prop) (Q : α → Prop) : Program C R α → Prop
  | done a => Q a
  | call c next => S c ∧ ∀ r, (next r).Makes S Q

variable {S : C → Prop} {Q Q' : α → Prop}

theorem Makes.mono (h : p.Makes S Q) (hQ : ∀ a, Q a → Q' a) : p.Makes S Q' := by
  induction p with
  | done a => exact hQ a h
  | call c next ih => exact ⟨h.1, fun r => ih r (h.2 r)⟩

theorem Makes.imp {S' : C → Prop} (h : p.Makes S Q) (hS : ∀ c, S c → S' c) : p.Makes S' Q := by
  induction p with
  | done a => exact h
  | call c next ih => exact ⟨hS c h.1, fun r => ih r (h.2 r)⟩

theorem Makes.bind {f : α → Program C R β} {Q' : β → Prop} (h : p.Makes S Q)
    (hf : ∀ a, Q a → (f a).Makes S Q') : (p >>= f).Makes S Q' := by
  induction p with
  | done a => exact hf a h
  | call c next ih => exact ⟨h.1, fun r => ih r (h.2 r)⟩

/-- What is always true of a program that makes the calls `S`. -/
theorem Makes.always {K : σ → Prop} (h : p.Makes S Q)
    (hcall : ∀ c s r s', S c → K s → env c s r s' → G s s' ∧ K s') (hs : K s) :
    p.Always env G (fun a s => Q a ∧ K s) s := by
  induction p generalizing s with
  | done a => exact ⟨h, hs⟩
  | call c next ih =>
    intro r s' henv
    obtain ⟨hG, hK⟩ := hcall c s r s' h.1 hs henv
    exact ⟨hG, ih r (h.2 r) hK⟩

end Program

/-! ## Procedures -/

/-- A program whose calls may fail, with exceptions `ε` and local variables `ℓ`. -/
abbrev Procedure (C : Type u) (R : C → Type) (ε ℓ : Type) :=
  ExceptT ε (StateT ℓ (Program C fun c => Except ε (R c)))

namespace Procedure

variable {C : Type u} {R : C → Type} {ε ℓ α β : Type} {σ : Type v}

/-- A call that throws if it fails. -/
def call (c : C) : Procedure C R ε ℓ (R c) :=
  ExceptT.mk fun l => .call c fun r => .done (r, l)

/-- The program of a procedure whose local variables begin as `l`. -/
def start (x : Procedure C R ε ℓ α) (l : ℓ) :
    Program C (fun c => Except ε (R c)) (Except ε α) :=
  (fun r => r.1) <$> x.run.run l

/-- The procedure `x`, with local variables of its own that begin as `l`. -/
def withLocals {ℓ' : Type} (l : ℓ') (x : Procedure C R ε ℓ' α) : Procedure C R ε ℓ α :=
  ExceptT.mk fun k => (fun r => (r, k)) <$> x.start l

/-- The outcome of a procedure, which does not throw. -/
def attempt (x : Procedure C R ε ℓ α) : Procedure C R ε ℓ (Except ε α) :=
  ExceptT.mk fun l => (fun r => (.ok r.1, r.2)) <$> x.run.run l

/-- `Q` of a value and `E` of an exception. -/
def ends (Q : α → ℓ → σ → Prop) (E : ε → ℓ → σ → Prop) : Except ε α → ℓ → σ → Prop
  | .ok a => Q a
  | .error e => E e

variable (env : Environment C (fun c => Except ε (R c)) σ) (G : σ → σ → Prop)

/-- In every run of `x` each call changes the state as `G` allows, and the run
    ends with `Q` if it returns and with `E` if it throws. -/
def wp (x : Procedure C R ε ℓ α) (Q : α → ℓ → σ → Prop) (E : ε → ℓ → σ → Prop) (l : ℓ) (s : σ) :
    Prop :=
  (x.run.run l).Always env G (fun r => ends Q E r.1 r.2) s

variable {env G} {Q Q' : α → ℓ → σ → Prop} {E E' : ε → ℓ → σ → Prop} {l : ℓ} {s : σ}

@[simp] theorem ends_ok {a : α} : ends Q E (.ok a) l s ↔ Q a l s := Iff.rfl

@[simp] theorem ends_error {e : ε} : ends Q E (.error e) l s ↔ E e l s := Iff.rfl

@[simp] theorem wp_pure {a : α} : wp env G (pure a) Q E l s ↔ Q a l s := Iff.rfl

@[simp] theorem wp_throw {e : ε} : wp env G (throw e) Q E l s ↔ E e l s := Iff.rfl

theorem wp_bind {x : Procedure C R ε ℓ β} {f : β → Procedure C R ε ℓ α} :
    wp env G (x >>= f) Q E l s ↔ wp env G x (fun b => wp env G (f b) Q E) E l s := by
  refine Program.always_bind.trans (Program.always_congr fun r s => ?_)
  rcases r with ⟨_ | _, l⟩ <;> rfl

theorem wp_tryCatch {x : Procedure C R ε ℓ α} {h : ε → Procedure C R ε ℓ α} :
    wp env G (tryCatch x h) Q E l s ↔ wp env G x Q (fun e => wp env G (h e) Q E) l s := by
  refine Program.always_bind.trans (Program.always_congr fun r s => ?_)
  rcases r with ⟨_ | _, l⟩ <;> rfl

theorem wp_modify {f : ℓ → ℓ} {Q : PUnit → ℓ → σ → Prop} :
    wp env G (modify f) Q E l s ↔ Q ⟨⟩ (f l) s := Iff.rfl

theorem wp_call {c : C} {Q : R c → ℓ → σ → Prop} :
    wp env G (call c) Q E l s ↔ ∀ r s', env c s r s' → G s s' ∧ ends Q E r l s' := Iff.rfl

theorem wp_attempt {x : Procedure C R ε ℓ α} {Q : Except ε α → ℓ → σ → Prop} :
    wp env G (attempt x) Q E l s ↔ wp env G x (fun a => Q (.ok a)) (fun e => Q (.error e)) l s := by
  refine Program.always_bind.trans (Program.always_congr fun r s => ?_)
  rcases r with ⟨_ | _, l⟩ <;> rfl

theorem wp_withLocals {ℓ' : Type} {k : ℓ'} {x : Procedure C R ε ℓ' α} :
    wp env G (withLocals k x) Q E l s ↔
      wp env G x (fun a _ => Q a l) (fun e _ => E e l) k s := by
  refine Program.always_bind.trans (Program.always_bind.trans (Program.always_congr fun r s => ?_))
  rcases r with ⟨_ | _, l⟩ <;> rfl

theorem wp_mono {x : Procedure C R ε ℓ α} (h : wp env G x Q E l s)
    (hQ : ∀ a l s, Q a l s → Q' a l s) (hE : ∀ e l s, E e l s → E' e l s) :
    wp env G x Q' E' l s := by
  refine Program.Always.mono h fun r s hr => ?_
  rcases r with ⟨_ | _, l⟩
  · exact hE _ _ _ hr
  · exact hQ _ _ _ hr

theorem wp_and {x : Procedure C R ε ℓ α} (h : wp env G x Q E l s) (h' : wp env G x Q' E' l s) :
    wp env G x (fun a l s => Q a l s ∧ Q' a l s) (fun e l s => E e l s ∧ E' e l s) l s := by
  refine Program.Always.mono (Program.Always.and h h') fun r s hr => ?_
  rcases r with ⟨_ | _, l⟩ <;> exact hr

/-- A loop keeps an invariant about the elements that are left and ends with it. -/
theorem wp_forM {xs : List β} {f : β → Procedure C R ε ℓ PUnit} {J : List β → ℓ → σ → Prop}
    (hJ : J xs l s) (hstep : ∀ b rest l s, J (b :: rest) l s →
      wp env G (f b) (fun _ => J rest) E l s) :
    wp env G (xs.forM f) (fun _ => J []) E l s := by
  induction xs generalizing l s with
  | nil => exact hJ
  | cons b rest ih =>
    exact wp_bind.2 (wp_mono (hstep b rest l s hJ) (fun _ _ _ => ih) fun _ _ _ => id)

/-- What is always true of the program of a procedure. -/
theorem always_start {x : Procedure C R ε ℓ α} {Q : Except ε α → σ → Prop} :
    (x.start l).Always env G Q s ↔
      wp env G x (fun a _ => Q (.ok a)) (fun e _ => Q (.error e)) l s := by
  refine Program.always_bind.trans (Program.always_congr fun r s => ?_)
  rcases r with ⟨_ | _, l⟩ <;> rfl

/-! ### Invariants -/

/-- Every call of `x` changes a state that satisfies `K` as `G` allows, and
    `K` is true at the end. -/
def Keeps (env : Environment C (fun c => Except ε (R c)) σ) (G : σ → σ → Prop) (K : σ → Prop)
    (x : Procedure C R ε ℓ α) : Prop :=
  ∀ l s, K s → wp env G x (fun _ _ => K) (fun _ _ => K) l s

variable {K : σ → Prop}

theorem keeps_pure {a : α} : Keeps env G K (pure a : Procedure C R ε ℓ α) := fun _ _ => id

theorem keeps_throw {e : ε} : Keeps env G K (throw e : Procedure C R ε ℓ α) := fun _ _ => id

theorem Keeps.bind {x : Procedure C R ε ℓ β} {f : β → Procedure C R ε ℓ α}
    (hx : Keeps env G K x) (hf : ∀ b, Keeps env G K (f b)) : Keeps env G K (x >>= f) :=
  fun l s hs => wp_bind.2 (wp_mono (hx l s hs) (fun b l s => hf b l s) fun _ _ _ => id)

theorem Keeps.tryCatch {x : Procedure C R ε ℓ α} {h : ε → Procedure C R ε ℓ α}
    (hx : Keeps env G K x) (hh : ∀ e, Keeps env G K (h e)) :
    Keeps env G K (MonadExcept.tryCatch x h) :=
  fun l s hs => wp_tryCatch.2 (wp_mono (hx l s hs) (fun _ _ _ => id) fun e l s => hh e l s)

theorem Keeps.attempt {x : Procedure C R ε ℓ α} (hx : Keeps env G K x) :
    Keeps env G K (attempt x) := fun l s hs => wp_attempt.2 (hx l s hs)

theorem Keeps.withLocals {ℓ' : Type} {k : ℓ'} {x : Procedure C R ε ℓ' α} (hx : Keeps env G K x) :
    Keeps env G K (withLocals k x : Procedure C R ε ℓ α) :=
      fun _ s hs => wp_withLocals.2 (hx k s hs)

theorem keeps_get : Keeps env G K (get : Procedure C R ε ℓ ℓ) := fun _ _ => id

theorem keeps_modify {f : ℓ → ℓ} : Keeps env G K (modify f : Procedure C R ε ℓ PUnit) :=
  fun _ _ => id

theorem keeps_forM {xs : List β} {f : β → Procedure C R ε ℓ PUnit}
    (hf : ∀ b ∈ xs, Keeps env G K (f b)) : Keeps env G K (xs.forM f) := by
  induction xs with
  | nil => exact keeps_pure
  | cons b rest ih =>
    exact (hf b List.mem_cons_self).bind fun _ => ih fun b hb => hf b (List.mem_cons_of_mem _ hb)

theorem keeps_call {c : C} (h : ∀ s r s', K s → env c s r s' → G s s' ∧ K s') :
    Keeps env G K (call c : Procedure C R ε ℓ (R c)) := fun l s hs => wp_call.2 fun r s' hcall => by
  obtain ⟨hG, hK⟩ := h s r s' hs hcall
  refine ⟨hG, ?_⟩
  cases r <;> exact hK

/-! ### Endings -/

/-- Every run of `x` ends with `A` if it returns and with `B` if it throws,
    wherever it begins. -/
def Leaves (env : Environment C (fun c => Except ε (R c)) σ) (A B : σ → Prop)
    (x : Procedure C R ε ℓ α) : Prop :=
  ∀ l s, wp env (fun _ _ => True) x (fun _ _ => A) (fun _ _ => B) l s

section Leaves

variable {A A' B : σ → Prop}

theorem leaves_true {x : Procedure C R ε ℓ α} :
    Leaves env (fun _ => True) (fun _ => True) x := fun l s => by
  refine Program.Always.mono (Program.always_true (p := x.run.run l)) fun r s _ => ?_
  rcases r with ⟨_ | _, l'⟩ <;> trivial

theorem leaves_pure {a : α} : Leaves env (fun _ => True) B (pure a : Procedure C R ε ℓ α) :=
  fun _ _ => trivial

theorem leaves_throw {e : ε} : Leaves env A (fun _ => True) (throw e : Procedure C R ε ℓ α) :=
  fun _ _ => trivial

theorem leaves_get : Leaves env (fun _ => True) B (get : Procedure C R ε ℓ ℓ) := fun _ _ => trivial

/-- What a sequence ends with is a matter of its second part, if it comes so far. -/
theorem Leaves.bind {x : Procedure C R ε ℓ β} {f : β → Procedure C R ε ℓ α}
    (hx : Leaves env A' B x) (hf : ∀ b, Leaves env A B (f b)) : Leaves env A B (x >>= f) :=
  fun l s => wp_bind.2 (wp_mono (hx l s) (fun b l s _ => hf b l s) fun _ _ _ => id)

/-- If nothing is asked of the runs that throw, it does not matter what the first
    part does. -/
theorem Leaves.last {x : Procedure C R ε ℓ β} {f : β → Procedure C R ε ℓ α}
    (hf : ∀ b, Leaves env A (fun _ => True) (f b)) : Leaves env A (fun _ => True) (x >>= f) :=
  leaves_true.bind hf

/-- What is only computed afterwards does not matter. -/
theorem Leaves.bind_pure {x : Procedure C R ε ℓ β} {f : β → α} (hx : Leaves env A B x) :
    Leaves env A B (x >>= fun b => pure (f b) : Procedure C R ε ℓ α) :=
  fun l s => wp_bind.2 (wp_mono (hx l s) (fun _ _ _ => id) fun _ _ _ => id)

/-- Before an exception it is the first part that counts. -/
theorem Leaves.bind_throw {x : Procedure C R ε ℓ β} {e : β → ε} (hx : Leaves env B B x) :
    Leaves env A B (x >>= fun b => throw (e b) : Procedure C R ε ℓ α) :=
  fun l s => wp_bind.2 (wp_mono (hx l s) (fun _ _ _ => id) fun _ _ _ => id)

theorem Leaves.tryCatch {x : Procedure C R ε ℓ α} {h : ε → Procedure C R ε ℓ α}
    (hx : Leaves env A (fun _ => True) x) (hh : ∀ e, Leaves env A B (h e)) :
    Leaves env A B (MonadExcept.tryCatch x h) :=
  fun l s => wp_tryCatch.2 (wp_mono (hx l s) (fun _ _ _ => id) fun e l s _ => hh e l s)

theorem leaves_attempt {x : Procedure C R ε ℓ α} : Leaves env (fun _ => True) B (attempt x) :=
  fun l s => wp_attempt.2 (leaves_true l s)

theorem Leaves.attempt {x : Procedure C R ε ℓ α} (hx : Leaves env A A x) :
    Leaves env A B (Procedure.attempt x) := fun l s => wp_attempt.2 (hx l s)

theorem Leaves.withLocals {ℓ' : Type} {k : ℓ'} {x : Procedure C R ε ℓ' α}
    (hx : Leaves env A B x) : Leaves env A B (withLocals k x : Procedure C R ε ℓ α) :=
  fun _ s => wp_withLocals.2 (hx k s)

end Leaves

/-! ### Calls -/

/-- Every call of `x` is one of `S`, and what it returns satisfies `Q`, whatever
    is answered. -/
def Makes (S : C → Prop) (x : Procedure C R ε ℓ α) (Q : α → Prop) : Prop :=
  ∀ l, (x.run.run l).Makes S fun r => ∀ a, r.1 = .ok a → Q a

section Makes

variable {S : C → Prop} {Q Q' : α → Prop}

theorem makes_pure {a : α} (h : Q a) : Makes S (pure a : Procedure C R ε ℓ α) Q := fun _ b hb => by
  cases hb
  exact h

theorem makes_throw {e : ε} : Makes S (throw e : Procedure C R ε ℓ α) Q := fun _ _ => nofun

theorem makes_get : Makes S (get : Procedure C R ε ℓ ℓ) fun _ => True := fun _ _ _ => trivial

theorem makes_modify {f : ℓ → ℓ} :
    Makes S (modify f : Procedure C R ε ℓ PUnit) fun _ => True := fun _ _ _ => trivial

theorem makes_call {c : C} (h : S c) :
    Makes S (call c : Procedure C R ε ℓ (R c)) fun _ => True := fun _ =>
  ⟨h, fun _ _ _ => trivial⟩

theorem Makes.mono {x : Procedure C R ε ℓ α} (h : Makes S x Q) (hQ : ∀ a, Q a → Q' a) :
    Makes S x Q' := fun l => Program.Makes.mono (h l) fun _ hr a ha => hQ a (hr a ha)

theorem Makes.imp {S' : C → Prop} {x : Procedure C R ε ℓ α} (h : Makes S x Q)
    (hS : ∀ c, S c → S' c) : Makes S' x Q := fun l => Program.Makes.imp (h l) hS

theorem Makes.bind {x : Procedure C R ε ℓ α} {f : α → Procedure C R ε ℓ β} {Q' : β → Prop}
    (hx : Makes S x Q) (hf : ∀ a, Q a → Makes S (f a) Q') : Makes S (x >>= f) Q' := fun l => by
  refine Program.Makes.bind (hx l) fun r hr => ?_
  rcases r with ⟨e | a, l'⟩
  · exact nofun
  · exact hf a (hr a rfl) l'

theorem Makes.tryCatch {x : Procedure C R ε ℓ α} {h : ε → Procedure C R ε ℓ α} (hx : Makes S x Q)
    (hh : ∀ e, Makes S (h e) Q) : Makes S (MonadExcept.tryCatch x h) Q := fun l => by
  refine Program.Makes.bind (hx l) fun r hr => ?_
  rcases r with ⟨e | a, l'⟩
  · exact hh e l'
  · exact hr

theorem Makes.attempt {x : Procedure C R ε ℓ α} (hx : Makes S x Q) :
    Makes S (attempt x) fun r => ∀ a, r = .ok a → Q a := fun l =>
  Program.Makes.bind (hx l) fun _ hr _ hb a ha => hr a ((Except.ok.inj hb).trans ha)

theorem Makes.withLocals {ℓ' : Type} {k : ℓ'} {x : Procedure C R ε ℓ' α} (hx : Makes S x Q) :
    Makes S (withLocals k x : Procedure C R ε ℓ α) Q := fun _ => by
  have hstart : (x.start k).Makes S fun r => ∀ a, r = .ok a → Q a :=
    Program.Makes.bind (hx k) fun _ hr => hr
  exact Program.Makes.bind hstart fun _ hr => hr

theorem makes_forM {xs : List β} {f : β → Procedure C R ε ℓ PUnit}
    (hf : ∀ b ∈ xs, Makes S (f b) fun _ => True) : Makes S (xs.forM f) fun _ => True := by
  induction xs with
  | nil => exact makes_pure trivial
  | cons b rest ih =>
    exact (hf b List.mem_cons_self).bind fun _ _ => ih fun b hb => hf b (List.mem_cons_of_mem _ hb)

/-- What the calls `S` keep is kept by a procedure that makes no others. -/
theorem Makes.wp {x : Procedure C R ε ℓ α} (h : Makes S x Q)
    (hcall : ∀ c s r s', S c → K s → env c s r s' → G s s' ∧ K s') (hs : K s) :
    wp env G x (fun a _ s => Q a ∧ K s) (fun _ _ => K) l s := by
  refine Program.Always.mono (Program.Makes.always (h l) hcall hs) fun r s hr => ?_
  rcases r with ⟨e | a, l'⟩
  · exact hr.2
  · exact ⟨hr.1 a rfl, hr.2⟩

end Makes

/-! ### Runs that return -/

/-- A run of `x` returns `a` with the local variables `l'`. -/
def Returns (env : Environment C (fun c => Except ε (R c)) σ) (x : Procedure C R ε ℓ α) (l : ℓ)
    (s : σ) (a : α) (l' : ℓ) (s' : σ) : Prop :=
  (x.run.run l).Ends env s (.ok a, l') s'

/-- A run of `x` throws `e` with the local variables `l'`. -/
def Throws (env : Environment C (fun c => Except ε (R c)) σ) (x : Procedure C R ε ℓ α) (l : ℓ)
    (s : σ) (e : ε) (l' : ℓ) (s' : σ) : Prop :=
  (x.run.run l).Ends env s (.error e, l') s'

variable {a : α} {l' : ℓ} {s' : σ}

theorem returns_pure {b : α} :
    (pure b : Procedure C R ε ℓ α).Returns env l s a l' s' ↔ b = a ∧ l = l' ∧ s = s' := by
  refine Program.ends_done.trans ?_
  simp [and_assoc]

theorem not_returns_throw {e : ε} :
    ¬(throw e : Procedure C R ε ℓ α).Returns env l s a l' s' := fun h => by
  cases (Program.ends_done.1 h).1

theorem returns_bind {x : Procedure C R ε ℓ β} {f : β → Procedure C R ε ℓ α} :
    (x >>= f).Returns env l s a l' s' ↔
      ∃ b l₁ s₁, x.Returns env l s b l₁ s₁ ∧ (f b).Returns env l₁ s₁ a l' s' := by
  refine Program.ends_bind.trans ⟨?_, ?_⟩
  · rintro ⟨⟨_ | b, l₁⟩, s₁, hx, hf⟩
    · cases (Program.ends_done.1 hf).1
    · exact ⟨b, l₁, s₁, hx, hf⟩
  · rintro ⟨b, l₁, s₁, hx, hf⟩
    exact ⟨(.ok b, l₁), s₁, hx, hf⟩

theorem returns_tryCatch {x : Procedure C R ε ℓ α} {h : ε → Procedure C R ε ℓ α} :
    (tryCatch x h).Returns env l s a l' s' ↔
      x.Returns env l s a l' s' ∨
        ∃ e l₁ s₁, x.Throws env l s e l₁ s₁ ∧ (h e).Returns env l₁ s₁ a l' s' := by
  refine Program.ends_bind.trans ⟨?_, ?_⟩
  · rintro ⟨⟨e | b, l₁⟩, s₁, hx, hh⟩
    · exact .inr ⟨e, l₁, s₁, hx, hh⟩
    · obtain ⟨hb, rfl⟩ := Program.ends_done.1 hh
      cases hb
      exact .inl hx
  · rintro (hx | ⟨e, l₁, s₁, hx, hh⟩)
    · exact ⟨(.ok a, l'), s', hx, Program.ends_done.2 ⟨rfl, rfl⟩⟩
    · exact ⟨(.error e, l₁), s₁, hx, hh⟩

theorem returns_call {c : C} {r : R c} :
    (call c : Procedure C R ε ℓ (R c)).Returns env l s r l' s' ↔ env c s (.ok r) s' ∧ l = l' := by
  refine Program.ends_call.trans ⟨?_, ?_⟩
  · rintro ⟨r', s₁, hcall, hdone⟩
    obtain ⟨hr, rfl⟩ := Program.ends_done.1 hdone
    cases hr
    exact ⟨hcall, rfl⟩
  · rintro ⟨hcall, rfl⟩
    exact ⟨.ok r, s', hcall, Program.ends_done.2 ⟨rfl, rfl⟩⟩

theorem throws_call {c : C} {e : ε} :
    (call c : Procedure C R ε ℓ (R c)).Throws env l s e l' s' ↔ env c s (.error e) s' ∧ l = l' := by
  refine Program.ends_call.trans ⟨?_, ?_⟩
  · rintro ⟨r', s₁, hcall, hdone⟩
    obtain ⟨hr, rfl⟩ := Program.ends_done.1 hdone
    cases hr
    exact ⟨hcall, rfl⟩
  · rintro ⟨hcall, rfl⟩
    exact ⟨.error e, s', hcall, Program.ends_done.2 ⟨rfl, rfl⟩⟩

theorem returns_modify {f : ℓ → ℓ} {u : PUnit} :
    (modify f : Procedure C R ε ℓ PUnit).Returns env l s u l' s' ↔ f l = l' ∧ s = s' := by
  refine Program.ends_done.trans ?_
  simp

/-- A sequence throws in its first part or, if that returns, in its second. -/
theorem throws_bind {x : Procedure C R ε ℓ β} {f : β → Procedure C R ε ℓ α} {e : ε} :
    (x >>= f).Throws env l s e l' s' ↔ x.Throws env l s e l' s' ∨
      ∃ b l₁ s₁, x.Returns env l s b l₁ s₁ ∧ (f b).Throws env l₁ s₁ e l' s' := by
  refine Program.ends_bind.trans ⟨?_, ?_⟩
  · rintro ⟨⟨e₁ | b, l₁⟩, s₁, hx, hf⟩
    · obtain ⟨he, rfl⟩ := Program.ends_done.1 hf
      cases he
      exact .inl hx
    · exact .inr ⟨b, l₁, s₁, hx, hf⟩
  · rintro (hx | ⟨b, l₁, s₁, hx, hf⟩)
    · exact ⟨(.error e, l'), s', hx, Program.ends_done.2 ⟨rfl, rfl⟩⟩
    · exact ⟨(.ok b, l₁), s₁, hx, hf⟩

/-- A loop over two lists is the loop over the one and then that over the other. -/
theorem returns_forM_append {xs ys : List β} {f : β → Procedure C R ε ℓ PUnit} {u : PUnit} :
    Returns env ((xs ++ ys).forM f) l s u l' s' ↔
      ∃ l₁ s₁, Returns env (xs.forM f) l s u l₁ s₁ ∧ Returns env (ys.forM f) l₁ s₁ u l' s' := by
  induction xs generalizing l s with
  | nil =>
    refine ⟨fun h => ⟨l, s, returns_pure.2 ⟨rfl, rfl, rfl⟩, h⟩, ?_⟩
    rintro ⟨_, _, hnil, h⟩
    obtain ⟨-, rfl, rfl⟩ := returns_pure.1 hnil
    exact h
  | cons b xs ih =>
    constructor
    · intro h
      obtain ⟨_, l₁, s₁, hfirst, hrest⟩ := returns_bind.1 h
      obtain ⟨l₂, s₂, hxs, hys⟩ := ih.1 hrest
      exact ⟨l₂, s₂, returns_bind.2 ⟨_, l₁, s₁, hfirst, hxs⟩, hys⟩
    · rintro ⟨l₂, s₂, h, hys⟩
      obtain ⟨_, l₁, s₁, hfirst, hxs⟩ := returns_bind.1 h
      exact returns_bind.2 ⟨_, l₁, s₁, hfirst, ih.2 ⟨l₂, s₂, hxs, hys⟩⟩

theorem returns_get {k : ℓ} : Returns env (get : Procedure C R ε ℓ ℓ) l s k l' s' ↔
    l = k ∧ l = l' ∧ s = s' := by
  refine Program.ends_done.trans ?_
  simp [and_assoc]

theorem returns_withLocals {ℓ' : Type} {k : ℓ'} {x : Procedure C R ε ℓ' α}
    (h : (withLocals k x : Procedure C R ε ℓ α).Returns env l s a l' s') :
    ∃ k', x.Returns env k s a k' s' ∧ l = l' := by
  obtain ⟨r, s₁, hstart, hdone⟩ := Program.ends_bind.1 h
  obtain ⟨hr, rfl⟩ := Program.ends_done.1 hdone
  cases hr
  obtain ⟨⟨r, k'⟩, s₂, hx, hdone⟩ := Program.ends_bind.1 hstart
  obtain ⟨rfl, rfl⟩ := Program.ends_done.1 hdone
  exact ⟨k', hx, rfl⟩

theorem Returns.withLocals {ℓ' : Type} {k k' : ℓ'} {x : Procedure C R ε ℓ' α}
    (h : x.Returns env k s a k' s') :
    (Procedure.withLocals k x : Procedure C R ε ℓ α).Returns env l s a l s' :=
  Program.ends_bind.2 ⟨_, s', Program.ends_bind.2 ⟨_, s', h, Program.ends_done.2 ⟨rfl, rfl⟩⟩,
    Program.ends_done.2 ⟨rfl, rfl⟩⟩

theorem Throws.withLocals {ℓ' : Type} {k k' : ℓ'} {x : Procedure C R ε ℓ' α} {e : ε}
    (h : x.Throws env k s e k' s') :
    (Procedure.withLocals k x : Procedure C R ε ℓ α).Throws env l s e l s' :=
  Program.ends_bind.2 ⟨_, s', Program.ends_bind.2 ⟨_, s', h, Program.ends_done.2 ⟨rfl, rfl⟩⟩,
    Program.ends_done.2 ⟨rfl, rfl⟩⟩

theorem throws_throw {e : ε} : (throw e : Procedure C R ε ℓ α).Throws env l s e l s :=
  Program.ends_done.2 ⟨rfl, rfl⟩

/-- What is caught may throw again. -/
theorem Throws.tryCatch {x : Procedure C R ε ℓ α} {h : ε → Procedure C R ε ℓ α} {e e' : ε} {l₁ : ℓ}
    {s₁ : σ} (hx : x.Throws env l s e l₁ s₁) (hh : (h e).Throws env l₁ s₁ e' l' s') :
    (MonadExcept.tryCatch x h).Throws env l s e' l' s' :=
  Program.ends_bind.2 ⟨_, s₁, hx, hh⟩

/-- An attempt of what returns returns. -/
theorem Returns.attempt {x : Procedure C R ε ℓ α} (h : x.Returns env l s a l' s') :
    (Procedure.attempt x).Returns env l s (.ok a) l' s' :=
  Program.ends_bind.2 ⟨_, s', h, Program.ends_done.2 ⟨rfl, rfl⟩⟩

theorem Throws.attempt {x : Procedure C R ε ℓ α} {e : ε} (h : x.Throws env l s e l' s') :
    (Procedure.attempt x).Returns env l s (.error e) l' s' :=
  Program.ends_bind.2 ⟨_, s', h, Program.ends_done.2 ⟨rfl, rfl⟩⟩

theorem not_throws_modify {f : ℓ → ℓ} {e : ε} :
    ¬(modify f : Procedure C R ε ℓ PUnit).Throws env l s e l' s' := fun h => by
  cases (Program.ends_done.1 h).1

/-- An attempt returns when its procedure ends in either way. -/
theorem returns_attempt {x : Procedure C R ε ℓ α} {r : Except ε α}
    (h : (attempt x).Returns env l s r l' s') :
    (∃ a, r = .ok a ∧ x.Returns env l s a l' s') ∨
      ∃ e, r = .error e ∧ x.Throws env l s e l' s' := by
  obtain ⟨⟨r', l₁⟩, s₁, hx, hdone⟩ := Program.ends_bind.1 h
  obtain ⟨hr, rfl⟩ := Program.ends_done.1 hdone
  cases hr
  cases r' with
  | ok a => exact .inl ⟨a, rfl, hx⟩
  | error e => exact .inr ⟨e, rfl, hx⟩

theorem not_returns_throw_bind {e : ε} {f : β → Procedure C R ε ℓ α} :
    ¬(throw e >>= f : Procedure C R ε ℓ α).Returns env l s a l' s' := fun h => by
  obtain ⟨_, _, _, hthrow, -⟩ := returns_bind.1 h
  exact not_returns_throw hthrow

theorem wp_throws {x : Procedure C R ε ℓ α} {e : ε} (hx : wp env G x Q E l s)
    (h : x.Throws env l s e l' s') : E e l' s' := by
  obtain ⟨t, hrun⟩ := h
  have halways : (x.run.run l).Always env G (fun r => ends Q E r.1 r.2) s := hx
  exact halways.ends hrun

/-- A procedure whose calls change the state as a preorder allows changes it so
    as a whole. -/
theorem Keeps.returns [IsPreorder σ G] {x : Procedure C R ε ℓ α}
    (hx : Keeps env G (fun _ => True) x) (h : x.Returns env l s a l' s') : G s s' := by
  obtain ⟨t, hrun⟩ := h
  exact (hx l s trivial).invariant (I := G s) hrun (Std.Refl.refl s) fun _ _ h₁ h₂ =>
    IsTrans.trans _ _ _ h₁ h₂

/-- What the calls `S` keep is true at the end of a run that makes no others. -/
theorem Makes.returns {S : C → Prop} {Q : α → Prop} {x : Procedure C R ε ℓ α} (hx : Makes S x Q)
    (hcall : ∀ c s r s', S c → K s → env c s r s' → K s') (hs : K s)
    (h : x.Returns env l s a l' s') : Q a ∧ K s' := by
  obtain ⟨t, hrun⟩ := h
  have halways := Program.Makes.always (G := fun _ _ => True) (hx l)
    (fun c s r s' hc hK henv => ⟨trivial, hcall c s r s' hc hK henv⟩) hs
  obtain ⟨hQ, hK⟩ := halways.ends hrun
  exact ⟨hQ a rfl, hK⟩

theorem Makes.throws {S : C → Prop} {Q : α → Prop} {x : Procedure C R ε ℓ α} {e : ε}
    (hx : Makes S x Q) (hcall : ∀ c s r s', S c → K s → env c s r s' → K s') (hs : K s)
    (h : x.Throws env l s e l' s') : K s' := by
  obtain ⟨t, hrun⟩ := h
  have halways := Program.Makes.always (G := fun _ _ => True) (hx l)
    (fun c s r s' hc hK henv => ⟨trivial, hcall c s r s' hc hK henv⟩) hs
  exact (halways.ends hrun).2

/-- A program of a procedure returns when the procedure does. -/
theorem ends_start {x : Procedure C R ε ℓ α} :
    (x.start l).Ends env s (.ok a) s' ↔ ∃ l', x.Returns env l s a l' s' := by
  refine Program.ends_bind.trans ⟨?_, ?_⟩
  · rintro ⟨⟨r, l₁⟩, s₁, hx, hdone⟩
    obtain ⟨rfl, rfl⟩ := Program.ends_done.1 hdone
    exact ⟨l₁, hx⟩
  · rintro ⟨l', hx⟩
    exact ⟨_, s', hx, Program.ends_done.2 ⟨rfl, rfl⟩⟩

end Procedure

end Foundation
