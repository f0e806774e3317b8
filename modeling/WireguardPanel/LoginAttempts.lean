import WireguardPanel.Foundation.System
import Mathlib.Algebra.Order.Ring.Int
import Mathlib.Data.Int.Notation
import Mathlib.Data.List.Basic
import Mathlib.Tactic.SplitIfs

/-!
# Login attempts

A login first looks whether its identity is blocked, then verifies the password,
and then counts the failure. The requests of one identity do this side by side.

* `recordLoginFailure`: the statement that counts a failure.
* `Logins`: the row of the identity, the requests, and the attempt windows so far.
* `Logins.Bounded`: what keeps the number of verifications small.
* `verifications_le_five`: in every run in which a request that overtakes others
  still fits with them into the window, a window has five verifications at most.
-/

namespace WireguardPanel

open Foundation

/-! ## The row of an identity -/

/-- Fifteen minutes, in milliseconds. -/
def attemptWindow : ℤ := 15 * 60 * 1000

/-- A row of `login_attempts`. -/
structure LoginAttemptRow where
  attemptCount : ℕ
  windowStartedAt : ℤ
  blockedUntil : Option ℤ

/-- The window of the row is over at the time `now`. -/
def LoginAttemptRow.Over (row : LoginAttemptRow) (now : ℤ) : Prop :=
  row.windowStartedAt < now - attemptWindow

instance (row : LoginAttemptRow) (now : ℤ) : Decidable (row.Over now) :=
  inferInstanceAs (Decidable (_ < _))

/-- `loginRateLimit` finds that the identity is blocked. -/
def loginBlocked (row : Option LoginAttemptRow) (now : ℤ) : Prop :=
  ∃ r ∈ row, ∃ blockedUntil ∈ r.blockedUntil, now < blockedUntil

instance (row : Option LoginAttemptRow) (now : ℤ) : Decidable (loginBlocked row now) :=
  inferInstanceAs (Decidable (∃ r ∈ row, ∃ blockedUntil ∈ r.blockedUntil, _))

/-- The failure starts an attempt window. -/
def startsWindow (row : Option LoginAttemptRow) (now : ℤ) : Prop := ∀ r ∈ row, r.Over now

instance (row : Option LoginAttemptRow) (now : ℤ) : Decidable (startsWindow row now) :=
  inferInstanceAs (Decidable (∀ r ∈ row, _))

/-- `recordLoginFailure`. -/
def recordLoginFailure (row : Option LoginAttemptRow) (now : ℤ) : LoginAttemptRow :=
  match row with
  | none => { attemptCount := 1, windowStartedAt := now, blockedUntil := none }
  | some r => {
      attemptCount := if r.Over now then 1 else r.attemptCount + 1
      windowStartedAt := if r.Over now then now else r.windowStartedAt
      blockedUntil := if 5 ≤ (if r.Over now then 1 else r.attemptCount + 1) then
        some (now + attemptWindow) else r.blockedUntil }

/-- A failure that starts a window is the first one in it. -/
theorem recordLoginFailure_starts {row : Option LoginAttemptRow} {now : ℤ}
    (h : startsWindow row now) : (recordLoginFailure row now).attemptCount = 1 ∧
      (recordLoginFailure row now).windowStartedAt = now := by
  cases row with
  | none => exact ⟨rfl, rfl⟩
  | some r => exact ⟨if_pos (h r rfl), if_pos (h r rfl)⟩

/-- Another failure is counted in the window that is running, and the fifth one
    blocks the identity. -/
theorem recordLoginFailure_counts {row : Option LoginAttemptRow} {now : ℤ}
    (h : ¬startsWindow row now) : ∃ r, row = some r ∧ now - attemptWindow ≤ r.windowStartedAt ∧
      (recordLoginFailure row now).attemptCount = r.attemptCount + 1 ∧
      (recordLoginFailure row now).windowStartedAt = r.windowStartedAt ∧
      (5 ≤ r.attemptCount + 1 →
        (recordLoginFailure row now).blockedUntil = some (now + attemptWindow)) := by
  obtain ⟨r, hrow, hrunning⟩ : ∃ r, row = some r ∧ ¬r.Over now := by
    unfold startsWindow at h
    push Not at h
    exact h
  subst hrow
  refine ⟨r, rfl, not_lt.1 hrunning, if_neg hrunning, if_neg hrunning, fun hfive => if_pos ?_⟩
  rw [if_neg hrunning]
  exact hfive

/-! ## Requests -/

/-- How far a request has come that was not blocked. -/
inductive LoginRequest
  | admitted
  /-- `authenticate` has returned. -/
  | verified (verifiedAt : ℤ) (correct : Bool)
  /-- The failure is recorded, or the failures are cleared. -/
  | ended (verifiedAt endedAt : ℤ)

/-- The request has not yet recorded its failure. -/
def LoginRequest.pending : LoginRequest → Bool
  | .admitted | .verified .. => true
  | .ended .. => false

/-- The request has verified its password within fifteen minutes from `start`. -/
def LoginRequest.verifiedIn (start : ℤ) : LoginRequest → Bool
  | .admitted => false
  | .verified verifiedAt _ | .ended verifiedAt _ =>
    decide (start ≤ verifiedAt ∧ verifiedAt < start + attemptWindow)

/-- The request has recorded its failure since `start`. -/
def LoginRequest.recordedSince (start : ℤ) : LoginRequest → Bool
  | .admitted | .verified .. => false
  | .ended _ endedAt => decide (start ≤ endedAt)

/-- The times of a request lie before `now`, in their order. -/
def LoginRequest.Before (now : ℤ) : LoginRequest → Prop
  | .admitted => True
  | .verified verifiedAt _ => verifiedAt ≤ now
  | .ended verifiedAt endedAt => verifiedAt ≤ endedAt ∧ endedAt ≤ now

/-- The logins of an identity. -/
structure Logins where
  row : Option LoginAttemptRow
  requests : List LoginRequest
  /-- When the attempt windows have started, the last one first. -/
  windows : List ℤ
  now : ℤ

/-- What happens to the logins of an identity. -/
inductive LoginStep
  | wait (time : ℕ)
  /-- `loginRateLimit` of a new request. -/
  | check
  /-- `authenticate`. -/
  | verify (i : ℕ) (correct : Bool)
  /-- `recordLoginFailure`. -/
  | record (i : ℕ)
  /-- `clearLoginFailures`. -/
  | clear (i : ℕ)

namespace Logins

/-- The state after a step. A request that is blocked ends at once. -/
def next (a : LoginStep) (s : Logins) : Option Logins :=
  match a with
  | .wait time => some { s with now := s.now + time }
  | .check =>
    if loginBlocked s.row s.now then some s
    else some { s with requests := s.requests ++ [.admitted] }
  | .verify i correct =>
    match s.requests[i]? with
    | some .admitted => some { s with requests := s.requests.set i (.verified s.now correct) }
    | _ => none
  | .record i =>
    match s.requests[i]? with
    | some (.verified verifiedAt false) => some { s with
        row := some (recordLoginFailure s.row s.now)
        requests := s.requests.set i (.ended verifiedAt s.now)
        windows := if startsWindow s.row s.now then s.now :: s.windows else s.windows }
    | _ => none
  | .clear i =>
    match s.requests[i]? with
    | some (.verified verifiedAt true) =>
      some { s with row := none, requests := s.requests.set i (.ended verifiedAt s.now) }
    | _ => none

/-- The logins of an identity, step by step. -/
def system : System Logins LoginStep := .ofNext next

/-- The requests that have not yet recorded their failure. -/
def pending (s : Logins) : ℕ := s.requests.countP LoginRequest.pending

/-- The verifications within fifteen minutes from `start`. -/
def verifications (s : Logins) (start : ℤ) : ℕ := s.requests.countP (LoginRequest.verifiedIn start)

/-- The failures that are counted in the window that is running. -/
def counted (s : Logins) : ℕ :=
  s.row.elim 0 fun r => if s.now < r.windowStartedAt + attemptWindow then r.attemptCount else 0

/-- The identity has not tried to log in. -/
def fresh (now : ℤ) : Logins := { row := none, requests := [], windows := [], now }

/-- Every password is wrong, and a request that is admitted while others have not
    yet recorded their failure fits with them and with the failures that are
    counted into the window. -/
def Admits (a : LoginStep) (s : Logins) : Prop :=
  match a with
  | .verify _ correct => correct = false
  | .check => loginBlocked s.row s.now ∨ s.pending = 0 ∨ s.pending + s.counted ≤ 4
  | _ => True

instance : (a : LoginStep) → (s : Logins) → Decidable (Admits a s)
  | .verify _ correct, _ => inferInstanceAs (Decidable (correct = false))
  | .check, s => inferInstanceAs (Decidable (loginBlocked s.row s.now ∨ _))
  | .wait _, _ | .record _, _ | .clear _, _ => .isTrue trivial

/-! ## Counting -/

/-- The entries that are counted when one is replaced. -/
theorem countP_set_add {α : Type} {l : List α} {i : ℕ} {a : α} (p : α → Bool) (b : α)
    (h : l[i]? = some a) : (l.set i b).countP p + (if p a then 1 else 0) =
      l.countP p + if p b then 1 else 0 := by
  obtain ⟨hi, rfl⟩ := List.getElem?_eq_some_iff.1 h
  have hsplit : l = l.take i ++ l[i] :: l.drop (i + 1) := by
    rw [List.getElem_cons_drop, List.take_append_drop]
  have hset : l.set i b = l.take i ++ b :: l.drop (i + 1) :=
    List.set_eq_take_append_cons_drop.trans (if_pos hi)
  have hcount := congrArg (List.countP p) hsplit
  rw [List.countP_append, List.countP_cons] at hcount
  rw [hset, List.countP_append, List.countP_cons, hcount]
  omega

/-- A verification in a window is that of a request which has not yet recorded
    its failure, or has recorded it since. -/
theorem verifications_le {requests : List LoginRequest} {now start : ℤ}
    (h : ∀ r ∈ requests, r.Before now) :
    requests.countP (LoginRequest.verifiedIn start) ≤
      requests.countP LoginRequest.pending +
        requests.countP (LoginRequest.recordedSince start) := by
  induction requests with
  | nil => exact Nat.le_refl _
  | cons r requests ih =>
    have hrest := ih fun q hq => h q (List.mem_cons_of_mem _ hq)
    have hfirst := h r (List.mem_cons_self ..)
    simp only [List.countP_cons]
    cases r with
    | admitted => simp [LoginRequest.verifiedIn]; omega
    | verified => simp only [LoginRequest.pending, LoginRequest.recordedSince]; split_ifs <;> omega
    | ended verifiedAt endedAt =>
      have horder : verifiedAt ≤ endedAt := hfirst.1
      simp only [LoginRequest.verifiedIn, LoginRequest.recordedSince, LoginRequest.pending,
        decide_eq_true_eq]
      split_ifs <;> omega

/-! ## The invariant -/

/-- What keeps the number of verifications small. -/
structure Bounded (s : Logins) : Prop where
  wrong : ∀ verifiedAt, .verified verifiedAt true ∉ s.requests
  past : ∀ r ∈ s.requests, r.Before s.now
  unrecorded : s.row = none → s.windows = [] ∧ ∀ verifiedAt endedAt,
    .ended verifiedAt endedAt ∉ s.requests
  started : ∀ row ∈ s.row, row.windowStartedAt ≤ s.now
  older : ∀ row ∈ s.row, ∃ older, s.windows = row.windowStartedAt :: older ∧
    ∀ start ∈ older, start + attemptWindow < row.windowStartedAt
  recorded : ∀ row ∈ s.row,
    row.attemptCount = s.requests.countP (LoginRequest.recordedSince row.windowStartedAt)
  within : ∀ row ∈ s.row, ∀ verifiedAt endedAt, .ended verifiedAt endedAt ∈ s.requests →
    endedAt ≤ row.windowStartedAt + attemptWindow
  blocked : ∀ row ∈ s.row, 5 ≤ row.attemptCount →
    ∃ blockedUntil ∈ row.blockedUntil, row.windowStartedAt + attemptWindow ≤ blockedUntil
  few : s.pending + s.counted ≤ 5
  bound : ∀ start ∈ s.windows, s.verifications start ≤ 5

variable {s s' : Logins}

theorem Bounded.fresh (now : ℤ) : (Logins.fresh now).Bounded where
  wrong _ := List.not_mem_nil
  past _ := nofun
  unrecorded _ := ⟨rfl, fun _ _ => List.not_mem_nil⟩
  started _ := nofun
  older _ := nofun
  recorded _ := nofun
  within _ := nofun
  blocked _ := nofun
  few := Nat.zero_le 5
  bound _ := nofun

theorem Before.mono {r : LoginRequest} {now now' : ℤ} (h : r.Before now) (hle : now ≤ now') :
    r.Before now' := by
  cases r with
  | admitted => trivial
  | verified => exact h.trans hle
  | ended => exact ⟨h.1, h.2.trans hle⟩

theorem Bounded.wait (h : s.Bounded) (time : ℕ) : Bounded { s with now := s.now + time } := by
  have hlater : s.now ≤ s.now + time := by omega
  refine { h with
    past := fun r hr => Before.mono (h.past r hr) hlater
    started := fun row hrow => (h.started row hrow).trans hlater
    few := le_trans ?_ h.few }
  have hcounted : counted { s with now := s.now + time } ≤ s.counted := by
    unfold counted
    cases s.row with
    | none => exact Nat.le_refl _
    | some row =>
      simp only [Option.elim]
      split_ifs <;> omega
  exact Nat.add_le_add_left hcounted _

/-- Without others, a request is only admitted if it fits into the window: the
    fifth failure blocks the identity until the window is over. -/
theorem Bounded.counted_le_four (h : s.Bounded) (hfree : ¬loginBlocked s.row s.now) :
    s.counted ≤ 4 := by
  unfold counted
  cases hrow : s.row with
  | none => exact Nat.zero_le _
  | some row =>
    simp only [Option.elim]
    split_ifs with hnow
    · by_contra hmany
      obtain ⟨blockedUntil, hblocked, hlate⟩ := h.blocked row hrow (by omega)
      exact hfree ⟨row, hrow, blockedUntil, hblocked, by omega⟩
    · exact Nat.zero_le _

theorem Bounded.check (h : s.Bounded) (hfree : ¬loginBlocked s.row s.now)
    (hadmits : s.pending = 0 ∨ s.pending + s.counted ≤ 4) :
    Bounded { s with requests := s.requests ++ [.admitted] } where
  wrong verifiedAt hmem := by
    rcases List.mem_append.1 hmem with hmem | hmem
    · exact h.wrong verifiedAt hmem
    · cases List.mem_singleton.1 hmem
  past r hr := by
    rcases List.mem_append.1 hr with hr | hr
    · exact h.past r hr
    · cases List.mem_singleton.1 hr
      trivial
  unrecorded hrow := by
    refine ⟨(h.unrecorded hrow).1, fun verifiedAt endedAt hmem => ?_⟩
    rcases List.mem_append.1 hmem with hmem | hmem
    · exact (h.unrecorded hrow).2 verifiedAt endedAt hmem
    · cases List.mem_singleton.1 hmem
  started := h.started
  older := h.older
  recorded row hrow := by
    rw [List.countP_append, h.recorded row hrow]
    rfl
  within row hrow verifiedAt endedAt hmem := by
    rcases List.mem_append.1 hmem with hmem | hmem
    · exact h.within row hrow verifiedAt endedAt hmem
    · cases List.mem_singleton.1 hmem
  blocked := h.blocked
  few := by
    have hfour := h.counted_le_four hfree
    change (s.requests ++ [LoginRequest.admitted]).countP LoginRequest.pending + s.counted ≤ 5
    rw [List.countP_append]
    change s.pending + 1 + s.counted ≤ 5
    omega
  bound start hstart := by
    change (s.requests ++ [LoginRequest.admitted]).countP (LoginRequest.verifiedIn start) ≤ 5
    rw [List.countP_append]
    exact h.bound start hstart

theorem Bounded.verify (h : s.Bounded) {i : ℕ} (hi : s.requests[i]? = some .admitted) :
    Bounded { s with requests := s.requests.set i (.verified s.now false) } := by
  have hmem : ∀ {r : LoginRequest}, r ∈ s.requests.set i (.verified s.now false) →
      r = .verified s.now false ∨ r ∈ s.requests :=
        fun {r} hr => (List.mem_or_eq_of_mem_set hr).symm
  have hpending : (s.requests.set i (.verified s.now false)).countP LoginRequest.pending =
      s.requests.countP LoginRequest.pending := by
    have hcount := countP_set_add LoginRequest.pending (.verified s.now false) hi
    exact Nat.add_right_cancel hcount
  have hsince : ∀ start,
      (s.requests.set i (.verified s.now false)).countP (LoginRequest.recordedSince start) =
        s.requests.countP (LoginRequest.recordedSince start) := fun start =>
    countP_set_add (LoginRequest.recordedSince start) (.verified s.now false) hi
  have hpast : ∀ r ∈ s.requests.set i (.verified s.now false), r.Before s.now := fun r hr => by
    rcases hmem hr with rfl | hr
    · exact le_refl s.now
    · exact h.past r hr
  refine { h with
    wrong := fun verifiedAt hr => ?_, past := hpast
    unrecorded := fun hrow => ⟨(h.unrecorded hrow).1, fun verifiedAt endedAt hr => ?_⟩
    recorded := fun row hrow => (h.recorded row hrow).trans (hsince _).symm
    within := fun row hrow verifiedAt endedAt hr => ?_
    few := le_trans (Nat.add_le_add_right hpending.le _) h.few
    bound := fun start hstart => ?_ }
  · rcases hmem hr with hr | hr
    · cases hr
    · exact h.wrong verifiedAt hr
  · rcases hmem hr with hr | hr
    · cases hr
    · exact (h.unrecorded hrow).2 verifiedAt endedAt hr
  · rcases hmem hr with hr | hr
    · cases hr
    · exact h.within row hrow verifiedAt endedAt hr
  · by_cases hin : start ≤ s.now ∧ s.now < start + attemptWindow
    · -- Only the window of the row is still running.
      obtain ⟨row, hrow⟩ : ∃ row, s.row = some row := by
        cases hrow : s.row with
        | none => exact absurd ((h.unrecorded hrow).1 ▸ hstart) List.not_mem_nil
        | some row => exact ⟨row, rfl⟩
      obtain ⟨older, hwindows, hover⟩ := h.older row hrow
      have hcurrent : start = row.windowStartedAt := by
        have hstarted := h.started row hrow
        rcases List.mem_cons.1 (hwindows ▸ hstart) with hstart | hstart
        · exact hstart
        · have hlate := hover start hstart
          omega
      subst hcurrent
      have hcounted : s.counted = row.attemptCount := by
        rw [counted, hrow]
        exact if_pos hin.2
      have hfew := h.few
      have hle := @verifications_le _ s.now row.windowStartedAt hpast
      rw [hpending, hsince, ← h.recorded row hrow, ← hcounted] at hle
      exact hle.trans hfew
    · refine le_trans (le_of_eq ?_) (h.bound start hstart)
      have hcount := countP_set_add (LoginRequest.verifiedIn start) (.verified s.now false) hi
      rw [if_neg (show ¬LoginRequest.verifiedIn start .admitted = true from nofun),
        if_neg (show ¬LoginRequest.verifiedIn start (.verified s.now false) = true from
          fun hverified => hin (of_decide_eq_true hverified))] at hcount
      exact hcount

/-- What a request that records its failure leaves as it was. -/
theorem countP_record {i : ℕ} {verifiedAt now start : ℤ}
    (hi : s.requests[i]? = some (.verified verifiedAt false)) :
    (s.requests.set i (.ended verifiedAt now)).countP LoginRequest.pending + 1 = s.pending ∧
      (s.requests.set i (.ended verifiedAt now)).countP (LoginRequest.verifiedIn start) =
        s.verifications start ∧
      (s.requests.set i (.ended verifiedAt now)).countP (LoginRequest.recordedSince start) =
        s.requests.countP (LoginRequest.recordedSince start) + if start ≤ now then 1 else 0 := by
  have hpending := countP_set_add LoginRequest.pending (.ended verifiedAt now) hi
  have hverified := countP_set_add (LoginRequest.verifiedIn start) (.ended verifiedAt now) hi
  have hrecorded := countP_set_add (LoginRequest.recordedSince start) (.ended verifiedAt now) hi
  refine ⟨hpending, Nat.add_right_cancel hverified, hrecorded.trans ?_⟩
  simp only [LoginRequest.recordedSince, decide_eq_true_eq]

theorem Bounded.record (h : s.Bounded) {i : ℕ} {verifiedAt : ℤ}
    (hi : s.requests[i]? = some (.verified verifiedAt false)) :
    Bounded { s with
      row := some (recordLoginFailure s.row s.now)
      requests := s.requests.set i (.ended verifiedAt s.now)
      windows := if startsWindow s.row s.now then s.now :: s.windows else s.windows } := by
  have hmem : ∀ {r : LoginRequest}, r ∈ s.requests.set i (.ended verifiedAt s.now) →
      r = .ended verifiedAt s.now ∨ r ∈ s.requests :=
        fun {r} hr => (List.mem_or_eq_of_mem_set hr).symm
  have hpast : ∀ r ∈ s.requests.set i (.ended verifiedAt s.now), r.Before s.now := fun r hr => by
    rcases hmem hr with rfl | hr
    · exact ⟨h.past _ (List.mem_of_getElem? hi), le_refl s.now⟩
    · exact h.past r hr
  have hended : ∀ t e, .ended t e ∈ s.requests.set i (.ended verifiedAt s.now) →
      e = s.now ∨ .ended t e ∈ s.requests := fun t e he => by
    rcases hmem he with he | he
    · cases he
      exact .inl rfl
    · exact .inr he
  have hwrong : ∀ t, .verified t true ∉ s.requests.set i (.ended verifiedAt s.now) := fun t ht => by
    rcases hmem ht with ht | ht
    · cases ht
    · exact h.wrong t ht
  have hfew := h.few
  obtain ⟨hpending, -, -⟩ := @countP_record s i verifiedAt s.now s.now hi
  have hbound : ∀ start ∈ s.windows,
      (s.requests.set i (.ended verifiedAt s.now)).countP (LoginRequest.verifiedIn start) ≤ 5 :=
    fun start hstart => (countP_record hi).2.1.trans_le (h.bound start hstart)
  by_cases hstarts : startsWindow s.row s.now
  · obtain ⟨hcount, hstart⟩ := recordLoginFailure_starts hstarts
    -- No failure has been recorded at this time: it would have been in a window.
    have hearlier : ∀ t e, .ended t e ∈ s.requests → e < s.now := fun t e he => by
      cases hrow : s.row with
      | none => exact absurd he ((h.unrecorded hrow).2 t e)
      | some row =>
        have hover : row.windowStartedAt < s.now - attemptWindow := hstarts row hrow
        have hwithin := h.within row hrow t e he
        omega
    have hrecorded : (s.requests.set i (.ended verifiedAt s.now)).countP
        (LoginRequest.recordedSince s.now) = 1 := by
      rw [(countP_record hi).2.2, if_pos (le_refl _), List.countP_eq_zero.2]
      rintro (_ | _ | ⟨t, e⟩) hr hsince
      · cases hsince
      · cases hsince
      · exact absurd (of_decide_eq_true hsince) (not_le.2 (hearlier t e hr))
    have hall := @verifications_le _ s.now s.now hpast
    refine ⟨hwrong, hpast, nofun, ?_, ?_, ?_, ?_, ?_, ?_, ?_⟩
    · rintro row ⟨⟩
      exact hstart.le
    · rintro row ⟨⟩
      refine ⟨s.windows, by rw [if_pos hstarts, hstart], fun start hold => ?_⟩
      rw [hstart]
      cases hrow : s.row with
      | none => exact absurd ((h.unrecorded hrow).1 ▸ hold) List.not_mem_nil
      | some row =>
        obtain ⟨older, hwindows, hover⟩ := h.older row hrow
        have hlast : row.windowStartedAt < s.now - attemptWindow := hstarts row hrow
        rcases List.mem_cons.1 (hwindows ▸ hold) with rfl | hold
        · omega
        · have hlate := hover start hold
          have hwindow : 0 < attemptWindow := by decide
          omega
    · rintro row ⟨⟩
      rw [hcount, hstart, hrecorded]
    · rintro row ⟨⟩ t e he
      have hwindow : 0 < attemptWindow := by decide
      rw [hstart]
      rcases hended t e he with rfl | he
      · omega
      · have hbefore := hearlier t e he
        omega
    · rintro row ⟨⟩ hfive
      omega
    · have hcounted : counted { s with
          row := some (recordLoginFailure s.row s.now)
          requests := s.requests.set i (.ended verifiedAt s.now)
          windows := if startsWindow s.row s.now then s.now :: s.windows else s.windows } ≤ 1 := by
        rw [← hcount]
        exact (ite_le_sup _ _ _).trans (max_le (le_refl _) (Nat.zero_le _))
      refine (Nat.add_le_add_left hcounted _).trans ?_
      change (s.requests.set i _).countP LoginRequest.pending + 1 ≤ 5
      omega
    · intro start hmem
      rw [if_pos hstarts] at hmem
      rcases List.mem_cons.1 hmem with rfl | hmem
      · change (s.requests.set i _).countP _ ≤ 5
        omega
      · exact hbound start hmem
  · obtain ⟨row, hrow, hrunning, hcount, hstart, hblocked⟩ := recordLoginFailure_counts hstarts
    have hstarted := h.started row hrow
    refine ⟨hwrong, hpast, nofun, ?_, ?_, ?_, ?_, ?_, ?_, ?_⟩
    · rintro _ ⟨⟩
      rw [hstart]
      exact hstarted
    · rintro _ ⟨⟩
      rw [if_neg hstarts, hstart]
      exact h.older row hrow
    · rintro _ ⟨⟩
      rw [hcount, hstart, (countP_record hi).2.2, if_pos hstarted, h.recorded row hrow]
    · rintro _ ⟨⟩ t e he
      rw [hstart]
      rcases hended t e he with rfl | he
      · omega
      · exact h.within row hrow t e he
    · rintro _ ⟨⟩ hfive
      rw [hcount] at hfive
      rw [hstart, hblocked hfive]
      exact ⟨_, rfl, by omega⟩
    · have hold : s.counted =
          if s.now < row.windowStartedAt + attemptWindow then row.attemptCount else 0 := by
        rw [counted, hrow]
        rfl
      change (s.requests.set i _).countP LoginRequest.pending +
        (if s.now < (recordLoginFailure s.row s.now).windowStartedAt + attemptWindow then
          (recordLoginFailure s.row s.now).attemptCount else 0) ≤ 5
      rw [hstart, hcount]
      split_ifs at hold ⊢ <;> omega
    · intro start hmem
      rw [if_neg hstarts] at hmem
      exact hbound start hmem

/-- A step that the condition admits keeps the number of verifications small. -/
theorem Bounded.next {a : LoginStep} (h : s.Bounded) (hadmits : Admits a s)
    (hnext : next a s = some s') : s'.Bounded := by
  cases a with
  | wait time =>
    cases hnext
    exact h.wait time
  | check =>
    simp only [Logins.next] at hnext
    split_ifs at hnext with hblocked
    · cases hnext
      exact h
    · cases hnext
      exact h.check hblocked (hadmits.resolve_left hblocked)
  | verify i correct =>
    cases correct with
    | true => cases hadmits
    | false =>
      simp only [Logins.next] at hnext
      split at hnext
      · rename_i hi
        cases hnext
        exact h.verify hi
      · cases hnext
  | record i =>
    simp only [Logins.next] at hnext
    split at hnext
    · rename_i hi
      cases hnext
      exact h.record hi
    · cases hnext
  | clear i =>
    simp only [Logins.next] at hnext
    split at hnext
    · rename_i hi
      exact absurd (List.mem_of_getElem? hi) (h.wrong _)
    · cases hnext

end Logins

/-- In every run of wrong passwords that meets the condition, at most five are
    verified between the start of an attempt window and fifteen minutes later. -/
theorem verifications_le_five {now : ℤ} {s : Logins}
    (h : Logins.system.Reaches Logins.Admits (.fresh now) s) :
    ∀ start ∈ s.windows, s.verifications start ≤ 5 :=
  (h.invariant (Logins.Bounded.fresh now) fun _ _ _ hbounded hadmits hnext =>
    hbounded.next hadmits hnext).bound

/-! ## Five logins -/

/-- A login with a wrong password. -/
def wrongLogin (i : ℕ) : List LoginStep := [.check, .verify i false, .record i]

/-- Of six logins one after the other, five are verified. -/
theorem verifications_le_five_oneByOne :
    ∃ s : Logins, s.requests.length = 5 ∧ ∀ start ∈ s.windows, s.verifications start ≤ 5 := by
  have hrun : (System.run (System.guarded Logins.Admits Logins.next)
      ((List.range 5).flatMap wrongLogin ++ [.check]) (.fresh 0)).map
      (fun s => s.requests.length) = some 5 := by decide
  obtain ⟨s, hrun, hfive⟩ := Option.map_eq_some_iff.1 hrun
  exact ⟨s, hfive, verifications_le_five (System.reaches_of_guarded_run hrun)⟩

/-- Every password is wrong. -/
def LoginStep.Wrong : LoginStep → Prop
  | .verify _ correct => correct = false
  | _ => True

instance : (a : LoginStep) → Decidable a.Wrong
  | .verify _ correct => inferInstanceAs (Decidable (correct = false))
  | .check | .wait _ | .record _ | .clear _ => .isTrue trivial

/-- Six logins that look at the row before any of them has recorded its failure
    are all verified, here after a first one that has started the window. -/
theorem exists_verifications_six :
    ¬∀ (now : ℤ) (s : Logins), Logins.system.Reaches (fun a _ => a.Wrong) (.fresh now) s →
      ∀ start ∈ s.windows, s.verifications start ≤ 5 := by
  intro h
  have hrun : (System.run (System.guarded (fun a _ => a.Wrong) Logins.next)
      (wrongLogin 0 ++ List.replicate 6 .check ++
        (List.range 6).map fun i => .verify (i + 1) false) (.fresh 0)).map
      (fun s => decide (∀ start ∈ s.windows, s.verifications start ≤ 5)) = some false := by
    decide
  obtain ⟨s, hrun, hmany⟩ := Option.map_eq_some_iff.1 hrun
  exact of_decide_eq_false hmany (h 0 s (System.reaches_of_guarded_run hrun))

end WireguardPanel
