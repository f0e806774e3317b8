import WireguardPanel.Foundation.Calendar
import WireguardPanel.Foundation.Machine
import WireguardPanel.LoginAttempts
import WireguardPanel.SignIns
import Mathlib.Data.Rat.Floor

/-!
# The maintenance of logins

A job of the worker deletes old sessions and old rows of `login_attempts`. Nobody
who logs in can tell whether it has run.

* `AuthTables`: the tables that logins and sessions work with.
* `AuthTables.maintenanceCycle`: the part of the job that deletes from them.
* `AuthTables.machine`: the statements of logins, sessions and accounts, one after
  the other, with what each of them is answered.
* `SameAttempt`: two rows that count the failures to come alike.
* `answers_maintenance`: the answers of a run are those without the maintenance.
-/

namespace WireguardPanel

open Foundation

/-! ## Tables -/

/-- A row of `login_attempts` with the column `updated_at`. -/
structure StoredAttempt where
  row : LoginAttemptRow
  updatedAt : ℤ

/-- A row of `sessions` with the time at which it expires. -/
structure StoredSession where
  tokenHash : String
  userId : String
  expiresAt : ℤ

/-- Who is signed in. -/
structure SessionUser where
  id : String
  username : String
  role : ManagedRole
  deriving DecidableEq

/-- The tables of logins, and the time. -/
structure AuthTables where
  users : List UserRow
  sessions : List StoredSession
  attempts : String → Option StoredAttempt
  now : ℤ

/-- What `loginRateLimit` returns. -/
structure RateLimit where
  blocked : Bool
  retryAfter : ℤ

/-- The `Retry-After` of the refusal of a login, if it is refused. -/
def RateLimit.refusal (limit : RateLimit) : Option ℤ :=
  if limit.blocked then some limit.retryAfter else none

/-- What a statement is answered. -/
inductive AuthAnswer
  | refusal (retryAfter : Option ℤ)
  | user (user : Option SessionUser)
  | done
  /-- A constraint is violated. -/
  | failed
  deriving DecidableEq

/-- A statement of a login, of a session or of an account, or the passing of time. -/
inductive AuthEvent
  | wait (time : ℕ)
  | loginRateLimit (identity : String)
  | authenticate (username password : String)
  | recordLoginFailure (identity : String)
  | clearLoginFailures (identity : String)
  | createSession (userId tokenHash : String)
  | getSession (tokenHash : String)
  | destroySession (tokenHash : String)
  /-- A change of the accounts, with the account whose sessions are deleted. -/
  | updateUsers (users : List UserRow) (revoked : Option String)
  | maintenanceCycle

namespace AuthTables

variable (auth : Passwords) (C : Calendar) (ttlHours : ℕ)

/-- The columns that identify a user. -/
def sessionUser (u : UserRow) : SessionUser := ⟨u.id, u.username, u.role⟩

/-- `loginRateLimit`. -/
def loginRateLimit (s : AuthTables) (identity : String) : RateLimit :=
  match (s.attempts identity).bind fun entry => entry.row.blockedUntil with
  | some blockedUntil => {
      blocked := decide (s.now < blockedUntil)
      retryAfter := max 1 ⌈((blockedUntil - s.now : ℤ) : ℚ) / 1000⌉ }
  | none => { blocked := false, retryAfter := 0 }

/-- `authenticate`. The time of the last login is not read anywhere. -/
def authenticate (s : AuthTables) (username password : String) : Option SessionUser :=
  match s.users.find? fun u => auth.lower u.username = auth.lower username with
  | some u =>
    if u.enabled = true ∧ auth.verifyPassword password u.passwordHash = true then
      some (sessionUser u)
    else none
  | none => none

/-- `getSession`. -/
def getSession (s : AuthTables) (tokenHash : String) : Option SessionUser :=
  s.sessions.findSome? fun session =>
    if session.tokenHash = tokenHash ∧ s.now < session.expiresAt then
      (s.users.find? fun u => u.id = session.userId ∧ u.enabled = true).map sessionUser
    else none

/-- The `INSERT` of a session is possible: there is the user, and no session has the
    token. -/
def Accepts (s : AuthTables) (userId tokenHash : String) : Prop :=
  (∃ u ∈ s.users, u.id = userId) ∧ ∀ session ∈ s.sessions, session.tokenHash ≠ tokenHash

instance (s : AuthTables) (userId tokenHash : String) : Decidable (s.Accepts userId tokenHash) :=
  inferInstanceAs (Decidable (_ ∧ _))

/-- `createSession`. -/
def createSession (s : AuthTables) (userId tokenHash : String) : AuthTables :=
  if s.Accepts userId tokenHash then
    { s with sessions := s.sessions ++
      [{ tokenHash, userId, expiresAt := s.now + ttlHours * 60 * 60 * 1000 }] }
  else s

/-- The part of `maintenanceCycle` that is about logins. -/
def maintenanceCycle (s : AuthTables) : AuthTables :=
  { s with
    sessions := s.sessions.filter fun session => ¬session.expiresAt < C.daysBefore 1 s.now
    attempts := fun identity =>
      (s.attempts identity).filter fun entry => ¬entry.updatedAt < C.daysBefore 1 s.now }

/-- The tables after a statement. -/
def next (a : AuthEvent) (s : AuthTables) : AuthTables :=
  match a with
  | .wait time => { s with now := s.now + time }
  | .loginRateLimit _ | .authenticate .. | .getSession _ => s
  | .recordLoginFailure identity =>
    { s with attempts := Function.update s.attempts identity (some
      { row := WireguardPanel.recordLoginFailure ((s.attempts identity).map StoredAttempt.row) s.now
        updatedAt := s.now }) }
  | .clearLoginFailures identity =>
    { s with attempts := Function.update s.attempts identity none }
  | .createSession userId tokenHash => s.createSession ttlHours userId tokenHash
  | .destroySession tokenHash =>
    { s with sessions := s.sessions.filter fun session => session.tokenHash ≠ tokenHash }
  | .updateUsers users revoked => { s with
      users := users
      sessions := s.sessions.filter fun session => some session.userId ≠ revoked }
  | .maintenanceCycle => s.maintenanceCycle C

/-- What a statement is answered. -/
def answer (a : AuthEvent) (s : AuthTables) : AuthAnswer :=
  match a with
  | .loginRateLimit identity => .refusal (s.loginRateLimit identity).refusal
  | .authenticate username password => .user (s.authenticate auth username password)
  | .getSession tokenHash => .user (s.getSession tokenHash)
  | .createSession userId tokenHash =>
    if s.Accepts userId tokenHash then .done else .failed
  | _ => .done

/-- The statements of logins, sessions and accounts. -/
def machine : Machine AuthTables AuthEvent AuthAnswer where
  next := next C ttlHours
  answer := answer auth

end AuthTables

/-- The events that nobody waits for. -/
def AuthEvent.isMaintenance : AuthEvent → Bool
  | .maintenanceCycle => true
  | _ => false

/-- The token that an event issues. -/
def AuthEvent.issued : AuthEvent → Option String
  | .createSession _ tokenHash => some tokenHash
  | _ => none

/-! ## Failures to come -/

/-- The row neither blocks its identity nor counts for the next failure. -/
def LoginAttemptRow.Quiet (row : LoginAttemptRow) (now : ℤ) : Prop :=
  row.Over now ∧ ∀ blockedUntil ∈ row.blockedUntil, blockedUntil ≤ now

/-- Two rows count and block alike. Blocks that are over need not be equal. -/
structure LoginAttemptRow.Alike (now : ℤ) (r r' : LoginAttemptRow) : Prop where
  count : r.attemptCount = r'.attemptCount
  window : r.windowStartedAt = r'.windowStartedAt
  block : r.blockedUntil = r'.blockedUntil ∨
    (∀ blockedUntil ∈ r.blockedUntil, blockedUntil ≤ now) ∧
      ∀ blockedUntil ∈ r'.blockedUntil, blockedUntil ≤ now

/-- The first row is like the second one, or it is missing and the second one is
    as good as missing. -/
def SameAttempt (now : ℤ) (x y : Option StoredAttempt) : Prop :=
  match x with
  | none => ∀ r ∈ y, r.row.Quiet now
  | some r => ∃ r' ∈ y, r.row.Alike now r'.row

/-- The times in a row belong to the time of its last update. -/
def StoredAttempt.Consistent (now : ℤ) (r : StoredAttempt) : Prop :=
  r.row.windowStartedAt ≤ r.updatedAt ∧ r.updatedAt ≤ now ∧
    ∀ blockedUntil ∈ r.row.blockedUntil, blockedUntil ≤ r.updatedAt + attemptWindow

/-- The rows of `login_attempts` are consistent. -/
def AuthTables.Consistent (s : AuthTables) : Prop :=
  ∀ identity, ∀ r ∈ s.attempts identity, r.Consistent s.now

namespace LoginAttemptRow

variable {now later : ℤ} {r r' : LoginAttemptRow}

theorem Quiet.mono (h : r.Quiet now) (hlater : now ≤ later) : r.Quiet later :=
  ⟨lt_of_lt_of_le h.1 (sub_le_sub_right hlater _), fun b hb => (h.2 b hb).trans hlater⟩

theorem Alike.mono (h : r.Alike now r') (hlater : now ≤ later) : r.Alike later r' where
  count := h.count
  window := h.window
  block := h.block.imp id fun hover =>
    ⟨fun b hb => (hover.1 b hb).trans hlater, fun b hb => (hover.2 b hb).trans hlater⟩

theorem Alike.quiet (h : r.Alike now r') (hquiet : r.Quiet now) : r'.Quiet now := by
  refine ⟨?_, ?_⟩
  · rw [Over, ← h.window]
    exact hquiet.1
  · rcases h.block with heq | ⟨-, hover⟩
    · rw [← heq]
      exact hquiet.2
    · exact hover

/-- A failure after a row that is as good as missing. -/
theorem alike_recordLoginFailure_none (h : r.Quiet now) :
    (recordLoginFailure none now).Alike now (recordLoginFailure (some r) now) where
  count := (if_pos h.1).symm
  window := (if_pos h.1).symm
  block := by
    have hblock : (recordLoginFailure (some r) now).blockedUntil = r.blockedUntil := by
      have hone : ¬5 ≤ (if r.Over now then 1 else r.attemptCount + 1) := by
        rw [if_pos h.1]
        decide
      exact if_neg hone
    exact .inr ⟨by simp [recordLoginFailure], by rw [hblock]; exact h.2⟩

/-- A failure after two rows that are alike. -/
theorem Alike.recordLoginFailure (h : r.Alike now r') :
    (WireguardPanel.recordLoginFailure (some r) now).Alike now
      (WireguardPanel.recordLoginFailure (some r') now) := by
  have hover : r.Over now ↔ r'.Over now := by rw [Over, Over, h.window]
  have hcount : (if r.Over now then 1 else r.attemptCount + 1) =
      if r'.Over now then 1 else r'.attemptCount + 1 :=
    if_congr hover rfl (by rw [h.count])
  refine ⟨hcount, if_congr hover rfl h.window, ?_⟩
  simp only [WireguardPanel.recordLoginFailure, ← hcount]
  by_cases hfive : 5 ≤ (if r.Over now then 1 else r.attemptCount + 1)
  · rw [if_pos hfive, if_pos hfive]
    exact .inl rfl
  · rw [if_neg hfive, if_neg hfive]
    exact h.block

end LoginAttemptRow

theorem SameAttempt.mono {now later : ℤ} {x y : Option StoredAttempt} (h : SameAttempt now x y)
    (hlater : now ≤ later) : SameAttempt later x y := by
  cases x with
  | none => exact fun r hr => (h r hr).mono hlater
  | some r =>
    obtain ⟨r', hr', halike⟩ := h
    exact ⟨r', hr', halike.mono hlater⟩

theorem StoredAttempt.Consistent.mono {now later : ℤ} {r : StoredAttempt} (h : r.Consistent now)
    (hlater : now ≤ later) : r.Consistent later :=
  ⟨h.1, h.2.1.trans hlater, h.2.2⟩

/-- A row that has not been updated for a while is quiet. -/
theorem StoredAttempt.Consistent.quiet {now : ℤ} {r : StoredAttempt} (h : r.Consistent now)
    (hold : r.updatedAt < now - attemptWindow) : r.row.Quiet now := by
  obtain ⟨hwindow, -, hblock⟩ := h
  refine ⟨hwindow.trans_lt hold, fun b hb => ?_⟩
  have := hblock b hb
  omega

/-- The row after a failure is consistent. -/
theorem StoredAttempt.Consistent.recordLoginFailure {now : ℤ} {x : Option StoredAttempt}
    (h : ∀ r ∈ x, r.Consistent now) : StoredAttempt.Consistent now
      ⟨WireguardPanel.recordLoginFailure (x.map StoredAttempt.row) now, now⟩ := by
  have hwindow : 0 ≤ attemptWindow := by decide
  cases x with
  | none => exact ⟨le_rfl, le_rfl, by simp [WireguardPanel.recordLoginFailure]⟩
  | some r =>
    obtain ⟨hstarted, hupdated, hblock⟩ := h r rfl
    refine ⟨?_, le_rfl, fun b hb => ?_⟩
    · change (if r.row.Over now then now else r.row.windowStartedAt) ≤ now
      split_ifs
      · exact le_rfl
      · exact hstarted.trans hupdated
    · by_cases hfive : 5 ≤ (if r.row.Over now then 1 else r.row.attemptCount + 1)
      · have hnew : (WireguardPanel.recordLoginFailure (some r.row) now).blockedUntil =
            some (now + attemptWindow) := if_pos hfive
        exact (Option.some.inj (hnew.symm.trans hb)).ge
      · have hkept : (WireguardPanel.recordLoginFailure (some r.row) now).blockedUntil =
            r.row.blockedUntil := if_neg hfive
        exact (hblock b (hkept.symm.trans hb)).trans (Int.add_le_add_right hupdated _)

/-- The rows after a failure count alike. -/
theorem SameAttempt.recordLoginFailure {now : ℤ} {x y : Option StoredAttempt}
    (h : SameAttempt now x y) : SameAttempt now
      (some ⟨WireguardPanel.recordLoginFailure (x.map StoredAttempt.row) now, now⟩)
      (some ⟨WireguardPanel.recordLoginFailure (y.map StoredAttempt.row) now, now⟩) := by
  refine ⟨_, rfl, ?_⟩
  cases x with
  | none =>
    cases y with
    | none => exact ⟨rfl, rfl, .inl rfl⟩
    | some r' => exact LoginAttemptRow.alike_recordLoginFailure_none (h r' rfl)
  | some r =>
    obtain ⟨r', rfl, halike⟩ := h
    exact halike.recordLoginFailure

/-! ## Sessions that have not expired -/

namespace AuthTables

/-- The sessions that have not expired. -/
def live (s : AuthTables) : List StoredSession :=
  s.sessions.filter fun session => s.now < session.expiresAt

/-- A session that has expired signs nobody in. -/
theorem getSession_eq_live (s : AuthTables) (tokenHash : String) :
    s.getSession tokenHash = s.live.findSome? fun session =>
      if session.tokenHash = tokenHash then
        (s.users.find? fun u => u.id = session.userId ∧ u.enabled = true).map sessionUser
      else none := by
  rw [getSession, live]
  induction s.sessions with
  | nil => rfl
  | cons session sessions ih =>
    rw [List.findSome?_cons, ih, List.filter_cons]
    by_cases hlive : s.now < session.expiresAt
    · rw [if_pos (decide_eq_true hlive), List.findSome?_cons]
      simp only [hlive, and_true]
    · have hnot : ¬(session.tokenHash = tokenHash ∧ s.now < session.expiresAt) := fun h => hlive h.2
      rw [if_neg hnot, if_neg (by simp [hlive])]

variable {s t : AuthTables}

/-- Sessions that are selected by anything else are live as before. -/
theorem filter_live {p : StoredSession → Bool} {now : ℤ} {sessions sessions' : List StoredSession}
    (h : (sessions.filter fun session => decide (now < session.expiresAt)) =
      sessions'.filter fun session => decide (now < session.expiresAt)) :
    ((sessions.filter p).filter fun session => decide (now < session.expiresAt)) =
      (sessions'.filter p).filter fun session => decide (now < session.expiresAt) := by
  rw [List.filter_comm, h, List.filter_comm]

/-- What is live later was live before. -/
theorem filter_later {now later : ℤ} (hlater : now ≤ later) (sessions : List StoredSession) :
    (sessions.filter fun session => decide (later < session.expiresAt)) =
      (sessions.filter fun session => decide (now < session.expiresAt)).filter
        fun session => decide (later < session.expiresAt) := by
  rw [List.filter_filter]
  refine List.filter_congr fun session _ => ?_
  have himp : later < session.expiresAt → now < session.expiresAt := fun h => hlater.trans_lt h
  by_cases h : later < session.expiresAt
  · simp [h, himp h]
  · simp [h]

/-! ## Runs with maintenance and without -/

/-- The first tables may lack what is of no use any more, and the tokens to come are
    new to both. -/
structure Spared (events : List AuthEvent) (s t : AuthTables) : Prop where
  now : s.now = t.now
  users : s.users = t.users
  sessions : s.live = t.live
  attempts : ∀ identity, SameAttempt s.now (s.attempts identity) (t.attempts identity)
  consistent : s.Consistent
  nodup : (events.filterMap AuthEvent.issued).Nodup
  fresh : ∀ tokenHash ∈ events.filterMap AuthEvent.issued,
    (∀ session ∈ s.sessions, session.tokenHash ≠ tokenHash) ∧
      ∀ session ∈ t.sessions, session.tokenHash ≠ tokenHash

variable {a : AuthEvent} {events : List AuthEvent}

/-- The tokens that are still to come. -/
theorem mem_issued_cons {tokenHash : String} (h : tokenHash ∈ events.filterMap AuthEvent.issued) :
    tokenHash ∈ (a :: events).filterMap AuthEvent.issued := by
  obtain ⟨b, hb, hissued⟩ := List.mem_filterMap.1 h
  exact List.mem_filterMap.2 ⟨b, List.mem_cons_of_mem _ hb, hissued⟩

theorem nodup_issued (h : ((a :: events).filterMap AuthEvent.issued).Nodup) :
    (events.filterMap AuthEvent.issued).Nodup :=
  h.sublist ((List.sublist_cons_self a events).filterMap _)

/-- The tokens to come stay new if no session is added. -/
theorem Spared.fresh_of_subset (h : Spared (a :: events) s t) {s' t' : AuthTables}
    (hs : s'.sessions ⊆ s.sessions) (ht : t'.sessions ⊆ t.sessions) :
    ∀ tokenHash ∈ events.filterMap AuthEvent.issued,
      (∀ session ∈ s'.sessions, session.tokenHash ≠ tokenHash) ∧
        ∀ session ∈ t'.sessions, session.tokenHash ≠ tokenHash := by
  intro tokenHash hissued
  obtain ⟨hfresh, hfresh'⟩ := h.fresh tokenHash (mem_issued_cons hissued)
  exact ⟨fun session hsession => hfresh session (hs hsession),
    fun session hsession => hfresh' session (ht hsession)⟩

/-- Both tables see the same accounts and the same block of an identity. -/
theorem Spared.answer_eq (h : Spared (a :: events) s t) (auth : Passwords) :
    answer auth a s = answer auth a t := by
  cases a with
  | loginRateLimit identity =>
    have hattempt := h.attempts identity
    have hnow := h.now
    -- A block that is over refuses nobody.
    have hover : ∀ (u : AuthTables), (∀ entry ∈ u.attempts identity,
        ∀ blockedUntil ∈ entry.row.blockedUntil, blockedUntil ≤ u.now) →
        (u.loginRateLimit identity).refusal = none := by
      intro u hblocks
      unfold loginRateLimit
      split
      · next blockedUntil hblock =>
        obtain ⟨entry, hentry, hblock⟩ := Option.bind_eq_some_iff.1 hblock
        have hle := hblocks entry hentry blockedUntil hblock
        simp [RateLimit.refusal, hle]
      · rfl
    change AuthAnswer.refusal _ = AuthAnswer.refusal _
    cases hs : s.attempts identity with
    | none =>
      rw [hs] at hattempt
      rw [hover s (by simp [hs]), hover t fun entry hentry => hnow ▸ (hattempt entry hentry).2]
    | some entry =>
      rw [hs] at hattempt
      obtain ⟨entry', hentry', halike⟩ := hattempt
      rcases halike.block with heq | ⟨hpast, hpast'⟩
      · have hboth : (s.attempts identity).bind (fun entry => entry.row.blockedUntil) =
            (t.attempts identity).bind fun entry => entry.row.blockedUntil := by
          rw [hs, Option.mem_def.1 hentry']
          exact heq
        rw [loginRateLimit, loginRateLimit, hboth, hnow]
      · have hsecond : ∀ found ∈ t.attempts identity,
            ∀ blockedUntil ∈ found.row.blockedUntil, blockedUntil ≤ t.now := fun found hfound => by
          rw [Option.mem_unique hfound hentry', ← hnow]
          exact hpast'
        rw [hover t hsecond, hover s fun found hfound => by rwa [Option.mem_unique hfound hs]]
  | authenticate username password =>
    change AuthAnswer.user _ = AuthAnswer.user _
    rw [authenticate, authenticate, h.users]
  | getSession tokenHash =>
    change AuthAnswer.user _ = AuthAnswer.user _
    rw [getSession_eq_live, getSession_eq_live, h.sessions, h.users]
  | createSession userId tokenHash =>
    obtain ⟨hfresh, hfresh'⟩ := h.fresh tokenHash (List.mem_cons_self ..)
    refine if_congr ?_ rfl rfl
    rw [Accepts, Accepts, h.users]
    exact and_congr_right fun _ => iff_of_true hfresh hfresh'
  | wait | recordLoginFailure | clearLoginFailures | destroySession | updateUsers
  | maintenanceCycle => rfl

variable {C : Calendar} {ttlHours : ℕ}

/-- An event in which both tables take part. -/
theorem Spared.next (h : Spared (a :: events) s t) (ha : a.isMaintenance = false) :
    Spared events (next C ttlHours a s) (AuthTables.next C ttlHours a t) := by
  have hnodup := nodup_issued h.nodup
  have hfresh := h.fresh_of_subset (List.Subset.refl _) (List.Subset.refl _)
  cases a with
  | wait time =>
    have hlater : s.now ≤ s.now + time := by omega
    have hlive : ∀ u : AuthTables, s.now = u.now →
        AuthTables.live { u with now := u.now + time } =
          u.live.filter fun session => decide (s.now + time < session.expiresAt) := fun u hu => by
      rw [live, live, ← hu]
      exact filter_later hlater _
    exact ⟨by rw [AuthTables.next, AuthTables.next, h.now], h.users, by
      rw [AuthTables.next, AuthTables.next, hlive s rfl, hlive t h.now, h.sessions],
      fun identity => (h.attempts identity).mono hlater,
      fun identity r hr => (h.consistent identity r hr).mono hlater, hnodup, hfresh⟩
  | loginRateLimit | authenticate | getSession =>
    exact ⟨h.now, h.users, h.sessions, h.attempts, h.consistent, hnodup, hfresh⟩
  | recordLoginFailure identity =>
    refine ⟨h.now, h.users, h.sessions, fun i => ?_, fun i r hr => ?_, hnodup, hfresh⟩
    · by_cases hi : i = identity
      · subst hi
        have hsame := (h.attempts i).recordLoginFailure
        simp only [AuthTables.next, Function.update_self, ← h.now]
        exact hsame
      · simp only [AuthTables.next, Function.update_of_ne hi]
        exact h.attempts i
    · by_cases hi : i = identity
      · subst hi
        simp only [AuthTables.next, Function.update_self, Option.mem_some] at hr
        exact hr ▸ StoredAttempt.Consistent.recordLoginFailure (h.consistent i)
      · simp only [AuthTables.next, Function.update_of_ne hi] at hr
        exact h.consistent i r hr
  | clearLoginFailures identity =>
    refine ⟨h.now, h.users, h.sessions, fun i => ?_, fun i r hr => ?_, hnodup, hfresh⟩
    · by_cases hi : i = identity
      · subst hi
        simp only [AuthTables.next, Function.update_self]
        exact fun r hr => absurd hr (by simp)
      · simp only [AuthTables.next, Function.update_of_ne hi]
        exact h.attempts i
    · by_cases hi : i = identity
      · subst hi
        simp [AuthTables.next] at hr
      · simp only [AuthTables.next, Function.update_of_ne hi] at hr
        exact h.consistent i r hr
  | createSession userId tokenHash =>
    -- The token is new to both tables, so both accept it or neither does.
    obtain ⟨hnew, hnew'⟩ := h.fresh tokenHash (List.mem_cons_self ..)
    have hlater : tokenHash ∉ events.filterMap AuthEvent.issued := (List.nodup_cons.1 h.nodup).1
    by_cases huser : ∃ u ∈ s.users, u.id = userId
    · have hs : AuthTables.next C ttlHours (.createSession userId tokenHash) s =
          { s with sessions := s.sessions ++
            [{ tokenHash, userId, expiresAt := s.now + ttlHours * 60 * 60 * 1000 }] } :=
        if_pos ⟨huser, hnew⟩
      have ht : AuthTables.next C ttlHours (.createSession userId tokenHash) t =
          { t with sessions := t.sessions ++
            [{ tokenHash, userId, expiresAt := s.now + ttlHours * 60 * 60 * 1000 }] } := by
        rw [h.now]
        exact if_pos ⟨h.users ▸ huser, hnew'⟩
      rw [hs, ht]
      refine ⟨h.now, h.users, ?_, h.attempts, h.consistent, hnodup, fun later hissued => ?_⟩
      · have hlive := h.sessions
        simp only [live, List.filter_append, h.now] at hlive ⊢
        rw [hlive]
      · obtain ⟨hold, hold'⟩ := hfresh later hissued
        have hne : tokenHash ≠ later := fun heq => hlater (heq ▸ hissued)
        exact ⟨List.forall_mem_append.2 ⟨hold, List.forall_mem_singleton.2 hne⟩,
          List.forall_mem_append.2 ⟨hold', List.forall_mem_singleton.2 hne⟩⟩
    · have hs : AuthTables.next C ttlHours (.createSession userId tokenHash) s = s :=
        if_neg fun haccepts => huser haccepts.1
      have ht : AuthTables.next C ttlHours (.createSession userId tokenHash) t = t :=
        if_neg fun haccepts => huser (h.users ▸ haccepts.1)
      rw [hs, ht]
      exact ⟨h.now, h.users, h.sessions, h.attempts, h.consistent, hnodup, hfresh⟩
  | destroySession tokenHash =>
    refine ⟨h.now, h.users, ?_, h.attempts, h.consistent, hnodup,
      h.fresh_of_subset (List.filter_subset_self _) (List.filter_subset_self _)⟩
    have hlive := h.sessions
    simp only [live, AuthTables.next, h.now] at hlive ⊢
    exact filter_live hlive
  | updateUsers users revoked =>
    refine ⟨h.now, rfl, ?_, h.attempts, h.consistent, hnodup,
      h.fresh_of_subset (List.filter_subset_self _) (List.filter_subset_self _)⟩
    have hlive := h.sessions
    simp only [live, AuthTables.next, h.now] at hlive ⊢
    exact filter_live hlive
  | maintenanceCycle => exact absurd ha (by decide)

/-- A maintenance cycle, in which only the first tables take part. A day is longer
    than an attempt window. -/
theorem Spared.maintenanceCycle (h : Spared (.maintenanceCycle :: events) s t)
    (hday : ∀ time, C.daysBefore 1 time ≤ time - attemptWindow) :
    Spared events (s.maintenanceCycle C) t := by
  have hago : C.daysBefore 1 s.now ≤ s.now := (hday s.now).trans (sub_le_self _ (by decide))
  refine ⟨h.now, h.users, ?_, fun identity => ?_, fun identity r hr => ?_, nodup_issued h.nodup,
    h.fresh_of_subset (List.filter_subset_self _) (List.Subset.refl _)⟩
  · -- What is deleted has expired.
    rw [← h.sessions, live, live, AuthTables.maintenanceCycle, List.filter_filter]
    refine List.filter_congr fun session _ => ?_
    by_cases hlive : s.now < session.expiresAt
    · simp [hlive, hago.trans hlive.le]
    · simp [hlive]
  · have hattempt := h.attempts identity
    change SameAttempt s.now ((s.attempts identity).filter _) _
    cases hs : s.attempts identity with
    | none =>
      rw [hs] at hattempt
      exact hattempt
    | some r =>
      rw [hs] at hattempt
      rw [Option.filter_some]
      split_ifs with hkept
      · exact hattempt
      · obtain ⟨r', hr', halike⟩ := hattempt
        have hold : r.updatedAt < C.daysBefore 1 s.now := by simpa using hkept
        have hquiet := (h.consistent identity r hs).quiet (hold.trans_le (hday s.now))
        intro found hfound
        rw [Option.mem_unique hfound hr']
        exact halike.quiet hquiet
  · exact h.consistent identity r (Option.mem_filter_iff.1 hr).1

end AuthTables

open AuthTables in
/-- Whether the maintenance runs, and when, makes no difference to what anybody who
    logs in is answered. -/
theorem answers_maintenance (auth : Passwords) (C : Calendar) (ttlHours : ℕ)
    (hday : ∀ time, C.daysBefore 1 time ≤ time - attemptWindow) (events : List AuthEvent)
    (s : AuthTables) (hs : s.Consistent)
    (htokens : (s.sessions.map StoredSession.tokenHash ++
      events.filterMap AuthEvent.issued).Nodup) :
    (machine auth C ttlHours).answers AuthEvent.isMaintenance events s =
      (machine auth C ttlHours).answers AuthEvent.isMaintenance
        (events.filter fun a => !a.isMaintenance) s := by
  obtain ⟨-, hissued, hdisjoint⟩ := List.nodup_append.1 htokens
  have hfresh : ∀ tokenHash ∈ events.filterMap AuthEvent.issued,
      ∀ session ∈ s.sessions, session.tokenHash ≠ tokenHash :=
    fun tokenHash hmem session hsession heq =>
      hdisjoint _ (List.mem_map.2 ⟨session, hsession, heq⟩) _ hmem rfl
  have hsame : ∀ x : Option StoredAttempt, SameAttempt s.now x x := fun x => by
    cases x with
    | none => exact fun r hr => absurd hr (by simp)
    | some r => exact ⟨r, rfl, rfl, rfl, .inl rfl⟩
  have hstart : Spared events s s :=
    ⟨rfl, rfl, rfl, fun identity => hsame _, hs, hissued, fun tokenHash hmem =>
      ⟨hfresh tokenHash hmem, hfresh tokenHash hmem⟩⟩
  refine Machine.answers_eq_of_simulates (R := Spared) (fun a later u v ha h => ?_)
    (fun a later u v ha h => ?_) hstart
  · exact ⟨h.answer_eq auth, h.next ha⟩
  · cases a with
    | maintenanceCycle => exact h.maintenanceCycle hday
    | wait | loginRateLimit | authenticate | recordLoginFailure | clearLoginFailures | createSession
    | getSession | destroySession | updateUsers => exact absurd ha Bool.false_ne_true

/-- A failure that is forgotten after two days, and a session that expires. -/
def forgottenEvents : List AuthEvent :=
  [.recordLoginFailure "192.0.2.1:root", .createSession "u1" "t1", .wait 172800000,
    .maintenanceCycle, .loginRateLimit "192.0.2.1:root", .getSession "t1",
    .recordLoginFailure "192.0.2.1:root", .createSession "u1" "t2", .getSession "t2"]

/-- The tables with one account. -/
def oneAccount : AuthTables where
  users := [⟨"u1", "root", .superAdmin, true, "secret"⟩]
  sessions := []
  attempts := fun _ => none
  now := 0

theorem answers_maintenance_forgotten :
    (AuthTables.machine plainPasswords .utc 12).answers AuthEvent.isMaintenance forgottenEvents
        oneAccount =
      (AuthTables.machine plainPasswords .utc 12).answers AuthEvent.isMaintenance
        (forgottenEvents.filter fun a => !a.isMaintenance) oneAccount :=
  answers_maintenance plainPasswords .utc 12 (fun _ => sub_le_sub_left (by decide) _)
    forgottenEvents oneAccount (fun _ _ h => absurd h (by simp [oneAccount])) (by decide)

end WireguardPanel
