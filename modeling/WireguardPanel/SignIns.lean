import WireguardPanel.UserAccounts

/-!
# Logins beside a change of the password

A login reads the account and verifies the password, and creates the session in
a statement of its own, later on. A change of the password deletes the sessions
that there are.

* `SignIns`: the accounts, the logins that are under way, and the password on
  whose strength each session was created.
* `SignIns.next`: a statement of a login or of `updateManagedUser`.
* `SignIns.Kept`: what a transaction that has deleted the sessions relies on.
* `sessionsCurrent_of_reaches`: in every run in which a session is created while
  the password that was verified still holds, none outlives its password.
-/

namespace WireguardPanel

open Foundation

/-- What a login uses of `lib/security.ts` and of the database. -/
structure Passwords where
  hashPassword : String → String
  verifyPassword : String → String → Bool
  /-- The function `lower` of SQL. -/
  lower : String → String

/-- How far a login has come whose password is right, with the row that
    `authenticate` has read. -/
inductive SignIn
  | verified (user : UserRow)
  /-- `authenticate` has returned. -/
  | authenticated (user : UserRow)
  /-- The failures are cleared. -/
  | cleared (user : UserRow)

/-- The row that was read. -/
def SignIn.user : SignIn → UserRow
  | .verified user | .authenticated user | .cleared user => user

/-- The accounts and the logins. -/
structure SignIns where
  accounts : Accounts
  logins : ℕ → Option SignIn
  /-- The hash of the password on whose strength a session was created. -/
  grounds : String → Option String

/-- A statement of the login `j`, or another one. -/
inductive SignInStep
  /-- A statement of `updateManagedUser`. -/
  | account (a : UserStep)
  /-- The `SELECT` of `authenticate`, and the verification of the password. -/
  | select (j : ℕ) (username password : String)
  /-- The `UPDATE` of `authenticate`. -/
  | touch (j : ℕ)
  /-- `clearLoginFailures`. -/
  | clear (j : ℕ)
  /-- `createSession`. -/
  | insert (j : ℕ) (tokenHash : String)
  /-- A logout, or the removal of the sessions that have expired. -/
  | remove (tokenHashes : List String)

namespace SignIns

/-- The login `j` has come further. -/
def advance (s : SignIns) (j : ℕ) (stage : SignIn) : SignIns :=
  { s with logins := Function.update s.logins j (some stage) }

/-- The session of the login `j` is created. -/
def signIn (s : SignIns) (j : ℕ) (user : UserRow) (tokenHash : String) : SignIns where
  accounts := { s.accounts with sessions := s.accounts.sessions ++ [⟨tokenHash, user.id⟩] }
  logins := Function.update s.logins j none
  grounds := Function.update s.grounds tokenHash (some user.passwordHash)

/-- The state after a statement. A login whose password is wrong ends. An `UPDATE`
    of the account waits for its lock, and so does the `INSERT` of a session,
    whose foreign key locks the account against `FOR UPDATE`. -/
def next (auth : Passwords) (a : SignInStep) (s : SignIns) : Option SignIns :=
  match a with
  | .account a =>
    (Accounts.next auth.hashPassword a s.accounts).map fun accounts => { s with accounts }
  | .select j username password =>
    if (s.logins j).isNone then
      match s.accounts.users.rows.find? fun u => auth.lower u.username = auth.lower username with
      | some u =>
        if u.enabled = true ∧ auth.verifyPassword password u.passwordHash = true then
          some (s.advance j (.verified u))
        else some s
      | none => some s
    else none
  | .touch j =>
    match s.logins j with
    | some (.verified u) =>
      if s.accounts.locks u.id = none then some (s.advance j (.authenticated u)) else none
    | _ => none
  | .clear j =>
    match s.logins j with
    | some (.authenticated u) => some (s.advance j (.cleared u))
    | _ => none
  | .insert j tokenHash =>
    match s.logins j with
    | some (.cleared u) =>
      if s.accounts.locks u.id = none ∧ (s.accounts.user u.id).isSome ∧
          ∀ session ∈ s.accounts.sessions, session.tokenHash ≠ tokenHash then
        some (s.signIn j u tokenHash)
      else none
    | _ => none
  | .remove tokenHashes => some { s with
      accounts := { s.accounts with
        sessions := s.accounts.sessions.filter fun session => session.tokenHash ∉ tokenHashes } }

/-- The logins and the changes of accounts, statement by statement. -/
def system (auth : Passwords) : System SignIns SignInStep := .ofNext (next auth)

/-- Every session was created on the strength of the password that its account
    has. -/
def Current (s : SignIns) : Prop :=
  ∀ session ∈ s.accounts.sessions, ∀ hash ∈ s.grounds session.tokenHash,
    ∀ u ∈ s.accounts.user session.userId, u.passwordHash = hash

instance (s : SignIns) : Decidable s.Current :=
  inferInstanceAs (Decidable (∀ session ∈ s.accounts.sessions, _))

/-- A session is created while the account still has the password that was
    verified. -/
def Admits : SignInStep → SignIns → Prop
  | .insert j _, s => ∀ login ∈ s.logins j, ∀ u ∈ s.accounts.user login.user.id,
      u.passwordHash = login.user.passwordHash
  | _, _ => True

instance : (a : SignInStep) → (s : SignIns) → Decidable (Admits a s)
  | .insert j _, s => inferInstanceAs (Decidable (∀ login ∈ s.logins j, _))
  | .account _, _ | .select .., _ | .touch _, _ | .clear _, _ | .remove _, _ => .isTrue trivial

end SignIns

/-! ## What a transaction does to sessions -/

namespace Accounts

variable {s s' : Accounts} {hashPassword : String → String} {a : UserStep}

/-- A transaction comes to the stage at which it has deleted the sessions by the
    statement that deletes them. -/
theorem revoked_of_next (h : next hashPassword a s = some s') {i : ℕ} {t : UserTransaction}
    {target : UserRow} {tokens : List String} (ht : s'.transactions i = some t)
    (hstage : t.stage = .revoked target tokens) :
    s.transactions i = some t ∨
      s'.sessions = s.sessions ∧ tokens = t.revokedTokens s.sessions target := by
  -- Other statements come to other stages, or end the transaction.
  have hadvance : ∀ {j : ℕ} {u : UserTransaction} {stage : UserStage},
      (∀ target tokens, stage ≠ .revoked target tokens) →
      (s.advance j u stage).transactions i = some t → s.transactions i = some t :=
      fun {j u stage} hother ht => by
    rcases transactions_advance ht with ⟨-, rfl⟩ | ⟨-, ht⟩
    · exact absurd hstage (hother _ _)
    · exact ht
  cases a with
  | start j id input actorId =>
    simp only [next] at h
    split_ifs at h
    cases h
    replace ht : Function.update s.transactions j _ i = some t := ht
    rw [Function.update_apply] at ht
    split_ifs at ht
    · cases ht
      cases hstage
    · exact .inl ht
  | lock j =>
    obtain ⟨u, hu, h⟩ := Option.bind_eq_some_iff.1 h
    split at h
    · split_ifs at h
      split at h
      · cases h
        exact .inl (hadvance (fun _ _ h => by cases h) ht)
      · cases h
        exact .inl (transactions_finish ht).2
    · cases h
  | check j =>
    obtain ⟨u, hu, h⟩ := Option.bind_eq_some_iff.1 h
    split at h
    · split at h
      · cases h
        exact .inl (hadvance (fun _ _ h => by cases h) ht)
      · cases h
        exact .inl (transactions_finish ht).2
    · cases h
  | update j =>
    obtain ⟨u, hu, h⟩ := Option.bind_eq_some_iff.1 h
    split at h
    · cases h
      exact .inl (hadvance (fun _ _ h => by cases h) ht)
    · cases h
  | revoke j =>
    obtain ⟨u, hu, h⟩ := Option.bind_eq_some_iff.1 h
    split at h
    · cases h
      rcases transactions_advance ht with ⟨-, rfl⟩ | ⟨-, ht⟩
      · cases hstage
        exact .inr ⟨rfl, rfl⟩
      · exact .inl ht
    · cases h
  | commit j =>
    obtain ⟨u, hu, h⟩ := Option.bind_eq_some_iff.1 h
    split at h
    · cases h
      exact .inl (transactions_finish ht).2
    · cases h
  | rollback j =>
    obtain ⟨u, -, h⟩ := Option.bind_eq_some_iff.1 h
    cases h
    exact .inl (transactions_finish ht).2

/-- The row of an account after the changes of a transaction. -/
theorem user_store (t : UserTransaction) (tokens : List String) (id : String) :
    (s.store t tokens).user id = (s.user id).map t.write := by
  have hid : ∀ u : UserRow, (t.write u).id = u.id := fun u => by
    unfold UserTransaction.write
    split_ifs <;> rfl
  change (s.users.rows.map t.write).find? (fun u => u.id = id) = _
  rw [List.find?_map, user]
  congr 2
  funext u
  simp [hid]

/-- Rows and sessions are only changed by a commit. -/
theorem Moves.stores (h : s.Moves a s') :
    s'.users = s.users ∧ s'.sessions = s.sessions ∨
      ∃ i t target tokens, s.transactions i = some t ∧ t.stage = .revoked target tokens ∧
        s' = (s.store t tokens).finish i := by
  cases h with
  | start | lock | check | pass | finish => exact .inl ⟨rfl, rfl⟩
  | commit ht hstage => exact .inr ⟨_, _, _, _, ht, hstage, rfl⟩

end Accounts

namespace SignIns

variable {s s' : SignIns} {auth : Passwords}

/-- What a transaction that has deleted the sessions relies on: its account is
    locked, so that no session is created until it ends. -/
structure Kept (s : SignIns) : Prop where
  held : s.accounts.Held
  collected : ∀ i t target tokens, s.accounts.transactions i = some t →
    t.stage = .revoked target tokens → t.passwordHash.isSome = true →
    ∀ session ∈ s.accounts.sessions, session.userId = t.id → session.tokenHash ∈ tokens
  current : s.Current

/-- A login that comes further touches nothing else. -/
theorem Kept.advance (h : s.Kept) (j : ℕ) (stage : SignIn) : (s.advance j stage).Kept :=
  ⟨h.held, h.collected, h.current⟩

/-- Fewer sessions. -/
theorem Kept.remove (h : s.Kept) (tokenHashes : List String) : Kept { s with
    accounts := { s.accounts with
      sessions := s.accounts.sessions.filter
        fun session => session.tokenHash ∉ tokenHashes } } where
  held := h.held
  collected i t target tokens ht hstage hpassword session hsession :=
    h.collected i t target tokens ht hstage hpassword session (List.mem_of_mem_filter hsession)
  current session hsession := h.current session (List.mem_of_mem_filter hsession)

/-- A session that is created with the password that holds. -/
theorem Kept.signIn (h : s.Kept) {j : ℕ} {u : UserRow} {tokenHash : String}
    (hfree : s.accounts.locks u.id = none)
    (hfresh : ∀ session ∈ s.accounts.sessions, session.tokenHash ≠ tokenHash)
    (hholds : ∀ v ∈ s.accounts.user u.id, v.passwordHash = u.passwordHash) :
    (s.signIn j u tokenHash).Kept where
  held := h.held
  collected i t target tokens ht hstage hpassword session hsession hid := by
    rcases List.mem_append.1 hsession with hsession | hsession
    · exact h.collected i t target tokens ht hstage hpassword session hsession hid
    · -- The account of a transaction at this stage is locked.
      have hlock := (h.held i t target ht (hstage ▸ rfl)).1
      cases List.mem_singleton.1 hsession
      rw [← hid, hfree] at hlock
      cases hlock
  current session hsession hash hhash v hv := by
    rcases List.mem_append.1 hsession with hsession | hsession
    · have hold :
          (s.signIn j u tokenHash).grounds session.tokenHash = s.grounds session.tokenHash :=
        Function.update_of_ne (hfresh session hsession) ..
      rw [hold] at hhash
      exact h.current session hsession hash hhash v hv
    · cases List.mem_singleton.1 hsession
      have hnew : (s.signIn j u tokenHash).grounds tokenHash = some u.passwordHash :=
        Function.update_self ..
      cases hnew.symm.trans hhash
      exact hholds v hv

/-- The commit of a transaction that has changed the password leaves no session of
    its account. -/
theorem Kept.commit (h : s.Kept) {i : ℕ} {t : UserTransaction} {target : UserRow}
    {tokens : List String} (ht : s.accounts.transactions i = some t)
    (hstage : t.stage = .revoked target tokens) :
    Current { s with accounts := (s.accounts.store t tokens).finish i } := by
  intro session hsession hash hhash u hu
  obtain ⟨hsession, hkept⟩ := List.mem_filter.1 hsession
  replace hkept : session.tokenHash ∉ tokens := by simpa using hkept
  replace hu : (s.accounts.store t tokens).user session.userId = some u := hu
  rw [Accounts.user_store] at hu
  obtain ⟨v, hv, rfl⟩ := Option.map_eq_some_iff.1 hu
  have hold := h.current session hsession hash hhash v hv
  have hid : v.id = session.userId := (Accounts.mem_of_user hv).2
  unfold UserTransaction.write
  split_ifs with hsame
  · cases hpassword : t.passwordHash with
    | none => exact hold
    | some password =>
      have hmem := h.collected i t target tokens ht hstage (by rw [hpassword]; rfl) session hsession
        (hid.symm.trans hsame)
      exact absurd hmem hkept
  · exact hold

/-- A statement of a transaction. -/
theorem Kept.account (h : s.Kept) {a : UserStep} {accounts : Accounts}
    (hnext : Accounts.next auth.hashPassword a s.accounts = some accounts) :
    Kept { s with accounts } := by
  have hmoves := Accounts.moves_of_next hnext
  have hsessions : ∀ session ∈ accounts.sessions, session ∈ s.accounts.sessions := by
    rcases hmoves.stores with ⟨-, hsame⟩ | ⟨_, _, _, _, -, -, rfl⟩
    · rw [hsame]
      exact fun _ hsession => hsession
    · exact fun _ hsession => List.mem_of_mem_filter hsession
  refine ⟨Accounts.Held.moves h.held hmoves, ?_, ?_⟩
  · intro i t target tokens ht hstage hpassword session hsession hid
    rcases Accounts.revoked_of_next hnext ht hstage with hold | ⟨-, rfl⟩
    · exact h.collected i t target tokens hold hstage hpassword session (hsessions _ hsession) hid
    · unfold UserTransaction.revokedTokens
      rw [if_pos (.inl hpassword)]
      exact List.mem_map_of_mem (List.mem_filter.2 ⟨hsessions _ hsession, decide_eq_true hid⟩)
  · rcases hmoves.stores with ⟨husers, hsame⟩ | ⟨i, t, target, tokens, ht, hstage, rfl⟩
    · intro session hsession hash hhash u hu
      replace hu : accounts.user session.userId = some u := hu
      rw [Accounts.user, husers] at hu
      exact h.current session (hsessions _ hsession) hash hhash u hu
    · exact h.commit ht hstage

/-- A statement that the condition admits leaves no session that has outlived its
    password. -/
theorem Kept.next (h : s.Kept) {a : SignInStep} (hadmits : Admits a s)
    (hnext : next auth a s = some s') : s'.Kept := by
  cases a with
  | account a =>
    obtain ⟨accounts, haccounts, rfl⟩ := Option.map_eq_some_iff.1 hnext
    exact h.account haccounts
  | select j username password =>
    simp only [SignIns.next] at hnext
    split_ifs at hnext
    split at hnext
    · split_ifs at hnext
      · cases hnext
        exact h.advance j _
      · cases hnext
        exact h
    · cases hnext
      exact h
  | touch j =>
    simp only [SignIns.next] at hnext
    split at hnext
    · split_ifs at hnext
      cases hnext
      exact h.advance j _
    · cases hnext
  | clear j =>
    simp only [SignIns.next] at hnext
    split at hnext
    · cases hnext
      exact h.advance j _
    · cases hnext
  -- The one statement under the condition: the account may have changed since it was read.
  | insert j tokenHash =>
    simp only [SignIns.next] at hnext
    split at hnext
    · rename_i u hlogin
      split_ifs at hnext with hfree
      cases hnext
      exact h.signIn hfree.1 hfree.2.2 (hadmits _ hlogin)
    · cases hnext
  | remove tokenHashes =>
    cases hnext
    exact h.remove tokenHashes

/-- Before any login or any change of an account has begun. -/
structure Idle (s : SignIns) : Prop where
  transactions : s.accounts.Idle
  logins : ∀ j, s.logins j = none
  grounds : ∀ tokenHash, s.grounds tokenHash = none

end SignIns

/-- In every run in which each session is created while its account still has the
    password that the login has verified, no session outlives its password. -/
theorem sessionsCurrent_of_reaches {auth : Passwords} {s t : SignIns} (hidle : s.Idle)
    (h : (SignIns.system auth).Reaches SignIns.Admits s t) : t.Current := by
  have hstart : s.Kept :=
    ⟨fun i t target ht _ => absurd ((hidle.transactions i).symm.trans ht) nofun,
      fun i t target tokens ht => absurd ((hidle.transactions i).symm.trans ht) nofun,
      fun session _ hash hhash => absurd ((hidle.grounds session.tokenHash).symm.trans hhash) nofun⟩
  exact (h.invariant hstart fun _ _ _ hkept hadmits hnext => hkept.next hadmits hnext).current

/-! ## A login beside a change of its password -/

/-- Passwords that are stored as they are. -/
def plainPasswords : Passwords where
  hashPassword := id
  verifyPassword password hash := decide (password = hash)
  lower := id

/-- A Super Admin, and an account with the password `old`. -/
def twoAccounts : SignIns where
  accounts := { twoAdmins with
    users := ⟨[⟨"a", "first", .superAdmin, true, "secret"⟩,
      ⟨"b", "second", .administrator, true, "old"⟩], fun _ _ => rfl, by decide⟩ }
  logins _ := none
  grounds _ := none

theorem twoAccounts_idle : twoAccounts.Idle := ⟨fun _ => rfl, fun _ => rfl, fun _ => rfl⟩

/-- A login up to the creation of its session. -/
def loginSteps (j : ℕ) (password : String) : List SignInStep :=
  [.select j "second" password, .touch j, .clear j]

/-- The Super Admin changes the password of the other account. -/
def passwordSteps : List SignInStep :=
  [.start 0 "b" ⟨.administrator, true, some "new"⟩ "a", .lock 0, .check 0, .update 0, .revoke 0,
    .commit 0].map .account

/-- A session before the change, and one with the new password after it. -/
theorem sessionsCurrent_of_reaches_twoAccounts :
    ∃ t : SignIns, t.accounts.sessions.map SessionRow.tokenHash = ["second"] ∧ t.Current := by
  have hrun : (System.run (System.guarded SignIns.Admits (SignIns.next plainPasswords))
      (loginSteps 0 "old" ++ [.insert 0 "first"] ++ passwordSteps ++ loginSteps 1 "new" ++
        [.insert 1 "second"]) twoAccounts).map
      (fun t => t.accounts.sessions.map SessionRow.tokenHash) = some ["second"] := by decide
  obtain ⟨t, hrun, hsessions⟩ := Option.map_eq_some_iff.1 hrun
  exact ⟨t, hsessions, sessionsCurrent_of_reaches twoAccounts_idle
    (System.reaches_of_guarded_run hrun)⟩

/-- A login that has verified the old password creates its session after the
    change has been committed. -/
theorem exists_outdated_session :
    ¬∀ (auth : Passwords) (s t : SignIns), s.Idle →
      (SignIns.system auth).Reaches (fun _ _ => True) s t → t.Current := by
  intro h
  have hrun : (System.run (SignIns.next plainPasswords)
      (loginSteps 0 "old" ++ passwordSteps ++ [.insert 0 "first"]) twoAccounts).map
      (fun t => decide t.Current) = some false := by decide
  obtain ⟨t, hrun, houtdated⟩ := Option.map_eq_some_iff.1 hrun
  exact of_decide_eq_false houtdated <| h plainPasswords twoAccounts t twoAccounts_idle
    (System.reaches_of_run (fun _ _ _ => trivial) hrun)

end WireguardPanel
