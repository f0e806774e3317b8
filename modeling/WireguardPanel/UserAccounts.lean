import WireguardPanel.Foundation.System
import WireguardPanel.Foundation.Table
import WireguardPanel.Platform
import Mathlib.Logic.Function.Basic

/-!
# User accounts

`updateManagedUser` changes an account in a transaction that locks the row of
the account. Before it takes the rights of a Super Admin away, it looks for
another one, with a `SELECT` that locks nothing and sees what is committed.

* `Accounts`: the committed rows, the locks on rows and the transactions that are
  under way.
* `Accounts.next`: a statement of a transaction.
* `Accounts.Guarded`: what keeps a Super Admin.
* `exists_superAdmin_of_reaches`: in every run in which a check finds a Super
  Admin that no concurrent transaction is about to take away, one remains.
-/

namespace WireguardPanel

open Foundation

/-! ## Accounts -/

/-- `users.role`. -/
inductive ManagedRole
  | superAdmin
  | administrator
  | readOnly
  deriving DecidableEq

/-- A row of `users`. -/
structure UserRow where
  id : String
  username : String
  role : ManagedRole
  enabled : Bool
  passwordHash : String

/-- The constraints of `users`. -/
def userSchema : Schema UserRow where
  check _ := true
  clash u v := decide (u.id = v.id) || decide (u.username = v.username)
  clash_comm u v := by simp only [eq_comm]

/-- A row of `sessions`. -/
structure SessionRow where
  tokenHash : String
  userId : String

/-- What an account is to become. -/
structure UserInput where
  role : ManagedRole
  enabled : Bool
  password : Option String := none

/-- An enabled Super Admin. -/
def UserRow.SuperAdmin (u : UserRow) : Prop := u.role = .superAdmin ∧ u.enabled = true

instance (u : UserRow) : Decidable u.SuperAdmin := inferInstanceAs (Decidable (_ ∧ _))

/-- What makes an account an enabled Super Admin. -/
def UserInput.SuperAdmin (input : UserInput) : Prop :=
  input.role = .superAdmin ∧ input.enabled = true

instance (input : UserInput) : Decidable input.SuperAdmin := inferInstanceAs (Decidable (_ ∧ _))

/-! ## Transactions -/

/-- How far a transaction has come, with the row that it has locked. -/
inductive UserStage
  | begun
  | locked (target : UserRow)
  | checked (target : UserRow)
  | updated (target : UserRow)
  /-- The sessions are deleted, which are given by their tokens. -/
  | revoked (target : UserRow) (tokens : List String)

/-- The row that is locked. -/
def UserStage.target : UserStage → Option UserRow
  | .begun => none
  | .locked target | .checked target | .updated target | .revoked target _ => some target

/-- The other accounts have been looked at, if they had to be. -/
def UserStage.Passed : UserStage → Prop
  | .begun | .locked _ => False
  | .checked _ | .updated _ | .revoked .. => True

/-- The transaction of a call of `updateManagedUser`. -/
structure UserTransaction where
  id : String
  input : UserInput
  actorId : String
  passwordHash : Option String
  stage : UserStage

/-- The check of a call before its transaction. -/
def checkOwnAccount (id : String) (input : UserInput) (actorId : String) : Except AppError Unit :=
  rejectIf (id = actorId ∧ input.enabled = false) (.error "You cannot disable your own account.")

/-- The hash of the new password, if there is one. -/
def newPasswordHash (hashPassword : String → String) (input : UserInput) : Option String :=
  (input.password.filter fun password => Text.trim password ≠ "").map hashPassword

namespace UserTransaction

/-- The check of the row that has been read. -/
def checkTarget (t : UserTransaction) (target : Option UserRow) : Except AppError UserRow :=
  match target with
  | none => throw (.error "User not found.")
  | some target => do
    rejectIf (t.id = t.actorId ∧ t.input.role ≠ target.role)
      (.error "You cannot change your own role.")
    return target

/-- The transaction takes the rights of a Super Admin away. -/
def Demotes (t : UserTransaction) (target : UserRow) : Prop :=
  target.SuperAdmin ∧ ¬t.input.SuperAdmin

instance (t : UserTransaction) (target : UserRow) : Decidable (t.Demotes target) :=
  inferInstanceAs (Decidable (_ ∧ _))

/-- The check of the other accounts. -/
def checkOthers (t : UserTransaction) (users : Table userSchema) (target : UserRow) :
    Except AppError Unit :=
  rejectIf (t.Demotes target ∧ ¬∃ u ∈ users.rows, u.id ≠ t.id ∧ u.SuperAdmin)
    (.error "At least one enabled Super Admin account must remain.")

/-- The row as the transaction writes it. -/
def write (t : UserTransaction) (u : UserRow) : UserRow :=
  if u.id = t.id then
    { u with
      role := t.input.role
      enabled := t.input.enabled
      passwordHash := t.passwordHash.getD u.passwordHash }
  else u

/-- The tokens of the sessions that the transaction deletes. -/
def revokedTokens (t : UserTransaction) (sessions : List SessionRow) (target : UserRow) :
    List String :=
  if t.passwordHash.isSome ∨ target.role ≠ t.input.role ∨ target.enabled ≠ t.input.enabled then
    (sessions.filter fun s => s.userId = t.id).map SessionRow.tokenHash
  else []

end UserTransaction

/-! ## The database -/

/-- What is committed, which transaction has locked the row of an account, and
    the transactions that are under way. -/
structure Accounts where
  users : Table userSchema
  sessions : List SessionRow
  locks : String → Option ℕ
  transactions : ℕ → Option UserTransaction

/-- A statement of the transaction `i`, or the start of one by the actor. -/
inductive UserStep
  | start (i : ℕ) (id : String) (input : UserInput) (actorId : String)
  /-- `SELECT … FOR UPDATE`, which waits for the lock. -/
  | lock (i : ℕ)
  /-- `SELECT` of the other accounts. -/
  | check (i : ℕ)
  | update (i : ℕ)
  /-- `DELETE` of the sessions. -/
  | revoke (i : ℕ)
  | commit (i : ℕ)
  | rollback (i : ℕ)

namespace Accounts

/-- The transaction `i` has come further. -/
def advance (s : Accounts) (i : ℕ) (t : UserTransaction) (stage : UserStage) : Accounts :=
  { s with transactions := Function.update s.transactions i (some { t with stage }) }

/-- The transaction `i` is over, and its locks are released. -/
def finish (s : Accounts) (i : ℕ) : Accounts :=
  { s with
    locks := fun id => if s.locks id = some i then none else s.locks id
    transactions := Function.update s.transactions i none }

/-- The account with an identifier. -/
def user (s : Accounts) (id : String) : Option UserRow := s.users.rows.find? fun u => u.id = id

/-- The changes of the transaction are committed. -/
def store (s : Accounts) (t : UserTransaction) (tokens : List String) : Accounts :=
  { s with
    users := s.users.relabel t.write (fun _ => rfl) fun u v => by
      simp only [userSchema, UserTransaction.write]
      split_ifs <;> rfl
    sessions := s.sessions.filter fun session => session.tokenHash ∉ tokens }

/-- The actor of a call is an enabled Super Admin. -/
def Permits (s : Accounts) (actorId : String) : Prop :=
  ∃ u ∈ s.users.rows, u.id = actorId ∧ u.SuperAdmin

instance (s : Accounts) (actorId : String) : Decidable (s.Permits actorId) :=
  inferInstanceAs (Decidable (∃ u ∈ s.users.rows, _))

/-- The state after a statement, which is none if the statement has to wait or is
    not the next one. A check that fails rolls the transaction back. -/
def next (hashPassword : String → String) (a : UserStep) (s : Accounts) : Option Accounts :=
  match a with
  | .start i id input actorId =>
    if (s.transactions i).isNone ∧ s.Permits actorId ∧
        (checkOwnAccount id input actorId).toBool then
      some { s with
        transactions := Function.update s.transactions i (some {
          id, input, actorId, passwordHash := newPasswordHash hashPassword input
          stage := .begun }) }
    else none
  | .lock i => do
    let t ← s.transactions i
    match t.stage with
    | .begun =>
      if s.locks t.id = none then
        match t.checkTarget (s.user t.id) with
        | .ok target => some { s.advance i t (.locked target) with
            locks := Function.update s.locks t.id (some i) }
        | .error _ => some (s.finish i)
      else none
    | _ => none
  | .check i => do
    let t ← s.transactions i
    match t.stage with
    | .locked target =>
      match t.checkOthers s.users target with
      | .ok _ => some (s.advance i t (.checked target))
      | .error _ => some (s.finish i)
    | _ => none
  | .update i => do
    let t ← s.transactions i
    match t.stage with
    | .checked target => some (s.advance i t (.updated target))
    | _ => none
  | .revoke i => do
    let t ← s.transactions i
    match t.stage with
    | .updated target =>
      some (s.advance i t (.revoked target (t.revokedTokens s.sessions target)))
    | _ => none
  | .commit i => do
    let t ← s.transactions i
    match t.stage with
    | .revoked _ tokens => some ((s.store t tokens).finish i)
    | _ => none
  | .rollback i => do
    let _ ← s.transactions i
    some (s.finish i)

/-- The database and the transactions, statement by statement. -/
def system (hashPassword : String → String) : System Accounts UserStep :=
  .ofNext (next hashPassword)

/-! ## What a statement does -/

/-- The changes of the state, without the reasons for which a transaction is
    rolled back. -/
inductive Moves (s : Accounts) : UserStep → Accounts → Prop
  | start {i : ℕ} {id actorId : String} {input : UserInput} {t : UserTransaction}
      (hstage : t.stage = .begun) : Moves s (.start i id input actorId)
        { s with transactions := Function.update s.transactions i (some t) }
  | lock {i : ℕ} {t : UserTransaction} {target : UserRow} (ht : s.transactions i = some t)
      (hfree : s.locks t.id = none) (hrow : s.user t.id = some target) : Moves s (.lock i)
        { s.advance i t (.locked target) with locks := Function.update s.locks t.id (some i) }
  | check {i : ℕ} {t : UserTransaction} {target : UserRow} (ht : s.transactions i = some t)
      (hstage : t.stage = .locked target) :
      Moves s (.check i) (s.advance i t (.checked target))
  | pass {a : UserStep} {i : ℕ} {t : UserTransaction} {target : UserRow} {stage : UserStage}
      (ht : s.transactions i = some t) (hpassed : t.stage.Passed)
      (htarget : t.stage.target = some target) (hstage : stage.target = some target) :
      Moves s a (s.advance i t stage)
  | commit {i : ℕ} {t : UserTransaction} {target : UserRow} {tokens : List String}
      (ht : s.transactions i = some t) (hstage : t.stage = .revoked target tokens) :
      Moves s (.commit i) ((s.store t tokens).finish i)
  | finish {a : UserStep} {i : ℕ} : Moves s a (s.finish i)

theorem checkTarget_ok {t : UserTransaction} {row : Option UserRow} {target : UserRow}
    (h : t.checkTarget row = .ok target) : row = some target := by
  cases row with
  | none => cases h
  | some row =>
    obtain ⟨-, hreturn⟩ := rejectIf_bind_ok.1 h
    cases hreturn
    rfl

/-- Every statement does one of these. -/
theorem moves_of_next {hashPassword : String → String} {s s' : Accounts} {a : UserStep}
    (h : next hashPassword a s = some s') : s.Moves a s' := by
  cases a with
  | start i id input actorId =>
    simp only [next] at h
    split_ifs at h
    cases h
    exact .start rfl
  | lock i =>
    obtain ⟨t, ht, h⟩ := Option.bind_eq_some_iff.1 h
    cases hstage : t.stage with
    | begun =>
      simp only [hstage] at h
      split_ifs at h with hfree
      cases hcheck : t.checkTarget (s.user t.id) with
      | ok target =>
        simp only [hcheck] at h
        cases h
        exact .lock ht hfree (checkTarget_ok hcheck)
      | error e =>
        simp only [hcheck] at h
        cases h
        exact .finish
    | locked | checked | updated | revoked => simp [hstage] at h
  | check i =>
    obtain ⟨t, ht, h⟩ := Option.bind_eq_some_iff.1 h
    cases hstage : t.stage with
    | locked target =>
      simp only [hstage] at h
      cases hcheck : t.checkOthers s.users target with
      | ok =>
        simp only [hcheck] at h
        cases h
        exact .check ht hstage
      | error e =>
        simp only [hcheck] at h
        cases h
        exact .finish
    | begun | checked | updated | revoked => simp [hstage] at h
  | update i =>
    obtain ⟨t, ht, h⟩ := Option.bind_eq_some_iff.1 h
    cases hstage : t.stage with
    | checked target =>
      simp only [hstage] at h
      cases h
      exact .pass ht (hstage ▸ trivial) (hstage ▸ rfl) rfl
    | begun | locked | updated | revoked => simp [hstage] at h
  | revoke i =>
    obtain ⟨t, ht, h⟩ := Option.bind_eq_some_iff.1 h
    cases hstage : t.stage with
    | updated target =>
      simp only [hstage] at h
      cases h
      exact .pass ht (hstage ▸ trivial) (hstage ▸ rfl) rfl
    | begun | locked | checked | revoked => simp [hstage] at h
  | commit i =>
    obtain ⟨t, ht, h⟩ := Option.bind_eq_some_iff.1 h
    cases hstage : t.stage with
    | revoked target tokens =>
      simp only [hstage] at h
      cases h
      exact .commit ht hstage
    | begun | locked | checked | updated => simp [hstage] at h
  | rollback i =>
    obtain ⟨t, -, h⟩ := Option.bind_eq_some_iff.1 h
    cases h
    exact .finish

/-! ## The last Super Admin -/

/-- No transaction that has passed its check takes the rights of the account
    away. -/
def Spared (s : Accounts) (u : UserRow) : Prop :=
  ∀ i t, s.transactions i = some t → t.stage.Passed → t.id = u.id → t.input.SuperAdmin

/-- What keeps a Super Admin: rows that are locked stay as they were read, and
    one account is not about to lose its rights. -/
structure Guarded (s : Accounts) : Prop where
  held : ∀ i t target, s.transactions i = some t → t.stage.target = some target →
    s.locks t.id = some i ∧ s.user t.id = some target
  kept : ∃ u ∈ s.users.rows, u.SuperAdmin ∧ s.Spared u

/-- The check of a transaction that takes rights away finds an account that the
    concurrent transactions spare. -/
def Admits (a : UserStep) (s : Accounts) : Prop :=
  ∀ i t target, a = .check i → s.transactions i = some t → t.stage = .locked target →
    t.Demotes target → ∃ u ∈ s.users.rows, u.id ≠ t.id ∧ u.SuperAdmin ∧ s.Spared u

variable {s s' : Accounts}

theorem user_eq_some {u : UserRow} (hu : u ∈ s.users.rows) : s.user u.id = some u := by
  obtain ⟨v, hv⟩ : ∃ v, s.user u.id = some v := Option.isSome_iff_exists.1
    (List.find?_isSome.2 ⟨u, hu, decide_eq_true rfl⟩)
  have hid : v.id = u.id := by simpa using List.find?_some hv
  have hsame : v = u := s.users.eq_of_clash (List.mem_of_find?_eq_some hv) hu
    (by simp [userSchema, hid])
  rw [hv, hsame]

theorem mem_of_user {id : String} {u : UserRow} (h : s.user id = some u) :
    u ∈ s.users.rows ∧ u.id = id :=
  ⟨List.mem_of_find?_eq_some h, by simpa using List.find?_some h⟩

/-- The transactions after the transaction `i` has come further. -/
theorem transactions_advance {i j : ℕ} {t u : UserTransaction} {stage : UserStage}
    (h : (s.advance i t stage).transactions j = some u) :
    j = i ∧ u = { t with stage } ∨ j ≠ i ∧ s.transactions j = some u := by
  change Function.update s.transactions i _ j = _ at h
  rw [Function.update_apply] at h
  split_ifs at h with hj
  · exact .inl ⟨hj, (Option.some.inj h).symm⟩
  · exact .inr ⟨hj, h⟩

/-- The transactions that are left when the transaction `i` is over. -/
theorem transactions_finish {i j : ℕ} {u : UserTransaction}
    (h : (s.finish i).transactions j = some u) : j ≠ i ∧ s.transactions j = some u := by
  change Function.update s.transactions i _ j = _ at h
  rw [Function.update_apply] at h
  split_ifs at h with hj
  exact ⟨hj, h⟩

/-- A transaction does not release the locks of another one. -/
theorem locks_finish {i j : ℕ} {id : String} (hj : j ≠ i) (h : s.locks id = some j) :
    (s.finish i).locks id = some j := by
  refine Eq.trans (if_neg ?_) h
  rw [h]
  exact fun hsame => hj (Option.some.inj hsame)

/-- Rows that are locked stay as they were read. -/
def Held (s : Accounts) : Prop :=
  ∀ i t target, s.transactions i = some t → t.stage.target = some target →
    s.locks t.id = some i ∧ s.user t.id = some target

theorem Held.finish (h : s.Held) (i : ℕ) : (s.finish i).Held := fun j t target ht htarget => by
  obtain ⟨hj, ht⟩ := transactions_finish ht
  obtain ⟨hlock, hrow⟩ := h j t target ht htarget
  exact ⟨locks_finish hj hlock, hrow⟩

theorem Held.advance (h : s.Held) {i : ℕ} {t : UserTransaction} {target : UserRow}
    {stage : UserStage} (ht : s.transactions i = some t) (htarget : t.stage.target = some target)
    (hstage : stage.target = some target) : (s.advance i t stage).Held :=
  fun j u target' hu htarget' => by
    rcases transactions_advance hu with ⟨rfl, rfl⟩ | ⟨-, hu⟩
    · cases hstage.symm.trans htarget'
      exact h j t target ht htarget
    · exact h j u target' hu htarget'

theorem Held.commit (h : s.Held) {i : ℕ} {t : UserTransaction} {target : UserRow}
    {tokens : List String} (ht : s.transactions i = some t)
    (hstage : t.stage = .revoked target tokens) : ((s.store t tokens).finish i).Held :=
  fun j v target' hv htarget' => by
    obtain ⟨hj, hv⟩ := transactions_finish hv
    obtain ⟨hlock, hrow⟩ := h j v target' hv htarget'
    have hlocked := (h i t target ht (hstage ▸ rfl)).1
    -- Two transactions with locks have locked different rows.
    have hother : v.id ≠ t.id := fun hid => by
      rw [hid, hlocked] at hlock
      exact hj (Option.some.inj hlock).symm
    refine ⟨locks_finish hj hlock, ?_⟩
    obtain ⟨hmem, hid⟩ := mem_of_user hrow
    have hsame : t.write target' = target' := if_neg (hid ▸ hother)
    rw [← hid]
    exact user_eq_some (s := (s.store t tokens).finish i)
      (List.mem_map.2 ⟨target', hmem, hsame⟩)

theorem Held.lock (h : s.Held) {i : ℕ} {t : UserTransaction} {target : UserRow}
    (hfree : s.locks t.id = none) (hrow : s.user t.id = some target) :
    Held { s.advance i t (.locked target) with
      locks := Function.update s.locks t.id (some i) } := fun j u target' hu htarget' => by
  change Function.update s.locks t.id (some i) u.id = _ ∧ s.user u.id = _
  rcases transactions_advance hu with ⟨rfl, rfl⟩ | ⟨-, hu⟩
  · cases htarget'
    exact ⟨Function.update_self .., hrow⟩
  · obtain ⟨hlock, hrow'⟩ := h j u target' hu htarget'
    have hother : u.id ≠ t.id := fun hid => by
      rw [hid, hfree] at hlock
      cases hlock
    exact ⟨(Function.update_of_ne hother ..).trans hlock, hrow'⟩

/-- The transactions after one has started. -/
theorem transactions_start {i j : ℕ} {t u : UserTransaction}
    (h : Function.update s.transactions i (some t) j = some u) :
    u = t ∨ s.transactions j = some u := by
  rw [Function.update_apply] at h
  split_ifs at h
  · exact .inl (Option.some.inj h).symm
  · exact .inr h

theorem Held.start (h : s.Held) {i : ℕ} {t : UserTransaction} (hstage : t.stage = .begun) :
    Held { s with transactions := Function.update s.transactions i (some t) } :=
  fun j v target hv htarget => by
    rcases transactions_start hv with rfl | hv
    · rw [hstage] at htarget
      cases htarget
    · exact h j v target hv htarget

/-- Every statement keeps the rows that are locked. -/
theorem Held.moves {a : UserStep} (h : s.Held) (hmoves : s.Moves a s') : s'.Held := by
  cases hmoves with
  | start hstage => exact h.start hstage
  | lock _ hfree hrow => exact h.lock hfree hrow
  | check ht hstage => exact h.advance ht (hstage ▸ rfl) rfl
  | pass ht _ htarget hstage => exact h.advance ht htarget hstage
  | commit ht hstage => exact h.commit ht hstage
  | finish => exact h.finish _

/-- A transaction that is over spares every account. -/
theorem Guarded.finish (h : s.Guarded) (i : ℕ) : (s.finish i).Guarded where
  held := Held.finish h.held i
  kept := by
    obtain ⟨u, hu, hadmin, hspared⟩ := h.kept
    exact ⟨u, hu, hadmin, fun j t ht => hspared j t (transactions_finish ht).2⟩

/-- A transaction that has the lock comes further, and still spares the account
    that is kept. -/
theorem Guarded.advance (h : s.Guarded) {i : ℕ} {t : UserTransaction} {target : UserRow}
    {stage : UserStage} (ht : s.transactions i = some t) (htarget : t.stage.target = some target)
    (hstage : stage.target = some target)
    (hkept : ∃ u ∈ s.users.rows, u.SuperAdmin ∧ s.Spared u ∧ (t.id = u.id → t.input.SuperAdmin)) :
    (s.advance i t stage).Guarded where
  held := Held.advance h.held ht htarget hstage
  kept := by
    obtain ⟨u, hu, hadmin, hspared, hnew⟩ := hkept
    refine ⟨u, hu, hadmin, fun j v hv hpassed hid => ?_⟩
    rcases transactions_advance hv with ⟨-, rfl⟩ | ⟨-, hv⟩
    · exact hnew hid
    · exact hspared j v hv hpassed hid

/-- A check that finds an account which is spared keeps one. -/
theorem Guarded.check (h : s.Guarded) {i : ℕ} {t : UserTransaction} {target : UserRow}
    (ht : s.transactions i = some t) (hstage : t.stage = .locked target)
    (hfound : t.Demotes target → ∃ u ∈ s.users.rows, u.id ≠ t.id ∧ u.SuperAdmin ∧ s.Spared u) :
    (s.advance i t (.checked target)).Guarded := by
  have htarget : t.stage.target = some target := hstage ▸ rfl
  refine h.advance ht htarget rfl ?_
  by_cases hdemotes : t.Demotes target
  · obtain ⟨u, hu, hother, hadmin, hspared⟩ := hfound hdemotes
    exact ⟨u, hu, hadmin, hspared, fun hid => absurd hid.symm hother⟩
  · obtain ⟨u, hu, hadmin, hspared⟩ := h.kept
    refine ⟨u, hu, hadmin, hspared, fun hid => ?_⟩
    -- The account that is kept is the target itself, which is as it was read.
    have hrow := (h.held i t target ht htarget).2
    rw [hid, user_eq_some hu] at hrow
    cases hrow
    exact not_not.1 fun hinput => hdemotes ⟨hadmin, hinput⟩

/-- A commit that spares the account that is kept leaves it a Super Admin. -/
theorem Guarded.commit (h : s.Guarded) {i : ℕ} {t : UserTransaction} {target : UserRow}
    {tokens : List String} (ht : s.transactions i = some t)
    (hstage : t.stage = .revoked target tokens) : ((s.store t tokens).finish i).Guarded where
  held := Held.commit h.held ht hstage
  kept := by
    obtain ⟨u, hu, hadmin, hspared⟩ := h.kept
    refine ⟨t.write u, List.mem_map_of_mem hu, ?_, fun j v hv hpassed hid => ?_⟩
    · unfold UserTransaction.write
      split_ifs with hid
      · exact hspared i t ht (hstage ▸ trivial) hid.symm
      · exact hadmin
    · refine hspared j v (transactions_finish hv).2 hpassed (hid.trans ?_)
      unfold UserTransaction.write
      split_ifs <;> rfl

/-- A transaction that starts or locks its row spares every account. -/
theorem Guarded.lock (h : s.Guarded) {i : ℕ} {t : UserTransaction} {target : UserRow}
    (hfree : s.locks t.id = none) (hrow : s.user t.id = some target) :
    Guarded { s.advance i t (.locked target) with
      locks := Function.update s.locks t.id (some i) } where
  held := Held.lock h.held hfree hrow
  kept := by
    obtain ⟨u, hu, hadmin, hspared⟩ := h.kept
    refine ⟨u, hu, hadmin, fun j v hv hpassed hid => ?_⟩
    rcases transactions_advance hv with ⟨-, rfl⟩ | ⟨-, hv⟩
    · exact hpassed.elim
    · exact hspared j v hv hpassed hid

theorem Guarded.start (h : s.Guarded) {i : ℕ} {t : UserTransaction} (hstage : t.stage = .begun) :
    Guarded { s with transactions := Function.update s.transactions i (some t) } := by
  obtain ⟨u, hu, hadmin, hspared⟩ := h.kept
  refine ⟨Held.start h.held hstage, u, hu, hadmin, fun j v hv hpassed hid => ?_⟩
  rcases transactions_start hv with rfl | hv
  · rw [hstage] at hpassed
    exact hpassed.elim
  · exact hspared j v hv hpassed hid

/-- A statement that the condition admits keeps a Super Admin. -/
theorem Guarded.next {hashPassword : String → String} {a : UserStep} (h : s.Guarded)
    (hadmits : Admits a s) (hnext : next hashPassword a s = some s') : s'.Guarded := by
  cases moves_of_next hnext with
  | start hstage => exact h.start hstage
  | lock _ hfree hrow => exact h.lock hfree hrow
  | check ht hstage => exact h.check ht hstage (hadmits _ _ _ rfl ht hstage)
  | pass ht hpassed htarget hstage =>
    obtain ⟨u, hu, hadmin, hspared⟩ := h.kept
    exact h.advance ht htarget hstage ⟨u, hu, hadmin, hspared, hspared _ _ ht hpassed⟩
  | commit ht hstage => exact h.commit ht hstage
  | finish => exact h.finish _

end Accounts

/-- Accounts before any transaction has begun. -/
def Accounts.Idle (s : Accounts) : Prop := ∀ i, s.transactions i = none

/-- In every run whose checks meet the condition, a Super Admin remains. -/
theorem exists_superAdmin_of_reaches {hashPassword : String → String} {s t : Accounts}
    (hidle : s.Idle) (hadmin : ∃ u ∈ s.users.rows, u.SuperAdmin)
    (h : (Accounts.system hashPassword).Reaches Accounts.Admits s t) :
    ∃ u ∈ t.users.rows, u.SuperAdmin := by
  obtain ⟨u, hu, hsuper⟩ := hadmin
  have hstart : s.Guarded :=
    ⟨fun i t target ht _ => absurd ((hidle i).symm.trans ht) nofun, u, hu, hsuper,
      fun i t ht _ _ => absurd ((hidle i).symm.trans ht) nofun⟩
  obtain ⟨v, hv, hkept, -⟩ :=
    (h.invariant hstart fun _ _ _ hguarded hadmits hnext => hguarded.next hadmits hnext).kept
  exact ⟨v, hv, hkept⟩

/-! ## Two Super Admins -/

/-- Two Super Admins. -/
def twoAdmins : Accounts where
  users := ⟨[⟨"a", "first", .superAdmin, true, ""⟩, ⟨"b", "second", .superAdmin, true, ""⟩],
    fun _ _ => rfl, by decide⟩
  sessions := []
  locks _ := none
  transactions _ := none

/-- One of them disables the other. -/
def disabling (stage : UserStage) : UserTransaction where
  id := "b"
  input := ⟨.superAdmin, false, none⟩
  actorId := "a"
  passwordHash := none
  stage

/-- The row of the other one is locked. -/
def disablingAdmins : Accounts where
  users := twoAdmins.users
  sessions := []
  locks := Function.update (fun _ => none) "b" (some 0)
  transactions := Function.update (Function.update (fun _ => none) 0 (some (disabling .begun))) 0
    (some (disabling (.locked ⟨"b", "second", .superAdmin, true, ""⟩)))

/-- The one finds that it remains itself. -/
theorem exists_superAdmin_of_reaches_twoAdmins :
    ∃ t : Accounts, (t.user "b").map UserRow.enabled = some false ∧
      ∃ u ∈ t.users.rows, u.SuperAdmin := by
  have hother : ∀ a : UserStep, (∀ i, a ≠ .check i) → ∀ s, Accounts.Admits a s :=
    fun a ha s i t target hcheck => absurd hcheck (ha i)
  have hfront : System.run (Accounts.next id) [.start 0 "b" ⟨.superAdmin, false, none⟩ "a",
      .lock 0] twoAdmins = some disablingAdmins := rfl
  have hbefore : (Accounts.system id).Reaches Accounts.Admits twoAdmins disablingAdmins :=
    System.reaches_of_run (by simpa using ⟨hother _ nofun, hother _ nofun⟩) hfront
  have hcheck : Accounts.Admits (.check 0) disablingAdmins := by
    rintro i t target ⟨⟩ ht - -
    cases ht
    refine ⟨⟨"a", "first", .superAdmin, true, ""⟩, List.mem_cons_self .., by decide, by decide, ?_⟩
    intro j t ht hpassed
    replace ht : Function.update (Function.update (fun _ => none) 0 _) 0 _ j = some t := ht
    rw [Function.update_idem, Function.update_apply] at ht
    split_ifs at ht
    cases ht
    exact hpassed.elim
  obtain ⟨s, t, hnext, hrest, hdisabled⟩ :
      ∃ s t, Accounts.next id (.check 0) disablingAdmins = some s ∧
      System.run (Accounts.next id) [.update 0, .revoke 0, .commit 0] s = some t ∧
      (t.user "b").map UserRow.enabled = some false := ⟨_, _, rfl, rfl, by decide⟩
  have hafter : (Accounts.system id).Reaches Accounts.Admits s t :=
    System.reaches_of_run (by simpa using ⟨hother _ nofun, hother _ nofun, hother _ nofun⟩) hrest
  exact ⟨t, hdisabled, exists_superAdmin_of_reaches (fun _ => rfl) (by decide)
    ((System.Reaches.tail hbefore hcheck hnext).trans hafter)⟩

/-- Each of them disables the other one: both find an enabled Super Admin, as
    neither has committed. -/
theorem exists_no_superAdmin :
    ¬∀ (hashPassword : String → String) (s t : Accounts), s.Idle →
      (∃ u ∈ s.users.rows, u.SuperAdmin) →
      (Accounts.system hashPassword).Reaches (fun _ _ => True) s t →
      ∃ u ∈ t.users.rows, u.SuperAdmin := by
  intro h
  have hrun : (System.run (Accounts.next id) [.start 0 "b" ⟨.superAdmin, false, none⟩ "a",
      .start 1 "a" ⟨.superAdmin, false, none⟩ "b", .lock 0, .lock 1, .check 0, .check 1, .update 0,
      .update 1, .revoke 0, .revoke 1, .commit 0, .commit 1] twoAdmins).map
      (fun t => decide (∃ u ∈ t.users.rows, u.SuperAdmin)) = some false := by decide
  obtain ⟨t, hrun, hnone⟩ := Option.map_eq_some_iff.1 hrun
  exact of_decide_eq_false hnone <| h id twoAdmins t (fun _ => rfl) (by decide)
    (System.reaches_of_run (fun _ _ _ => trivial) hrun)

end WireguardPanel
