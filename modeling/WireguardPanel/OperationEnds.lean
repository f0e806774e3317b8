import WireguardPanel.ServiceCalls
import WireguardPanel.TransactionRules

/-!
# The ends of operations

The services that change a peer log what they do as an operation: they insert
its row before they do anything, and give it a final status where they end. A
service that throws between the insertion and the part whose failure it catches
leaves the row as it was inserted.

* `Call.RouterFault`: only requests to routers fail.
* `SameOperations`: the statements that neither insert nor remove an operation.
* `leaves_createStagedPeer`, `leaves_abandonCreation` and the others: where the
  services finish their operation.
* `PeerOperation.ended_iff`: which operations end.
-/

namespace WireguardPanel

open Foundation

/-- The database does not fail, and the routers may. -/
def Call.RouterFault : Call → Fault → Prop
  | .request .., _ => True
  | _, fault => fault = .none

/-- An operation has been brought to an end, or to where it is taken up again. -/
def OperationStatus.Ended (status : OperationStatus) : Prop :=
  status = .completed ∨ status = .failed ∨ status = .needsReconciliation ∨ status = .pendingCleanup

instance (status : OperationStatus) : Decidable status.Ended :=
  inferInstanceAs (Decidable (_ ∨ _ ∨ _ ∨ _))

/-- The status that a failed service gives its operation. -/
theorem OperationStatus.Ended.ite {p : Prop} [Decidable p] {status status' : OperationStatus}
    (h : status.Ended) (h' : status'.Ended) : (if p then status else status').Ended := by
  split_ifs
  · exact h
  · exact h'

theorem OperationStatus.Ended.failed : OperationStatus.failed.Ended := .inr (.inl rfl)

theorem OperationStatus.Ended.needsReconciliation : OperationStatus.needsReconciliation.Ended :=
  .inr (.inr (.inl rfl))

theorem OperationStatus.Ended.pendingCleanup : OperationStatus.pendingCleanup.Ended :=
  .inr (.inr (.inr rfl))

/-! ## Statements that keep the operations -/

/-- Two databases with the same operations, whatever has become of them. -/
structure SameOperations (db db' : Database) : Prop where
  ids : db'.operations.map OperationRow.id = db.operations.map OperationRow.id

instance : IsPreorder Database SameOperations where
  refl _ := ⟨rfl⟩
  trans _ _ _ h h' := ⟨h'.ids.trans h.ids⟩

/-- A statement that keeps them. -/
def Statement.KeepsOperations (P : Platform) (s : Statement) : Prop :=
  ∀ now id, Within SameOperations (s.tx P now id)

section Statements

variable {P : Platform}

theorem within_sameOperations_of_eq {α : Type} {tx : Tx α}
    (h : ∀ db a db', tx db = .ok (a, db') → db'.operations = db.operations) :
    Within SameOperations tx := fun db a db' htx => ⟨by rw [h db a db' htx]⟩

theorem keepsOperations_updatePeer {peerId : String} {update : PeerUpdate} :
    (Statement.updatePeer peerId update).KeepsOperations P := fun now id =>
  within_sameOperations_of_eq fun db u db' htx => by
    obtain ⟨peers, rfl, -⟩ := Tx.updatePeer_ok htx
    rfl

theorem within_sameOperations_updateOperation {operationId : String}
    {f : OperationRow → OperationRow} (hf : ∀ o, (f o).id = o.id) :
    Within SameOperations (Tx.updateOperation operationId f) := fun db u db' htx => by
  cases htx
  refine ⟨(List.map_map ..).trans (List.map_congr_left fun o _ => ?_)⟩
  simp only [Function.comp_apply]
  split_ifs
  · exact hf o
  · rfl

theorem keepsOperations_operation {operationId : String} {s : Statement}
    (h : s.OfOperation operationId) : s.KeepsOperations P := by
  intro now id
  cases s <;> try exact False.elim h
  all_goals exact within_sameOperations_updateOperation fun _ => rfl

theorem keepsOperations_bandwidth {peerId : String} {s : Statement} (h : s.OfBandwidth peerId) :
    s.KeepsOperations P := by
  cases s <;> try exact False.elim h
  case updatePeer => exact keepsOperations_updatePeer
  case deleteManagedQueue =>
    exact fun now id => within_sameOperations_of_eq fun db a db' htx => by
      cases htx
      rfl
  case storeManagedQueue row =>
    refine fun now id => within_sameOperations_of_eq fun db a db' htx => ?_
    change Tx.upsertManagedObject row db = _ at htx
    unfold Tx.upsertManagedObject at htx
    split at htx
    · exact absurd htx nofun
    · obtain ⟨managedObjects, -, hrest⟩ := Tx.statement_bind_ok.1 htx
      cases Tx.return_eq_ok.1 hrest
      rfl

theorem within_sameOperations_claimPoolAddress {pool : WireGuardPool} {ip peerId name : String} :
    Within SameOperations (claimPoolAddress P pool ip peerId name) :=
  within_castInet.bind fun _ =>
    (within_sameOperations_of_eq fun db a db' htx => by
      rw [Tx.deleteAddresses_ok htx]).bind fun _ =>
    within_sameOperations_of_eq fun db a db' htx => by
      obtain ⟨addresses, rfl, -⟩ := Tx.insertAddress_ok htx
      rfl

theorem within_sameOperations_releasePeerPoolAddress {peerId : String} :
    Within SameOperations (releasePeerPoolAddress peerId) :=
  within_sameOperations_of_eq fun db a db' htx => by rw [Tx.deleteAddresses_ok htx]

theorem within_sameOperations_movePeer {id routerId interfaceId : String} {poolId : Option String}
    {f : PeerRow → PeerRow} :
    Within SameOperations (Tx.movePeer id routerId interfaceId poolId f) :=
  within_sameOperations_of_eq fun db a db' htx => by
    obtain ⟨peers, rfl, -⟩ := Tx.updatePeer_ok (Tx.movePeer_ok htx)
    rfl

/-- The operations of a peer that is deleted lose the peer only. -/
theorem within_sameOperations_deletePeer {id : String} :
    Within SameOperations (Tx.deletePeer id) := fun db u db' htx => by
  obtain ⟨addresses, -, hrest⟩ := Tx.statement_bind_ok.1 htx
  cases Tx.return_eq_ok.1 hrest
  refine ⟨(List.map_map ..).trans (List.map_congr_left fun o _ => ?_)⟩
  simp only [Function.comp_apply]
  split_ifs <;> rfl

theorem keepsOperations_stagePeer {input : CreatePeerInput} {peerId operationId : String}
    {router : RouterRow} {interface : InterfaceRow} {keys : WireGuardKeys}
    {listing : Except AppError (List RemoteWireGuardPeer)} {time : ℤ} :
    (Statement.stagePeer input peerId operationId router interface
      keys listing time).KeepsOperations
      P := fun now id => by
  refine within_lockPoolForPeer.bind fun pool => within_ofExcept.bind fun remotePeers => ?_
  refine within_choosePoolAddress.bind fun clientIp => within_get.bind fun db => ?_
  refine within_ofExcept.bind fun window => ?_
  refine Within.bind (within_sameOperations_of_eq fun db a db' htx => ?_) fun _ =>
    within_sameOperations_claimPoolAddress.bind fun _ =>
    Within.bind (within_sameOperations_updateOperation fun _ => rfl) fun _ => within_pure
  obtain ⟨peers, rfl, -⟩ := Tx.insertPeer_ok htx
  rfl

theorem keepsOperations_releaseStagedPeer {peerId : String} :
    (Statement.releaseStagedPeer peerId).KeepsOperations P := fun _ _ =>
  within_sameOperations_releasePeerPoolAddress.bind fun _ => within_sameOperations_deletePeer

theorem keepsOperations_commitUpdate {c : PeerCommit} {time : ℤ} :
    (Statement.commitUpdate c time).KeepsOperations P := fun now id => by
  have hrest : ∀ pool confirmed, Within SameOperations (do
      Tx.movePeer c.row.id c.input.routerId c.input.interfaceId (some c.input.poolId)
        (c.assign P confirmed)
      releasePeerPoolAddress c.row.id
      claimPoolAddress P pool confirmed c.row.id c.input.name) := fun _ _ =>
    within_sameOperations_movePeer.bind fun _ =>
      within_sameOperations_releasePeerPoolAddress.bind fun _ =>
      within_sameOperations_claimPoolAddress
  refine within_lockPoolForPeer.bind fun pool => within_choosePoolAddress.bind fun confirmed => ?_
  dsimp only
  split
  · refine Within.bind (within_sameOperations_of_eq fun db a db' htx => ?_) fun _ => hrest _ _
    obtain ⟨h, rfl⟩ := Tx.insertHistory_ok htx
    rfl
  · exact within_throw.bind fun _ => hrest _ _
  · exact hrest _ _

theorem keepsOperations_recoverUpdate {row : PeerRow} {input : UpdatePeerInput}
    {recovery : RemoteWireGuardPeer} {recoveryIp : String} :
    (Statement.recoverUpdate row input recovery recoveryIp).KeepsOperations P := fun _ _ =>
  within_lockPoolForPeer.bind fun _ => within_sameOperations_releasePeerPoolAddress.bind fun _ =>
    within_sameOperations_movePeer.bind fun _ => within_sameOperations_claimPoolAddress

theorem keepsOperations_archiveAndDelete {row : PeerRow} :
    (Statement.archiveAndDelete row).KeepsOperations P := fun _ _ =>
  (within_sameOperations_of_eq fun db a db' htx => by
    cases htx
    rfl).bind fun _ => within_sameOperations_releasePeerPoolAddress.bind fun _ =>
  (within_sameOperations_of_eq fun db a db' htx => by
    cases htx
    rfl).bind fun _ => within_sameOperations_deletePeer

end Statements

/-! ## Where the services finish -/

section Ends

variable {P : Platform} {ℓ : Type} {operationId : String}

/-- The environment in which the database does not fail. -/
abbrev World.routerFaults (P : Platform) :
    Environment Call (fun c => Except AppError c.Result) World :=
  World.environment P Call.RouterFault

/-- A transaction that never throws leaves what it makes true. -/
theorem leaves_execute {s : Statement} {A B : World → Prop}
    (h : ∀ (now : ℤ) (id : String) (w : World), ∃ (a : s.Result) (db' : Database),
      s.tx P now id w.db = .ok (a, db') ∧ A { w with db := db' }) :
    Procedure.Leaves (World.routerFaults P) A B (Service.execute s : Service ℓ s.Result) :=
  fun l w => Procedure.wp_call.2 fun r w' ⟨d, hfault, hanswer⟩ => by
    obtain ⟨a, db', htx, hA⟩ := h d.now d.id w
    have hnone : d.fault = .none := hfault
    simp only [World.answer, hnone, htx, Prod.mk.injEq] at hanswer
    obtain ⟨rfl, rfl⟩ := hanswer
    exact ⟨trivial, hA⟩

/-- The operation has ended. -/
def World.Ended (operationId : String) (w : World) : Prop :=
  ∀ o ∈ w.db.operations, o.id = operationId → o.status.Ended

/-- An operation that gets a final status has ended. -/
theorem leaves_updateOperation {s : Statement} {f : ℤ → OperationRow → OperationRow}
    {B : World → Prop}
    (hs : ∀ now id, ∃ a : s.Result, ∀ db, s.tx P now id db = .ok (a, { db with
      operations := db.operations.map fun o => if o.id = operationId then f now o else o }))
    (hf : ∀ now o, (f now o).status.Ended) :
    Procedure.Leaves (World.routerFaults P) (World.Ended operationId) B
      (Service.execute s : Service ℓ s.Result) :=
  leaves_execute fun now id w => by
    obtain ⟨a, htx⟩ := hs now id
    refine ⟨a, _, htx w.db, fun o' ho' hop => ?_⟩
    obtain ⟨o, -, rfl⟩ := List.mem_map.1 ho'
    by_cases ho : o.id = operationId
    · rw [if_pos ho]
      exact hf now o
    · rw [if_neg ho] at hop
      exact absurd hop ho

theorem leaves_finishOperation {context : Option Json} {B : World → Prop} :
    Procedure.Leaves (World.routerFaults P) (World.Ended operationId) B
      (Service.execute (.finishOperation operationId .completed context) : Service ℓ Unit) :=
  leaves_updateOperation (s := .finishOperation operationId .completed context)
    (fun _ _ => ⟨(), fun _ => rfl⟩) fun _ _ => .inl rfl

/-- An operation that fails is ended before the exception is thrown on. -/
theorem leaves_failOperation {status : OperationStatus} {context : Option Json} {e : AppError}
    {α : Type} {A : World → Prop} (hstatus : status.Ended) :
    Procedure.Leaves (World.routerFaults P) A (World.Ended operationId) (do
      executeAnyway (.failOperation operationId status context)
      throw e : Service ℓ α) := by
  have hfail : Procedure.Leaves (World.routerFaults P) (World.Ended operationId)
      (World.Ended operationId)
      (Service.execute (.failOperation operationId status context) : Service ℓ Unit) :=
    leaves_updateOperation (s := .failOperation operationId status context)
      (fun _ _ => ⟨(), fun _ => rfl⟩) fun _ _ => hstatus
  exact hfail.attempt.bind_pure.bind_throw

theorem leaves_executeAnyway {s : Statement} {B : World → Prop} :
    Procedure.Leaves (World.routerFaults P) (fun _ => True) B
      (executeAnyway s : Service ℓ Unit) := Procedure.leaves_attempt.bind_pure

theorem leaves_requestAnyway {routerId : String} {q : RouterRequest} {B : World → Prop} :
    Procedure.Leaves (World.routerFaults P) (fun _ => True) B
      (requestAnyway routerId q : Service ℓ Unit) := Procedure.leaves_attempt.bind_pure

/-- The undoing of the staging of a peer does not throw: the peer has no address
    left when its row is deleted. -/
theorem exists_releaseStagedPeer (peerId : String) (db : Database) :
    ∃ db', releaseStagedPeer peerId db = .ok ((), db') := by
  have hkept : (db.addresses.delete fun a => a.peerId = some peerId).update
      (fun a => if a.peerId = some peerId then { a with peerId := none } else a) = .ok _ :=
    Table.update_eq_self fun a ha => if_neg fun hpeer => by
      have hother := (List.mem_filter.1 ha).2
      simp [hpeer] at hother
  exact ⟨_, Tx.bind_eq_ok.2 ⟨(), _, rfl, Tx.statement_bind_ok.2 ⟨_, hkept, rfl⟩⟩⟩

theorem leaves_releaseStagedPeer {peerId : String} {B : World → Prop} :
    Procedure.Leaves (World.routerFaults P) (fun _ => True) B
      (Service.execute (.releaseStagedPeer peerId) : Service ℓ Unit) :=
  leaves_execute (s := .releaseStagedPeer peerId) fun now id w => by
    obtain ⟨db', htx⟩ := exists_releaseStagedPeer peerId w.db
    exact ⟨(), db', htx, trivial⟩

/-! ### The services -/

theorem leaves_createStagedPeer {input : CreatePeerInput} {peerId : String} {router : RouterRow}
    {interface : InterfaceRow} {keys : WireGuardKeys} {now : ℤ} :
    Procedure.Leaves (World.routerFaults P) (World.Ended operationId) (fun _ => True)
      (createStagedPeer P input peerId operationId router interface keys now) := by
  refine .last fun _ => .last fun staged => .last fun _ => .last fun _ => .last fun _ => ?_
  refine .last fun _ => .last fun remoteId => .last fun _ => .last fun remotePeers => ?_
  split
  · exact Procedure.leaves_throw
  · refine .last fun _ => .last fun _ => .last fun _ => .last fun _ => .last fun _ => ?_
    exact .last fun _ => .last fun _ => leaves_finishOperation.bind_pure

theorem leaves_removeCreatedPeer {routerId peerId remoteId : String} {B : World → Prop} :
    Procedure.Leaves (World.routerFaults P) (fun _ => True) B
      (removeCreatedPeer routerId peerId remoteId : Service ℓ Bool) :=
  Procedure.leaves_attempt.bind fun _ => Procedure.leaves_attempt.bind fun _ =>
    Procedure.leaves_attempt.bind fun _ => Procedure.leaves_pure

theorem leaves_abandonCreation {routerId peerId : String} {e : AppError} {A : World → Prop} :
    Procedure.Leaves (World.routerFaults P) A (World.Ended operationId)
      (abandonCreation routerId peerId operationId e) := by
  have hstatus : ∀ cleaned : Bool,
      (if cleaned = true then OperationStatus.failed else .pendingCleanup).Ended := fun cleaned =>
    .ite .failed .pendingCleanup
  refine Procedure.leaves_get.bind fun l => ?_
  dsimp only
  split
  on_goal 1 => refine leaves_removeCreatedPeer.bind fun cleaned => ?_
  on_goal 2 => refine Procedure.leaves_pure.bind fun cleaned => ?_
  all_goals
    split
    · split
      · exact leaves_releaseStagedPeer.bind fun _ => leaves_failOperation .failed
      · exact leaves_executeAnyway.bind fun _ => leaves_failOperation .pendingCleanup
    · exact leaves_failOperation (hstatus _)

section Update

variable {row : PeerRow} {input : UpdatePeerInput} {sourceId targetId : String}

theorem leaves_finishUpdate {changingRouter : Bool} {clientIp : String} :
    Procedure.Leaves (World.routerFaults P) (World.Ended operationId) (fun _ => True)
      (finishUpdate P row input sourceId targetId operationId changingRouter clientIp) := by
  refine .last fun _ => ?_
  dsimp only
  split
  on_goal 1 => refine .last fun _ => ?_
  all_goals
    refine .last fun _ => .last fun _ => .last fun _ => .last fun _ => ?_
    split
    · exact .last fun _ => leaves_finishOperation
    · exact leaves_finishOperation

theorem leaves_updateCurrentPeer {targetInterface : InterfaceRow} {now : ℤ} :
    Procedure.Leaves (World.routerFaults P) (World.Ended operationId) (fun _ => True)
      (updateCurrentPeer P row input sourceId targetId operationId targetInterface now) := by
  refine .last fun remote => .last fun _ => .last fun targetPeers => .last fun clientIp => ?_
  dsimp only
  split
  all_goals
    refine .last fun _ => .last fun _ => .last fun _ => .last fun r => .last fun _ => ?_
    exact .last fun _ => .last fun _ => leaves_finishUpdate

theorem leaves_undoUpdate {l : UpdateLocals} {B : World → Prop} :
    Procedure.Leaves (World.routerFaults P) (fun _ => True) B
      (undoUpdate row input sourceId targetId l) := by
  unfold undoUpdate
  dsimp only
  split
  on_goal 1 => split
  on_goal 1 => refine leaves_requestAnyway.bind fun _ => ?_
  all_goals
    split
    on_goal 1 => split
    on_goal 1 => refine leaves_requestAnyway.bind fun _ => ?_
    all_goals
      split
      · split
        · exact leaves_requestAnyway.bind fun _ => leaves_executeAnyway
        · exact Procedure.leaves_pure
      · exact Procedure.leaves_pure

theorem leaves_abandonUpdate {e : AppError} {A : World → Prop} :
    Procedure.Leaves (World.routerFaults P) A (World.Ended operationId)
      (abandonUpdate row input sourceId targetId operationId e) := by
  refine Procedure.leaves_get.bind fun l => ?_
  dsimp only
  split
  · exact leaves_executeAnyway.bind fun _ =>
      leaves_failOperation (.ite .needsReconciliation .failed)
  · exact leaves_undoUpdate.bind fun _ =>
      leaves_failOperation (.ite .needsReconciliation .failed)

end Update

section Rotation

variable {row : PeerRow} {routerId : String}

theorem leaves_rotateKeys {keys : WireGuardKeys} :
    Procedure.Leaves (World.routerFaults P) (World.Ended operationId) (fun _ => True)
      (rotateKeys P row routerId operationId keys) := by
  refine .last fun remote => .last fun _ => .last fun _ => .last fun remotePeers => ?_
  split
  · exact Procedure.leaves_throw
  · exact .last fun _ => .last fun _ => .last fun _ => .last fun _ => .last fun _ =>
      leaves_finishOperation

theorem leaves_abandonRotation {e : AppError} {A : World → Prop} :
    Procedure.Leaves (World.routerFaults P) A (World.Ended operationId)
      (abandonRotation P row routerId operationId e) := by
  refine Procedure.leaves_get.bind fun l => ?_
  dsimp only
  split
  on_goal 1 =>
    refine Procedure.leaves_attempt.bind fun restored => Procedure.leaves_pure.bind fun failed => ?_
  on_goal 2 => refine Procedure.leaves_pure.bind fun failed => ?_
  all_goals
    split
    · exact leaves_executeAnyway.bind fun _ =>
        leaves_failOperation (.ite .needsReconciliation .failed)
    · exact leaves_failOperation (.ite .needsReconciliation .failed)

theorem leaves_deleteCurrentPeer :
    Procedure.Leaves (World.routerFaults P) (World.Ended operationId) (fun _ => True)
      (deleteCurrentPeer P row routerId operationId) := by
  refine .last fun remote => .last fun _ => .last fun _ => .last fun _ =>
    .last fun remotePeers => ?_
  dsimp only
  split
  on_goal 1 => refine .last fun _ => ?_
  all_goals
    exact .last fun _ => .last fun _ => .last fun _ => .last fun _ => leaves_finishOperation

theorem leaves_abandonDeletion {peerId : String} {e : AppError} {A : World → Prop} :
    Procedure.Leaves (World.routerFaults P) A (World.Ended operationId)
      (abandonDeletion peerId operationId e) := by
  refine Procedure.leaves_get.bind fun deleted => ?_
  cases deleted with
  | true => exact leaves_executeAnyway.bind fun _ => leaves_failOperation .pendingCleanup
  | false => exact leaves_executeAnyway.bind fun _ => leaves_failOperation .failed

end Rotation

end Ends

/-! ## Runs -/

/-- The services that log what they do as an operation. -/
inductive PeerOperation
  | create (input : CreatePeerInput) (peerId : String) (keys : WireGuardKeys) (now : ℤ)
  | update (peerId : String) (input : UpdatePeerInput) (now : ℤ)
  | delete (peerId : String)
  | regenerateKeys (peerId : String) (keys : WireGuardKeys)

/-- The service of an operation, without what it returns. -/
def PeerOperation.service (P : Platform) : PeerOperation → Service Unit Unit
  | .create input peerId keys now => do let _ ← createPeer P input peerId keys now
  | .update peerId input now => updatePeer P peerId input now
  | .delete peerId => deletePeer P peerId
  | .regenerateKeys peerId keys => regeneratePeerKeys P peerId keys

/-- The interface exists and belongs to the router. -/
def Database.InterfaceOf (db : Database) (interfaceId routerId : String) : Prop :=
  ∃ i ∈ db.interface interfaceId, i.routerId = routerId

/-- The router exists, and its stored credentials can be decrypted. -/
def Database.Connects (P : Platform) (db : Database) (routerId : String) : Prop :=
  ∃ router ∈ db.router routerId, ∃ credentials, router.credentials P = .ok credentials

/-- There are clients for the routers that the service needs: the one that is asked for, to which
    the interface has to belong, and that of the peer. -/
def PeerOperation.Targeted (P : Platform) (db : Database) : PeerOperation → Prop
  | .create input .. => db.InterfaceOf input.interfaceId input.routerId ∧
    db.Connects P input.routerId
  | .update peerId input _ => db.InterfaceOf input.interfaceId input.routerId ∧
      db.Connects P input.routerId ∧ ∃ row ∈ db.peer peerId, db.Connects P row.routerId
  | .delete peerId | .regenerateKeys peerId _ => ∃ row ∈ db.peer peerId, db.Connects P row.routerId

/-- The operations that have been inserted since `w` have ended if and only if `p`. -/
def EndedIff (p : Prop) (w w' : World) : Prop :=
  ∀ o ∈ w'.db.operations, (∀ o' ∈ w.db.operations, o'.id ≠ o.id) → (o.status.Ended ↔ p)

/-- The world in which an operation has been inserted. -/
def World.withOperation (w : World) (row : OperationRow) : World :=
  { w with db := { w.db with operations := w.db.operations ++ [row] } }

section Runs

variable {P : Platform} {ℓ α β : Type} {l : ℓ} {w w₁ : World} {p : Prop}

/-- In every run of `x` the operations inserted since `w` are treated so. -/
abbrev Treats (P : Platform) (p : Prop) (w : World) (x : Service ℓ α) (l : ℓ) (w₁ : World) : Prop :=
  Procedure.wp (World.routerFaults P) (fun _ _ => True) x (fun _ _ => EndedIff p w)
    (fun _ _ => EndedIff p w) l w₁

theorem endedIff_self : EndedIff p w w := fun o ho hnew => absurd rfl (hnew o ho)

/-- A row that is left as it was inserted has not ended. -/
theorem endedIff_withOperation {row : OperationRow} (hrow : row.status = .creating) (hp : ¬p) :
    EndedIff p w (w.withOperation row) := fun o ho hnew => by
  rcases List.mem_append.1 ho with ho | ho
  · exact absurd rfl (hnew o ho)
  · obtain rfl := List.mem_singleton.1 ho
    simp [hrow, hp, OperationStatus.Ended]

section Rules

variable {Q : β → ℓ → World → Prop} {E : AppError → ℓ → World → Prop}

theorem wp_query_routerFaults {read : Database → β} (hQ : Q (read w.db) l w) :
    Procedure.wp (World.routerFaults P) (fun _ _ => True) (Service.query read) Q E l w := by
  refine Procedure.wp_call.2 fun r w' ⟨d, hfault, hanswer⟩ => ⟨trivial, ?_⟩
  have hnone : d.fault = .none := hfault
  simp only [World.answer, hnone, Prod.mk.injEq] at hanswer
  obtain ⟨rfl, rfl⟩ := hanswer
  exact hQ

theorem wp_orThrow {value : Option β} {message : String}
    (hnone : value = none → E (.error message) l w)
    (hsome : ∀ b, value = some b → Q b l w) : Procedure.wp (World.routerFaults P) (fun _ _ => True)
      (Service.orThrow value message) Q E l w := by
  cases value with
  | none => exact hnone rfl
  | some b => exact hsome b rfl

theorem wp_getRouter_routerFaults {id : String} {Q : RouterRow → ℓ → World → Prop}
    (hnone : w.db.router id = none → ∀ e, E e l w)
    (hsome : ∀ router, w.db.router id = some router → Q router l w) :
    Procedure.wp (World.routerFaults P) (fun _ _ => True) (getRouter id) Q E l w :=
  Procedure.wp_bind.2 (wp_query_routerFaults (wp_orThrow (fun h => hnone h _) hsome))

theorem wp_clientForRouter {router : RouterRow} {Q : Unit → ℓ → World → Prop}
    (herror : (∀ credentials, router.credentials P ≠ .ok credentials) → ∀ e, E e l w)
    (hok : ∀ credentials, router.credentials P = .ok credentials → Q () l w) :
    Procedure.wp (World.routerFaults P) (fun _ _ => True) (clientForRouter P router) Q E l w := by
  refine Procedure.wp_bind.2 ?_
  cases hcredentials : router.credentials P with
  | error e => exact herror (fun c hc => nomatch hcredentials.symm.trans hc) e
  | ok credentials => exact hok credentials hcredentials

end Rules

/-- A row is read, or the service throws where it is. -/
theorem treats_row {read : Database → Option β} {message : String} {f : β → Service ℓ α}
    (hnone : read w₁.db = none → EndedIff p w w₁)
    (hsome : ∀ b, read w₁.db = some b → Treats P p w (f b) l w₁) :
    Treats P p w (Service.query read >>= fun row => Service.orThrow row message >>= f) l w₁ :=
  Procedure.wp_bind.2 (wp_query_routerFaults (Procedure.wp_bind.2 (wp_orThrow hnone hsome)))

theorem treats_getRouter {id : String} {f : RouterRow → Service ℓ α}
    (hnone : w₁.db.router id = none → EndedIff p w w₁)
    (hsome : ∀ router, w₁.db.router id = some router → Treats P p w (f router) l w₁) :
    Treats P p w (getRouter id >>= f) l w₁ :=
  Procedure.wp_bind.2 (wp_getRouter_routerFaults (fun h _ => hnone h) hsome)

/-- A client is made, or the service throws where it is. -/
theorem treats_clientForRouter {router : RouterRow} {f : Unit → Service ℓ α}
    (hfail : (∀ credentials, router.credentials P ≠ .ok credentials) → EndedIff p w w₁)
    (hok : ∀ credentials, router.credentials P = .ok credentials → Treats P p w (f ()) l w₁) :
    Treats P p w (clientForRouter P router >>= f) l w₁ :=
  Procedure.wp_bind.2 (wp_clientForRouter (fun h _ => hfail h) hok)

theorem treats_routerClient {id : String} {f : RouterRow → Service ℓ α}
    (hfail : ¬w₁.db.Connects P id → EndedIff p w w₁)
    (hok : ∀ router, w₁.db.Connects P id → Treats P p w (f router) l w₁) :
    Treats P p w (routerClient P id >>= f) l w₁ := by
  refine Procedure.wp_bind.2 (Procedure.wp_bind.2 (wp_getRouter_routerFaults
    (fun hnone _ => hfail ?_) fun router hrouter => ?_))
  · rintro ⟨router, hrouter, -⟩
    rw [hnone] at hrouter
    cases hrouter
  · refine Procedure.wp_bind.2 (wp_clientForRouter (fun hnone _ => hfail ?_)
      fun credentials hcredentials => hok router ⟨router, hrouter, credentials, hcredentials⟩)
    rintro ⟨found, hfound, credentials, hcredentials⟩
    cases hrouter.symm.trans hfound
    exact hnone credentials hcredentials

theorem treats_mutablePeer {id : String} {f : PeerRow → Service ℓ α}
    (hnone : w₁.db.peer id = none → EndedIff p w w₁)
    (hsome : ∀ row, w₁.db.peer id = some row → Treats P p w (f row) l w₁) :
    Treats P p w (mutablePeer id >>= f) l w₁ :=
  Procedure.wp_bind.2 (Procedure.wp_bind.2 (wp_query_routerFaults (wp_orThrow hnone hsome)))

/-- An operation is inserted, or the service throws and has not inserted it. -/
theorem treats_startOperation {operationType : String} {routerId peerId : Option String}
    {context : Json} {f : String → Service ℓ α}
    (hf : ∀ row : OperationRow, row.status = .creating →
      (∀ id ∈ routerId, (w.db.router id).isSome = true) →
      Treats P p w (f row.id) l (w.withOperation row)) :
    Treats P p w (Service.execute (.startOperation operationType routerId peerId context) >>= f) l
      w := by
  refine Procedure.wp_bind.2 (Procedure.wp_call.2 fun r w' hcall => ⟨trivial, ?_⟩)
  rcases Service.environment_execute hcall with ⟨now, _, a, db, htx, rfl, rfl⟩ | ⟨rfl, e, rfl⟩
  · obtain ⟨rfl, -, rfl⟩ := Tx.insertOperation_ok htx
    refine hf { id := a, operationType, status := .creating, routerId, peerId, context
                retryCount := 0
                nextRetryAt := none, updatedAt := now } rfl fun routerId' hid => ?_
    by_contra hmissing
    change Tx.insertOperation _ w.db = _ at htx
    unfold Tx.insertOperation at htx
    split_ifs at htx with hused hkey
    exact hkey (.inl ⟨routerId', hid, by simpa using hmissing⟩)
  · exact endedIff_self

/-- A service that finishes its operation wherever it ends. -/
theorem treats_caught {ℓ' : Type} {k : ℓ'} {x : Service ℓ' α} {h : AppError → Service ℓ' α}
    {row : OperationRow} (hp : p)
    (hx : Procedure.Leaves (World.routerFaults P) (World.Ended row.id) (fun _ => True) x)
    (hh : ∀ e, Procedure.Leaves (World.routerFaults P) (World.Ended row.id)
      (World.Ended row.id) (h e))
    (hkeeps : Executes (Statement.KeepsOperations P) x)
    (hkeeps' : ∀ e, Executes (Statement.KeepsOperations P) (h e)) :
    Treats P p w (Procedure.withLocals k (tryCatch x h) : Service ℓ α) l (w.withOperation row) := by
  have hends := (hx.tryCatch hh).withLocals (k := k) l (w.withOperation row)
  have hsame := (Procedure.Makes.withLocals (k := k) (hkeeps.tryCatch hkeeps')).wp
    (G := fun _ _ => True) (l := l)
    (K := fun w' => SameOperations (w.withOperation row).db w'.db)
    (fun c w' r w'' hc hw (hcall : World.routerFaults P c w' r w'') => ⟨trivial,
      Call.Executing.within (fun s hs now id => hs now id) c w' r w'' hc hw hcall⟩)
    (Std.Refl.refl _)
  have hend : ∀ w', World.Ended row.id w' → SameOperations (w.withOperation row).db w'.db →
      EndedIff p w w' := fun w' hended hids o ho hnew => by
    have hmem : o.id ∈ (w.withOperation row).db.operations.map OperationRow.id :=
      hids.ids ▸ List.mem_map_of_mem ho
    simp only [World.withOperation, List.map_append, List.mem_append, List.mem_map,
      List.map_cons, List.map_nil, List.mem_singleton] at hmem
    rcases hmem with ⟨o', ho', hid⟩ | hid
    · exact absurd hid (hnew o' ho')
    · exact iff_of_true (hended o ho hid) hp
  exact Procedure.wp_mono (Procedure.wp_and hends hsame)
    (fun _ _ w' hw' => hend w' hw'.1 hw'.2.2) fun _ _ w' hw' => hend w' hw'.1 hw'.2

variable (P)

theorem treats_createPeer {input : CreatePeerInput} {peerId : String} {keys : WireGuardKeys}
    {now : ℤ} : Treats P (w.db.InterfaceOf input.interfaceId input.routerId ∧
        w.db.Connects P input.routerId) w (createPeer P input peerId keys now : Service ℓ String) l
      w := by
  refine treats_startOperation fun row hrow hrouter => ?_
  refine treats_getRouter (fun hnone => ?_) fun router hfound => ?_
  · have hfound := hrouter _ rfl
    rw [show w.db.router input.routerId = none from hnone] at hfound
    cases hfound
  refine treats_row (fun hnone => ?_) fun interface hinterface => ?_
  · refine endedIff_withOperation hrow fun ⟨⟨i, hi, hbelongs⟩, _⟩ => ?_
    have hother := Option.filter_eq_none_iff.1 hnone i hi
    simp [hbelongs] at hother
  obtain ⟨hi, hbelongs⟩ := Option.filter_eq_some_iff.1 hinterface
  refine treats_clientForRouter (fun hnone => ?_) fun credentials hcredentials => ?_
  · refine endedIff_withOperation hrow fun ⟨_, other, hother, credentials, hcredentials⟩ => ?_
    cases (show w.db.router input.routerId = some router from hfound).symm.trans hother
    exact hnone credentials hcredentials
  refine treats_caught ⟨⟨interface, hi, by simpa using hbelongs⟩, router, hfound, credentials,
    hcredentials⟩ leaves_createStagedPeer (fun _ => leaves_abandonCreation) ?_ fun _ => ?_
  · exact executes_createStagedPeer (fun _ => keepsOperations_stagePeer)
      (fun s => keepsOperations_operation) (fun _ _ _ _ _ _ _ _ => within_confirmAddress)
      (fun _ => keepsOperations_updatePeer) (fun s => keepsOperations_bandwidth)
      keepsOperations_updatePeer
  · exact makes_abandonCreation keepsOperations_releaseStagedPeer
      (fun _ _ _ => keepsOperations_updatePeer) fun s => keepsOperations_operation

theorem treats_updatePeer {peerId : String} {input : UpdatePeerInput} {now : ℤ} :
    Treats P (w.db.InterfaceOf input.interfaceId input.routerId ∧ w.db.Connects P input.routerId ∧
        ∃ row ∈ w.db.peer peerId, w.db.Connects P row.routerId) w
      (updatePeer P peerId input now : Service ℓ Unit) l w := by
  refine treats_mutablePeer (fun _ => endedIff_self) fun row hrow => ?_
  refine treats_startOperation fun operation hoperation _ => ?_
  refine treats_row (fun hnone => ?_) fun interface hinterface => ?_
  · refine endedIff_withOperation hoperation fun ⟨⟨i, hi, hbelongs⟩, _⟩ => ?_
    have hother := Option.filter_eq_none_iff.1 hnone i hi
    simp [hbelongs] at hother
  obtain ⟨hi, hbelongs⟩ := Option.filter_eq_some_iff.1 hinterface
  refine treats_routerClient (fun hnone => ?_) fun sourceRouter hsource => ?_
  · refine endedIff_withOperation hoperation fun ⟨_, _, other, hother, hconnects⟩ => ?_
    cases hrow.symm.trans hother
    exact hnone hconnects
  have hcaught : ∀ targetId : String, w.db.Connects P input.routerId →
      Treats P (w.db.InterfaceOf input.interfaceId input.routerId ∧
          w.db.Connects P input.routerId ∧ ∃ row ∈ w.db.peer peerId, w.db.Connects P row.routerId) w
        (Procedure.withLocals {} (tryCatch (updateCurrentPeer P row input sourceRouter.id targetId
          operation.id interface now)
            (abandonUpdate row input sourceRouter.id targetId operation.id)) :
          Service ℓ Unit) l (w.withOperation operation) := fun targetId htarget => by
    refine treats_caught ⟨⟨interface, hi, by simpa using hbelongs⟩, htarget, row, hrow, hsource⟩
      leaves_updateCurrentPeer (fun _ => leaves_abandonUpdate) ?_ fun _ => ?_
    · exact executes_updateCurrentPeer (fun _ _ _ _ _ _ _ _ => within_confirmAddress)
        (fun _ _ => keepsOperations_commitUpdate) (fun s => keepsOperations_operation)
        (fun s => keepsOperations_bandwidth) fun _ => keepsOperations_updatePeer
    · exact makes_abandonUpdate (fun _ _ => keepsOperations_recoverUpdate)
        (fun _ _ _ => keepsOperations_updatePeer) fun s => keepsOperations_operation
  dsimp only
  split
  · refine treats_routerClient (fun hnone => ?_) fun targetRouter htarget => hcaught _ htarget
    exact endedIff_withOperation hoperation fun ⟨_, hconnects, _⟩ => hnone hconnects
  · rename_i hsame
    exact hcaught _ (not_not.1 hsame ▸ hsource)

theorem treats_deletePeer {peerId : String} :
    Treats P (∃ row ∈ w.db.peer peerId, w.db.Connects P row.routerId) w
      (deletePeer P peerId : Service ℓ Unit) l w := by
  refine treats_mutablePeer (fun _ => endedIff_self) fun row hrow => ?_
  have hid : row.id = peerId := (Database.peer_spec hrow).2
  refine treats_startOperation fun operation hoperation _ => ?_
  refine treats_routerClient (fun hnone => ?_) fun router hconnects => ?_
  · refine endedIff_withOperation hoperation fun ⟨other, hother, hconnects⟩ => ?_
    cases hrow.symm.trans hother
    exact hnone hconnects
  refine treats_caught ⟨row, hrow, hconnects⟩ leaves_deleteCurrentPeer
    (fun _ => leaves_abandonDeletion) ?_ fun _ => ?_
  · exact executes_deleteCurrentPeer (fun _ _ _ => keepsOperations_updatePeer)
      keepsOperations_archiveAndDelete fun s => keepsOperations_operation
  · exact executes_abandonDeletion (fun _ _ _ => keepsOperations_updatePeer)
      fun s => keepsOperations_operation

theorem treats_regeneratePeerKeys {peerId : String} {keys : WireGuardKeys} :
    Treats P (∃ row ∈ w.db.peer peerId, w.db.Connects P row.routerId) w
      (regeneratePeerKeys P peerId keys : Service ℓ Unit) l w := by
  refine treats_mutablePeer (fun _ => endedIff_self) fun row hrow => ?_
  refine treats_startOperation fun operation hoperation _ => ?_
  refine treats_routerClient (fun hnone => ?_) fun router hconnects => ?_
  · refine endedIff_withOperation hoperation fun ⟨other, hother, hconnects⟩ => ?_
    cases hrow.symm.trans hother
    exact hnone hconnects
  refine treats_caught ⟨row, hrow, hconnects⟩ leaves_rotateKeys
    (fun _ => leaves_abandonRotation) ?_ fun _ => ?_
  · exact executes_rotateKeys (fun _ _ _ _ => keepsOperations_updatePeer)
      (fun s => keepsOperations_operation) fun _ => keepsOperations_updatePeer
  · exact executes_abandonRotation (fun _ _ _ => keepsOperations_updatePeer)
      fun s => keepsOperations_operation

theorem treats_service (operation : PeerOperation) :
    Treats P (operation.Targeted P w.db) w (operation.service P) () w := by
  cases operation with
  | create input peerId keys now =>
    exact Procedure.wp_bind.2 (Procedure.wp_mono (treats_createPeer P) (fun _ _ _ => id)
      fun _ _ _ => id)
  | update peerId input now => exact treats_updatePeer P
  | delete peerId => exact treats_deletePeer P
  | regenerateKeys peerId keys => exact treats_regeneratePeerKeys P

end Runs

/-- Wherever a service ends, and whichever of its requests fail, the operation
    that it has inserted has ended if and only if the interface that is asked for
    belongs to its router and there are clients for the routers. -/
theorem PeerOperation.ended_iff (P : Platform) (operation : PeerOperation) {w w' : World}
    {r : Except AppError Unit}
    (h : ((operation.service P).start ()).Ends (World.routerFaults P) w r w') (o : OperationRow)
    (ho : o ∈ w'.db.operations) (hnew : ∀ o' ∈ w.db.operations, o'.id ≠ o.id) :
    o.status.Ended ↔ operation.Targeted P w.db := by
  obtain ⟨t, hrun⟩ := h
  have halways : ((operation.service P).start ()).Always (World.routerFaults P) (fun _ _ => True)
      (fun _ => EndedIff (operation.Targeted P w.db) w) w :=
    Procedure.always_start.2 (treats_service P operation)
  exact halways.ends hrun o ho hnew

/-! ### Two operations -/

theorem Service.ends_of_run {P : Platform} {α : Type} {x : Service Unit α}
    {decisions : List Decision} {w w' : World} {r : Except AppError α}
    (hnone : ∀ d ∈ decisions, d.fault = .none) (h : x.run P decisions w = some (r, w')) :
    (x.start ()).Ends (World.routerFaults P) w r w' :=
  Program.ends_of_run (fun d hd _ c => ⟨d, by
    cases c with
    | request => trivial
    | query | execute => exact hnone d hd, rfl⟩) h

/-- What a run leaves of the operation `o1`. -/
theorem PeerOperation.exists_ends (operation : PeerOperation)
    (decisions : List Decision) (w : World)
    (status : OperationStatus) (hnone : ∀ d ∈ decisions, d.fault = .none)
    (h : ((operation.service Platform.plain).run Platform.plain decisions w).any (fun outcome =>
      outcome.2.db.operations.any fun o => decide (o.id = "o1" ∧ o.status = status)) = true) :
    ∃ r w', ((operation.service Platform.plain).start ()).Ends (World.routerFaults Platform.plain) w
        r w' ∧ ∃ o ∈ w'.db.operations, o.id = "o1" ∧ o.status = status := by
  cases hrun : (operation.service Platform.plain).run Platform.plain decisions w with
  | none =>
    rw [hrun] at h
    cases h
  | some outcome =>
    obtain ⟨r, w'⟩ := outcome
    rw [hrun] at h
    obtain ⟨o, ho, hstatus⟩ := List.any_eq_true.1 h
    exact ⟨r, w', Service.ends_of_run hnone hrun, o, ho, of_decide_eq_true hstatus⟩

/-- The installation, whose peer is not on its router. -/
def absentWorld : World :=
  plainWorld plainPeer plainPeer_check { plainRemote with id := "*2", publicKey := "other key" }

/-- The deletion of the peer throws, and its operation fails. -/
theorem PeerOperation.ended_iff_delete :
    ∃ r w', (((PeerOperation.delete "p1").service Platform.plain).start ()).Ends
        (World.routerFaults Platform.plain) absentWorld r w' ∧
      ∃ o ∈ w'.db.operations, o.id = "o1" ∧ o.status.Ended := by
  obtain ⟨r, w', hends, o, ho, hid, -⟩ := PeerOperation.exists_ends (.delete "p1")
    [{}, { id := "o1" }, {}, {}, {}, {}] absentWorld .failed (by simp) (by decide +kernel)
  exact ⟨r, w', hends, o, ho, hid,
    (PeerOperation.ended_iff Platform.plain (.delete "p1") hends o ho (by simp [absentWorld,
      plainWorld, plainDatabase, Database.empty])).2
        ⟨plainPeer, rfl, plainRouter, rfl, ("admin", "password"), rfl⟩⟩

/-- A peer on an interface that has been removed meanwhile. -/
def removedInterfaceInput : CreatePeerInput where
  routerId := "r1"
  interfaceId := "i2"
  poolId := "w1"
  name := "Second"
  manual := false
  usePresharedKey := false

/-- Its creation throws, and its operation is still being created. -/
theorem PeerOperation.exists_not_ended :
    ¬∀ (P : Platform) (operation : PeerOperation) (w w' : World) (r : Except AppError Unit),
      ((operation.service P).start ()).Ends (World.routerFaults P) w r w' →
      ∀ o ∈ w'.db.operations, (∀ o' ∈ w.db.operations, o'.id ≠ o.id) → o.status.Ended := by
  intro h
  obtain ⟨r, w', hends, o, ho, -, hstatus⟩ := PeerOperation.exists_ends
    (.create removedInterfaceInput "p2" ⟨"public key", "private key", none⟩ 0)
    [{ id := "o1" }, {}, {}] absentWorld .creating (by simp) (by decide +kernel)
  have hended := h _ _ _ _ _ hends o ho (by simp [absentWorld, plainWorld, plainDatabase,
    Database.empty])
  rw [hstatus] at hended
  exact absurd hended (by decide)

end WireguardPanel
