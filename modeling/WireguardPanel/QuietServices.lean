import WireguardPanel.Foundation.Transaction
import WireguardPanel.PeerService

/-!
# What the services do besides

Most calls of a service deal with the queues of a router, with the log of the
operations and with the columns that tell of them. They leave alone what a peer
is on its router and in its row.

* `PeerRow.core`: a row without the columns that such calls write.
* `Quiet`: two worlds that differ in nothing else.
* `quiet_query`, `quiet_execute`, `quiet_request`: the calls.
* `quiet_applyPeerBandwidthRemote` and the others: the services.
-/

namespace WireguardPanel

open Foundation

/-- A row without its bandwidth and its configuration. -/
def PeerRow.core (p : PeerRow) : PeerRow := { p with bandwidth := .fresh, qrConfigHash := none }

/-- Two databases that differ in the bandwidth of peers and their
    configurations, in the operations and in the queues that are managed. -/
structure QuietDatabase (db db' : Database) : Prop where
  peer : ∀ id, (db'.peer id).map PeerRow.core = (db.peer id).map PeerRow.core
  rest : db' = { db with
    peers := db'.peers, operations := db'.operations, managedObjects := db'.managedObjects }

instance : IsPreorder Database QuietDatabase where
  refl _ := ⟨fun _ => rfl, rfl⟩
  trans _ _ _ h h' := ⟨fun id => (h'.peer id).trans (h.peer id), by rw [h'.rest, h.rest]⟩

/-- Two worlds whose databases differ so, and whose routers have the same peers
    and interfaces. -/
structure Quiet (w w' : World) : Prop where
  db : QuietDatabase w.db w'.db
  peers : ∀ id, (w'.routers id).peers = (w.routers id).peers
  interfaces : ∀ id, (w'.routers id).interfaces = (w.routers id).interfaces

instance : IsPreorder World Quiet where
  refl _ := ⟨Std.Refl.refl _, fun _ => rfl, fun _ => rfl⟩
  trans _ _ _ h h' := ⟨IsTrans.trans _ _ _ h.db h'.db, fun id => (h'.peers id).trans (h.peers id),
    fun id => (h'.interfaces id).trans (h.interfaces id)⟩

/-- A service that makes such calls only. -/
abbrev IsQuiet (P : Platform) (faults : Call → Fault → Prop) {ℓ α : Type} (x : Service ℓ α) :
    Prop :=
  Procedure.Keeps (World.environment P faults) Quiet (fun _ => True) x

/-! ## Statements -/

/-- An update of a row that does not touch its core. -/
def PeerUpdate.Quiet (u : PeerUpdate) : Prop :=
  ∀ P now p, (u.apply P now p).core = p.core ∧ (u.apply P now p).id = p.id

theorem quiet_qr {hash : String} : (PeerUpdate.qr hash).Quiet := fun _ _ _ => ⟨rfl, rfl⟩

theorem quiet_bandwidth {source : Option BandwidthSource} {state : BandwidthSyncState} :
    (PeerUpdate.bandwidth source state).Quiet := fun _ _ _ => ⟨rfl, rfl⟩

/-- A statement that is quiet whenever and however it is executed. -/
def Statement.Quiet (s : Statement) : Prop :=
  ∀ P now id, Within QuietDatabase (s.tx P now id)

theorem PeerUpdate.Quiet.statement {u : PeerUpdate} (h : u.Quiet) (peerId : String) :
    (Statement.updatePeer peerId u).Quiet := fun P now _ db _ db' htx => by
  have hpeer := Tx.peer_updatePeer (fun p => (h P now p).2) htx
  obtain ⟨peers, rfl, -⟩ := Tx.updatePeer_ok htx
  refine ⟨fun id => ?_, rfl⟩
  rw [hpeer]
  split_ifs
  · rw [Option.map_map]
    exact Option.map_congr fun p _ => (h P now p).1
  · rfl

theorem quiet_updateOperation {id : String} {f : OperationRow → OperationRow} :
    Within QuietDatabase (Tx.updateOperation id f) := fun db _ db' htx => by
  cases htx
  exact ⟨fun _ => rfl, rfl⟩

theorem quiet_operationStep {id : String} : (Statement.operationStep id).Quiet :=
  fun _ _ _ => quiet_updateOperation

theorem quiet_finishOperation {id : String} {status : OperationStatus} {context : Option Json} :
    (Statement.finishOperation id status context).Quiet := fun _ _ _ => quiet_updateOperation

theorem quiet_startOperation {operationType : String} {routerId peerId : Option String}
    {context : Json} : (Statement.startOperation operationType routerId peerId context).Quiet :=
  fun _ _ _ db _ db' htx => by
    obtain ⟨-, -, rfl⟩ := Tx.insertOperation_ok htx
    exact ⟨fun _ => rfl, rfl⟩

theorem quiet_deleteManagedQueue {routerId comment : String} :
    (Statement.deleteManagedQueue routerId comment).Quiet := fun _ _ _ db _ db' htx => by
  cases htx
  exact ⟨fun _ => rfl, rfl⟩

theorem quiet_storeManagedQueue {row : ManagedObjectRow} :
    (Statement.storeManagedQueue row).Quiet :=
  fun _ _ _ db _ db' htx => by
    change Tx.upsertManagedObject row db = _ at htx
    unfold Tx.upsertManagedObject at htx
    split at htx
    · exact absurd htx nofun
    · obtain ⟨managedObjects, -, hrest⟩ := Tx.statement_bind_ok.1 htx
      cases Tx.return_eq_ok.1 hrest
      exact ⟨fun _ => rfl, rfl⟩

/-! ## Requests -/

/-- A request that leaves the peers and the interfaces of a router alone. -/
def RouterRequest.Quiet (q : RouterRequest) : Prop :=
  ∀ id r a r', q.perform id r = some (a, r') → r'.peers = r.peers ∧ r'.interfaces = r.interfaces

/-- A listing changes nothing. -/
theorem quiet_of_listing {q : RouterRequest} (h : ∀ id r, ∃ a, q.perform id r = some (a, r)) :
    q.Quiet := fun id r a r' hperform => by
  obtain ⟨b, hb⟩ := h id r
  cases hb.symm.trans hperform
  exact ⟨rfl, rfl⟩

theorem quiet_getSimpleQueues : RouterRequest.getSimpleQueues.Quiet :=
  quiet_of_listing fun _ _ => ⟨_, rfl⟩

theorem quiet_getQueueTrees : RouterRequest.getQueueTrees.Quiet :=
  quiet_of_listing fun _ _ => ⟨_, rfl⟩

theorem quiet_getMangleRules : RouterRequest.getMangleRules.Quiet :=
  quiet_of_listing fun _ _ => ⟨_, rfl⟩

theorem quiet_getFilterRules : RouterRequest.getFilterRules.Quiet :=
  quiet_of_listing fun _ _ => ⟨_, rfl⟩

theorem quiet_createSimpleQueue {input : DesiredSimpleQueue} :
    (RouterRequest.createSimpleQueue input).Quiet := fun id r a r' hperform => by
  change r.createSimpleQueue input id = _ at hperform
  unfold RouterContent.createSimpleQueue at hperform
  split_ifs at hperform
  cases hperform
  exact ⟨rfl, rfl⟩

theorem quiet_updateSimpleQueue {remoteId : String} {input : DesiredSimpleQueue} :
    (RouterRequest.updateSimpleQueue remoteId input).Quiet := fun id r a r' hperform => by
  change r.updateSimpleQueue remoteId input = _ at hperform
  unfold RouterContent.updateSimpleQueue at hperform
  split_ifs at hperform
  cases hperform
  exact ⟨rfl, rfl⟩

theorem quiet_deleteSimpleQueue {remoteId : String} :
    (RouterRequest.deleteSimpleQueue remoteId).Quiet := fun id r a r' hperform => by
  change r.deleteSimpleQueue remoteId = _ at hperform
  unfold RouterContent.deleteSimpleQueue at hperform
  split_ifs at hperform
  cases hperform
  exact ⟨rfl, rfl⟩

/-! ## Calls -/

section Services

variable {P : Platform} {faults : Call → Fault → Prop} {ℓ α : Type}

theorem quiet_query {read : Database → α} : IsQuiet P faults (Service.query read : Service ℓ α) :=
  Procedure.keeps_call fun w r w' _ hcall => by
    obtain ⟨rfl, -⟩ := Service.environment_query hcall
    exact ⟨Std.Refl.refl _, trivial⟩

theorem quiet_execute {s : Statement} (h : s.Quiet) :
    IsQuiet P faults (Service.execute s : Service ℓ s.Result) :=
  Procedure.keeps_call fun w r w' _ hcall => by
    rcases Service.environment_execute hcall with ⟨now, id, a, db, htx, -, rfl⟩ | ⟨rfl, -⟩
    · exact ⟨⟨h P now id _ _ _ htx, fun _ => rfl, fun _ => rfl⟩, trivial⟩
    · exact ⟨Std.Refl.refl _, trivial⟩

theorem quiet_request {routerId : String} {q : RouterRequest} (h : q.Quiet) :
    IsQuiet P faults (Service.request routerId q : Service ℓ q.Result) :=
  Procedure.keeps_call fun w r w' _ hcall => by
    rcases Service.environment_request hcall with ⟨id, a, content, hperform, -, rfl⟩ | ⟨rfl, -⟩
    · obtain ⟨hpeers, hinterfaces⟩ := h _ _ _ _ hperform
      refine ⟨⟨Std.Refl.refl _, fun other => ?_, fun other => ?_⟩, trivial⟩
      · change (if other = routerId then content else w.routers other).peers = _
        split_ifs with hother
        · rw [hother, hpeers]
        · rfl
      · change (if other = routerId then content else w.routers other).interfaces = _
        split_ifs with hother
        · rw [hother, hinterfaces]
        · rfl
    · exact ⟨Std.Refl.refl _, trivial⟩

theorem quiet_orThrow {value : Option α} {message : String} :
    IsQuiet P faults (Service.orThrow value message : Service ℓ α) := by
  cases value with
  | none => exact Procedure.keeps_throw
  | some a => exact Procedure.keeps_pure

/-! ## Services -/

theorem quiet_defaultPolicy {router : RouterRow} :
    IsQuiet P faults (defaultPolicy router : Service ℓ EffectiveBandwidthPolicy) := by
  unfold defaultPolicy
  cases router.defaultBandwidthMode with
  | unlimited => exact Procedure.keeps_pure
  | custom => exact Procedure.keeps_pure
  | global =>
    refine quiet_query.bind fun defaults => ?_
    cases defaults <;> exact Procedure.keeps_pure

theorem quiet_getEffectivePeerBandwidth {peerId : String} :
    IsQuiet P faults (getEffectivePeerBandwidth peerId : Service ℓ EffectiveBandwidthPolicy) := by
  refine quiet_query.bind fun _ => quiet_orThrow.bind fun row => ?_
  cases row.peer.bandwidth.bandwidthMode with
  | unlimited => exact Procedure.keeps_pure
  | custom => exact Procedure.keeps_pure
  | default | profile =>
    cases row.bandwidthProfile with
    | none => exact quiet_defaultPolicy
    | some profileId =>
      refine quiet_query.bind fun profile => ?_
      cases profile with
      | none => exact quiet_defaultPolicy
      | some profile => exact Procedure.keeps_pure

theorem quiet_rejectConflicts {message : String} {conflicts : List ConflictSummary} :
    IsQuiet P faults (rejectConflicts message conflicts : Service ℓ Unit) := by
  unfold rejectConflicts
  split_ifs
  · exact Procedure.keeps_pure
  · exact Procedure.keeps_throw

theorem quiet_checkConflicts {listing : QueueListing} {peer : QueuePeer}
    {desired : Option DesiredSimpleQueue} :
    IsQuiet P faults (checkConflicts listing peer desired : Service ℓ Unit) := by
  unfold checkConflicts
  dsimp only
  split_ifs
  · exact Procedure.keeps_throw.bind fun _ => quiet_rejectConflicts.bind fun _ =>
      quiet_rejectConflicts.bind fun _ => quiet_rejectConflicts
  · exact Procedure.keeps_throw.bind fun _ => quiet_rejectConflicts.bind fun _ =>
      Procedure.keeps_pure
  · exact quiet_rejectConflicts.bind fun _ => quiet_rejectConflicts.bind fun _ =>
      quiet_rejectConflicts
  · exact quiet_rejectConflicts.bind fun _ => Procedure.keeps_pure

theorem quiet_listQueues {routerId : String} :
    IsQuiet P faults (listQueues routerId : Service ℓ QueueListing) :=
  (quiet_request quiet_getSimpleQueues).bind fun _ => (quiet_request quiet_getQueueTrees).bind
    fun _ => (quiet_request quiet_getMangleRules).bind fun _ =>
      (quiet_request quiet_getFilterRules).bind fun _ => Procedure.keeps_pure

theorem quiet_removeQueue {routerId : String} {peer : QueuePeer}
    {current : Option RemoteSimpleQueue} :
    IsQuiet P faults (removeQueue routerId peer current : Service ℓ BandwidthApplyResult) := by
  cases current with
  | none => exact Procedure.keeps_pure
  | some current =>
    refine (quiet_request quiet_deleteSimpleQueue).bind fun _ =>
      (quiet_request quiet_getSimpleQueues).bind fun queues => ?_
    split_ifs
    · exact Procedure.keeps_throw.bind fun _ => Procedure.keeps_pure
    · exact Procedure.keeps_pure

theorem quiet_installQueue {routerId : String} {peer : QueuePeer}
    {current : Option RemoteSimpleQueue} {desired : DesiredSimpleQueue} {force : Bool} :
    IsQuiet P faults
      (installQueue P routerId peer current desired force : Service ℓ BandwidthApplyResult) := by
  unfold installQueue
  rcases current with _ | queue
  on_goal 1 =>
    refine (quiet_request quiet_createSimpleQueue).bind fun _ => ?_
    refine (quiet_request quiet_getSimpleQueues).bind fun queues => ?_
  on_goal 2 =>
    dsimp only
    split_ifs
    · exact Procedure.keeps_pure
    on_goal 1 => refine Procedure.keeps_throw.bind fun _ => ?_
    all_goals
      refine (quiet_request quiet_updateSimpleQueue).bind fun _ =>
        Procedure.keeps_pure.bind fun _ => ?_
      refine (quiet_request quiet_getSimpleQueues).bind fun queues => ?_
  -- On every path that is left, the queue is read again.
  all_goals
    split
    · split_ifs
      · exact Procedure.keeps_pure
      · exact Procedure.keeps_throw
    · exact Procedure.keeps_throw

theorem quiet_applyPeerBandwidthRemote {routerId : String} {peer : QueuePeer}
    {policy : EffectiveBandwidthPolicy} {force : Bool} :
    IsQuiet P faults
      (applyPeerBandwidthRemote P routerId peer policy force : Service ℓ BandwidthApplyResult) := by
  refine quiet_listQueues.bind fun listing => quiet_checkConflicts.bind fun _ => ?_
  cases desiredSimpleQueue peer policy with
  | none => exact quiet_removeQueue
  | some desired => exact quiet_installQueue

theorem quiet_persistBandwidthResult {routerId peerId : String} {policy : EffectiveBandwidthPolicy}
    {result : BandwidthApplyResult} :
    IsQuiet P faults (persistBandwidthResult P routerId peerId policy result : Service ℓ Unit) := by
  refine (quiet_execute (quiet_bandwidth.statement peerId)).bind fun _ => ?_
  cases result.desired with
  | none => exact quiet_execute quiet_deleteManagedQueue
  | some desired => exact quiet_execute quiet_storeManagedQueue

theorem quiet_deleteOwnedPeerQueueRemote {routerId peerId : String} :
    IsQuiet P faults (deleteOwnedPeerQueueRemote routerId peerId : Service ℓ ℕ) := by
  refine (quiet_request quiet_getSimpleQueues).bind fun queues => ?_
  refine (Procedure.keeps_forM fun _ _ => quiet_request quiet_deleteSimpleQueue).bind fun _ => ?_
  refine (quiet_request quiet_getSimpleQueues).bind fun remaining => ?_
  split_ifs
  · exact Procedure.keeps_throw.bind fun _ => Procedure.keeps_pure
  · exact Procedure.keeps_pure

theorem quiet_refreshPeerQr {peerId : String} :
    IsQuiet P faults (refreshPeerQr P peerId : Service ℓ Unit) := by
  refine Procedure.Keeps.bind ?_ fun config => quiet_execute (quiet_qr.statement peerId)
  refine quiet_query.bind fun _ => quiet_orThrow.bind fun row => ?_
  split
  · exact Service.keeps_ofExcept
  · exact Procedure.keeps_throw

/-- What `updatePeer` does after it has committed. -/
theorem quiet_finishUpdate {row : PeerRow} {input : UpdatePeerInput}
    {sourceId targetId operationId clientIp : String} {changingRouter : Bool} :
    IsQuiet P faults (finishUpdate P row input sourceId targetId operationId changingRouter
      clientIp) := by
  have hshape : ∀ {last : Service UpdateLocals Unit}, IsQuiet P faults last → IsQuiet P faults (do
      let policy ← getEffectivePeerBandwidth row.id
      let bandwidth ← applyPeerBandwidthRemote P targetId
        { id := row.id, name := input.name, clientIp } policy true
      persistBandwidthResult P input.routerId row.id policy bandwidth
      Service.execute (.operationStep operationId)
      last) := fun hlast =>
    quiet_getEffectivePeerBandwidth.bind fun _ => quiet_applyPeerBandwidthRemote.bind fun _ =>
      quiet_persistBandwidthResult.bind fun _ => (quiet_execute quiet_operationStep).bind
        fun _ => hlast
  refine (quiet_execute quiet_operationStep).bind fun _ => ?_
  dsimp only
  split_ifs
  · exact quiet_deleteOwnedPeerQueueRemote.bind fun _ => hshape <|
      quiet_refreshPeerQr.bind fun _ => quiet_execute quiet_finishOperation
  · exact quiet_deleteOwnedPeerQueueRemote.bind fun _ => hshape <|
      quiet_execute quiet_finishOperation
  · exact hshape <| quiet_refreshPeerQr.bind fun _ => quiet_execute quiet_finishOperation
  · exact hshape <| quiet_execute quiet_finishOperation

end Services

end WireguardPanel
