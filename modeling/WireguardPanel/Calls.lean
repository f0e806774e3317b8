import WireguardPanel.Foundation.Program
import WireguardPanel.Policies

/-!
# Calls

The services of the application run against a database and a number of routers.
They reach both through calls, any of which may fail: a transaction fails
without effect, a request to a router also after it has taken effect, when its
reply is lost.

* `Statement`: the transactions, and the statements outside of transactions.
* `RouterRequest`: the requests of a `RouterOsClient`.
* `World.answer`: the answer to a call, given what the environment decides.
* `Service`: the procedures that make these calls.
-/

namespace WireguardPanel

open Foundation

/-! ## Statements -/

/-- The updates of a row of `peers` by its identifier. -/
inductive PeerUpdate
  /-- `setRemoteQuotaState`. -/
  | quotaState (disabled : Bool) (used : Option ℤ) (observed : RemoteWireGuardPeer)
  /-- `setPeerEnabled`. -/
  | enabled (enabled : Bool) (reason : DisabledReason) (fingerprint : Option String)
      (updated : Option RemoteWireGuardPeer)
  /-- `temporarilyReenablePeer`. -/
  | reenabled (bypassUntil : ℤ) (observed : RemoteWireGuardPeer)
  /-- `regeneratePeerKeys`. -/
  | keys (publicKey privateKeyEncrypted : String) (presharedKeyEncrypted : Option String)
      (updated : RemoteWireGuardPeer)
  /-- `createPeer`, once the peer is on the router. -/
  | created (remote : RemoteWireGuardPeer)
  /-- `createPeer`, when all is done. -/
  | activated
  /-- The state of an operation that is under way or has stopped half-way. -/
  | lifecycle (status : LifecycleStatus) (sync : Option SyncState)
      (bandwidth : Option BandwidthSyncState)
  /-- `enforceExpirations`. -/
  | expired
  /-- `refreshPeerQr`. -/
  | qr (hash : String)
  /-- The outcome of a bandwidth change or observation. -/
  | bandwidth (source : Option BandwidthSource) (state : BandwidthSyncState)
  /-- `setPeerBandwidthPolicy`. -/
  | policy (input : BandwidthPolicyMutation)
  /-- `storeResolvedPeer`. -/
  | resolved (remote : RemoteWireGuardPeer) (state : Json)

/-- The columns that `setPeerEnabled` sets. -/
def enabledColumns (enabled : Bool) (reason : DisabledReason) (fingerprint : Option String)
    (updated : Option RemoteWireGuardPeer) (p : PeerRow) : PeerRow :=
  { p with
    disabled := !enabled
    expired := if enabled then false else p.expired
    disabledReason := if enabled then none else some reason
    accounting := { p.accounting with
      quotaBypassUntil := if enabled then p.accounting.quotaBypassUntil else none }
    remoteFingerprint := fingerprint
    lastRemoteState := updated
    conflictType := none }

/-- The columns that `createPeer` sets once the peer is on the router. -/
def createdColumns (P : Platform) (remote : RemoteWireGuardPeer) (now : ℤ) (p : PeerRow) :
    PeerRow :=
  { p with
    remoteId := some remote.id
    remoteFingerprint := some (remotePeerFingerprint P remote)
    lastRemoteState := some remote
    accounting := { p.accounting with
      lastObservedRxBytes := some remote.rxBytes
      lastObservedTxBytes := some remote.txBytes }
    presence := { p.presence with
      remoteDisabled := some remote.disabled
      lastStatisticsPollAt := some now
      lastHandshakeRaw := remote.lastHandshakeRaw
      lastHandshakeParseValid := remote.lastHandshakeParseValid } }

/-- The row after an update at the time `now`. -/
def PeerUpdate.apply (P : Platform) (now : ℤ) (p : PeerRow) : PeerUpdate → PeerRow
  | .quotaState disabled used observed => quotaColumns P disabled used observed p
  | .enabled on reason fingerprint updated =>
    enabledColumns on reason fingerprint updated p
  | .reenabled bypassUntil observed => { p with
      disabled := false
      disabledReason := none
      accounting := { p.accounting with quotaBypassUntil := some bypassUntil }
      remoteFingerprint := some (remotePeerFingerprint P observed)
      lastRemoteState := some observed
      conflictType := none }
  | .keys publicKey privateKeyEncrypted presharedKeyEncrypted updated => { p with
      publicKey
      privateKeyEncrypted := some privateKeyEncrypted
      presharedKeyEncrypted
      remoteFingerprint := some (remotePeerFingerprint P updated)
      lastRemoteState := some updated
      conflictType := none }
  | .created remote => createdColumns P remote now p
  | .activated => { p with
      lifecycleStatus := .active, syncState := .synced, lastAppliedState := p.desiredState }
  | .lifecycle status sync shaping => { p with
      lifecycleStatus := status
      syncState := sync.getD p.syncState
      bandwidth := { p.bandwidth with
        bandwidthSyncState := shaping.getD p.bandwidth.bandwidthSyncState } }
  | .expired => { p with expired := true }
  | .qr hash => { p with qrConfigHash := some hash }
  | .bandwidth source state => { p with
      bandwidth := { p.bandwidth with
        bandwidthSource := source.getD p.bandwidth.bandwidthSource
        bandwidthSyncState := state } }
  | .policy input => setPolicyColumns input p
  | .resolved remote state => resolvedColumns P remote state p

theorem PeerUpdate.apply_id {P : Platform} (update : PeerUpdate) (now : ℤ) (p : PeerRow) :
    (update.apply P now p).id = p.id := by
  cases update <;> rfl

/-- The transactions of the services, and their statements outside of one. -/
inductive Statement
  | updatePeer (peerId : String) (update : PeerUpdate)
  | startOperation (operationType : String) (routerId peerId : Option String) (context : Json)
  | operationStep (id : String)
  | finishOperation (id : String) (status : OperationStatus) (context : Option Json)
  | failOperation (id : String) (status : OperationStatus) (context : Option Json)
  | finishReconciledFailure (id : String) (context : Json)
  | systemAudit (action peerId : String)
  | recordObservation (peerId : String) (remote : RemoteWireGuardPeer) (policy : QuotaPolicy)
      (onlineSeconds sampleSeconds now : ℤ)
  | resetQuota (row : PeerRow) (windowEnd : Option ℤ) (observed : RemoteWireGuardPeer) (now : ℤ)
  | stagePeer (input : CreatePeerInput) (peerId operationId : String) (router : RouterRow)
      (interface : InterfaceRow) (keys : WireGuardKeys)
      (listing : Except AppError (List RemoteWireGuardPeer)) (now : ℤ)
  | releaseStagedPeer (peerId : String)
  | confirmAddress (poolId routerId interfaceId : String)
      (remotePeers : List RemoteWireGuardPeer) (clientIp excludePeerId : String)
  | commitUpdate (commit : PeerCommit) (now : ℤ)
  | recoverUpdate (row : PeerRow) (input : UpdatePeerInput) (recovery : RemoteWireGuardPeer)
      (recoveryIp : String)
  | archiveAndDelete (row : PeerRow)
  | removeStagedPeer (peerId : String)
  | deleteManagedQueue (routerId ownershipComment : String)
  | storeManagedQueue (row : ManagedObjectRow)
  | sync (routerId : String) (fresh : FreshIds) (listing : SyncListing)
  /-- `INSERT INTO sync_runs`. -/
  | startSyncRun (routerId : String)
  /-- `UPDATE sync_runs`. -/
  | finishSyncRun
  /-- `UPDATE routers` of what tells of the connection. -/
  | routerStatus (routerId : String)
  | unreachablePeers (routerId : String)
  | unreachableInterfaces (routerId : String)
  | bandwidthDrift (routerId peerId : String) (state : SyncState)
      (application current differences : Json)
  | dismissDrift (objectType : DriftObjectType) (objectId : String)
  | prepareGlobalBandwidth (input : GlobalBandwidthInput)
  | adoptRouterState (peer : PeerRow) (poolId : String) (remote : RemoteWireGuardPeer)
      (peers : List RemoteWireGuardPeer) (clientIp : String)
  | adoptQueue (peer : PeerRow) (queue : DesiredSimpleQueue) (download upload : ℕ)
  | adoptInterface (interface : InterfaceRow) (applied : RemoteWireGuardInterface)
  | resolveDrift (driftId : String) (resolution : DriftResolution)

/-- What a statement returns. -/
@[reducible] def Statement.Result : Statement → Type
  | .startOperation .. => String
  | .recordObservation .. => Observation
  | .stagePeer .. => StagedPeer
  | .confirmAddress .. => String
  | .sync .. => SyncSummary
  | .prepareGlobalBandwidth _ => GlobalBandwidthPlan
  | _ => Unit

/-- `startOperation`: the database chooses the identifier `id`. -/
def Tx.insertOperation (row : OperationRow) : Tx String := fun db =>
  if ∃ o ∈ db.operations, o.id = row.id then .error (.database .unique)
  else if (∃ id ∈ row.routerId, (db.router id).isNone) ∨ ∃ id ∈ row.peerId, (db.peer id).isNone then
    .error (.database .foreignKey)
  else .ok (row.id, { db with operations := db.operations ++ [row] })

theorem Tx.insertOperation_ok {row : OperationRow} {db db' : Database} {operationId : String}
    (h : Tx.insertOperation row db = .ok (operationId, db')) :
    operationId = row.id ∧ (¬∃ o ∈ db.operations, o.id = row.id) ∧
      db' = { db with operations := db.operations ++ [row] } := by
  unfold Tx.insertOperation at h
  split_ifs at h with hused
  cases h
  exact ⟨rfl, hused, rfl⟩

/-- The columns that `failOperation` sets. -/
def OperationRow.failed (status : OperationStatus) (context : Option Json) (now : ℤ)
    (o : OperationRow) : OperationRow :=
  let retry := status = .needsReconciliation ∨ status = .pendingCleanup
  { o with
    status
    retryCount := o.retryCount + 1
    nextRetryAt :=
      if retry then some (now + 1000 * min 3600 (2 ^ min o.retryCount 11 * 15)) else none
    context := context.elim o.context o.context.merge
    updatedAt := now }

/-- `DELETE FROM managed_router_objects`. -/
def Tx.deleteManagedObjects (p : ManagedObjectRow → Bool) : Tx Unit := fun db =>
  .ok ((), { db with managedObjects := db.managedObjects.delete p })

/-- `INSERT INTO managed_router_objects … ON CONFLICT … DO UPDATE`. -/
def Tx.upsertManagedObject (row : ManagedObjectRow) : Tx Unit := fun db => do
  if (db.router row.routerId).isNone ∨ ∃ id ∈ row.peerId, (db.peer id).isNone then
    throw (.database .foreignKey)
  let old := db.managedObjects.delete fun o =>
    o.routerId = row.routerId ∧ o.ownershipComment = row.ownershipComment
  let managedObjects ← statement (old.insert row)
  return ((), { db with managedObjects })

/-- The columns of a peer whose router cannot be reached. -/
def unreachableColumns (p : PeerRow) : PeerRow :=
  { p with
    syncState := .routerUnreachable
    bandwidth := { p.bandwidth with
      bandwidthSyncState := if p.bandwidth.bandwidthSyncState = .notConfigured then .notConfigured
        else .routerUnreachable } }

/-- `UPDATE peers … WHERE router_id = …`, for a router that cannot be reached. -/
def Tx.unreachablePeers (routerId : String) : Tx Unit := fun db =>
  .ok ((), { db with
    peers := db.peers.relabel (fun p => if p.routerId = routerId then unreachableColumns p else p)
      (fun p => by simp only [peerSchema, unreachableColumns]; split_ifs <;> rfl)
      (fun p q => by simp only [peerSchema, unreachableColumns]; split_ifs <;> rfl) })

/-- `UPDATE wireguard_interfaces … WHERE router_id = …`, likewise. -/
def Tx.unreachableInterfaces (routerId : String) : Tx Unit := fun db =>
  .ok ((), { db with
    interfaces := db.interfaces.relabel
      (fun i => if i.routerId = routerId then { i with syncState := .routerUnreachable } else i)
      (fun i => by simp only [interfaceSchema]; split_ifs <;> rfl)
      (fun i j => by simp only [interfaceSchema]; split_ifs <;> rfl) })

/-- `INSERT INTO sync_runs`, a table that nothing else reads. -/
def Tx.insertSyncRun (routerId : String) : Tx Unit := fun db =>
  if (db.router routerId).isNone then .error (.database .foreignKey) else .ok ((), db)

/-- The drift of the bandwidth of a peer, with what is stored of its queue. -/
def bandwidthDriftRow (db : Database) (id routerId peerId : String) (state : SyncState)
    (application current differences : Json) : DriftRow :=
  let stored := db.managedObjects.rows.find? fun o =>
    o.routerId = routerId ∧ o.ownershipComment = queueOwnershipComment peerId
  { id, routerId, peerId := some peerId, objectType := .bandwidth, objectId := peerId, state
    applicationState := application.jsonb
    synchronizedState := stored.elim (.obj []) ManagedObjectRow.expectedState
    routerState := current.jsonb
    differences := differences.jsonb
    resolvedAt := none
    resolution := none }

section Platform

variable (P : Platform)

/-- The transaction of a statement at the time `now`, in which the database
    chooses the identifier `id`. -/
def Statement.tx (now : ℤ) (id : String) : (s : Statement) → Tx s.Result
  | .updatePeer peerId update => Tx.updatePeer peerId (update.apply P now)
  | .startOperation operationType routerId peerId context => Tx.insertOperation {
      id, operationType, status := .creating, routerId, peerId, context, retryCount := 0
      nextRetryAt := none, updatedAt := now }
  | .operationStep operationId => Tx.updateOperation operationId fun o => { o with
      status := if o.status = .creating then .active else o.status, updatedAt := now }
  | .finishOperation operationId status context => Tx.updateOperation operationId fun o => { o with
      status, context := context.elim o.context o.context.merge, updatedAt := now }
  | .failOperation operationId status context =>
    Tx.updateOperation operationId (OperationRow.failed status context now)
  | .finishReconciledFailure operationId context => Tx.updateOperation operationId fun o => { o with
      status := .failed, context := o.context.merge context, nextRetryAt := none, updatedAt := now }
  | .systemAudit action peerId => Tx.insertAudit action peerId
  | .recordObservation peerId remote policy onlineSeconds sampleSeconds time =>
    WireguardPanel.recordObservation P peerId remote policy onlineSeconds sampleSeconds time
  | .resetQuota row windowEnd observed time =>
    WireguardPanel.resetQuota P row windowEnd observed time
  | .stagePeer input peerId operationId router interface keys listing time =>
    WireguardPanel.stagePeer P input peerId operationId router interface keys listing time
  | .releaseStagedPeer peerId => WireguardPanel.releaseStagedPeer peerId
  | .confirmAddress poolId routerId interfaceId remotePeers clientIp excludePeerId =>
    WireguardPanel.confirmAddress P poolId routerId interfaceId remotePeers clientIp excludePeerId
  | .commitUpdate commit time => WireguardPanel.commitUpdate P commit time
  | .recoverUpdate row input recovery recoveryIp =>
    WireguardPanel.recoverUpdate P row input recovery recoveryIp
  | .archiveAndDelete row => WireguardPanel.archiveAndDelete row
  | .removeStagedPeer peerId => do
    releasePeerPoolAddress peerId
    Tx.deleteManagedObjects fun o => o.peerId = some peerId
    Tx.deletePeer peerId
  | .deleteManagedQueue routerId ownershipComment => Tx.deleteManagedObjects fun o =>
      o.routerId = routerId ∧ o.ownershipComment = ownershipComment
  | .storeManagedQueue row => Tx.upsertManagedObject row
  | .sync routerId fresh listing => syncTransaction P routerId fresh listing
  | .startSyncRun routerId => Tx.insertSyncRun routerId
  | .finishSyncRun => pure ()
  | .routerStatus _ => pure ()
  | .unreachablePeers routerId => Tx.unreachablePeers routerId
  | .unreachableInterfaces routerId => Tx.unreachableInterfaces routerId
  | .bandwidthDrift routerId peerId state application current differences => do
    let db ← get
    Tx.deduceParameter peerDriftIdTypes
    Tx.upsertDrift (bandwidthDriftRow db id routerId peerId state application current differences)
  | .dismissDrift objectType objectId => Tx.dismissDrifts objectType objectId now
  | .prepareGlobalBandwidth input => WireguardPanel.prepareGlobalBandwidth input
  | .adoptRouterState peer poolId remote peers clientIp =>
    WireguardPanel.adoptRouterState P peer poolId remote peers clientIp
  | .adoptQueue peer queue download upload =>
    WireguardPanel.adoptQueue P peer queue download upload
  | .adoptInterface interface applied => WireguardPanel.adoptInterface P interface applied
  | .resolveDrift driftId resolution => Tx.updateDrifts fun d =>
      if d.id = driftId ∧ d.resolvedAt = none then
        { d with resolvedAt := some now, resolution := some resolution }
      else d

end Platform

/-! ## Requests -/

/-- The requests of a `RouterOsClient`. -/
inductive RouterRequest
  /-- `testConnection`, whose facts about the router are not kept. -/
  | testConnection
  | getInterfaces
  | getPeers
  | getAddresses
  | getRoutes
  /-- `getNatRules`, which nothing reads. -/
  | getNatRules
  | getSimpleQueues
  | getQueueTrees
  | getMangleRules
  | getFilterRules
  | createPeer (input : CreateRemotePeer)
  | updatePeer (id : String) (input : UpdateRemotePeer)
  | deletePeer (id : String)
  | updateInterface (id : String) (input : UpdateRemoteInterface)
  | createSimpleQueue (input : DesiredSimpleQueue)
  | updateSimpleQueue (id : String) (input : DesiredSimpleQueue)
  | deleteSimpleQueue (id : String)

/-- What a request returns. -/
@[reducible] def RouterRequest.Result : RouterRequest → Type
  | .getInterfaces => List RemoteWireGuardInterface
  | .getPeers => List RemoteWireGuardPeer
  | .getAddresses => List RemoteAddress
  | .getRoutes => List RemoteRecord
  | .getSimpleQueues => List RemoteSimpleQueue
  | .getQueueTrees => List RemoteRecord
  | .getMangleRules => List RemoteRecord
  | .getFilterRules => List RemoteRecord
  | .createPeer _ => String
  | .createSimpleQueue _ => String
  | _ => Unit

/-- The request sets no endpoint to what is not read as such: a port that is
    taken away is read as `0`, and an empty address is one that is taken away. -/
def RouterRequest.Readable : RouterRequest → Prop
  | .updatePeer _ input => input.endpointAddress ≠ some (some "") ∧ input.endpointPort ≠ some none
  | _ => True

/-- What a request does to a router, which chooses the identifier `id` for a
    new object. The router rejects a request for an object that it has not. -/
def RouterRequest.perform (id : String) (r : RouterContent) :
    (q : RouterRequest) → Option (q.Result × RouterContent)
  | .testConnection => some ((), r)
  | .getInterfaces => some (r.interfaces, r)
  | .getPeers => some (r.remotePeers, r)
  | .getAddresses => some (r.addresses, r)
  | .getRoutes => some (r.routes, r)
  | .getNatRules => some ((), r)
  | .getSimpleQueues => some (r.queues, r)
  | .getQueueTrees => some (r.queueTrees, r)
  | .getMangleRules => some (r.mangleRules, r)
  | .getFilterRules => some (r.filterRules, r)
  | .createPeer input => r.createPeer input id
  | .updatePeer remoteId input => r.updatePeer remoteId input
  | .deletePeer remoteId => r.deletePeer remoteId
  | .updateInterface remoteId input => r.updateInterface remoteId input
  | .createSimpleQueue input => r.createSimpleQueue input id
  | .updateSimpleQueue remoteId input => r.updateSimpleQueue remoteId input
  | .deleteSimpleQueue remoteId => r.deleteSimpleQueue remoteId

/-! ## The world -/

/-- The database and the routers, by the identifiers of their rows. -/
structure World where
  db : Database
  routers : String → RouterContent

/-- A call of a service. -/
inductive Call : Type 1
  | query {α : Type} (read : Database → α)
  | execute (statement : Statement)
  | request (routerId : String) (request : RouterRequest)

/-- What a call returns if it does not fail. -/
@[reducible] def Call.Result : Call → Type
  | .query (α := α) _ => α
  | .execute s => s.Result
  | .request _ q => q.Result

/-- How a call fails: not at all, before it has had an effect, or after it. -/
inductive Fault
  | none
  | before (e : AppError)
  | after (e : AppError)
  deriving DecidableEq

/-- What the environment decides about a call: whether it fails, the time, and
    the identifier of a new object. -/
structure Decision where
  fault : Fault := .none
  now : ℤ := 0
  id : String := ""

/-- The error that a router which rejects a request answers with. -/
def routerError : AppError := .routerConnection .routerError "no such item"

namespace World

variable (P : Platform)

/-- The world with a router changed. -/
def setRouter (w : World) (routerId : String) (r : RouterContent) : World :=
  { w with routers := fun id => if id = routerId then r else w.routers id }

/-- The answer to a call and the world after it. -/
def answer (d : Decision) (w : World) : (c : Call) → Except AppError c.Result × World
  | .query read =>
    match d.fault with
    | .none => (.ok (read w.db), w)
    | .before e | .after e => (.error e, w)
  | .execute s =>
    match d.fault with
    | .none =>
      match s.tx P d.now d.id w.db with
      | .ok (a, db) => (.ok a, { w with db })
      | .error e => (.error e, w)
    | .before e | .after e => (.error e, w)
  | .request routerId q =>
    match d.fault with
    | .before e => (.error e, w)
    | .none =>
      match q.perform d.id (w.routers routerId) with
      | some (a, r) => (.ok a, w.setRouter routerId r)
      | none => (.error routerError, w)
    | .after e =>
      match q.perform d.id (w.routers routerId) with
      | some (_, r) => (.error e, w.setRouter routerId r)
      | none => (.error e, w)

/-- The environment of the services, in which a call fails as `faults` allows. -/
def environment (faults : Call → Fault → Prop) :
    Environment Call (fun c => Except AppError c.Result) World := fun c w r w' =>
  ∃ d : Decision, faults c d.fault ∧ answer P d w c = (r, w')

end World

/-- The procedures of the services, with local variables `ℓ`. -/
abbrev Service (ℓ : Type) := Procedure Call Call.Result AppError ℓ

namespace Service

variable {ℓ α : Type}

/-- A `SELECT` outside of a transaction. -/
def query (read : Database → α) : Service ℓ α := Procedure.call (Call.query read)

/-- A statement or a transaction. -/
def execute (statement : Statement) : Service ℓ statement.Result :=
  Procedure.call (Call.execute statement)

/-- A request to a router. -/
def request (routerId : String) (request : RouterRequest) : Service ℓ request.Result :=
  Procedure.call (Call.request routerId request)

/-- The first row of a result, or an error. -/
def orThrow (value : Option α) (message : String) : Service ℓ α :=
  match value with
  | some a => pure a
  | none => throw (.error message)

/-- The value of a computation that may throw. -/
def ofExcept (r : Except AppError α) : Service ℓ α :=
  match r with
  | .ok a => pure a
  | .error e => throw e

/-- The outcome of a service and the world after it, when the environment takes
    the given decisions. -/
def run (P : Platform) (x : Service Unit α) (decisions : List Decision) (w : World) :
    Option (Except AppError α × World) :=
  (x.start ()).run (World.answer P) decisions w

theorem returns_of_run {P : Platform} {x : Service Unit α} {decisions : List Decision}
    {w w' : World} {a : α} (h : x.run P decisions w = some (.ok a, w')) :
    Procedure.Returns (World.environment P fun _ _ => True) x () w a () w' := by
  have hends : (x.start ()).Ends (World.environment P fun _ _ => True) w (.ok a) w' :=
    Program.ends_of_run (fun d _ _ _ => ⟨d, trivial, rfl⟩) h
  obtain ⟨_, hreturns⟩ := Procedure.ends_start.1 hends
  exact hreturns

/-! ## Answers -/

variable {P : Platform} {faults : Call → Fault → Prop} {l l' : ℓ} {w w' : World}

/-- A query changes nothing, and returns what it has read. -/
theorem environment_query {read : Database → α} {r : Except AppError α}
    (h : World.environment P faults (.query read) w r w') :
    w' = w ∧ ∀ a, r = .ok a → a = read w.db := by
  obtain ⟨d, -, hanswer⟩ := h
  unfold World.answer at hanswer
  cases hfault : d.fault <;> simp only [hfault, Prod.mk.injEq] at hanswer <;>
    obtain ⟨rfl, rfl⟩ := hanswer
  · exact ⟨rfl, fun a ha => (Except.ok.inj ha).symm⟩
  · exact ⟨rfl, nofun⟩
  · exact ⟨rfl, nofun⟩

/-- A transaction commits, or it fails without effect. -/
theorem environment_execute {statement : Statement} {r : Except AppError statement.Result}
    (h : World.environment P faults (.execute statement) w r w') :
    (∃ now id a db, statement.tx P now id w.db = .ok (a, db) ∧ r = .ok a ∧ w' = { w with db }) ∨
      w' = w ∧ ∃ e, r = .error e := by
  obtain ⟨d, -, hanswer⟩ := h
  unfold World.answer at hanswer
  cases hfault : d.fault <;> simp only [hfault] at hanswer
  · cases htx : statement.tx P d.now d.id w.db with
    | error e =>
      simp only [htx, Prod.mk.injEq] at hanswer
      exact .inr ⟨hanswer.2.symm, e, hanswer.1.symm⟩
    | ok result =>
      obtain ⟨a, db⟩ := result
      simp only [htx, Prod.mk.injEq] at hanswer
      exact .inl ⟨d.now, d.id, a, db, htx, hanswer.1.symm, hanswer.2.symm⟩
  all_goals
    rw [Prod.mk.injEq] at hanswer
    exact .inr ⟨hanswer.2.symm, _, hanswer.1.symm⟩

/-- A request takes effect, whether its answer comes or not, or it fails without
    effect. -/
theorem environment_request {routerId : String} {request : RouterRequest}
    {r : Except AppError request.Result}
    (h : World.environment P faults (.request routerId request) w r w') :
    (∃ id a content, request.perform id (w.routers routerId) = some (a, content) ∧
        (∀ b, r = .ok b → b = a) ∧ w' = w.setRouter routerId content) ∨
      w' = w ∧ ∃ e, r = .error e := by
  obtain ⟨d, -, hanswer⟩ := h
  unfold World.answer at hanswer
  cases hfault : d.fault <;> simp only [hfault] at hanswer
  case before e =>
    rw [Prod.mk.injEq] at hanswer
    exact .inr ⟨hanswer.2.symm, e, hanswer.1.symm⟩
  all_goals
    cases hrequest : request.perform d.id (w.routers routerId) with
    | none =>
      simp only [hrequest, Prod.mk.injEq] at hanswer
      exact .inr ⟨hanswer.2.symm, _, hanswer.1.symm⟩
    | some result =>
      obtain ⟨a, content⟩ := result
      simp only [hrequest, Prod.mk.injEq] at hanswer
      refine .inl ⟨d.id, a, content, hrequest, fun b hb => ?_, hanswer.2.symm⟩
      have hr := hanswer.1.trans hb
      cases hr <;> rfl

/-! ## What a call returns -/

theorem returns_query {read : Database → α} {a : α}
    (h : (query read : Service ℓ α).Returns (World.environment P faults) l w a l' w') :
    a = read w.db ∧ l = l' ∧ w = w' := by
  obtain ⟨henv, rfl⟩ := Procedure.returns_call.1 h
  obtain ⟨rfl, hread⟩ := environment_query henv
  exact ⟨hread a rfl, rfl, rfl⟩

/-- A query that fails changes nothing. -/
theorem throws_query {read : Database → α} {e : AppError}
    (h : (query read : Service ℓ α).Throws (World.environment P faults) l w e l' w') :
    l = l' ∧ w = w' := by
  obtain ⟨henv, rfl⟩ := Procedure.throws_call.1 h
  exact ⟨rfl, (environment_query henv).1.symm⟩

theorem returns_execute {statement : Statement} {a : statement.Result}
    (h : (execute statement : Service ℓ _).Returns (World.environment P faults) l w a l' w') :
    ∃ now id db, statement.tx P now id w.db = .ok (a, db) ∧ l = l' ∧ w' = { w with db } := by
  obtain ⟨henv, rfl⟩ := Procedure.returns_call.1 h
  rcases environment_execute henv with ⟨now, id, b, db, htx, hr, rfl⟩ | ⟨-, e, hr⟩
  · cases hr
    exact ⟨now, id, db, htx, rfl, rfl⟩
  · cases hr

theorem returns_request {routerId : String} {request : RouterRequest} {a : request.Result}
    (h : (Service.request routerId request : Service ℓ _).Returns (World.environment P faults) l w a
      l' w') :
    ∃ id r, request.perform id (w.routers routerId) = some (a, r) ∧ l = l' ∧
      w' = w.setRouter routerId r := by
  obtain ⟨henv, rfl⟩ := Procedure.returns_call.1 h
  rcases environment_request henv with ⟨id, b, r, hperform, hr, rfl⟩ | ⟨-, e, hr⟩
  · rw [hr a rfl]
    exact ⟨id, r, hperform, rfl, rfl⟩
  · cases hr

theorem returns_orThrow {value : Option α} {message : String} {a : α}
    {env : Environment Call (fun c => Except AppError c.Result) World}
    (h : (orThrow value message : Service ℓ α).Returns env l w a l' w') :
    value = some a ∧ l = l' ∧ w = w' := by
  cases value with
  | none => exact absurd h Procedure.not_returns_throw
  | some b =>
    obtain ⟨rfl, rfl, rfl⟩ := Procedure.returns_pure.1 h
    exact ⟨rfl, rfl, rfl⟩

theorem returns_ofExcept {r : Except AppError α} {a : α}
    {env : Environment Call (fun c => Except AppError c.Result) World}
    (h : (ofExcept r : Service ℓ α).Returns env l w a l' w') : r = .ok a ∧ l = l' ∧ w = w' := by
  cases r with
  | error e => exact absurd h Procedure.not_returns_throw
  | ok b =>
    obtain ⟨rfl, rfl, rfl⟩ := Procedure.returns_pure.1 h
    exact ⟨rfl, rfl, rfl⟩

theorem keeps_ofExcept {σ : Type*} {env : Environment Call (fun c => Except AppError c.Result) σ}
    {G : σ → σ → Prop} {K : σ → Prop} {r : Except AppError α} :
    Procedure.Keeps env G K (ofExcept r : Service ℓ α) := by
  cases r with
  | error e => exact Procedure.keeps_throw
  | ok a => exact Procedure.keeps_pure

end Service

end WireguardPanel
