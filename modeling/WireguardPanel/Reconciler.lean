import WireguardPanel.PeerService

/-!
# The reconciler

Operations that have stopped half-way are taken up again by a job, one pass
after the other.

* `syncRouter`: the synchronisation of a router.
* `reconcileCreateCleanup`, `reconcileDeleteCleanup`, `reconcileUpdate`: one for
  each type of operation.
* `reconcilePendingOperations`: a pass.
-/

namespace WireguardPanel

open Foundation

/-- The operation has stopped half-way. -/
def OperationStatus.Pending (status : OperationStatus) : Prop :=
  status = .partially ∨ status = .needsReconciliation ∨ status = .pendingCleanup

instance (status : OperationStatus) : Decidable status.Pending :=
  inferInstanceAs (Decidable (_ ∨ _ ∨ _))

/-- The `SELECT` of a pass. -/
def Database.pendingOperations (db : Database) (limit : ℕ) (now : ℤ) : List OperationRow :=
  ((db.operations.filter fun o => o.status.Pending ∧
    o.nextRetryAt.all fun retryAt => decide (retryAt ≤ now)).insertionSort
      fun o q => o.updatedAt ≤ q.updatedAt).take limit

/-- What a pass counts. -/
structure ReconcileTotals where
  attempted : ℕ := 0
  completed : ℕ := 0
  pending : ℕ := 0

/-- The router shows neither the identifier nor the key of a peer. -/
def PeerRow.Gone (p : PeerRow) (remotePeers : List RemoteWireGuardPeer) : Prop :=
  ∀ remote ∈ remotePeers, ¬p.Matches remote

instance (p : PeerRow) (remotePeers : List RemoteWireGuardPeer) : Decidable (p.Gone remotePeers) :=
  inferInstanceAs (Decidable (∀ remote ∈ remotePeers, _))

/-- A context that says that the cleanup is complete. -/
def cleanupComplete (fields : List (String × Json)) : Json :=
  .obj (("cleanupComplete", .bool true) :: fields)

section Services

variable {ℓ : Type} (P : Platform)

/-- `syncRouter` at the time `now`. -/
def syncRouter (routerId : String) (fresh : FreshIds) (now : ℤ) : Service ℓ SyncSummary := do
  Service.execute (.startSyncRun routerId)
  tryCatch (do
      let router ← routerClient P routerId
      Service.request router.id .testConnection
      let onlineSeconds ← getStatusThresholds
      let interfaces ← Service.request router.id .getInterfaces
      let peers ← Service.request router.id .getPeers
      let addresses ← Service.request router.id .getAddresses
      let _ ← Service.request router.id .getRoutes
      Service.request router.id .getNatRules
      Service.execute (.sync routerId fresh { interfaces, peers, addresses, onlineSeconds, now }))
    fun e => do
      Service.execute (.routerStatus routerId)
      executeAnyway (.unreachablePeers routerId)
      executeAnyway (.unreachableInterfaces routerId)
      Service.execute .finishSyncRun
      throw e

/-- The deletion of a peer from its router that both cleanups make. -/
def removeRemotePeer (routerId : String) (peer : PeerRow) (message : String) : Service ℓ Unit := do
  let remotePeers ← Service.request routerId .getPeers
  if let some remote := remotePeers.find? fun remote => peer.Matches remote then
    Service.request routerId (.deletePeer remote.id)
  let remotePeers ← Service.request routerId .getPeers
  if ¬peer.Gone remotePeers then
    throw (.error message)

/-- `reconcileCreateCleanup`. -/
def reconcileCreateCleanup (operation : OperationRow) : Service ℓ Unit :=
  match filled operation.peerId with
  | none => Service.execute (.finishReconciledFailure operation.id
      (cleanupComplete [("reason", .str "no staged peer")]))
  | some peerId => do
    match ← Service.query fun db => db.peer peerId with
    | none => Service.execute (.finishReconciledFailure operation.id
        (cleanupComplete [("reason", .str "staged peer already removed")]))
    | some peer => do
      let router ← routerClient P peer.routerId
      let _ ← deleteOwnedPeerQueueRemote router.id peer.id
      removeRemotePeer router.id peer "Peer cleanup could not be verified on RouterOS."
      Service.execute (.removeStagedPeer peer.id)
      Service.execute (.operationStep operation.id)
      Service.execute (.finishReconciledFailure operation.id (cleanupComplete []))

/-- `reconcileDeleteCleanup`. -/
def reconcileDeleteCleanup (operation : OperationRow) : Service ℓ Unit :=
  match filled operation.peerId with
  | none => Service.execute (.finishOperation operation.id .completed (some (cleanupComplete [])))
  | some peerId => do
    match ← Service.query fun db => db.peer peerId with
    | none =>
      Service.execute (.finishOperation operation.id .completed (some (cleanupComplete [])))
    | some peer => do
      let router ← routerClient P peer.routerId
      removeRemotePeer router.id peer "Peer deletion could not be verified on RouterOS."
      let queuesRemoved ← deleteOwnedPeerQueueRemote router.id peer.id
      Service.execute (.archiveAndDelete peer)
      Service.execute (.operationStep operation.id)
      Service.execute (.finishOperation operation.id .completed
        (some (cleanupComplete [("queuesRemoved", .num queuesRemoved)])))

/-- `reconcileUpdate`. -/
def reconcileUpdate (operation : OperationRow) (fresh : FreshIds) (now : ℤ) : Service ℓ Unit :=
  match filled operation.routerId, filled operation.peerId with
  | some routerId, some peerId => do
    let _ ← syncRouter P routerId fresh now
    let _ ← observePeerBandwidth P peerId
    let row ← Service.query fun db => db.peer peerId
    let peer ← Service.orThrow row "Peer no longer exists."
    if peer.syncState ≠ .synced ∨ peer.bandwidth.bandwidthSyncState ≠ .synced ∧
        peer.bandwidth.bandwidthSyncState ≠ .notConfigured then
      throw (.error "Peer still has unresolved RouterOS drift.")
    Service.execute (.updatePeer peerId (.lifecycle .active none none))
    Service.execute (.operationStep operation.id)
    Service.execute (.finishOperation operation.id .completed
      (some (.obj [("reconciled", .bool true)])))
  | _, _ => throw (.error "The update operation has incomplete reconciliation context.")

/-- The reconciler of an operation, by its type. -/
def reconcileOperation (operation : OperationRow) (fresh : FreshIds) (now : ℤ) : Service ℓ Unit :=
  if operation.operationType = "peer_create" then reconcileCreateCleanup P operation
  else if operation.operationType = "peer_delete" then reconcileDeleteCleanup P operation
  else if operation.operationType = "peer_update" then reconcileUpdate P operation fresh now
  else throw (.error ("No reconciler is registered for " ++ operation.operationType ++ "."))

/-- One operation of a pass. -/
def reconcileCounted (operation : OperationRow) (fresh : FreshIds) (now : ℤ) :
    Service ReconcileTotals Unit := do
  modify fun totals => { totals with attempted := totals.attempted + 1 }
  tryCatch (do
      reconcileOperation P operation fresh now
      modify fun totals => { totals with completed := totals.completed + 1 })
    fun _ => do
      executeAnyway (.failOperation operation.id
        (if operation.status = .pendingCleanup then .pendingCleanup else .needsReconciliation) none)
      modify fun totals => { totals with pending := totals.pending + 1 }

/-- `reconcilePendingOperations` at the time `now`, with the identifiers that the
    rows of new objects get while an operation is reconciled. -/
def reconcilePendingOperations (limit : ℕ) (fresh : OperationRow → FreshIds) (now : ℤ) :
    Service ℓ ReconcileTotals := do
  let operations ← Service.query fun db => db.pendingOperations limit now
  Procedure.withLocals {} do
    operations.forM fun operation => reconcileCounted P operation (fresh operation) now
    get

end Services

end WireguardPanel
