import WireguardPanel.BandwidthService

/-!
# The peer service

The services that change a peer. Each reads the row, makes sure that the peer
on the router is as it was last seen, changes the router, and stores what it
has done; what has to be undone when a call fails half-way is told by the local
variables.

* `createPeer`, `updatePeer`, `deletePeer`, `regeneratePeerKeys`.
* `setPeerEnabled`, `enforceExpirations`, `resetPeerQuotaUsage`,
  `temporarilyReenablePeer`.
-/

namespace WireguardPanel

open Foundation

section Services

variable {ℓ : Type}

/-- `mutablePeer`. -/
def mutablePeer (peerId : String) : Service ℓ PeerRow := do
  let row ← Service.query fun db => db.peer peerId
  Service.orThrow row "Peer not found."

/-- A statement whose failure is ignored. -/
def executeAnyway (statement : Statement) : Service ℓ Unit := do
  let _ ← Procedure.attempt (Service.execute statement)

/-- A request whose failure is ignored. -/
def requestAnyway (routerId : String) (request : RouterRequest) : Service ℓ Unit := do
  let _ ← Procedure.attempt (Service.request routerId request)

section Platform

variable (P : Platform)

/-- `assertCurrentRemote`: the peer of a row on its router, if it is as it was
    last seen. -/
def assertCurrentRemote (routerId : String) (row : PeerRow) : Service ℓ RemoteWireGuardPeer := do
  let remotePeers ← Service.request routerId .getPeers
  match remotePeers.find? fun remote => row.Matches remote with
  | none => throw (.reconciliationConflict
      "This peer was deleted outside the application. Synchronize before making changes.")
  | some remote =>
    if ∃ fingerprint ∈ filled row.remoteFingerprint,
        fingerprint ≠ remotePeerFingerprint P remote then
      throw (.reconciliationConflict ("This peer changed on the MikroTik after the last " ++
        "synchronization. Review the conflict before overwriting it."))
    else return remote

/-! ## Creation -/

/-- The local variables of `createPeer`: what the router has answered, and
    whether the row is staged. -/
structure CreationLocals where
  remoteId : Option String := none
  staged : Bool := false

/-- The part of `createPeer` whose failure is caught: the address of the peer. -/
def createStagedPeer (input : CreatePeerInput) (peerId operationId : String) (router : RouterRow)
    (interface : InterfaceRow) (keys : WireGuardKeys) (now : ℤ) :
    Service CreationLocals String := do
  let listing ← Procedure.attempt (Service.request router.id .getPeers)
  let stagedPeer ← Service.execute
    (.stagePeer input peerId operationId router interface keys listing now)
  modify fun l => { l with staged := true }
  Service.execute (.operationStep operationId)
  let latestRemotePeers ← Service.request router.id .getPeers
  let _ ← Service.execute (.confirmAddress input.poolId input.routerId input.interfaceId
    latestRemotePeers stagedPeer.clientIp peerId)
  let remoteId ← Service.request router.id (.createPeer {
    interfaceName := interface.name, publicKey := stagedPeer.keys.publicKey
    allowedAddress := stagedPeer.allowedAddress, comment := (filled input.description).getD ""
    persistentKeepalive := stagedPeer.keepalive, presharedKey := stagedPeer.keys.presharedKey
    disabled := none })
  modify fun l => { l with remoteId := some remoteId }
  let remotePeers ← Service.request router.id .getPeers
  match remotePeers.find? fun peer =>
      peer.id = remoteId ∨ peer.publicKey = stagedPeer.keys.publicKey with
  | none => throw (.error
      "RouterOS created the peer but did not return it during verification.")
  | some remote => do
    Service.execute (.updatePeer peerId (.created remote))
    Service.execute (.operationStep operationId)
    let policy ← getEffectivePeerBandwidth peerId
    let bandwidth ← applyPeerBandwidthRemote P router.id
      { id := peerId, name := input.name, clientIp := stagedPeer.clientIp } policy false
    persistBandwidthResult P router.id peerId policy bandwidth
    Service.execute (.operationStep operationId)
    Service.execute (.updatePeer peerId .activated)
    Service.execute (.finishOperation operationId .completed (some (.obj
      [("remoteId", .str remote.id), ("clientIp", .str stagedPeer.clientIp)])))
    return stagedPeer.clientIp

/-- The part of the undoing of a creation that deals with the router: whether
    it has all succeeded. -/
def removeCreatedPeer (routerId peerId remoteId : String) : Service ℓ Bool := do
  let queue ← Procedure.attempt (deleteOwnedPeerQueueRemote routerId peerId)
  let peer ← Procedure.attempt (Service.request routerId (.deletePeer remoteId))
  let remotePeers ← Procedure.attempt (Service.request routerId .getPeers)
  return queue.toBool && peer.toBool && remotePeers.toOption.any fun remotePeers =>
    decide (∀ remote ∈ remotePeers, remote.id ≠ remoteId)

/-- What `createPeer` does when it fails. -/
def abandonCreation (routerId peerId operationId : String) (e : AppError) :
    Service CreationLocals String := do
  let l ← get
  let cleaned ← match filled l.remoteId with
    | some remoteId => removeCreatedPeer routerId peerId remoteId
    | none => pure true
  if l.staged = true then
    if cleaned = true then Service.execute (.releaseStagedPeer peerId)
    else
      executeAnyway
        (.updatePeer peerId (.lifecycle .pendingCleanup (some .error) (some .pendingCleanup)))
  executeAnyway (.failOperation operationId (if cleaned then .failed else .pendingCleanup)
    (some (.obj [("peerId", .str peerId), ("remoteId", l.remoteId.elim .null .str)])))
  throw e

/-- `createPeer` at the time `now`, with the identifier and the keys of the new
    peer. -/
def createPeer (input : CreatePeerInput) (peerId : String) (keys : WireGuardKeys) (now : ℤ) :
    Service ℓ String := do
  let operationId ← Service.execute (.startOperation "peer_create" (some input.routerId) none
    (.obj [("peerId", .str peerId), ("name", .str input.name)]))
  let router ← getRouter input.routerId
  let interface ← Service.query fun db => (db.interface input.interfaceId).filter fun i =>
    i.routerId = input.routerId
  let interface ← Service.orThrow interface
    "WireGuard interface not found on the selected router."
  clientForRouter P router
  Procedure.withLocals {}
    (tryCatch (createStagedPeer P input peerId operationId router interface keys now)
      (abandonCreation router.id peerId operationId))

/-! ## Client configurations -/

/-- The rows that `getPeerConfig` joins. -/
structure ConfigRow where
  peer : PeerRow
  interface : InterfaceRow
  router : RouterRow

/-- The `SELECT` of `getPeerConfig`. -/
def Database.configRow (db : Database) (peerId : String) : Option ConfigRow := do
  let peer ← db.peer peerId
  let interface ← db.interface peer.interfaceId
  let router ← db.router peer.routerId
  return { peer, interface, router }

/-- `decryptSecret` of a column, if it is there. -/
def Platform.decryptFilled (column : Option String) : Except AppError (Option String) :=
  match filled column with
  | some payload => some <$> P.decryptSecret payload
  | none => .ok none

/-- The configuration that `getPeerConfig` generates, with the private key and
    the address of the peer. -/
def ConfigRow.config (row : ConfigRow) (privateKey clientIp : String) : Except AppError String := do
  let privateKey ← P.decryptSecret privateKey
  let presharedKey ← P.decryptFilled row.peer.presharedKeyEncrypted
  return generateClientConfig {
    privateKey, clientIp, dns := row.peer.dnsServer
    serverPublicKey := row.interface.publicKey
    presharedKey
    allowedIps := row.peer.clientAllowedIps
    endpointHost := ((filled row.peer.endpointOverride).or <|
      (filled row.router.endpointHostname).or (filled row.router.endpointIp)).getD
        row.router.managementIp
    endpointPort := (nonZero row.peer.endpointPortOverride).getD row.interface.listenPort
    persistentKeepalive := row.peer.persistentKeepalive
    mtu := some row.peer.mtu }

/-- `getPeerConfig`. -/
def getPeerConfig (peerId : String) : Service ℓ String := do
  let row ← Service.query fun db => db.configRow peerId
  let row ← Service.orThrow row "Peer not found."
  match filled row.peer.privateKeyEncrypted, filled row.peer.clientIp with
  | some privateKey, some clientIp => Service.ofExcept (row.config P privateKey clientIp)
  | _, _ => throw (.error ("This imported peer has no private key stored by the application, so " ++
      "its client configuration cannot be regenerated."))

/-- `refreshPeerQr`. -/
def refreshPeerQr (peerId : String) : Service ℓ Unit := do
  let config ← getPeerConfig P peerId
  Service.execute (.updatePeer peerId (.qr (qrConfigHash P config)))

/-! ## Enabling and disabling -/

/-- `setPeerEnabled`. -/
def setPeerEnabled (peerId : String) (enabled : Bool) (reason : DisabledReason) :
    Service ℓ Unit := do
  let row ← mutablePeer peerId
  if enabled = true ∧ row.disabledReason = some .quota then
    throw (.error ("This peer is disabled because its traffic limit was reached. Reset usage, " ++
      "increase/remove the limit, or use temporary re-enable."))
  let router ← routerClient P row.routerId
  let remote ← assertCurrentRemote P router.id row
  Service.request router.id (.updatePeer remote.id { disabled := some !enabled })
  let remotePeers ← Service.request router.id .getPeers
  let updated := remotePeers.find? fun peer => peer.id = remote.id
  Service.execute (.updatePeer peerId (.enabled enabled reason
    (updated.elim row.remoteFingerprint fun peer => some (remotePeerFingerprint P peer)) updated))

/-- What `enforceExpirations` returns. -/
structure ExpirationTotals where
  checked : ℕ := 0
  disabled : ℕ := 0
  failed : ℕ := 0

/-- The `SELECT` of `enforceExpirations`. -/
def Database.expiringPeers (db : Database) (now : ℤ) : List PeerRow :=
  db.peers.rows.filter fun p =>
    p.expiresAt.any (fun expiresAt => decide (expiresAt ≤ now)) && !p.expired

/-- The expiration of one peer, whose failure does not end the loop. -/
def expirePeer (peer : PeerRow) : Service ExpirationTotals Unit :=
  tryCatch (do
      Service.execute (.updatePeer peer.id .expired)
      setPeerEnabled P peer.id false .expired
      Service.execute (.systemAudit "peer_expired" peer.id)
      modify fun totals => { totals with disabled := totals.disabled + 1 })
    fun _ => do
      Service.execute (.systemAudit "peer_expiration_failed" peer.id)
      modify fun totals => { totals with failed := totals.failed + 1 }

/-- `enforceExpirations` at the time `now`. -/
def enforceExpirations (now : ℤ) : Service ℓ ExpirationTotals := do
  let peers ← Service.query fun db => db.expiringPeers now
  Procedure.withLocals { checked := peers.length } do
    peers.forM fun peer => expirePeer P peer
    get

/-- `temporarilyReenablePeer` at the time `now`. -/
def temporarilyReenablePeer (peerId : String) (minutes now : ℤ) : Service ℓ Unit := do
  let row ← mutablePeer peerId
  if (nonZero row.accounting.quotaLimitBytes).isNone ∨ row.accounting.quotaReachedAt.isNone then
    throw (.error "This peer has not reached a configured traffic limit.")
  if row.expired = true ∨ row.disabledReason = some .expired then
    throw (.error "Expired peers cannot be temporarily re-enabled.")
  if row.disabledReason = some .manual then
    throw (.error "This peer was manually disabled. Use the normal Enable action instead.")
  let router ← routerClient P row.routerId
  let remote ← assertCurrentRemote P router.id row
  Service.request router.id (.updatePeer remote.id { disabled := some false })
  Service.execute (.updatePeer peerId
    (.reenabled (now + minutes * 60000) { remote with disabled := false }))

/-- `resetPeerQuotaUsage` at the time `now`. -/
def resetPeerQuotaUsage (peerId : String) (now : ℤ) : Service ℓ Unit := do
  let row ← mutablePeer peerId
  match nonZero row.accounting.quotaLimitBytes, row.accounting.quotaPeriod with
  | some _, some period => do
    let router ← routerClient P row.routerId
    let remote ← assertCurrentRemote P router.id row
    let policy ← getQuotaPolicy
    let window ← Service.ofExcept (quotaPeriodWindow P now period policy)
    if row.QuotaDisabled then
      Service.request router.id (.updatePeer remote.id { disabled := some false })
      Service.execute (.resetQuota row window.stop { remote with disabled := false } now)
    else
      Service.execute (.resetQuota row window.stop remote now)
  | _, _ => throw (.error "This peer has no traffic limit to reset.")

/-! ## Changes -/

/-- The local variables of `updatePeer`. -/
structure UpdateLocals where
  createdTargetId : Option String := none
  sourceDeleted : Bool := false
  originalRemote : Option RemoteWireGuardPeer := none
  sameRouterMutated : Bool := false
  recoveryTarget : Option RemoteWireGuardPeer := none
  recoveryClientIp : Option String := none
  databaseCommitted : Bool := false

/-- The part of `updatePeer` that moves the peer `remote` to the router
    `targetId`, where it is disabled at first. -/
def moveRemotePeer (row : PeerRow) (input : UpdatePeerInput)
    (sourceId targetId operationId : String)
    (targetInterface : InterfaceRow) (remote : RemoteWireGuardPeer)
    (clientIp allowedAddress : String) : Service UpdateLocals RemoteWireGuardPeer := do
  if (filled row.privateKeyEncrypted).isNone then
    throw (.error ("Imported peers cannot be moved across routers because their client key " ++
      "material is not managed by this application."))
  let presharedKey ← Service.ofExcept (P.decryptFilled row.presharedKeyEncrypted)
  let createdTargetId ← Service.request targetId (.createPeer {
    interfaceName := targetInterface.name, publicKey := row.publicKey, allowedAddress
    comment := (filled input.description).getD "", persistentKeepalive := input.persistentKeepalive
    presharedKey, disabled := some true })
  modify fun l => { l with createdTargetId := some createdTargetId }
  let targetPeers ← Service.request targetId .getPeers
  match targetPeers.find? fun peer =>
      peer.id = createdTargetId ∨ peer.publicKey = row.publicKey with
  | none => throw (.error
      "The target router created the peer but did not return it during verification.")
  | some updated => do
    modify fun l => { l with
      recoveryTarget := some { updated with disabled := true }
      recoveryClientIp := some clientIp }
    Service.request sourceId (.deletePeer remote.id)
    modify fun l => { l with sourceDeleted := true }
    Service.execute (.operationStep operationId)
    return updated

/-- The part of `updatePeer` that changes the peer `remote` on its router. -/
def updateRemotePeer (input : UpdatePeerInput) (routerId : String) (targetInterface : InterfaceRow)
    (remote : RemoteWireGuardPeer) (allowedAddress : String) :
    Service UpdateLocals RemoteWireGuardPeer := do
  Service.request routerId (.updatePeer remote.id {
    interfaceName := some targetInterface.name, allowedAddress := some allowedAddress
    comment := some ((filled input.description).getD "")
    persistentKeepalive := some input.persistentKeepalive })
  modify fun l => { l with sameRouterMutated := true }
  let remotePeers ← Service.request routerId .getPeers
  match remotePeers.find? fun peer => peer.id = remote.id with
  | none => throw (.reconciliationConflict
      "The peer disappeared from the router while it was being updated.")
  | some updated => return updated

/-- The part of `updatePeer` that enables or disables the peer on its router, as
    the quota asks for: the peer, and what is to be stored. -/
def updateQuotaState (targetId : String) (row : PeerRow) (quota : QuotaConfiguration)
    (changingRouter : Bool) (updated : RemoteWireGuardPeer) :
    Service ℓ (RemoteWireGuardPeer × Bool × Option DisabledReason) := do
  if row.disabledReason = some .quota ∧ ∀ limit ∈ quota.limit, quota.used < limit then
    Service.request targetId (.updatePeer updated.id { disabled := some false })
    return ({ updated with disabled := false }, false, none)
  else if (∃ limit ∈ quota.limit, limit ≤ quota.used) ∧ row.expired = false ∧
      row.disabled = false then
    Service.request targetId (.updatePeer updated.id { disabled := some true })
    return ({ updated with disabled := true }, true, some .quota)
  else if changingRouter = true ∧ row.disabled = false then
    Service.request targetId (.updatePeer updated.id { disabled := some false })
    return ({ updated with disabled := false }, row.disabled, row.disabledReason)
  else
    return (updated, row.disabled, row.disabledReason)

/-- The part of `updatePeer` after the transaction in which it commits. -/
def finishUpdate (row : PeerRow) (input : UpdatePeerInput) (sourceId targetId operationId : String)
    (changingRouter : Bool) (clientIp : String) : Service UpdateLocals Unit := do
  Service.execute (.operationStep operationId)
  if changingRouter = true then
    let _ ← deleteOwnedPeerQueueRemote sourceId row.id
  let policy ← getEffectivePeerBandwidth row.id
  let bandwidth ← applyPeerBandwidthRemote P targetId { id := row.id, name := input.name, clientIp }
    policy true
  persistBandwidthResult P input.routerId row.id policy bandwidth
  Service.execute (.operationStep operationId)
  if (filled row.privateKeyEncrypted).isSome then refreshPeerQr P row.id
  Service.execute (.finishOperation operationId .completed (some (.obj
    [("routerId", .str input.routerId), ("clientIp", .str clientIp)])))

/-- The part of `updatePeer` whose failure is caught. -/
def updateCurrentPeer (row : PeerRow) (input : UpdatePeerInput)
    (sourceId targetId operationId : String) (targetInterface : InterfaceRow) (now : ℤ) :
    Service UpdateLocals Unit := do
  let changingRouter := decide (row.routerId ≠ input.routerId)
  let remote ← assertCurrentRemote P sourceId row
  modify fun l => { l with originalRemote := some remote }
  let targetPeers ← Service.request targetId .getPeers
  let clientIp ← Service.execute (.confirmAddress input.poolId input.routerId input.interfaceId
    (targetPeers.filter fun peer => peer.publicKey ≠ row.publicKey) input.clientIp row.id)
  let allowedAddress := replaceClientAddress input.allowedAddress clientIp
  let updated ←
    if changingRouter then
      moveRemotePeer P row input sourceId targetId operationId targetInterface remote clientIp
        allowedAddress
    else updateRemotePeer input sourceId targetInterface remote allowedAddress
  let policy ← getQuotaPolicy
  let quota ← Service.ofExcept (quotaConfiguration P row input policy now)
  let (updated, disabled, disabledReason) ←
    updateQuotaState targetId row quota changingRouter updated
  let finalRemotePeers ← Service.request targetId .getPeers
  Service.execute (.commitUpdate {
    row, input, clientIp, allowedAddress, quota, updated, disabled, disabledReason
    usageWhenDisabled := if disabledReason = some .quota then some quota.used
      else quota.usageWhenDisabled
    changingRouter
    finalRemotePeers := finalRemotePeers.filter fun peer => peer.publicKey ≠ row.publicKey } now)
  modify fun l => { l with databaseCommitted := true }
  finishUpdate P row input sourceId targetId operationId changingRouter clientIp

/-- What `updatePeer` undoes on the routers, and stores of it, when it fails
    before it has committed. -/
def undoUpdate (row : PeerRow) (input : UpdatePeerInput) (sourceId targetId : String)
    (l : UpdateLocals) : Service UpdateLocals Unit := do
  match l.originalRemote with
  | some remote =>
    if l.sameRouterMutated = true then
      requestAnyway sourceId (.updatePeer remote.id {
        interfaceName := some remote.interfaceName, allowedAddress := some remote.allowedAddress
        comment := some remote.comment, persistentKeepalive := some remote.persistentKeepalive
        disabled := some remote.disabled })
  | none => pure ()
  match filled l.createdTargetId with
  | some createdTargetId =>
    if l.sourceDeleted = false then requestAnyway targetId (.deletePeer createdTargetId)
  | none => pure ()
  match l.recoveryTarget, filled l.recoveryClientIp with
  | some recovery, some recoveryIp =>
    if l.sourceDeleted = true then
      requestAnyway targetId (.updatePeer recovery.id { disabled := some true })
      executeAnyway (.recoverUpdate row input { recovery with disabled := true } recoveryIp)
  | _, _ => pure ()

/-- What `updatePeer` does when it fails. -/
def abandonUpdate (row : PeerRow) (input : UpdatePeerInput) (sourceId targetId operationId : String)
    (e : AppError) : Service UpdateLocals Unit := do
  let l ← get
  if l.databaseCommitted = true then
    executeAnyway (.updatePeer row.id (.lifecycle .needsReconciliation (some .error) none))
  else undoUpdate row input sourceId targetId l
  executeAnyway (.failOperation operationId
    (if l.databaseCommitted ∨ l.sourceDeleted ∨ l.sameRouterMutated then .needsReconciliation
      else .failed)
    (some (.obj [("databaseCommitted", .bool l.databaseCommitted),
      ("sourceDeleted", .bool l.sourceDeleted),
      ("createdTargetId", l.createdTargetId.elim .null .str),
      ("targetRouterId", .str input.routerId)])))
  throw e

/-- `updatePeer` at the time `now`. -/
def updatePeer (peerId : String) (input : UpdatePeerInput) (now : ℤ) : Service ℓ Unit := do
  let row ← mutablePeer peerId
  let operationId ← Service.execute (.startOperation "peer_update" (some row.routerId) (some peerId)
    (.obj [("targetRouterId", .str input.routerId), ("targetInterfaceId", .str input.interfaceId)]))
  let targetInterface ← Service.query fun db => (db.interface input.interfaceId).filter fun i =>
    i.routerId = input.routerId
  let targetInterface ← Service.orThrow targetInterface
    "The selected WireGuard interface does not belong to the selected router."
  let sourceRouter ← routerClient P row.routerId
  let targetRouter ←
    if row.routerId ≠ input.routerId then routerClient P input.routerId else pure sourceRouter
  Procedure.withLocals {}
    (tryCatch (updateCurrentPeer P row input sourceRouter.id targetRouter.id operationId
        targetInterface now)
      (abandonUpdate row input sourceRouter.id targetRouter.id operationId))

/-! ## Keys -/

/-- The local variables of `regeneratePeerKeys`. -/
structure RotationLocals where
  remoteMutated : Bool := false
  databaseCommitted : Bool := false

/-- The part of `regeneratePeerKeys` whose failure is caught. -/
def rotateKeys (row : PeerRow) (routerId operationId : String) (keys : WireGuardKeys) :
    Service RotationLocals Unit := do
  let remote ← assertCurrentRemote P routerId row
  Service.request routerId (.updatePeer remote.id
    { publicKey := some keys.publicKey, presharedKey := some (keys.presharedKey.getD "") })
  modify fun l => { l with remoteMutated := true }
  let remotePeers ← Service.request routerId .getPeers
  match remotePeers.find? fun peer => peer.id = remote.id ∨ peer.publicKey = keys.publicKey with
  | none => throw (.error "RouterOS did not return the regenerated peer during verification.")
  | some updated => do
    Service.execute (.updatePeer row.id (.keys keys.publicKey (P.encryptSecret keys.privateKey)
      ((filled keys.presharedKey).map P.encryptSecret) updated))
    modify fun l => { l with databaseCommitted := true }
    Service.execute (.operationStep operationId)
    refreshPeerQr P row.id
    Service.execute (.operationStep operationId)
    Service.execute (.finishOperation operationId .completed none)

/-- The part of `regeneratePeerKeys` that gives the peer its old keys back. -/
def restoreKeys (row : PeerRow) (routerId : String) : Service ℓ Unit := do
  let remotePeers ← Service.request routerId .getPeers
  match remotePeers.find? fun peer => some peer.id = row.remoteId with
  | none => pure ()
  | some current => do
    let presharedKey ← Service.ofExcept (P.decryptFilled row.presharedKeyEncrypted)
    Service.request routerId (.updatePeer current.id {
      publicKey := some row.publicKey, presharedKey := some (presharedKey.getD "") })

/-- What `regeneratePeerKeys` does when it fails. -/
def abandonRotation (row : PeerRow) (routerId operationId : String) (e : AppError) :
    Service RotationLocals Unit := do
  let l ← get
  let rollbackFailed ←
    if l.remoteMutated = true ∧ l.databaseCommitted = false then do
      let restored ← Procedure.attempt (restoreKeys P row routerId)
      pure !restored.toBool
    else pure false
  if rollbackFailed = true then
    executeAnyway (.updatePeer row.id (.lifecycle .needsReconciliation (some .error) none))
  executeAnyway (.failOperation operationId
    (if rollbackFailed ∨ l.databaseCommitted then .needsReconciliation else .failed)
    (some (.obj [("remoteMutated", .bool l.remoteMutated),
      ("databaseCommitted", .bool l.databaseCommitted), ("rollbackFailed", .bool rollbackFailed)])))
  throw e

/-- `regeneratePeerKeys`, with the new keys. -/
def regeneratePeerKeys (peerId : String) (keys : WireGuardKeys) : Service ℓ Unit := do
  let row ← mutablePeer peerId
  let operationId ← Service.execute
    (.startOperation "peer_key_rotation" (some row.routerId) (some peerId) (.obj []))
  let router ← routerClient P row.routerId
  Procedure.withLocals {}
    (tryCatch (rotateKeys P row router.id operationId keys)
      (abandonRotation P row router.id operationId))

/-! ## Deletion -/

/-- The part of `deletePeer` whose failure is caught. The local variable tells
    whether the router has acknowledged the deletion. -/
def deleteCurrentPeer (row : PeerRow) (routerId operationId : String) : Service Bool Unit := do
  let remote ← assertCurrentRemote P routerId row
  Service.execute (.updatePeer row.id (.lifecycle .pendingCleanup none none))
  Service.request routerId (.deletePeer remote.id)
  modify fun _ => true
  let remotePeers ← Service.request routerId .getPeers
  if ∃ peer ∈ remotePeers, peer.id = remote.id ∨ peer.publicKey = row.publicKey then
    throw (.error "RouterOS reported success but the peer still exists.")
  Service.execute (.operationStep operationId)
  let queuesRemoved ← deleteOwnedPeerQueueRemote routerId row.id
  Service.execute (.operationStep operationId)
  Service.execute (.archiveAndDelete row)
  Service.execute (.finishOperation operationId .completed (some (.obj
    [("remoteId", .str remote.id), ("queuesRemoved", .num queuesRemoved)])))

/-- What `deletePeer` does when it fails. -/
def abandonDeletion (peerId operationId : String) (e : AppError) : Service Bool Unit := do
  if ← get then
    executeAnyway
      (.updatePeer peerId (.lifecycle .pendingCleanup (some .error) (some .pendingCleanup)))
    executeAnyway (.failOperation operationId .pendingCleanup
      (some (.obj [("remotePeerDeleted", .bool true)])))
  else
    executeAnyway (.updatePeer peerId (.lifecycle .active none none))
    executeAnyway (.failOperation operationId .failed none)
  throw e

/-- `deletePeer`. -/
def deletePeer (peerId : String) : Service ℓ Unit := do
  let row ← mutablePeer peerId
  let operationId ← Service.execute (.startOperation "peer_delete" (some row.routerId) (some peerId)
    (.obj [("name", .str row.name), ("clientIp", row.clientIp.elim .null .str)]))
  let router ← routerClient P row.routerId
  Procedure.withLocals false
    (tryCatch (deleteCurrentPeer P row router.id operationId) (abandonDeletion peerId operationId))

end Platform

end Services

/-! ## Calls that return -/

section Returns

variable {P : Platform} {faults : Call → Fault → Prop} {ℓ : Type} {l l' : ℓ} {w w' : World}
  {routerId : String} {row : PeerRow} {u : Unit}

theorem returns_mutablePeer {id : String}
    (h : (mutablePeer id : Service ℓ PeerRow).Returns (World.environment P faults) l w row l' w') :
    w.db.peer id = some row ∧ l = l' ∧ w = w' := by
  obtain ⟨found, l₁, w₁, hfind, hthrow⟩ := Procedure.returns_bind.1 h
  obtain ⟨rfl, rfl, rfl⟩ := Service.returns_query hfind
  exact Service.returns_orThrow hthrow

theorem returns_getPeers {remotePeers : List RemoteWireGuardPeer}
    (h : (Service.request routerId .getPeers : Service ℓ _).Returns (World.environment P faults) l w
      remotePeers l' w') : remotePeers = (w.routers routerId).remotePeers ∧ l = l' ∧ w = w' := by
  obtain ⟨_, r, hperform, rfl, rfl⟩ := Service.returns_request h
  cases hperform
  exact ⟨rfl, rfl, (World.setRouter_self w routerId).symm⟩

/-- The check that a change begins with finds the peer of the row. -/
theorem returns_assertCurrentRemote {remote : RemoteWireGuardPeer}
    (h : (assertCurrentRemote P row.routerId row : Service ℓ _).Returns (World.environment P faults)
      l w remote l' w') :
    ∃ p, (w.routers row.routerId).peerOf row = some p ∧ remote = p.toRemoteWireGuardPeer ∧ l = l' ∧
      w = w' := by
  obtain ⟨remotePeers, _, _, hlist, hrest⟩ := Procedure.returns_bind.1 h
  obtain ⟨rfl, rfl, rfl⟩ := returns_getPeers hlist
  simp only [RouterContent.find_remotePeers] at hrest
  cases hpeer : (w.routers row.routerId).peerOf row with
  | none =>
    rw [hpeer] at hrest
    exact absurd hrest Procedure.not_returns_throw
  | some p =>
    simp only [hpeer, Option.map_some] at hrest
    split_ifs at hrest
    · exact absurd hrest Procedure.not_returns_throw
    · obtain ⟨rfl, rfl, rfl⟩ := Procedure.returns_pure.1 hrest
      exact ⟨p, rfl, rfl, rfl, rfl⟩

/-- A change of a peer on its router. -/
theorem returns_updateRemote {remoteId : String} {input : UpdateRemotePeer}
    (h : (Service.request routerId (.updatePeer remoteId input) : Service ℓ Unit).Returns
      (World.environment P faults) l w u l' w') :
    ∃ r, (w.routers routerId).updatePeer remoteId input = some ((), r) ∧ l = l' ∧
      w' = w.setRouter routerId r := by
  obtain ⟨_, r, hperform, rfl, rfl⟩ := Service.returns_request h
  exact ⟨r, hperform, rfl, rfl⟩

end Returns

end WireguardPanel
