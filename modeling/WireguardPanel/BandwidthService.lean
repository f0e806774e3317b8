import WireguardPanel.Drift
import WireguardPanel.Enforcement

/-!
# The bandwidth service

The policy that applies to a peer, and the services that bring its Simple Queue
on the router up to it or compare the two.

* `getEffectivePeerBandwidth`: the policy, from the peer down to the settings.
* `applyPeerBandwidthRemote`, `deleteOwnedPeerQueueRemote`: the changes of a queue.
* `persistBandwidthResult`: what is stored of a change.
* `observePeerBandwidth`: the comparison.
-/

namespace WireguardPanel

open Foundation

/-! ## Policies -/

/-- The row that `getEffectivePeerBandwidth` reads of a peer. -/
structure PolicyPeerRow where
  peer : PeerRow
  router : RouterRow
  peerProfileBandwidthId : Option String

/-- The `SELECT` of `getEffectivePeerBandwidth`. -/
def Database.policyPeer (db : Database) (peerId : String) : Option PolicyPeerRow := do
  let peer ← db.peer peerId
  let router ← db.router peer.routerId
  let profile := peer.bandwidth.profileId.bind fun id => db.peerProfiles.find? fun p => p.id = id
  return { peer, router, peerProfileBandwidthId := profile.bind PeerProfileRow.bandwidthProfileId }

/-- An enabled bandwidth profile. -/
def Database.enabledProfile (db : Database) (id : String) : Option BandwidthProfileRow :=
  db.bandwidthProfiles.find? fun p => p.id = id ∧ p.enabled = true

/-- `policyFromValues` of a peer. -/
def peerPolicy (columns : BandwidthColumns) : EffectiveBandwidthPolicy where
  source := .peer
  sourceName := "Peer override"
  downloadBps := columns.downloadLimitBps
  uploadBps := columns.uploadLimitBps
  burstDownloadBps := columns.burstDownloadBps
  burstUploadBps := columns.burstUploadBps
  burstThresholdDownloadBps := columns.burstThresholdDownloadBps
  burstThresholdUploadBps := columns.burstThresholdUploadBps
  burstTimeSeconds := columns.burstTimeSeconds

/-- `policyFromValues` of a profile, without a limit unless it has both. -/
def profilePolicy (profile : BandwidthProfileRow) : EffectiveBandwidthPolicy :=
  if profile.downloadBps.isSome ∧ profile.uploadBps.isSome then {
    source := .profile
    sourceName := profile.name
    downloadBps := profile.downloadBps
    uploadBps := profile.uploadBps
    burstDownloadBps := profile.burstDownloadBps
    burstUploadBps := profile.burstUploadBps
    burstThresholdDownloadBps := profile.burstThresholdDownloadBps
    burstThresholdUploadBps := profile.burstThresholdUploadBps
    burstTimeSeconds := profile.burstTimeSeconds }
  else unlimitedPolicy profile.name

/-- The identifier of the profile that a peer takes its policy from. -/
def PolicyPeerRow.bandwidthProfile (row : PolicyPeerRow) : Option String :=
  if row.peer.bandwidth.bandwidthMode = .profile then filled row.peer.bandwidth.bandwidthProfileId
  else filled (row.peer.bandwidth.bandwidthProfileId.or row.peerProfileBandwidthId)

section Services

variable {ℓ : Type}

/-- The part of `getEffectivePeerBandwidth` for a peer without a policy. -/
def defaultPolicy (router : RouterRow) : Service ℓ EffectiveBandwidthPolicy :=
  match router.defaultBandwidthMode with
  | .unlimited => return unlimitedPolicy "Router default"
  | .custom => return {
      source := .router
      sourceName := "Router default"
      downloadBps := router.defaultDownloadBps
      uploadBps := router.defaultUploadBps }
  | .global => do
    match ← Service.query fun db => db.settings.bandwidthDefaults with
    | some (downloadBps, uploadBps) => return {
        source := .global
        sourceName := "Global default"
        downloadBps := some downloadBps
        uploadBps := some uploadBps }
    | none => return unlimitedPolicy "Global default"

/-- `getEffectivePeerBandwidth`. -/
def getEffectivePeerBandwidth (peerId : String) : Service ℓ EffectiveBandwidthPolicy := do
  let row ← Service.query fun db => db.policyPeer peerId
  let row ← Service.orThrow row "Peer not found."
  match row.peer.bandwidth.bandwidthMode with
  | .unlimited => return unlimitedPolicy "Peer override"
  | .custom => return peerPolicy row.peer.bandwidth
  | .default | .profile =>
    match row.bandwidthProfile with
    | none => defaultPolicy row.router
    | some profileId =>
      match ← Service.query fun db => db.enabledProfile profileId with
      | some profile => return profilePolicy profile
      | none => defaultPolicy row.router

/-! ## Queues -/

/-- What a call of `applyPeerBandwidthRemote` does to the router. -/
inductive BandwidthAction
  | none
  | created
  | updated
  | deleted
  deriving DecidableEq

/-- `BandwidthApplyResult`. -/
structure BandwidthApplyResult where
  state : BandwidthSyncState
  desired : Option DesiredSimpleQueue := none
  remote : Option RemoteSimpleQueue := none
  action : BandwidthAction := .none

/-- The listings that a change of a queue and its observation begin with. -/
structure QueueListing where
  queues : List RemoteSimpleQueue
  queueTrees : List RemoteRecord
  mangleRules : List RemoteRecord
  filterRules : List RemoteRecord

/-- The listings, one after the other. -/
def listQueues (routerId : String) : Service ℓ QueueListing := do
  let queues ← Service.request routerId .getSimpleQueues
  let queueTrees ← Service.request routerId .getQueueTrees
  let mangleRules ← Service.request routerId .getMangleRules
  let filterRules ← Service.request routerId .getFilterRules
  return { queues, queueTrees, mangleRules, filterRules }

/-- The queues of others that target the address of a peer. -/
def targetConflicts (listing : QueueListing) (peer : QueuePeer) : List RemoteSimpleQueue :=
  listing.queues.filter fun queue => Text.trim queue.comment ≠ queueOwnershipComment peer.id ∧
    queueTargetsIp queue peer.clientIp

/-- The rules that would shape the address as well, or bypass its queue. -/
def shapingConflicts (listing : QueueListing) (peer : QueuePeer) : List ConflictSummary :=
  advancedShapingConflicts peer.clientIp listing.queueTrees listing.mangleRules

/-- `throw new BandwidthConflictError` if there are conflicts. -/
def rejectConflicts (message : String) (conflicts : List ConflictSummary) : Service ℓ Unit :=
  if conflicts = [] then pure () else throw (.bandwidthConflict message conflicts)

section Platform

variable (P : Platform)

/-- The tests that `applyPeerBandwidthRemote` makes before it changes anything. -/
def checkConflicts (listing : QueueListing) (peer : QueuePeer)
    (desired : Option DesiredSimpleQueue) :
    Service ℓ Unit := do
  let owned := ownedQueues peer.id listing.queues
  if 1 < owned.length then
    throw (.bandwidthConflict ("Multiple application-owned queues exist for " ++ peer.name ++
      "; automatic changes are blocked.") (owned.map conflictSummary))
  rejectConflicts ("Bandwidth shaping conflicts with an existing RouterOS queue targeting " ++
    peer.clientIp ++ ".") ((targetConflicts listing peer).map conflictSummary)
  if desired.isSome then do
    rejectConflicts ("RouterOS queue-tree or mangle rules already shape " ++ peer.clientIp ++
      "; automatic Simple Queue enforcement is blocked.") (shapingConflicts listing peer)
    rejectConflicts ("Enabled RouterOS FastTrack rules may bypass Simple Queue enforcement. " ++
      "Exclude this WireGuard traffic from FastTrack or disable the rule before applying a limit.")
      (enabledFastTrackRules listing.filterRules)

/-- The part of `applyPeerBandwidthRemote` for a peer that is to have no queue. -/
def removeQueue (routerId : String) (peer : QueuePeer) (current : Option RemoteSimpleQueue) :
    Service ℓ BandwidthApplyResult :=
  match current with
  | none => return { state := .notConfigured }
  | some current => do
    Service.request routerId (.deleteSimpleQueue current.id)
    let queues ← Service.request routerId .getSimpleQueues
    if ownedQueues peer.id queues ≠ [] then
      throw (.error "RouterOS reported success but the application-owned queue still exists.")
    return { state := .notConfigured, action := .deleted }

/-- The part of `applyPeerBandwidthRemote` for a peer that is to have a queue. -/
def installQueue (routerId : String) (peer : QueuePeer) (current : Option RemoteSimpleQueue)
    (desired : DesiredSimpleQueue) (force : Bool) : Service ℓ BandwidthApplyResult := do
  if let some queue := current then
    if queueMatchesDesired P queue desired then
      return { state := .synced, desired := some desired, remote := some queue }
    if force = false then
      throw (.bandwidthConflict ("The application-owned queue changed on RouterOS. Review the " ++
        "field-level drift before overwriting it.") [conflictSummary queue])
  let remoteId ← match current with
    | some queue => do
      Service.request routerId (.updateSimpleQueue queue.id desired)
      pure queue.id
    | none => Service.request routerId (.createSimpleQueue desired)
  let queues ← Service.request routerId .getSimpleQueues
  match queues.find? fun queue => queue.id = remoteId ∨
      Text.trim queue.comment = queueOwnershipComment peer.id with
  | some verified =>
    if queueMatchesDesired P verified desired then
      return {
        state := .synced
        desired := some desired
        remote := some verified
        action := current.elim .created fun _ => .updated }
    else throw (.error "RouterOS queue verification failed after the bandwidth change.")
  | none => throw (.error "RouterOS queue verification failed after the bandwidth change.")

/-- `applyPeerBandwidthRemote`. -/
def applyPeerBandwidthRemote (routerId : String) (peer : QueuePeer)
    (policy : EffectiveBandwidthPolicy) (force : Bool) : Service ℓ BandwidthApplyResult := do
  let listing ← listQueues routerId
  let desired := desiredSimpleQueue peer policy
  checkConflicts listing peer desired
  let current := (ownedQueues peer.id listing.queues).head?
  match desired with
  | none => removeQueue routerId peer current
  | some desired => installQueue P routerId peer current desired force

/-- `deleteOwnedPeerQueueRemote`: the number of the queues deleted. -/
def deleteOwnedPeerQueueRemote (routerId peerId : String) : Service ℓ ℕ := do
  let queues ← Service.request routerId .getSimpleQueues
  let owned := ownedQueues peerId queues
  owned.forM fun queue => Service.request routerId (.deleteSimpleQueue queue.id)
  let remaining ← Service.request routerId .getSimpleQueues
  if ownedQueues peerId remaining ≠ [] then
    throw (.error "Application-owned RouterOS queue cleanup could not be verified.")
  return owned.length

/-! ## What is stored -/

/-- The row that is stored for the queue of a peer. -/
def managedQueueRow (routerId peerId : String) (desired : DesiredSimpleQueue)
    (remote : Option RemoteSimpleQueue) : ManagedObjectRow where
  routerId := routerId
  peerId := some peerId
  remoteId := remote.map RemoteSimpleQueue.id
  ownershipComment := desired.comment
  expectedState := (simpleQueueState P desired).jsonb
  lastObservedState := (remote.elim .null fun queue => simpleQueueState P (attributes queue)).jsonb
  fingerprint := remote.elim "" fun queue => simpleQueueFingerprint P (attributes queue)

/-- `persistBandwidthResult`. -/
def persistBandwidthResult (routerId peerId : String) (policy : EffectiveBandwidthPolicy)
    (result : BandwidthApplyResult) : Service ℓ Unit := do
  Service.execute (.updatePeer peerId (.bandwidth (some policy.source) result.state))
  match result.desired with
  | none => Service.execute (.deleteManagedQueue routerId (queueOwnershipComment peerId))
  | some desired =>
    Service.execute (.storeManagedQueue (managedQueueRow P routerId peerId desired result.remote))

/-! ## Observation -/

/-- `bandwidthDifferences`. -/
def bandwidthDifferences (application router : Json) : Json :=
  .arr <| (application.keys ++ router.keys).eraseDups.filterMap fun field =>
    if fieldText application field = fieldText router field then none
    else some (.obj [("field", .str field), ("application", (application.field field).getD .null),
      ("router", (router.field field).getD .null)])

/-- The state of the bandwidth of a peer, as the router shows it. -/
def bandwidthState (listing : QueueListing) (peer : QueuePeer)
    (desired : Option DesiredSimpleQueue) :
    BandwidthSyncState :=
  let owned := ownedQueues peer.id listing.queues
  if targetConflicts listing peer ≠ [] ∨ desired.isSome = true ∧
      (shapingConflicts listing peer ≠ [] ∨ enabledFastTrackRules listing.filterRules ≠ []) then
    .conflict
  else if 1 < owned.length then .duplicate
  else match desired, owned.head? with
    | some _, none => .missing
    | none, some _ => .changedExternally
    | some desired, some queue =>
      if queueMatchesDesired P queue desired then .synced else .changedExternally
    | none, none => .synced

/-- A conflict as a value. -/
def ConflictSummary.toJson (c : ConflictSummary) : Json :=
  .obj [("id", .str c.id), ("name", .str c.name), ("target", .str c.target),
    ("comment", .str c.comment)]

/-- What the router shows of the bandwidth of a peer, as it is recorded. -/
def observedBandwidth (listing : QueueListing) (peer : QueuePeer)
    (desired : Option DesiredSimpleQueue) : Json :=
  let conflicts := (targetConflicts listing peer).map conflictSummary ++
    if desired.isSome then
      shapingConflicts listing peer ++ enabledFastTrackRules listing.filterRules
    else []
  if conflicts ≠ [] then .obj [("conflicts", .arr (conflicts.map ConflictSummary.toJson))]
  else match (ownedQueues peer.id listing.queues).head? with
    | some queue => simpleQueueState P (attributes queue)
    | none => .obj []

/-- `observePeerWithQueues`. -/
def observePeerWithQueues (routerId : String) (peer : QueuePeer) (policy : EffectiveBandwidthPolicy)
    (listing : QueueListing) : Service ℓ BandwidthSyncState := do
  let desired := desiredSimpleQueue peer policy
  let state := bandwidthState P listing peer desired
  Service.execute (.updatePeer peer.id (.bandwidth (some policy.source) state))
  if state = .synced then
    Service.execute (.dismissDrift .bandwidth peer.id)
  else
    let application := desired.elim (.obj []) (simpleQueueState P)
    let current := observedBandwidth P listing peer desired
    Service.execute (.bandwidthDrift routerId peer.id
      (if state = .changedExternally then .changedExternally else .conflict) application current
      (bandwidthDifferences application current))
  return state

/-- `loadPeer`, whose statement reads `host(client_ip)`. -/
def loadPeer (peerId : String) : Service ℓ PeerRow := do
  let row ← Service.query fun db => db.peer peerId
  if ¬HostTakes clientIpType then throw (.database .undefinedFunction)
  Service.orThrow row "Peer not found."

/-- `observePeerBandwidth`. The promise of the comparison is returned, not
    awaited, so its failure is not one of the router. -/
def observePeerBandwidth (peerId : String) : Service ℓ BandwidthSyncState := do
  let row ← loadPeer peerId
  match filled row.clientIp with
  | none => return .notConfigured
  | some clientIp => do
    let (policy, listing) ← tryCatch (do
        let router ← routerClient P row.routerId
        let policy ← getEffectivePeerBandwidth peerId
        let listing ← listQueues router.id
        return (policy, listing))
      fun e => do
        let _ ← Procedure.attempt (Service.execute
          (.updatePeer row.id (.bandwidth none .routerUnreachable)))
        throw e
    observePeerWithQueues P row.routerId { id := row.id, name := row.name, clientIp } policy listing

end Platform

end Services

end WireguardPanel
