import WireguardPanel.Peer
import WireguardPanel.SyncRouter

/-!
# Bandwidth policies and resolved drifts

The transactions in which the policy of a peer and the global default are
changed, and those in which the state of a router is adopted to resolve a drift.

* `setPolicyColumns`: the columns that `setPeerBandwidthPolicy` writes.
* `prepareGlobalBandwidth`: the transaction of `updateGlobalBandwidth`.
* `adoptQueue`, `adoptInterface`: what is stored of a queue or an interface whose
  state is adopted, next to `adoptRouterState`.
-/

namespace WireguardPanel

open Foundation

/-! ## Policies -/

/-- `BandwidthPolicyMutation`. -/
structure BandwidthPolicyMutation where
  mode : BandwidthMode
  profileId : Option String := none
  downloadBps : Option ℕ := none
  uploadBps : Option ℕ := none
  burstDownloadBps : Option ℕ := none
  burstUploadBps : Option ℕ := none
  burstTimeSeconds : Option ℕ := none
  deriving DecidableEq

/-- The columns that `setPeerBandwidthPolicy` sets. -/
def setPolicyColumns (input : BandwidthPolicyMutation) (p : PeerRow) : PeerRow :=
  let custom := fun value : Option ℕ => if input.mode = .custom then value else none
  { p with
    bandwidth := { p.bandwidth with
      bandwidthMode := input.mode
      bandwidthProfileId := if input.mode = .profile then input.profileId else none
      downloadLimitBps := custom input.downloadBps
      uploadLimitBps := custom input.uploadBps
      burstDownloadBps := custom input.burstDownloadBps
      burstUploadBps := custom input.burstUploadBps
      burstTimeSeconds := custom input.burstTimeSeconds
      bandwidthSyncState := .pending } }

/-- The mode of the global default. -/
inductive GlobalBandwidthMode
  | unlimited
  | custom
  deriving DecidableEq

/-- The input of `updateGlobalBandwidth`. -/
structure GlobalBandwidthInput where
  mode : GlobalBandwidthMode
  downloadBps : Option ℕ := none
  uploadBps : Option ℕ := none
  applyExisting : Bool := false
  expectedPeerCount : Option ℕ := none
  deriving DecidableEq

/-- The global default that is asked for. -/
def GlobalBandwidthInput.next (input : GlobalBandwidthInput) : Option (ℕ × ℕ) :=
  match input.mode with
  | .unlimited => none
  | .custom => input.downloadBps.bind fun downloadBps => input.uploadBps.map (downloadBps, ·)

/-- What the transaction of `updateGlobalBandwidth` returns. -/
structure GlobalBandwidthPlan where
  affected : List String
  retained : ℕ
  unchanged : Bool

/-- The `SELECT` of the peers that inherit the global default. -/
def Database.inheritsGlobal (db : Database) (p : PeerRow) : Prop :=
  p.bandwidth.bandwidthMode = .default ∧ p.bandwidth.bandwidthProfileId = none ∧
    (p.bandwidth.profileId.bind fun id => db.peerProfiles.find? fun profile => profile.id = id).bind
      PeerProfileRow.bandwidthProfileId = none ∧
    ∃ router ∈ db.router p.routerId, router.defaultBandwidthMode = .global

instance (db : Database) (p : PeerRow) : Decidable (db.inheritsGlobal p) :=
  inferInstanceAs (Decidable (_ ∧ _ ∧ _ ∧ ∃ router ∈ db.router p.routerId, _))

/-- A peer that keeps the policy of the present global default as its own. -/
def retainPolicy (current : Option (ℕ × ℕ)) (p : PeerRow) : PeerRow :=
  { p with
    bandwidth := { p.bandwidth with
      bandwidthMode := if current.isSome then .custom else .unlimited
      bandwidthSource := if current.isSome then .peer else .unlimited
      bandwidthProfileId := none
      downloadLimitBps := current.map Prod.fst
      uploadLimitBps := current.map Prod.snd
      burstDownloadBps := none
      burstUploadBps := none
      burstThresholdDownloadBps := none
      burstThresholdUploadBps := none
      burstTimeSeconds := none } }

/-- The `UPDATE` of the peers that keep the present global default. -/
def retainPeers (ids : List String) (current : Option (ℕ × ℕ)) : Tx Unit := fun db => do
  let peers ← statement (db.peers.update fun p =>
    if p.id ∈ ids then retainPolicy current p else p)
  return ((), { db with peers })

/-- The transaction of `updateGlobalBandwidth`. -/
def prepareGlobalBandwidth (input : GlobalBandwidthInput) : Tx GlobalBandwidthPlan := do
  let db ← get
  let current := db.settings.bandwidthDefaults
  let affected := (db.peers.rows.filter fun p => db.inheritsGlobal p).insertionSort
    fun p q => p.name ≤ q.name
  let ids := affected.map PeerRow.id
  Tx.require (input.applyExisting = true → input.expectedPeerCount = some affected.length)
    (.error ("The affected peer count changed to " ++ toString affected.length ++
      ". Review the preview and confirm again."))
  if current = input.next then
    return { affected := ids, retained := 0, unchanged := true }
  else do
    retainPeers (if input.applyExisting = true then [] else ids) current
    modify fun db => { db with settings := { db.settings with bandwidthDefaults := input.next } }
    return {
      affected := ids, retained := if input.applyExisting = true then 0 else ids.length
      unchanged := false }

/-! ## Resolved drifts -/

/-- The columns that `storeResolvedPeer` sets. -/
def resolvedColumns (P : Platform) (remote : RemoteWireGuardPeer) (state : Json) (p : PeerRow) :
    PeerRow :=
  { p with
    remoteFingerprint := some (remotePeerFingerprint P remote)
    lastRemoteState := some remote
    desiredState := state.jsonb
    lastAppliedState := state.jsonb
    conflictType := none
    syncState := .synced
    presence := { p.presence with remoteDisabled := some remote.disabled } }

/-- The transaction in which the limits of a queue are adopted as the policy of
    its peer. -/
def adoptQueue (P : Platform) (peer : PeerRow) (queue : DesiredSimpleQueue) (download upload : ℕ) :
    Tx Unit := do
  Tx.updatePeer peer.id fun p => { p with
    bandwidth := { p.bandwidth with
      bandwidthMode := .custom
      bandwidthSource := .peer
      downloadLimitBps := some download
      uploadLimitBps := some upload
      bandwidthSyncState := .synced } }
  modify fun db => { db with
    managedObjects := db.managedObjects.relabel
      (fun o =>
        if o.routerId = peer.routerId ∧ o.ownershipComment = queueOwnershipComment peer.id then
          { o with
            expectedState := (simpleQueueState P queue).jsonb
            lastObservedState := (simpleQueueState P queue).jsonb
            fingerprint := simpleQueueFingerprint P queue }
        else o)
      (fun _ => rfl) (fun o q => by simp only [managedObjectSchema]; split_ifs <;> rfl) }

/-- The transaction in which the state of an interface is stored that has been
    applied or adopted. -/
def adoptInterface (P : Platform) (interface : InterfaceRow) (applied : RemoteWireGuardInterface) :
    Tx Unit := do
  Tx.updateInterface interface.id fun i => { i with
    name := applied.name
    listenPort := applied.listenPort
    mtu := applied.mtu
    publicKey := applied.publicKey
    disabled := applied.disabled
    remoteFingerprint := some (remoteInterfaceFingerprint P applied)
    lastAppliedState := (routerInterfaceState applied).jsonb
    syncState := .synced }
  if applied.publicKey ≠ interface.publicKey then
    modify fun db => { db with
      peers := db.peers.relabel
        (fun p => if p.interfaceId = interface.id then { p with qrConfigHash := none } else p)
        (fun p => by simp only [peerSchema]; split_ifs <;> rfl)
        (fun p q => by simp only [peerSchema]; split_ifs <;> rfl) }

end WireguardPanel
