import WireguardPanel.Drift
import WireguardPanel.GlobalBandwidth

/-!
# The resolution of configuration drifts

A drift that a synchronisation has recorded is resolved in one of two ways: the
state of the application is applied to the router again, or the state of the
router is adopted. Either begins with a look at whether the object is still as
it was recorded.

* `resolvePeerDrift`, `resolveBandwidthDrift`, `resolveInterfaceDrift`: one for
  each type of object.
* `resolveConfigurationDrift`: the service, with the staleness test as an
  argument (`sameState`, `sameFields`).
-/

namespace WireguardPanel

open Foundation

/-! ## States -/

/-- The staleness test that compares field by field. -/
def sameFields (left right : Json) : Bool :=
  decide (∀ k ∈ left.keys ++ right.keys, fieldText left k = fieldText right k)

/-- The error of `textField` and `numberField`. -/
def invalidField (key : String) : AppError :=
  .error ("Invalid " ++ key ++ " in stored application state.")

/-- `textField`. -/
def textField (state : Json) (key : String) : Except AppError String :=
  match state.field key with
  | some (.str s) => .ok s
  | _ => .error (invalidField key)

/-- `numberField`, for the values that are finite numbers: the states that are
    stored have numbers in these fields. -/
def numberField (state : Json) (key : String) : Except AppError ℤ :=
  match state.field key with
  | some (.num n) => .ok n
  | some (.bool b) => .ok (if b then 1 else 0)
  | some .null => .ok 0
  | some (.str s) =>
    if Text.trim s = "" then .ok 0
    else match Text.parseDigits (Text.trim s) with
      | some n => .ok n
      | none => .error (invalidField key)
  | _ => .error (invalidField key)

/-- `Boolean` of a value that may be missing. -/
def booleanOf : Option Json → Bool
  | none | some .null => false
  | some (.bool b) => b
  | some (.num n) => decide (n ≠ 0)
  | some (.str s) => decide (s ≠ "")
  | some (.arr _) | some (.obj _) => true

/-- The change of a peer that applies a stored state. -/
def peerApplication (state : Json) : Except AppError UpdateRemotePeer := do
  let interfaceName ← textField state "interfaceName"
  let publicKey ← textField state "publicKey"
  let allowedAddress ← textField state "allowedAddress"
  let comment ← textField state "comment"
  let persistentKeepalive ← numberField state "persistentKeepalive"
  return {
    interfaceName := some interfaceName, publicKey := some publicKey
    allowedAddress := some allowedAddress, comment := some comment
    persistentKeepalive := some persistentKeepalive
    disabled := some (booleanOf (state.field "disabled")) }

/-- The change of an interface that applies a stored state. -/
def interfaceApplication (state : Json) : Except AppError UpdateRemoteInterface := do
  let name ← textField state "name"
  let listenPort ← numberField state "listenPort"
  let mtu ← numberField state "mtu"
  return {
    name := some name, listenPort := some listenPort, mtu := some mtu
    disabled := some (booleanOf (state.field "disabled")) }

section Services

variable {ℓ : Type} (P : Platform) (same : Json → Json → Bool)

/-- `parseRate`. -/
def parseRate (value : String) : Option ℕ :=
  (parseRateText (lowered value).toList).bind fun (number, factor) =>
    Text.parseDigits (P.scaledText number factor)

/-- `parseRatePair`. -/
def parseRatePair (value : String) : Option ℕ × Option ℕ :=
  match Text.split '/' value with
  | upload :: download :: _ => (parseRate P upload, parseRate P download)
  | [upload] => (parseRate P upload, none)
  | [] => (none, none)

/-! ## Peers -/

/-- The part of `resolvePeerDrift` that applies the state of the application. -/
def applyPeerState (routerId : String) (peer : PeerRow) (remote : RemoteWireGuardPeer)
    (state : Json) : Service ℓ Unit := do
  let input ← Service.ofExcept (peerApplication state)
  Service.request routerId (.updatePeer remote.id input)
  let remotePeers ← Service.request routerId .getPeers
  match remotePeers.find? fun item =>
      item.id = remote.id ∨
        fieldText state "publicKey" = some (Json.str item.publicKey).stringify with
  | none => throw (.error "RouterOS peer verification failed after applying application state.")
  | some verified =>
    if same (peerRouterState verified) state = true then
      Service.execute (.updatePeer peer.id (.resolved verified state))
    else throw (.error "RouterOS peer verification failed after applying application state.")

/-- The interface that a router peer is on, by its name. -/
def Database.interfaceNamed (db : Database) (routerId name : String) : Option InterfaceRow :=
  db.interfaces.rows.find? fun i => i.routerId = routerId ∧ i.name = name

/-- The key of a managed peer has been changed on the router. -/
def PeerRow.Rekeyed (peer : PeerRow) (remote : RemoteWireGuardPeer) : Prop :=
  peer.origin = .managed ∧ (filled peer.privateKeyEncrypted).isSome = true ∧
    remote.publicKey ≠ peer.publicKey

instance (peer : PeerRow) (remote : RemoteWireGuardPeer) : Decidable (peer.Rekeyed remote) :=
  inferInstanceAs (Decidable (_ ∧ _ ∧ _))

/-- The part of `resolvePeerDrift` that adopts the state of the router. -/
def adoptPeerState (peer : PeerRow) (remote : RemoteWireGuardPeer)
    (remotePeers : List RemoteWireGuardPeer) : Service ℓ Unit :=
  if peer.Rekeyed remote then
    throw
      (.error ("Cannot adopt an externally changed public key for a managed peer because the " ++
      "matching private key is unknown. Apply the application state or rotate keys from this " ++
      "application."))
  else do
    let interface ← Service.query fun db => db.interfaceNamed peer.routerId remote.interfaceName
    let interface ← Service.orThrow interface
      "Synchronize interfaces before adopting this RouterOS state."
    if interface.id ≠ peer.interfaceId then
      throw (.error ("Adopting an external interface move requires selecting a compatible " ++
        "WireGuard pool in the peer editor."))
    else
      match importedClientIp remote.allowedAddress, filled peer.poolId with
      | some clientIp, some poolId =>
        Service.execute (.adoptRouterState peer poolId remote remotePeers clientIp)
      | _, _ => throw (.error
          "A pool-managed client address is required to adopt RouterOS state safely.")

/-- `resolvePeerDrift`. -/
def resolvePeerDrift (drift : DriftRow) (peerId : String) (resolution : DriftResolution) :
    Service ℓ Unit := do
  let peer ← Service.query fun db => db.peer peerId
  let peer ← Service.orThrow peer "Peer not found."
  let router ← routerClient P peer.routerId
  let remotePeers ← Service.request router.id .getPeers
  match remotePeers.find? fun remote => peer.Matches remote with
  | none => throw (.driftChanged "The peer no longer exists on RouterOS.")
  | some remote =>
    if same (peerRouterState remote) drift.routerState = true then
      if resolution = .applyApplication then
        applyPeerState same router.id peer remote drift.applicationState
      else adoptPeerState peer remote remotePeers
    else throw (DriftObject.changed (.peer peer.remoteId peer.publicKey))

/-! ## Queues -/

/-- `resolveBandwidthDrift`. -/
def resolveBandwidthDrift (drift : DriftRow) (peerId : String) (resolution : DriftResolution) :
    Service ℓ Unit :=
  if resolution = .applyApplication then do
    let _ ← applyPeerBandwidth P peerId true
  else do
    let peer ← Service.query fun db => db.peer peerId
    let peer ← Service.orThrow peer "Peer not found."
    let router ← routerClient P peer.routerId
    let queues ← Service.request router.id .getSimpleQueues
    match ownedQueues peer.id queues with
    | [queue] =>
      if same (simpleQueueState P (attributes queue)) drift.routerState = true then
        if queue.disabled = true then
          throw
            (.error ("A disabled RouterOS queue cannot be represented as an active bandwidth " ++
            "policy. Delete it or apply the application state."))
        else
          match parseRatePair P queue.maxLimit with
          | (some upload, some download) =>
            if upload = 0 ∨ download = 0 then
              throw (.error "The RouterOS max-limit cannot be represented by the application.")
            else Service.execute (.adoptQueue peer (attributes queue) download upload)
          | _ => throw (.error "The RouterOS max-limit cannot be represented by the application.")
      else throw (DriftObject.changed (.bandwidth peer.id))
    | _ => throw (.driftChanged
        "The application-owned queue count changed. Synchronize and review the new state.")

/-! ## Interfaces -/

/-- The part of `resolveInterfaceDrift` that applies the state of the application:
    the interface as it is verified. -/
def applyInterfaceState (routerId remoteId : String) (state : Json) :
    Service ℓ RemoteWireGuardInterface := do
  let input ← Service.ofExcept (interfaceApplication state)
  Service.request routerId (.updateInterface remoteId input)
  let interfaces ← Service.request routerId .getInterfaces
  Service.orThrow (interfaces.find? fun item => item.id = remoteId)
    "RouterOS interface verification failed."

/-- `resolveInterfaceDrift`. -/
def resolveInterfaceDrift (drift : DriftRow) (resolution : DriftResolution) : Service ℓ Unit := do
  let interface ← Service.query fun db => db.interface drift.objectId
  let interface ← Service.orThrow interface "WireGuard interface not found."
  let router ← routerClient P interface.routerId
  let interfaces ← Service.request router.id .getInterfaces
  match interfaces.find? fun item => item.id = interface.remoteId with
  | none => throw (.driftChanged "The WireGuard interface no longer exists on RouterOS.")
  | some remote =>
    if same (routerInterfaceState remote) drift.routerState = true then
      if resolution = .applyApplication then do
        let applied ← applyInterfaceState router.id remote.id drift.applicationState
        Service.execute (.adoptInterface interface applied)
      else Service.execute (.adoptInterface interface remote)
    else throw (DriftObject.changed (.interface interface.remoteId))

/-! ## The service -/

/-- The part of `resolveConfigurationDrift` that depends on the type of the object. -/
def resolveDriftObject (drift : DriftRow) (resolution : DriftResolution) : Service ℓ Unit :=
  match drift.objectType, filled drift.peerId with
  | .peer, some peerId => resolvePeerDrift P same drift peerId resolution
  | .peer, none => throw (.error "Peer drift is missing its peer reference.")
  | .bandwidth, some peerId => resolveBandwidthDrift P same drift peerId resolution
  | .bandwidth, none => throw (.error "Bandwidth drift is missing its peer reference.")
  | .interface, _ => resolveInterfaceDrift P same drift resolution

/-- The open drift with an identifier. -/
def Database.openDrift (db : Database) (id : String) : Option DriftRow :=
  (db.drifts.rows.find? fun d => d.id = id).filter fun d => d.resolvedAt = none

/-- `resolveConfigurationDrift`, with the staleness test `same`. -/
def resolveConfigurationDrift (driftId : String) (resolution : DriftResolution) :
    Service ℓ Unit := do
  let drift ← Service.query fun db => db.openDrift driftId
  let drift ← Service.orThrow drift "Open configuration drift not found."
  resolveDriftObject P same drift resolution
  Service.execute (.resolveDrift drift.id resolution)

end Services

end WireguardPanel
