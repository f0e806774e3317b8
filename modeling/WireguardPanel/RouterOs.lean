import WireguardPanel.Foundation.Json

/-!
# RouterOS objects

What the application reads from a router and what it asks a router to change.

* `RemoteWireGuardInterface`, `RemoteWireGuardPeer`, `RemoteSimpleQueue`: the
  objects as the clients normalise them.
* `CreateRemotePeer`, `UpdateRemotePeer`, `CreateRemoteSimpleQueue`: the
  attributes of a command.
* `RouterContent`: what a router holds, and the effect of each command on it.
* `peerRouterState`, `routerInterfaceState`, `fingerprintState`: the objects of
  tracked fields that are serialised for comparisons and fingerprints.
-/

namespace WireguardPanel

open Foundation

/-! ## Objects -/

/-- A WireGuard interface as `normalizeInterface` reads it. -/
structure RemoteWireGuardInterface where
  id : String
  name : String
  listenPort : ℤ
  mtu : ℤ
  publicKey : String
  running : Bool
  disabled : Bool
  deriving DecidableEq

/-- A WireGuard peer as `normalizePeer` reads it. -/
structure RemoteWireGuardPeer where
  id : String
  interfaceName : String
  name : String
  comment : String
  publicKey : String
  allowedAddress : String
  endpointAddress : Option String
  endpointPort : Option ℤ
  persistentKeepalive : ℤ
  disabled : Bool
  lastHandshakeAt : Option ℤ
  lastHandshakeRaw : Option String
  lastHandshakeParseValid : Bool
  rxBytes : ℤ
  txBytes : ℤ
  deriving DecidableEq

/-- An address of a router. -/
structure RemoteAddress where
  id : String
  interfaceName : String
  address : String
  disabled : Bool
  deriving DecidableEq

/-- A record of attributes (routes, queue trees, mangle and filter rules). -/
abbrev RemoteRecord := List (String × String)

/-- A Simple Queue as `normalizeSimpleQueue` reads it. -/
structure RemoteSimpleQueue where
  id : String
  name : String
  target : String
  maxLimit : String
  burstLimit : String
  burstThreshold : String
  burstTime : String
  disabled : Bool
  comment : String
  isDynamic : Bool
  invalid : Bool
  deriving DecidableEq

/-! ## Attributes of commands -/

/-- The attributes of a new peer. -/
structure CreateRemotePeer where
  interfaceName : String
  publicKey : String
  allowedAddress : String
  comment : String
  persistentKeepalive : ℤ
  presharedKey : Option String
  disabled : Option Bool
  deriving DecidableEq

/-- The attributes that a change of a peer sets. -/
structure UpdateRemotePeer where
  interfaceName : Option String := none
  publicKey : Option String := none
  allowedAddress : Option String := none
  comment : Option String := none
  persistentKeepalive : Option ℤ := none
  presharedKey : Option String := none
  disabled : Option Bool := none
  endpointAddress : Option (Option String) := none
  endpointPort : Option (Option ℤ) := none
  deriving DecidableEq

/-- The attributes of a change of an interface. -/
structure UpdateRemoteInterface where
  name : Option String := none
  listenPort : Option ℤ := none
  mtu : Option ℤ := none
  disabled : Option Bool := none
  deriving DecidableEq

/-- The attributes of a new Simple Queue, or of a change of one. -/
structure DesiredSimpleQueue where
  name : String
  target : String
  maxLimit : String
  burstLimit : String
  burstThreshold : String
  burstTime : String
  disabled : Bool
  comment : String
  deriving DecidableEq

/-! ## Routers -/

/-- A peer on a router, with the preshared key that listings do not show. -/
structure RouterPeer extends RemoteWireGuardPeer where
  presharedKey : String
  deriving DecidableEq

/-- What a router holds. -/
structure RouterContent where
  interfaces : List RemoteWireGuardInterface
  peers : List RouterPeer
  addresses : List RemoteAddress
  routes : List RemoteRecord
  queues : List RemoteSimpleQueue
  queueTrees : List RemoteRecord
  mangleRules : List RemoteRecord
  filterRules : List RemoteRecord
  deriving DecidableEq

/-- The peer that the attributes `input` create under the identifier `id`. -/
def CreateRemotePeer.toPeer (input : CreateRemotePeer) (id : String) : RouterPeer where
  id := id
  interfaceName := input.interfaceName
  name := input.comment
  comment := input.comment
  publicKey := input.publicKey
  allowedAddress := input.allowedAddress
  endpointAddress := none
  endpointPort := none
  persistentKeepalive := input.persistentKeepalive
  disabled := input.disabled.getD false
  lastHandshakeAt := none
  lastHandshakeRaw := none
  lastHandshakeParseValid := true
  rxBytes := 0
  txBytes := 0
  presharedKey := input.presharedKey.getD ""

/-- The peer `peer` with the attributes that `input` sets. -/
def UpdateRemotePeer.apply (input : UpdateRemotePeer) (peer : RouterPeer) : RouterPeer :=
  { peer with
    interfaceName := input.interfaceName.getD peer.interfaceName
    publicKey := input.publicKey.getD peer.publicKey
    allowedAddress := input.allowedAddress.getD peer.allowedAddress
    comment := input.comment.getD peer.comment
    name := input.comment.getD peer.name
    persistentKeepalive := input.persistentKeepalive.getD peer.persistentKeepalive
    presharedKey := input.presharedKey.getD peer.presharedKey
    disabled := input.disabled.getD peer.disabled
    endpointAddress := input.endpointAddress.getD peer.endpointAddress
    endpointPort := input.endpointPort.getD peer.endpointPort }

/-- The queue that the attributes `input` create under the identifier `id`. -/
def DesiredSimpleQueue.toQueue (input : DesiredSimpleQueue) (id : String) :
    RemoteSimpleQueue where
  id := id
  name := input.name
  target := input.target
  maxLimit := input.maxLimit
  burstLimit := input.burstLimit
  burstThreshold := input.burstThreshold
  burstTime := input.burstTime
  disabled := input.disabled
  comment := input.comment
  isDynamic := false
  invalid := false

/-- The queue `queue` with the attributes `input`. -/
def DesiredSimpleQueue.apply (input : DesiredSimpleQueue) (queue : RemoteSimpleQueue) :
    RemoteSimpleQueue :=
  { queue with
    name := input.name
    target := input.target
    maxLimit := input.maxLimit
    burstLimit := input.burstLimit
    burstThreshold := input.burstThreshold
    burstTime := input.burstTime
    disabled := input.disabled
    comment := input.comment }

namespace RouterContent

/-- The peers as `getPeers` lists them. -/
def remotePeers (r : RouterContent) : List RemoteWireGuardPeer :=
  r.peers.map RouterPeer.toRemoteWireGuardPeer

/-- `/interface/wireguard/peers/add`: the router chooses the identifier `id`,
    which is not empty and not in use. -/
def createPeer (input : CreateRemotePeer) (id : String) (r : RouterContent) :
    Option (String × RouterContent) :=
  if id = "" ∨ ∃ p ∈ r.peers, p.id = id then none
  else some (id, { r with peers := r.peers ++ [input.toPeer id] })

/-- `/interface/wireguard/peers/set`. -/
def updatePeer (id : String) (input : UpdateRemotePeer) (r : RouterContent) :
    Option (Unit × RouterContent) :=
  if ∃ p ∈ r.peers, p.id = id then
    some ((), { r with peers := r.peers.map fun p => if p.id = id then input.apply p else p })
  else none

/-- `/interface/wireguard/peers/remove`. -/
def deletePeer (id : String) (r : RouterContent) : Option (Unit × RouterContent) :=
  if ∃ p ∈ r.peers, p.id = id then
    some ((), { r with peers := r.peers.filter fun p => p.id ≠ id })
  else none

/-- `/interface/wireguard/set`. -/
def updateInterface (id : String) (input : UpdateRemoteInterface) (r : RouterContent) :
    Option (Unit × RouterContent) :=
  if ∃ i ∈ r.interfaces, i.id = id then
    some ((), { r with interfaces := r.interfaces.map fun i =>
      if i.id = id then { i with
        name := input.name.getD i.name
        listenPort := input.listenPort.getD i.listenPort
        mtu := input.mtu.getD i.mtu
        disabled := input.disabled.getD i.disabled }
      else i })
  else none

/-- `/queue/simple/add`. -/
def createSimpleQueue (input : DesiredSimpleQueue) (id : String) (r : RouterContent) :
    Option (String × RouterContent) :=
  if id = "" ∨ ∃ q ∈ r.queues, q.id = id then none
  else some (id, { r with queues := r.queues ++ [input.toQueue id] })

/-- `/queue/simple/set`. -/
def updateSimpleQueue (id : String) (input : DesiredSimpleQueue) (r : RouterContent) :
    Option (Unit × RouterContent) :=
  if ∃ q ∈ r.queues, q.id = id then
    some ((), { r with queues := r.queues.map fun q => if q.id = id then input.apply q else q })
  else none

/-- `/queue/simple/remove`. -/
def deleteSimpleQueue (id : String) (r : RouterContent) : Option (Unit × RouterContent) :=
  if ∃ q ∈ r.queues, q.id = id then
    some ((), { r with queues := r.queues.filter fun q => q.id ≠ id })
  else none

end RouterContent

/-! ## Serialised states -/

/-- `peerRouterState` of the drift service and `routerPeerState` of the
    synchronisation: the fields of a peer that are tracked as drift. -/
def peerRouterState (remote : RemoteWireGuardPeer) : Json :=
  .obj [("interfaceName", .str remote.interfaceName), ("publicKey", .str remote.publicKey),
    ("allowedAddress", .str remote.allowedAddress), ("comment", .str remote.comment),
    ("persistentKeepalive", .num remote.persistentKeepalive), ("disabled", .bool remote.disabled)]

/-- `routerInterfaceState`: the fields of an interface that are tracked as drift. -/
def routerInterfaceState (item : RemoteWireGuardInterface) : Json :=
  .obj [("name", .str item.name), ("listenPort", .num item.listenPort), ("mtu", .num item.mtu),
    ("publicKey", .str item.publicKey), ("disabled", .bool item.disabled)]

/-- What `remotePeerFingerprint` serialises and hashes. -/
def fingerprintState (peer : RemoteWireGuardPeer) : Json :=
  .obj [("interfaceName", .str peer.interfaceName), ("comment", .str peer.comment),
    ("publicKey", .str peer.publicKey), ("allowedAddress", .str peer.allowedAddress),
    ("endpointAddress", peer.endpointAddress.elim .null .str),
    ("endpointPort", peer.endpointPort.elim .null .num),
    ("persistentKeepalive", .num peer.persistentKeepalive), ("disabled", .bool peer.disabled)]

end WireguardPanel
