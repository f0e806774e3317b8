import WireguardPanel.Peer

/-!
# Reconciliation

How a stored peer compares with the peer that its router shows: as a whole, by
the fingerprint of the last synchronised state, and field by field, with the
last synchronised state as the base of a three-way comparison.

* `classifyPeerSync`: the comparison as a whole.
* `fieldDifferences`: the fields in which the application and the router differ,
  with the sides that have changed them.
-/

namespace WireguardPanel

open Foundation

/-! ## As a whole -/

/-- `ReconciliationState`. -/
inductive ReconciliationState
  | inSync
  | routerOnly
  | dbOnly
  | modifiedExternally
  | disabledExternally
  | deletedExternally
  deriving DecidableEq

/-- The columns of a peer that `classifyPeerSync` looks at. -/
structure LocalPeer where
  remoteId : Option String
  remoteFingerprint : Option String
  disabled : Bool
  deriving DecidableEq

/-- The columns of a row. -/
def PeerRow.local (p : PeerRow) : LocalPeer where
  remoteId := p.remoteId
  remoteFingerprint := p.remoteFingerprint
  disabled := p.disabled

/-- `classifyPeerSync`. -/
def classifyPeerSync (P : Platform) (stored : Option LocalPeer)
    (remote : Option RemoteWireGuardPeer) : ReconciliationState :=
  match stored, remote with
  | none, some _ => .routerOnly
  | some stored, none =>
    if (filled stored.remoteId).isSome then .deletedExternally else .dbOnly
  | none, none => .dbOnly
  | some stored, some remote =>
    match filled stored.remoteFingerprint with
    | none => .inSync
    | some fingerprint =>
      if fingerprint = remotePeerFingerprint P remote then .inSync
      else if stored.disabled ≠ remote.disabled then .disabledExternally
      else .modifiedExternally

/-- The conflict that a state is stored as. -/
def ReconciliationState.conflictType : ReconciliationState → Option ConflictType
  | .inSync => none
  | .routerOnly => none
  | .dbOnly => some .dbOnly
  | .modifiedExternally => some .modifiedExternally
  | .disabledExternally => some .disabledExternally
  | .deletedExternally => some .deletedExternally

/-! ## Field by field -/

/-- A field in which the application and the router differ. -/
structure FieldDifference where
  field : String
  application : Json
  lastSynchronized : Json
  router : Json
  applicationChanged : Bool
  routerChanged : Bool

/-- The serialisation of a field, which is missing if the field is. -/
def fieldText (v : Json) (k : String) : Option (List Char) := (v.field k).map Json.stringify

/-- The comparison of one field. -/
def fieldDifference (application synchronized current : Json) (field : String) :
    Option FieldDifference :=
  if fieldText application field = fieldText current field then none
  else some {
    field
    application := (application.field field).getD .null
    lastSynchronized := (synchronized.field field).getD .null
    router := (current.field field).getD .null
    applicationChanged := decide (fieldText application field ≠ fieldText synchronized field)
    routerChanged := decide (fieldText current field ≠ fieldText synchronized field) }

/-- `fieldDifferences`. -/
def fieldDifferences (application synchronized current : Json) : List FieldDifference :=
  (application.keys ++ synchronized.keys ++ current.keys).eraseDups.filterMap
    (fieldDifference application synchronized current)

/-- The text of a difference. -/
def FieldDifference.toJson (d : FieldDifference) : Json :=
  .obj [("field", .str d.field), ("application", d.application),
    ("lastSynchronized", d.lastSynchronized), ("router", d.router),
    ("applicationChanged", .bool d.applicationChanged), ("routerChanged", .bool d.routerChanged)]

/-! ## The states of a peer -/

/-- A row of `peers` with the name of its interface, as `syncRouter` reads it. -/
structure ExistingPeer where
  row : PeerRow
  interfaceName : String

/-- `applicationPeerState`. -/
def applicationPeerState (peer : ExistingPeer) : Json :=
  .obj [("interfaceName", .str peer.interfaceName), ("publicKey", .str peer.row.publicKey),
    ("allowedAddress", .str peer.row.allowedAddress),
    ("comment", .str (peer.row.description.getD "")),
    ("persistentKeepalive", .num peer.row.persistentKeepalive),
    ("disabled", .bool peer.row.disabled)]

/-- `routerPeerStateFromStored`. -/
def routerPeerStateFromStored (stored : Option RemoteWireGuardPeer) : Json :=
  match stored with
  | none => .obj []
  | some stored => peerRouterState stored

/-- The last synchronised state of a peer. -/
def synchronizedPeerState (row : PeerRow) : Json :=
  if row.lastAppliedState.keys ≠ [] then row.lastAppliedState
  else routerPeerStateFromStored row.lastRemoteState

/-- `applicationInterfaceState`. -/
def applicationInterfaceState (item : InterfaceRow) : Json :=
  .obj [("name", .str item.name), ("listenPort", .num item.listenPort), ("mtu", .num item.mtu),
    ("publicKey", .str item.publicKey), ("disabled", .bool item.disabled)]

/-- The last synchronised state of an interface. -/
def synchronizedInterfaceState (row : InterfaceRow) : Json :=
  if row.lastAppliedState.keys ≠ [] then row.lastAppliedState else applicationInterfaceState row

/-- Some field was changed on both sides. -/
def SameFieldConflict (differences : List FieldDifference) : Prop :=
  ∃ d ∈ differences, d.applicationChanged = true ∧ d.routerChanged = true

instance (differences : List FieldDifference) : Decidable (SameFieldConflict differences) :=
  inferInstanceAs (Decidable (∃ d ∈ differences, _))

end WireguardPanel
