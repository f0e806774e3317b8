import WireguardPanel.NativeApi

/-!
# Changes as the two clients request them

The native client sends the attributes of a change as words, the REST client as
a JSON object. Each of them makes the attributes from the input on its own.

* `toNativePeer`, `toNativeInterface`, `toNativeSimpleQueue`: the attributes of
  the native client, some of which are `undefined`.
* `toRosPeer`, `toRosInterface`, `toRosSimpleQueue`: the objects of the REST client.
* `ChangeRequest.requested_eq_restBody`: both request the same change.
-/

namespace WireguardPanel

open Foundation

/-! ## Inputs -/

/-- The properties of a `CreateRemotePeer` or an `UpdateRemotePeer`, with the
    numbers `ν`. A property that is absent or `undefined` is `none`. -/
structure RemotePeerInput (ν : Type) where
  interfaceName : Option String := none
  publicKey : Option String := none
  allowedAddress : Option String := none
  comment : Option String := none
  persistentKeepalive : Option ν := none
  presharedKey : Option String := none
  endpointAddress : Option (Option String) := none
  endpointPort : Option (Option ν) := none
  disabled : Option Bool := none

/-- Those of a `CreateRemoteInterface` or an `UpdateRemoteInterface`. -/
structure RemoteInterfaceInput (ν : Type) where
  name : Option String := none
  listenPort : Option ν := none
  mtu : Option ν := none
  disabled : Option Bool := none

/-- Those of a `CreateRemoteSimpleQueue` or an `UpdateRemoteSimpleQueue`. -/
structure RemoteSimpleQueueInput where
  name : Option String := none
  target : Option String := none
  maxLimit : Option String := none
  comment : Option String := none
  disabled : Option Bool := none
  burstLimit : Option String := none
  burstThreshold : Option String := none
  burstTime : Option String := none

/-- The changes that both clients can request. -/
inductive ChangeRequest (ν : Type)
  | createPeer (peer : RemotePeerInput ν)
  | updatePeer (id : String) (peer : RemotePeerInput ν)
  | createInterface (input : RemoteInterfaceInput ν)
  | updateInterface (id : String) (input : RemoteInterfaceInput ν)
  | createSimpleQueue (input : RemoteSimpleQueueInput)
  | updateSimpleQueue (id : String) (input : RemoteSimpleQueueInput)

section Clients

variable {ν : Type} (numberText : ν → String)

/-! ## The native client -/

namespace AttributeValue

/-- A text that may be `undefined`. -/
def ofText : Option String → AttributeValue
  | some value => .text value
  | none => .undefined

/-- A number that may be `undefined`. -/
def ofNumber : Option ν → AttributeValue
  | some value => .number (numberText value)
  | none => .undefined

/-- A truth value that may be `undefined`. -/
def ofBool : Option Bool → AttributeValue
  | some value => .boolean value
  | none => .undefined

@[simp] theorem written_ofText (value : Option String) : (ofText value).written = value := by
  cases value <;> rfl

@[simp] theorem written_ofNumber (value : Option ν) :
    (ofNumber numberText value).written = value.map numberText := by
  cases value <;> rfl

@[simp] theorem written_ofBool (value : Option Bool) :
    (ofBool value).written = value.map fun value => if value then "yes" else "no" := by
  cases value <;> rfl

end AttributeValue

open AttributeValue

/-- `toNativePeer`. -/
def toNativePeer (peer : RemotePeerInput ν) : List (String × AttributeValue) :=
  [("interface", ofText peer.interfaceName), ("public-key", ofText peer.publicKey),
    ("allowed-address", ofText peer.allowedAddress), ("comment", ofText peer.comment),
    ("persistent-keepalive", ofNumber numberText peer.persistentKeepalive),
    ("preshared-key", ofText peer.presharedKey),
    ("endpoint-address", match peer.endpointAddress with
      | some none => .text ""
      | some (some address) => .text address
      | none => .undefined),
    ("endpoint-port", match peer.endpointPort with
      | some none => .number "0"
      | some (some port) => .number (numberText port)
      | none => .undefined),
    ("disabled", ofBool peer.disabled)]

/-- `toNativeInterface`. -/
def toNativeInterface (input : RemoteInterfaceInput ν) : List (String × AttributeValue) :=
  [("name", ofText input.name), ("listen-port", ofNumber numberText input.listenPort),
    ("mtu", ofNumber numberText input.mtu), ("disabled", ofBool input.disabled)]

/-- `toNativeSimpleQueue`. -/
def toNativeSimpleQueue (input : RemoteSimpleQueueInput) : List (String × AttributeValue) :=
  [("name", ofText input.name), ("target", ofText input.target),
    ("max-limit", ofText input.maxLimit), ("comment", ofText input.comment),
    ("disabled", ofBool input.disabled), ("burst-limit", ofText input.burstLimit),
    ("burst-threshold", ofText input.burstThreshold), ("burst-time", ofText input.burstTime)]

/-- The words of the command that the native client sends. -/
def ChangeRequest.nativeWords : ChangeRequest ν → List String
  | createPeer peer =>
    "/interface/wireguard/peers/add" :: attributeWords (toNativePeer numberText peer)
  | updatePeer id peer =>
    "/interface/wireguard/peers/set" ::
      attributeWords ((".id", .text id) :: toNativePeer numberText peer)
  | createInterface input =>
    "/interface/wireguard/add" :: attributeWords (toNativeInterface numberText input)
  | updateInterface id input =>
    "/interface/wireguard/set" ::
      attributeWords ((".id", .text id) :: toNativeInterface numberText input)
  | createSimpleQueue input => "/queue/simple/add" :: attributeWords (toNativeSimpleQueue input)
  | updateSimpleQueue id input =>
    "/queue/simple/set" :: attributeWords ((".id", .text id) :: toNativeSimpleQueue input)

/-- The attributes that a router reads from a command, without the identifier
    of the object. -/
def requestedAttributes (words : List String) : AttributeRecord :=
  (parseAttributes words.tail).filter fun entry => entry.1 ≠ ".id"

/-! ## The REST client -/

/-- `Object.fromEntries` of the entries that are not `undefined`. -/
def definedEntries (entries : List (String × Option String)) : AttributeRecord :=
  entries.filterMap fun entry => entry.2.map fun value => (entry.1, value)

/-- `toRosPeer`. -/
def toRosPeer (peer : RemotePeerInput ν) : AttributeRecord := definedEntries
  [("interface", peer.interfaceName), ("public-key", peer.publicKey),
    ("allowed-address", peer.allowedAddress), ("comment", peer.comment),
    ("persistent-keepalive", peer.persistentKeepalive.map numberText),
    ("preshared-key", peer.presharedKey),
    ("endpoint-address", match peer.endpointAddress with
      | some none => some ""
      | some (some address) => some address
      | none => none),
    ("endpoint-port", match peer.endpointPort with
      | some none => some "0"
      | some (some port) => some (numberText port)
      | none => none),
    ("disabled", peer.disabled.map fun disabled => if disabled then "yes" else "no")]

/-- `toRosInterface`. -/
def toRosInterface (input : RemoteInterfaceInput ν) : AttributeRecord := definedEntries
  [("name", input.name), ("listen-port", input.listenPort.map numberText),
    ("mtu", input.mtu.map numberText),
    ("disabled", input.disabled.map fun disabled => if disabled then "yes" else "no")]

/-- `toRosSimpleQueue`. -/
def toRosSimpleQueue (input : RemoteSimpleQueueInput) : AttributeRecord := definedEntries
  [("name", input.name), ("target", input.target), ("max-limit", input.maxLimit),
    ("comment", input.comment),
    ("disabled", input.disabled.map fun disabled => if disabled then "yes" else "no"),
    ("burst-limit", input.burstLimit), ("burst-threshold", input.burstThreshold),
    ("burst-time", input.burstTime)]

/-- The object that the REST client sends. -/
def ChangeRequest.restBody : ChangeRequest ν → AttributeRecord
  | createPeer peer | updatePeer _ peer => toRosPeer numberText peer
  | createInterface input | updateInterface _ input => toRosInterface numberText input
  | createSimpleQueue input | updateSimpleQueue _ input => toRosSimpleQueue input

end Clients

/-! ## Agreement -/

section Agreement

variable {ν : Type} {numberText : ν → String}

/-- The attributes of one client are the entries of the other. -/
theorem writtenAttributes_eq (attributes : List (String × AttributeValue)) :
    writtenAttributes attributes =
      definedEntries (attributes.map fun entry => (entry.1, entry.2.written)) := by
  rw [writtenAttributes, definedEntries, List.filterMap_map]
  rfl

theorem writtenAttributes_toNativePeer (peer : RemotePeerInput ν) :
    writtenAttributes (toNativePeer numberText peer) = toRosPeer numberText peer := by
  have haddress : (match peer.endpointAddress with
      | some none => AttributeValue.text ""
      | some (some address) => .text address
      | none => .undefined).written = match peer.endpointAddress with
      | some none => some ""
      | some (some address) => some address
      | none => none := by
    rcases peer.endpointAddress with _ | _ | address <;> rfl
  have hport : (match peer.endpointPort with
      | some none => AttributeValue.number "0"
      | some (some port) => .number (numberText port)
      | none => .undefined).written = match peer.endpointPort with
      | some none => some "0"
      | some (some port) => some (numberText port)
      | none => none := by
    rcases peer.endpointPort with _ | _ | port <;> rfl
  rw [writtenAttributes_eq, toNativePeer, toRosPeer]
  simp only [List.map_cons, List.map_nil, AttributeValue.written_ofText,
    AttributeValue.written_ofNumber, AttributeValue.written_ofBool, haddress, hport]

theorem writtenAttributes_toNativeInterface (input : RemoteInterfaceInput ν) :
    writtenAttributes (toNativeInterface numberText input) = toRosInterface numberText input := by
  rw [writtenAttributes_eq, toNativeInterface, toRosInterface]
  simp only [List.map_cons, List.map_nil, AttributeValue.written_ofText,
    AttributeValue.written_ofNumber, AttributeValue.written_ofBool]

theorem writtenAttributes_toNativeSimpleQueue (input : RemoteSimpleQueueInput) :
    writtenAttributes (toNativeSimpleQueue input) = toRosSimpleQueue input := by
  rw [writtenAttributes_eq, toNativeSimpleQueue, toRosSimpleQueue]
  simp only [List.map_cons, List.map_nil, AttributeValue.written_ofText,
    AttributeValue.written_ofBool]

/-- Names of attributes that are told apart and read back. -/
structure AttributeNames (names : List String) : Prop where
  nodup : names.Nodup
  plain : ∀ name ∈ names, '=' ∉ name.toList ∧ name ≠ "__proto__" ∧ name ≠ ".id"

instance (names : List String) : Decidable (AttributeNames names) :=
  decidable_of_iff (names.Nodup ∧ ∀ name ∈ names, '=' ∉ name.toList ∧ name ≠ "__proto__" ∧
    name ≠ ".id") ⟨fun h => ⟨h.1, h.2⟩, fun h => ⟨h.nodup, h.plain⟩⟩

theorem attributeNames_peer (peer : RemotePeerInput ν) :
    AttributeNames ((toNativePeer numberText peer).map Prod.fst) := by
  change AttributeNames ["interface", "public-key", "allowed-address", "comment",
    "persistent-keepalive", "preshared-key", "endpoint-address", "endpoint-port", "disabled"]
  decide +kernel

theorem attributeNames_interface (input : RemoteInterfaceInput ν) :
    AttributeNames ((toNativeInterface numberText input).map Prod.fst) := by
  change AttributeNames ["name", "listen-port", "mtu", "disabled"]
  decide +kernel

theorem attributeNames_simpleQueue (input : RemoteSimpleQueueInput) :
    AttributeNames ((toNativeSimpleQueue input).map Prod.fst) := by
  change AttributeNames ["name", "target", "max-limit", "comment", "disabled", "burst-limit",
    "burst-threshold", "burst-time"]
  decide +kernel

/-- The keys of what is sent are names of attributes. -/
theorem fst_mem_of_writtenAttributes {attributes : List (String × AttributeValue)}
    {entry : String × String} (h : entry ∈ writtenAttributes attributes) :
    entry.1 ∈ attributes.map Prod.fst := by
  obtain ⟨sent, hsent, hvalue⟩ := List.mem_filterMap.1 h
  obtain ⟨value, -, rfl⟩ := Option.map_eq_some_iff.1 hvalue
  exact List.mem_map_of_mem hsent

/-- A router reads the attributes that are sent, with or without an identifier
    before them. -/
theorem requestedAttributes_eq {attributes : List (String × AttributeValue)}
    (hnames : AttributeNames (attributes.map Prod.fst)) (path : String) (id : Option String) :
    requestedAttributes (path :: attributeWords
        ((id.toList.map fun id => (".id", AttributeValue.text id)) ++ attributes)) =
      writtenAttributes attributes := by
  have hplain : ∀ entry ∈ attributes, '=' ∉ entry.1.toList ∧ entry.1 ≠ "__proto__" ∧
      entry.1 ≠ ".id" := fun entry hentry => hnames.plain entry.1 (List.mem_map_of_mem hentry)
  have hkept : ∀ entry ∈ writtenAttributes attributes, entry.1 ≠ "__proto__" ∧ entry.1 ≠ ".id" :=
    fun entry hentry => (hnames.plain entry.1 (fst_mem_of_writtenAttributes hentry)).2
  have hproto : (writtenAttributes attributes).filter (fun entry => entry.1 ≠ "__proto__") =
      writtenAttributes attributes :=
    List.filter_eq_self.2 fun entry hentry => decide_eq_true (hkept entry hentry).1
  have hid : (writtenAttributes attributes).filter (fun entry => entry.1 ≠ ".id") =
      writtenAttributes attributes :=
    List.filter_eq_self.2 fun entry hentry => decide_eq_true (hkept entry hentry).2
  rw [requestedAttributes, List.tail_cons, parseAttributes]
  cases id with
  | none =>
    rw [Option.toList_none, List.map_nil, List.nil_append, foldl_parseAttribute hnames.nodup
      (fun entry hentry => (hplain entry hentry).1) fun _ h => absurd h List.not_mem_nil,
      List.nil_append, hproto, hid]
  | some id =>
    have hnew : ".id" ∉ attributes.map Prod.fst := fun h => (hnames.plain ".id" h).2.2 rfl
    have hnodup : (((".id", AttributeValue.text id) :: attributes).map Prod.fst).Nodup :=
      List.nodup_cons.2 ⟨hnew, hnames.nodup⟩
    have hequals : ∀ entry ∈ (".id", AttributeValue.text id) :: attributes,
        '=' ∉ entry.1.toList :=
      List.forall_mem_cons.2 ⟨(by decide : '=' ∉ ".id".toList), fun entry hentry =>
        (hplain entry hentry).1⟩
    have hall : writtenAttributes ((".id", .text id) :: attributes) =
        (".id", id) :: writtenAttributes attributes := rfl
    rw [Option.toList_some, List.map_singleton, List.singleton_append,
      foldl_parseAttribute hnodup hequals fun _ h => absurd h List.not_mem_nil,
      List.nil_append, hall, List.filter_cons_of_pos (by simp), hproto,
      List.filter_cons_of_neg (by simp), hid]

variable (numberText) in
theorem requestedAttributes_nativeWords (request : ChangeRequest ν) :
    requestedAttributes (request.nativeWords numberText) = request.restBody numberText := by
  cases request with
  | createPeer peer =>
    exact (requestedAttributes_eq (attributeNames_peer peer) _ none).trans
      (writtenAttributes_toNativePeer peer)
  | updatePeer id peer =>
    exact (requestedAttributes_eq (attributeNames_peer peer) _ (some id)).trans
      (writtenAttributes_toNativePeer peer)
  | createInterface input =>
    exact (requestedAttributes_eq (attributeNames_interface input) _ none).trans
      (writtenAttributes_toNativeInterface input)
  | updateInterface id input =>
    exact (requestedAttributes_eq (attributeNames_interface input) _ (some id)).trans
      (writtenAttributes_toNativeInterface input)
  | createSimpleQueue input =>
    exact (requestedAttributes_eq (attributeNames_simpleQueue input) _ none).trans
      (writtenAttributes_toNativeSimpleQueue input)
  | updateSimpleQueue id input =>
    exact (requestedAttributes_eq (attributeNames_simpleQueue input) _ (some id)).trans
      (writtenAttributes_toNativeSimpleQueue input)

end Agreement

end WireguardPanel
