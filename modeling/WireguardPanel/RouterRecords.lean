import WireguardPanel.ClientRequests
import WireguardPanel.Enforcement
import WireguardPanel.Foundation.Refinement
import WireguardPanel.ServiceCalls

/-!
# Routers that hold records

For the services a router holds interfaces, peers and queues, and has them changed by requests.
What it holds in fact are menus of records with texts as attributes, of which the clients write
some and read all that is shown. The two are the same, as far as the services can tell.

* `normalizeInterface`, `normalizePeer`, `normalizeSimpleQueue`: what is read from a record.
* `RouterRecords.perform`: a router that keeps the attributes that a client sends.
* `perform_content`: as it is read, it does what the services take a router to do.
* `runs_content`: every part of a run of a service with such routers is one with the routers of
  the services, with the same calls and answers.
-/

namespace WireguardPanel

open Foundation

/-! ## What is read -/

/-- How texts are read that are not kept as texts. -/
structure Readings where
  /-- `Number`, if it is finite. -/
  number : String → Option ℤ
  /-- `BigInt`, unless it throws. -/
  bigInt : String → Option ℤ
  /-- `parseRouterDate`, at the time of a listing. -/
  date : String → Option ℤ
  number_toString : ∀ n : ℤ, number (toString n) = some n
  bigInt_zero : bigInt "0" = some 0

/-- `rosBoolean` of an attribute. -/
def rosBoolean (value : Option String) : Bool :=
  decide (value = some "true" ∨ value = some "yes")

section Readings

variable (N : Readings)

/-- `rosNumber` of an attribute. -/
def rosNumber (value : Option String) (fallback : ℤ) : ℤ := (value.bind N.number).getD fallback

/-- `rosBigInt` of an attribute. -/
def rosBigInt (value : Option String) : ℤ :=
  let text := Text.trim (value.getD "0")
  (N.bigInt (if text = "" then "0" else text)).getD 0

/-- `normalizeInterface`. -/
def normalizeInterface (row : AttributeRecord) : RemoteWireGuardInterface where
  id := ((row.lookup ".id").or (row.lookup "id")).getD ""
  name := (row.lookup "name").getD ""
  listenPort := rosNumber N (row.lookup "listen-port") 0
  mtu := rosNumber N (row.lookup "mtu") 1420
  publicKey := (row.lookup "public-key").getD ""
  running := rosBoolean (row.lookup "running")
  disabled := rosBoolean (row.lookup "disabled")

/-- `normalizePeer`. -/
def normalizePeer (row : AttributeRecord) : RemoteWireGuardPeer :=
  let rawHandshake := (row.lookup "last-handshake").or (row.lookup "latest-handshake")
  let rawHandshakeText := (rawHandshake.map Text.trim).filter (· ≠ "")
  let parsedHandshake := rawHandshakeText.bind N.date
  { id := ((row.lookup ".id").or (row.lookup "id")).getD ""
    interfaceName := (row.lookup "interface").getD ""
    name := ((row.lookup "name").or (row.lookup "comment")).getD "Unnamed peer"
    comment := (row.lookup "comment").getD ""
    publicKey := (row.lookup "public-key").getD ""
    allowedAddress := (row.lookup "allowed-address").getD ""
    endpointAddress := (row.lookup "endpoint-address").filter (· ≠ "")
    endpointPort := ((row.lookup "endpoint-port").filter (· ≠ "")).map fun port =>
      rosNumber N (some port) 0
    persistentKeepalive := rosNumber N (row.lookup "persistent-keepalive") 0
    disabled := rosBoolean (row.lookup "disabled")
    lastHandshakeAt := parsedHandshake
    lastHandshakeRaw := rawHandshakeText
    lastHandshakeParseValid := rawHandshakeText.isNone || parsedHandshake.isSome
    rxBytes := rosBigInt N (((row.lookup "rx").or (row.lookup "rx-byte")).or
      (row.lookup "rx-bytes"))
    txBytes := rosBigInt N (((row.lookup "tx").or (row.lookup "tx-byte")).or
      (row.lookup "tx-bytes")) }

/-- `normalizeSimpleQueue`, which each client has for itself. -/
def normalizeSimpleQueue (row : AttributeRecord) : RemoteSimpleQueue where
  id := (row.lookup ".id").getD ""
  name := (row.lookup "name").getD ""
  target := ((row.lookup "target").or (row.lookup "target-addresses")).getD ""
  maxLimit := (row.lookup "max-limit").getD "0/0"
  burstLimit := (row.lookup "burst-limit").getD "0/0"
  burstThreshold := (row.lookup "burst-threshold").getD "0/0"
  burstTime := (row.lookup "burst-time").getD "0s/0s"
  disabled := rosBoolean (row.lookup "disabled")
  comment := (row.lookup "comment").getD ""
  isDynamic := rosBoolean (row.lookup "dynamic")
  invalid := rosBoolean (row.lookup "invalid")

/-- The addresses as `getAddresses` of either client reads them. -/
def normalizeAddress (row : AttributeRecord) : RemoteAddress where
  id := (row.lookup ".id").getD ""
  interfaceName := (row.lookup "interface").getD ""
  address := (row.lookup "address").getD ""
  disabled := rosBoolean (row.lookup "disabled")

end Readings

/-! ## Records -/

/-- An object of a router, with its identifier apart from its other attributes. -/
structure RouterRecord where
  id : String
  attributes : AttributeRecord

/-- The record as it is shown. -/
def RouterRecord.shown (r : RouterRecord) : AttributeRecord := (".id", r.id) :: r.attributes

/-- The record with the attributes that a client has sent. -/
def RouterRecord.set (attributes : AttributeRecord) (r : RouterRecord) : RouterRecord :=
  { r with attributes :=
      attributes.foldl (fun record entry => record.assign entry.1 entry.2) r.attributes }

/-- The commands `add`, `set` and `remove` of a menu. -/
def addRecord (id : String) (attributes : AttributeRecord) (menu : List RouterRecord) :
    Option (String × List RouterRecord) :=
  if id = "" ∨ ∃ r ∈ menu, r.id = id then none
  else some (id, menu ++ [RouterRecord.set attributes ⟨id, []⟩])

def setRecord (id : String) (attributes : AttributeRecord) (menu : List RouterRecord) :
    Option (Unit × List RouterRecord) :=
  if ∃ r ∈ menu, r.id = id then
    some ((), menu.map fun r => if r.id = id then r.set attributes else r)
  else none

def removeRecord (id : String) (menu : List RouterRecord) : Option (Unit × List RouterRecord) :=
  if ∃ r ∈ menu, r.id = id then some ((), menu.filter fun r => r.id ≠ id) else none

theorem lookup_cons_ite {α : Type} (name key : String) (value : α) (rest : List (String × α)) :
    ((key, value) :: rest).lookup name = if name = key then some value else rest.lookup name := by
  rw [List.lookup_cons]
  by_cases h : name = key
  · rw [if_pos h, beq_iff_eq.2 h]
  · rw [if_neg h, beq_eq_false_iff_ne.2 h]

theorem lookup_eq_none {α : Type} {name : String} {entries : List (String × α)}
    (h : name ∉ entries.map Prod.fst) : entries.lookup name = none :=
  List.lookup_eq_none_iff.2 fun entry hentry => by
    simpa using fun heq : name = entry.1 => h (heq ▸ List.mem_map_of_mem hentry)

namespace AttributeRecord

theorem lookup_map_assign {record : AttributeRecord} {key value : String} (name : String) :
    List.lookup name (record.map fun entry => if entry.1 = key then (key, value) else entry) =
      if name = key then (record.lookup key).map fun _ => value else record.lookup name := by
  induction record with
  | nil => simp
  | cons entry rest ih =>
    obtain ⟨key', value'⟩ := entry
    by_cases hkey : key' = key
    · subst hkey
      rw [List.map_cons, if_pos rfl, lookup_cons_ite, lookup_cons_ite, lookup_cons_ite, ih,
        if_pos rfl]
      split_ifs <;> rfl
    · rw [List.map_cons, if_neg hkey, lookup_cons_ite, lookup_cons_ite, lookup_cons_ite, ih,
        if_neg (Ne.symm hkey)]
      by_cases hname : name = key
      · rw [if_neg (hname ▸ Ne.symm hkey), if_pos hname, if_pos hname]
      · rw [if_neg hname, if_neg hname]

/-- The text of a property after an assignment. -/
theorem lookup_assign {record : AttributeRecord} {key value : String} (hproto : key ≠ "__proto__")
    (name : String) :
    (record.assign key value).lookup name =
      if name = key then some value else record.lookup name := by
  unfold assign
  rw [if_neg hproto]
  split_ifs with hmem hname hname
  · rw [lookup_map_assign, if_pos hname]
    cases hlookup : record.lookup key with
    | none =>
      obtain ⟨entry, hentry, hkey⟩ := hmem
      exact absurd hkey.symm (by simpa using List.lookup_eq_none_iff.1 hlookup entry hentry)
    | some _ => rfl
  · rw [lookup_map_assign, if_neg hname]
  · have hnone : record.lookup name = none := lookup_eq_none fun hkey => by
      obtain ⟨entry, hentry, heq⟩ := List.mem_map.1 hkey
      exact hmem ⟨entry, hentry, heq.trans hname⟩
    rw [List.lookup_append, hnone, lookup_cons_ite, if_pos hname]
    rfl
  · rw [List.lookup_append, lookup_cons_ite, if_neg hname]
    simp

end AttributeRecord

/-- The texts of a record after attributes have been sent that are not `undefined`. -/
theorem lookup_set_definedEntries {entries : List (String × Option String)}
    (hnodup : (entries.map Prod.fst).Nodup) (hproto : "__proto__" ∉ entries.map Prod.fst)
    (r : RouterRecord) (name : String) :
    (r.set (definedEntries entries)).attributes.lookup name =
      (entries.lookup name).join.or (r.attributes.lookup name) := by
  unfold RouterRecord.set
  dsimp only
  generalize r.attributes = record
  induction entries generalizing record with
  | nil => rfl
  | cons entry rest ih =>
    obtain ⟨key, value⟩ := entry
    rw [List.map_cons, List.nodup_cons] at hnodup
    rw [List.map_cons, List.mem_cons, not_or] at hproto
    have hrest : name = key → rest.lookup name = none := fun heq =>
      lookup_eq_none (heq ▸ hnodup.1)
    cases value with
    | none =>
      have hskip : definedEntries ((key, none) :: rest) = definedEntries rest := rfl
      rw [hskip, ih hnodup.2 hproto.2, lookup_cons_ite]
      split_ifs with hname
      · rw [hrest hname]
        rfl
      · rfl
    | some text =>
      have hsent : definedEntries ((key, some text) :: rest) = (key, text) :: definedEntries rest :=
        rfl
      rw [hsent, List.foldl_cons, ih hnodup.2 hproto.2,
        AttributeRecord.lookup_assign (Ne.symm hproto.1), lookup_cons_ite]
      split_ifs with hname
      · rw [hrest hname]
        rfl
      · rfl

/-! ## Requests of the clients -/

/-- The client that a router is reached by. -/
inductive RouterApiType
  | rest
  | native
  deriving DecidableEq

/-- The attributes of a change that reach the router. -/
def RouterApiType.attributes (change : ChangeRequest ℤ) : RouterApiType → AttributeRecord
  | .rest => change.restBody toString
  | .native => requestedAttributes (change.nativeWords toString)

theorem RouterApiType.attributes_eq (change : ChangeRequest ℤ) (api : RouterApiType) :
    api.attributes change = change.restBody toString := by
  cases api with
  | rest => rfl
  | native => exact requestedAttributes_nativeWords toString change

/-- The attributes of a request as properties of an object. -/
def CreateRemotePeer.properties (input : CreateRemotePeer) : RemotePeerInput ℤ where
  interfaceName := some input.interfaceName
  publicKey := some input.publicKey
  allowedAddress := some input.allowedAddress
  comment := some input.comment
  persistentKeepalive := some input.persistentKeepalive
  presharedKey := input.presharedKey
  disabled := input.disabled

def UpdateRemotePeer.properties (input : UpdateRemotePeer) : RemotePeerInput ℤ where
  interfaceName := input.interfaceName
  publicKey := input.publicKey
  allowedAddress := input.allowedAddress
  comment := input.comment
  persistentKeepalive := input.persistentKeepalive
  presharedKey := input.presharedKey
  disabled := input.disabled
  endpointAddress := input.endpointAddress
  endpointPort := input.endpointPort

def UpdateRemoteInterface.properties (input : UpdateRemoteInterface) : RemoteInterfaceInput ℤ where
  name := input.name
  listenPort := input.listenPort
  mtu := input.mtu
  disabled := input.disabled

def DesiredSimpleQueue.properties (input : DesiredSimpleQueue) : RemoteSimpleQueueInput where
  name := some input.name
  target := some input.target
  maxLimit := some input.maxLimit
  comment := some input.comment
  disabled := some input.disabled
  burstLimit := some input.burstLimit
  burstThreshold := some input.burstThreshold
  burstTime := some input.burstTime

/-! ## What is read of a record that has been written -/

section Written

variable (N : Readings)

/-- A peer of a router, with the preshared key that only the router reads. -/
def recordPeer (r : RouterRecord) : RouterPeer :=
  { normalizePeer N r.shown with presharedKey := (r.attributes.lookup "preshared-key").getD "" }

variable {N} {r : RouterRecord}

theorem lookup_shown {name : String} (h : name ≠ ".id") :
    r.shown.lookup name = r.attributes.lookup name := by
  rw [RouterRecord.shown, lookup_cons_ite, if_neg h]

theorem lookup_shown_id : r.shown.lookup ".id" = some r.id := rfl

theorem rosBoolean_written (old : Option String) (disabled : Option Bool) :
    rosBoolean ((disabled.map fun disabled => if disabled then "yes" else "no").or old) =
      disabled.getD (rosBoolean old) := by
  rcases disabled with _ | _ | _ <;> rfl

theorem rosNumber_written (old : Option String) (n : Option ℤ) (fallback : ℤ) :
    rosNumber N ((n.map toString).or old) fallback = n.getD (rosNumber N old fallback) := by
  cases n with
  | none => rfl
  | some n => exact congrArg (Option.getD · fallback) (N.number_toString n)

theorem toString_nat_ne_empty (n : ℕ) : toString n ≠ "" := fun h => by
  have hdigits := Text.parseDigits_toString n
  rw [h] at hdigits
  cases hdigits

theorem toString_int_ne_empty (n : ℤ) : toString n ≠ "" := fun h => by
  rw [Text.toString_int] at h
  split_ifs at h
  · exact toString_nat_ne_empty _ h
  · exact absurd (congrArg String.toList h) (by simp)

/-- An endpoint that has been sent is read as such, unless it has been taken away. -/
theorem endpointAddress_written (old : Option String) {address : Option (Option String)}
    (h : address ≠ some (some "")) :
    ((address.map fun address => address.getD "").or old).filter (· ≠ "") =
      address.getD (old.filter (· ≠ "")) := by
  rcases address with _ | _ | text
  · rfl
  · rfl
  · have hne : text ≠ "" := fun heq => h (heq ▸ rfl)
    simp [hne]

theorem endpointPort_written (old : Option String) {port : Option (Option ℤ)}
    (h : port ≠ some none) :
    (((port.map fun port => port.elim "0" toString).or old).filter (· ≠ "")).map
        (fun text => rosNumber N (some text) 0) =
      port.getD ((old.filter (· ≠ "")).map fun text => rosNumber N (some text) 0) := by
  rcases port with _ | _ | n
  · rfl
  · exact absurd rfl h
  · have hread : rosNumber N (some (toString n)) 0 = n := rosNumber_written none (some n) 0
    have hshown : (some (toString n)).filter (· ≠ "") = some (toString n) :=
      Option.filter_some_pos (decide_eq_true (toString_int_ne_empty n))
    change Option.map _ ((some (toString n)).filter (· ≠ "")) = some n
    rw [hshown, Option.map_some, hread]

/-- The entries that `toRosPeer` makes an object of. -/
def peerEntries (input : RemotePeerInput ℤ) : List (String × Option String) :=
  [("interface", input.interfaceName), ("public-key", input.publicKey),
    ("allowed-address", input.allowedAddress), ("comment", input.comment),
    ("persistent-keepalive", input.persistentKeepalive.map toString),
    ("preshared-key", input.presharedKey),
    ("endpoint-address", input.endpointAddress.map fun address => address.getD ""),
    ("endpoint-port", input.endpointPort.map fun port => port.elim "0" toString),
    ("disabled", input.disabled.map fun disabled => if disabled then "yes" else "no")]

theorem lookup_set_toRosPeer (input : RemotePeerInput ℤ) (r : RouterRecord) (name : String) :
    (r.set (toRosPeer toString input)).attributes.lookup name =
      ((peerEntries input).lookup name).join.or (r.attributes.lookup name) := by
  have hentries : toRosPeer toString input = definedEntries (peerEntries input) := by
    rcases input with ⟨_, _, _, _, _, _, _ | _ | _, _ | _ | _, _⟩ <;> rfl
  rw [hentries]
  exact lookup_set_definedEntries (by simp [peerEntries]) (by simp [peerEntries]) r name

/-- A peer after a change, as it is read: the attributes that have been sent, and the others as
    they were. -/
theorem recordPeer_set {input : RemotePeerInput ℤ} (hname : r.attributes.lookup "name" = none)
    (haddress : input.endpointAddress ≠ some (some "")) (hport : input.endpointPort ≠ some none) :
    recordPeer N (r.set (toRosPeer toString input)) =
      { recordPeer N r with
        interfaceName := input.interfaceName.getD (recordPeer N r).interfaceName
        publicKey := input.publicKey.getD (recordPeer N r).publicKey
        allowedAddress := input.allowedAddress.getD (recordPeer N r).allowedAddress
        comment := input.comment.getD (recordPeer N r).comment
        name := input.comment.getD (recordPeer N r).name
        persistentKeepalive := input.persistentKeepalive.getD (recordPeer N r).persistentKeepalive
        presharedKey := input.presharedKey.getD (recordPeer N r).presharedKey
        disabled := input.disabled.getD (recordPeer N r).disabled
        endpointAddress := input.endpointAddress.getD (recordPeer N r).endpointAddress
        endpointPort := input.endpointPort.getD (recordPeer N r).endpointPort } := by
  simp only [recordPeer, normalizePeer, lookup_shown_id, lookup_shown, String.reduceEq,
    String.reduceNe, lookup_set_toRosPeer, peerEntries, lookup_cons_ite, reduceIte,
    List.lookup_nil, Option.join_some, Option.join_none, Option.none_or, hname, Option.getD_or,
    rosNumber_written, rosBoolean_written, endpointAddress_written _ haddress,
    endpointPort_written _ hport]
  rfl

/-- A new peer as it is read. -/
theorem recordPeer_new (id : String) (input : CreateRemotePeer) :
    recordPeer N (RouterRecord.set (toRosPeer toString input.properties) ⟨id, []⟩) =
      input.toPeer id := by
  rw [recordPeer_set rfl (Option.some_ne_none _).symm (Option.some_ne_none _).symm]
  have hbytes : rosBigInt N none = 0 := by
    change (N.bigInt "0").getD 0 = 0
    rw [N.bigInt_zero]
    rfl
  simp only [recordPeer, normalizePeer, RouterRecord.shown, CreateRemotePeer.toPeer,
    CreateRemotePeer.properties, lookup_cons_ite, List.lookup_nil, String.reduceEq, reduceIte,
    Option.or_none, hbytes]
  rfl

/-- A changed peer as it is read. -/
theorem recordPeer_changed {input : UpdateRemotePeer} (hname : r.attributes.lookup "name" = none)
    (haddress : input.endpointAddress ≠ some (some "")) (hport : input.endpointPort ≠ some none) :
    recordPeer N (r.set (toRosPeer toString input.properties)) = input.apply (recordPeer N r) :=
  recordPeer_set hname haddress hport

/-- No change gives a peer a name. -/
theorem lookup_name_set_toRosPeer {input : RemotePeerInput ℤ} :
    (r.set (toRosPeer toString input)).attributes.lookup "name" = r.attributes.lookup "name" := by
  simp only [lookup_set_toRosPeer, peerEntries, lookup_cons_ite, List.lookup_nil, String.reduceEq,
    reduceIte, Option.join_none, Option.none_or]

/-- The interface `i` with the attributes that `input` sets. -/
def UpdateRemoteInterface.apply (input : UpdateRemoteInterface) (i : RemoteWireGuardInterface) :
    RemoteWireGuardInterface :=
  { i with
    name := input.name.getD i.name
    listenPort := input.listenPort.getD i.listenPort
    mtu := input.mtu.getD i.mtu
    disabled := input.disabled.getD i.disabled }

theorem normalizeInterface_changed (input : UpdateRemoteInterface) :
    normalizeInterface N (r.set (toRosInterface toString input.properties)).shown =
      input.apply (normalizeInterface N r.shown) := by
  have hlookup : ∀ name, (r.set (toRosInterface toString input.properties)).attributes.lookup name =
      _ := lookup_set_definedEntries (by simp) (by simp) r
  simp only [normalizeInterface, lookup_shown_id, lookup_shown, String.reduceEq, String.reduceNe,
    hlookup, lookup_cons_ite, reduceIte, List.lookup_nil, Option.join_some, Option.join_none,
    Option.none_or, Option.getD_or, rosNumber_written, rosBoolean_written]
  rfl

theorem normalizeSimpleQueue_changed {input : DesiredSimpleQueue} :
    normalizeSimpleQueue (r.set (toRosSimpleQueue input.properties)).shown =
      input.apply (normalizeSimpleQueue r.shown) := by
  have hlookup : ∀ name, (r.set (toRosSimpleQueue input.properties)).attributes.lookup name = _ :=
    lookup_set_definedEntries (by simp) (by simp) r
  simp only [normalizeSimpleQueue, lookup_shown_id, lookup_shown, String.reduceEq, String.reduceNe,
    hlookup, lookup_cons_ite, reduceIte, List.lookup_nil, Option.join_some, Option.join_none,
    Option.none_or, Option.getD_or, rosBoolean_written]
  rfl

/-- A new queue as it is read. -/
theorem normalizeSimpleQueue_new (id : String) (input : DesiredSimpleQueue) :
    normalizeSimpleQueue (RouterRecord.set (toRosSimpleQueue input.properties) ⟨id, []⟩).shown =
      input.toQueue id := by
  rw [normalizeSimpleQueue_changed]
  rfl

end Written

/-! ## Routers -/

/-- A router as the menus that it shows. -/
structure RouterRecords where
  interfaces : List RouterRecord
  peers : List RouterRecord
  addresses : List RouterRecord
  routes : List RemoteRecord
  queues : List RouterRecord
  queueTrees : List RemoteRecord
  mangleRules : List RemoteRecord
  filterRules : List RemoteRecord

namespace RouterRecords

/-- What the router holds, as it is read. -/
def content (N : Readings) (R : RouterRecords) : RouterContent where
  interfaces := R.interfaces.map fun r => normalizeInterface N r.shown
  peers := R.peers.map (recordPeer N)
  addresses := R.addresses.map fun r => normalizeAddress r.shown
  routes := R.routes
  queues := R.queues.map fun r => normalizeSimpleQueue r.shown
  queueTrees := R.queueTrees
  mangleRules := R.mangleRules
  filterRules := R.filterRules

/-- What a request does to a router that is reached by a client, and the answer as the client
    reads it. -/
def perform (N : Readings) (api : RouterApiType) (id : String) (R : RouterRecords) :
    (q : RouterRequest) → Option (q.Result × RouterRecords)
  | .testConnection => some ((), R)
  | .getInterfaces => some (R.interfaces.map fun r => normalizeInterface N r.shown, R)
  | .getPeers => some (R.peers.map fun r => normalizePeer N r.shown, R)
  | .getAddresses => some (R.addresses.map fun r => normalizeAddress r.shown, R)
  | .getRoutes => some (R.routes, R)
  | .getNatRules => some ((), R)
  | .getSimpleQueues => some (R.queues.map fun r => normalizeSimpleQueue r.shown, R)
  | .getQueueTrees => some (R.queueTrees, R)
  | .getMangleRules => some (R.mangleRules, R)
  | .getFilterRules => some (R.filterRules, R)
  | .createPeer input =>
    (addRecord id (api.attributes (.createPeer input.properties)) R.peers).map fun (a, peers) =>
      (a, { R with peers })
  | .updatePeer remoteId input =>
    (setRecord remoteId (api.attributes (.updatePeer remoteId input.properties)) R.peers).map
      fun (a, peers) => (a, { R with peers })
  | .deletePeer remoteId =>
    (removeRecord remoteId R.peers).map fun (a, peers) => (a, { R with peers })
  | .updateInterface remoteId input =>
    (setRecord remoteId (api.attributes (.updateInterface remoteId input.properties))
      R.interfaces).map fun (a, interfaces) => (a, { R with interfaces })
  | .createSimpleQueue input =>
    (addRecord id (api.attributes (.createSimpleQueue input.properties)) R.queues).map
      fun (a, queues) => (a, { R with queues })
  | .updateSimpleQueue remoteId input =>
    (setRecord remoteId (api.attributes (.updateSimpleQueue remoteId input.properties))
      R.queues).map fun (a, queues) => (a, { R with queues })
  | .deleteSimpleQueue remoteId =>
    (removeRecord remoteId R.queues).map fun (a, queues) => (a, { R with queues })

/-- The peers are known by their comments, as by a version that gives them no names. -/
def Unnamed (R : RouterRecords) : Prop := ∀ r ∈ R.peers, r.attributes.lookup "name" = none

end RouterRecords

section Menus

variable {α : Type} (read : RouterRecord → α) (idOf : α → String) (hid : ∀ r, idOf (read r) = r.id)
  {menu : List RouterRecord} {id : String}

include hid

theorem exists_read : (∃ a ∈ menu.map read, idOf a = id) ↔ ∃ r ∈ menu, r.id = id := by
  simp [hid]

/-- What the objects of a menu are read as after one of them has been changed. -/
theorem map_read_set {attributes : AttributeRecord} {change : α → α}
    (hset : ∀ r ∈ menu, read (r.set attributes) = change (read r)) :
    (menu.map fun r => if r.id = id then r.set attributes else r).map read =
      (menu.map read).map fun a => if idOf a = id then change a else a := by
  rw [List.map_map, List.map_map]
  refine List.map_congr_left fun r hr => ?_
  simp only [Function.comp_apply, hid]
  split_ifs
  · exact hset r hr
  · rfl

theorem map_read_remove :
    (menu.filter fun r => r.id ≠ id).map read = (menu.map read).filter fun a => idOf a ≠ id := by
  rw [List.filter_map]
  congr 1
  exact List.filter_congr fun r _ => by simp [hid]

end Menus

section Perform

variable {N : Readings} {api : RouterApiType} {id : String} {R : RouterRecords} {q : RouterRequest}

theorem recordPeer_id (r : RouterRecord) : (recordPeer N r).id = r.id := rfl

theorem normalizeInterface_id (r : RouterRecord) : (normalizeInterface N r.shown).id = r.id := rfl

theorem normalizeSimpleQueue_id (r : RouterRecord) : (normalizeSimpleQueue r.shown).id = r.id := rfl

theorem exists_peer_content {id : String} :
    (∃ p ∈ (R.content N).peers, p.id = id) ↔ ∃ r ∈ R.peers, r.id = id :=
  exists_read _ (fun p : RouterPeer => p.id) recordPeer_id

theorem exists_interface_content {id : String} :
    (∃ i ∈ (R.content N).interfaces, i.id = id) ↔ ∃ r ∈ R.interfaces, r.id = id :=
  exists_read _ RemoteWireGuardInterface.id normalizeInterface_id

theorem exists_queue_content {id : String} :
    (∃ q ∈ (R.content N).queues, q.id = id) ↔ ∃ r ∈ R.queues, r.id = id :=
  exists_read _ RemoteSimpleQueue.id normalizeSimpleQueue_id

theorem remotePeers_content :
    (R.content N).remotePeers = R.peers.map fun r => normalizePeer N r.shown :=
  List.map_map ..

/-- What a request does to the records is, as they are read, what the services take it to do. -/
theorem perform_content (hq : q.Readable) (hR : R.Unnamed) :
    (R.perform N api id q).map (fun result => (result.1, result.2.content N)) =
      q.perform id (R.content N) := by
  cases q with
  -- A listing is what is read of the records, and changes none.
  | testConnection | getInterfaces | getAddresses | getRoutes | getNatRules | getSimpleQueues
  | getQueueTrees | getMangleRules | getFilterRules => rfl
  | getPeers => exact congrArg (fun peers => some (peers, R.content N)) remotePeers_content.symm
  | createPeer input =>
    simp only [RouterRecords.perform, RouterRequest.perform, addRecord, RouterContent.createPeer,
      exists_peer_content, RouterApiType.attributes_eq, ChangeRequest.restBody]
    split_ifs
    · rfl
    · simp only [Option.map_some, RouterRecords.content, List.map_append, List.map_singleton,
        recordPeer_new]
  | updatePeer remoteId input =>
    simp only [RouterRecords.perform, RouterRequest.perform, setRecord, RouterContent.updatePeer,
      exists_peer_content, RouterApiType.attributes_eq, ChangeRequest.restBody]
    split_ifs
    · simp only [Option.map_some, RouterRecords.content,
        map_read_set (recordPeer N) (fun p : RouterPeer => p.id) recordPeer_id
          fun r hr => recordPeer_changed (hR r hr) hq.1 hq.2]
    · rfl
  | deletePeer remoteId =>
    simp only [RouterRecords.perform, RouterRequest.perform, removeRecord, RouterContent.deletePeer,
      exists_peer_content]
    split_ifs
    · simp only [Option.map_some, RouterRecords.content,
        map_read_remove (recordPeer N) (fun p : RouterPeer => p.id) recordPeer_id]
    · rfl
  | updateInterface remoteId input =>
    simp only [RouterRecords.perform, RouterRequest.perform, setRecord,
      RouterContent.updateInterface, exists_interface_content, RouterApiType.attributes_eq,
      ChangeRequest.restBody]
    split_ifs
    · simp only [Option.map_some, RouterRecords.content,
        map_read_set (fun r => normalizeInterface N r.shown) RemoteWireGuardInterface.id
          normalizeInterface_id fun _ _ => normalizeInterface_changed input,
        UpdateRemoteInterface.apply]
    · rfl
  | createSimpleQueue input =>
    simp only [RouterRecords.perform, RouterRequest.perform, addRecord,
      RouterContent.createSimpleQueue, exists_queue_content, RouterApiType.attributes_eq,
      ChangeRequest.restBody]
    split_ifs
    · rfl
    · simp only [Option.map_some, RouterRecords.content, List.map_append, List.map_singleton,
        normalizeSimpleQueue_new]
  | updateSimpleQueue remoteId input =>
    simp only [RouterRecords.perform, RouterRequest.perform, setRecord,
      RouterContent.updateSimpleQueue, exists_queue_content, RouterApiType.attributes_eq,
      ChangeRequest.restBody]
    split_ifs
    · simp only [Option.map_some, RouterRecords.content,
        map_read_set (fun r => normalizeSimpleQueue r.shown) RemoteSimpleQueue.id
          normalizeSimpleQueue_id fun r _ => normalizeSimpleQueue_changed]
    · rfl
  | deleteSimpleQueue remoteId =>
    simp only [RouterRecords.perform, RouterRequest.perform, removeRecord,
      RouterContent.deleteSimpleQueue, exists_queue_content]
    split_ifs
    · simp only [Option.map_some, RouterRecords.content,
        map_read_remove (fun r => normalizeSimpleQueue r.shown) RemoteSimpleQueue.id
          normalizeSimpleQueue_id]
    · rfl

/-- No request gives a peer a name. -/
theorem unnamed_of_perform {result : q.Result × RouterRecords} (hR : R.Unnamed)
    (h : R.perform N api id q = some result) : result.2.Unnamed := by
  cases q with
  | createPeer input =>
    obtain ⟨⟨a, peers⟩, hadd, rfl⟩ := Option.map_eq_some_iff.1 h
    unfold addRecord at hadd
    split_ifs at hadd
    cases hadd
    intro r hr
    rcases List.mem_append.1 hr with hr | hr
    · exact hR r hr
    · rw [List.mem_singleton.1 hr, RouterApiType.attributes_eq]
      exact lookup_name_set_toRosPeer
  | updatePeer remoteId input =>
    obtain ⟨⟨a, peers⟩, hset, rfl⟩ := Option.map_eq_some_iff.1 h
    unfold setRecord at hset
    split_ifs at hset
    cases hset
    intro r hr
    obtain ⟨r', hr', rfl⟩ := List.mem_map.1 hr
    split_ifs
    · rw [RouterApiType.attributes_eq]
      exact lookup_name_set_toRosPeer.trans (hR r' hr')
    · exact hR r' hr'
  | deletePeer remoteId =>
    obtain ⟨⟨a, peers⟩, hremove, rfl⟩ := Option.map_eq_some_iff.1 h
    unfold removeRecord at hremove
    split_ifs at hremove
    cases hremove
    exact fun r hr => hR r (List.mem_of_mem_filter hr)
  | updateInterface remoteId input | createSimpleQueue input | updateSimpleQueue remoteId input
  | deleteSimpleQueue remoteId =>
    obtain ⟨_, -, rfl⟩ := Option.map_eq_some_iff.1 h
    exact hR
  | testConnection | getInterfaces | getPeers | getAddresses | getRoutes | getNatRules
  | getSimpleQueues | getQueueTrees | getMangleRules | getFilterRules =>
    cases h
    exact hR

end Perform

/-! ## Services -/

/-- Only a request may set something that is not read as it is set. -/
def Call.Readable : Call → Prop
  | .request _ q => q.Readable
  | _ => True

/-- What a service asks of routers can be read again, whichever statements it executes. -/
theorem Executes.readable {S : Statement → Prop} {ℓ α : Type} {x : Service ℓ α}
    (hx : Executes S x) : Procedure.Makes Call.Readable x fun _ => True :=
  Procedure.Makes.imp hx fun c hc => by
    cases c with
    | query read => trivial
    | execute s => trivial
    | request routerId q => exact hc

/-- The database and the routers as they are in fact. -/
structure RecordWorld where
  db : Database
  routers : String → RouterRecords

namespace RecordWorld

/-- The world as the services take it. -/
def content (N : Readings) (W : RecordWorld) : World where
  db := W.db
  routers id := (W.routers id).content N

/-- The world with a router changed. -/
def setRouter (W : RecordWorld) (routerId : String) (R : RouterRecords) : RecordWorld :=
  { W with routers := fun id => if id = routerId then R else W.routers id }

/-- The answer to a call and the world after it. -/
def answer (P : Platform) (N : Readings) (api : String → RouterApiType) (d : Decision)
    (W : RecordWorld) : (c : Call) → Except AppError c.Result × RecordWorld
  | .query read =>
    match d.fault with
    | .none => (.ok (read W.db), W)
    | .before e | .after e => (.error e, W)
  | .execute s =>
    match d.fault with
    | .none =>
      match s.tx P d.now d.id W.db with
      | .ok (a, db) => (.ok a, { W with db })
      | .error e => (.error e, W)
    | .before e | .after e => (.error e, W)
  | .request routerId q =>
    match d.fault with
    | .before e => (.error e, W)
    | .none =>
      match (W.routers routerId).perform N (api routerId) d.id q with
      | some (a, R) => (.ok a, W.setRouter routerId R)
      | none => (.error routerError, W)
    | .after e =>
      match (W.routers routerId).perform N (api routerId) d.id q with
      | some (_, R) => (.error e, W.setRouter routerId R)
      | none => (.error e, W)

/-- The environment of the services with these routers, each reached by its own client. -/
def environment (P : Platform) (N : Readings) (api : String → RouterApiType)
    (faults : Call → Fault → Prop) : Environment Call (fun c => Except AppError c.Result)
      RecordWorld := fun c W r W' =>
  ∃ d : Decision, faults c d.fault ∧ answer P N api d W c = (r, W')

/-- No router gives its peers names. -/
def Unnamed (W : RecordWorld) : Prop := ∀ id, (W.routers id).Unnamed

variable {P : Platform} {N : Readings} {api : String → RouterApiType} {W W' : RecordWorld}

theorem content_setRouter (routerId : String) (R : RouterRecords) :
    (W.setRouter routerId R).content N = (W.content N).setRouter routerId (R.content N) := by
  unfold content setRouter World.setRouter
  congr 1
  funext id
  dsimp only
  split_ifs <;> rfl

theorem Unnamed.setRouter {routerId : String} {R : RouterRecords} (h : W.Unnamed)
    (hR : R.Unnamed) : (W.setRouter routerId R).Unnamed := fun id => by
  change (if id = routerId then R else W.routers id).Unnamed
  split_ifs
  · exact hR
  · exact h id

/-- A call is answered as by the routers of the services. -/
theorem answer_content {d : Decision} {c : Call} {r : Except AppError c.Result} (hc : c.Readable)
    (hW : W.Unnamed) (h : answer P N api d W c = (r, W')) :
    World.answer P d (W.content N) c = (r, W'.content N) ∧ W'.Unnamed := by
  cases c with
  | query read =>
    unfold answer at h
    unfold World.answer
    cases hfault : d.fault <;> simp only [hfault] at h ⊢ <;> cases h <;> exact ⟨rfl, hW⟩
  | execute s =>
    unfold answer at h
    unfold World.answer
    cases hfault : d.fault <;> simp only [hfault] at h ⊢
    · cases htx : s.tx P d.now d.id W.db with
      | error e =>
        have htx' : s.tx P d.now d.id (W.content N).db = .error e := htx
        simp only [htx, htx'] at h ⊢
        cases h
        exact ⟨rfl, hW⟩
      | ok result =>
        have htx' : s.tx P d.now d.id (W.content N).db = .ok result := htx
        simp only [htx, htx'] at h ⊢
        cases h
        exact ⟨rfl, hW⟩
    all_goals
      cases h
      exact ⟨rfl, hW⟩
  | request routerId q =>
    -- The router does as the services expect, before its answer is lost or not.
    have hperform : ((W.routers routerId).perform N (api routerId) d.id q).map
        (fun result => (result.1, result.2.content N)) =
        q.perform d.id ((W.routers routerId).content N) := perform_content hc (hW routerId)
    have hcontent : (W.content N).routers routerId = (W.routers routerId).content N := rfl
    unfold answer at h
    unfold World.answer
    cases hresult : (W.routers routerId).perform N (api routerId) d.id q with
    | none =>
      rw [hresult, Option.map_none] at hperform
      cases hfault : d.fault <;> simp only [hfault, hresult, hcontent, ← hperform] at h ⊢ <;>
        cases h <;> exact ⟨rfl, hW⟩
    | some result =>
      rw [hresult, Option.map_some] at hperform
      have hnamed : (W.setRouter routerId result.2).Unnamed :=
        hW.setRouter (unnamed_of_perform (hW routerId) hresult)
      cases hfault : d.fault <;> simp only [hfault, hresult, hcontent, ← hperform] at h ⊢ <;>
        cases h
      · exact ⟨by rw [content_setRouter], hnamed⟩
      · exact ⟨rfl, hW⟩
      · exact ⟨by rw [content_setRouter], hnamed⟩

/-- What is true of a world of records and the world that it is read as. -/
theorem refines_content (faults : Call → Fault → Prop) :
    (environment P N api faults).Refines (World.environment P faults) Call.Readable
      fun W w => w = W.content N ∧ W.Unnamed := by
  rintro c W r W' w hc ⟨rfl, hW⟩ ⟨d, hfault, h⟩
  obtain ⟨hanswer, hW'⟩ := answer_content hc hW h
  exact ⟨W'.content N, ⟨d, hfault, hanswer⟩, rfl, hW'⟩

end RecordWorld

section Services

variable {P : Platform} {N : Readings} {api : String → RouterApiType} {W W' : RecordWorld}
  {faults : Call → Fault → Prop} {ℓ α : Type}

/-- Every part of a run of a service, with routers that hold records and are reached by either
    client, is one with the routers that the services take them for: the same calls are made and
    answered in the same way. -/
theorem runs_content {x : Service ℓ α} {l : ℓ}
    {calls : List (Answered fun c : Call => Except AppError c.Result)}
    {rest : Program Call (fun c => Except AppError c.Result) (Except AppError α × ℓ)}
    (hx : Procedure.Makes Call.Readable x fun _ => True) (hW : W.Unnamed)
    (h : ((ExceptT.run x).run l).Runs (RecordWorld.environment P N api faults) W calls rest W') :
    ((ExceptT.run x).run l).Runs (World.environment P faults) (W.content N) calls rest
      (W'.content N) ∧ W'.Unnamed := by
  obtain ⟨w', hrun, rfl, hW'⟩ := h.refines (RecordWorld.refines_content faults) (hx l) ⟨rfl, hW⟩
  exact ⟨hrun, hW'⟩

end Services

/-- A whole number that is written with digits and a sign if it is negative. -/
def wholeNumber (text : String) : Option ℤ :=
  if text.toList.head? = some '-' then
    (Text.parseDigits (String.ofList text.toList.tail)).map fun n : ℕ => -(n : ℤ)
  else (Text.parseDigits text).map fun n : ℕ => (n : ℤ)

theorem wholeNumber_toString (n : ℤ) : wholeNumber (toString n) = some n := by
  rw [Text.toString_int, wholeNumber]
  split_ifs with hn hsign hsign
  · have hdigit := Text.isDigit_toString (List.mem_of_mem_head? hsign)
    cases hdigit
  · rw [Text.parseDigits_toString, Option.map_some]
    exact congrArg some (Int.toNat_of_nonneg hn)
  · have htail : ("-" ++ toString n.natAbs).toList.tail = (toString n.natAbs).toList := by
      rw [String.toList_append]
      rfl
    rw [htail, String.ofList_toList, Text.parseDigits_toString, Option.map_some]
    exact congrArg some (by omega)
  · exact absurd (by rw [String.toList_append]; rfl) hsign

/-- Readings of whole numbers and of no dates. -/
def plainReadings : Readings where
  number := wholeNumber
  bigInt := wholeNumber
  date _ := none
  number_toString := wholeNumber_toString
  bigInt_zero := by decide

/-- The router of the small installation, with the records that it holds. -/
def plainRecords : RouterRecords where
  interfaces := []
  peers := [⟨"*1", [("interface", "wg1"), ("public-key", "peer key"),
    ("allowed-address", "10.0.0.2/32"), ("persistent-keepalive", "25"), ("disabled", "false")]⟩]
  addresses := []
  routes := []
  queues := []
  queueTrees := []
  mangleRules := []
  filterRules := []

/-- The installation with this router. -/
def plainRecordWorld : RecordWorld :=
    ⟨plainDatabase plainPeer plainPeer_check, fun _ => plainRecords⟩

theorem plainRecordWorld_unnamed : plainRecordWorld.Unnamed := fun _ r hr => by
  rw [List.mem_singleton.1 hr]
  rfl

/-- A peer that is disabled through the native client is shown as disabled. -/
theorem runs_content_setPeerEnabled :
    ∃ calls W', ((W'.content plainReadings).routers "r1").remotePeers.map
        RemoteWireGuardPeer.disabled = [true] ∧
      ((ExceptT.run (setPeerEnabled Platform.plain "p1" false .manual)).run ()).Runs
        (World.environment Platform.plain fun _ _ => True)
        (plainRecordWorld.content plainReadings) calls (.done (.ok (), ()))
        (RecordWorld.content plainReadings W') ∧ W'.Unnamed := by
  have hshown : (Program.run (RecordWorld.answer Platform.plain plainReadings fun _ => .native)
      ((ExceptT.run (setPeerEnabled Platform.plain "p1" false .manual)).run ())
      (List.replicate 6 {}) plainRecordWorld).map (fun outcome => (outcome.1.1.isOk,
        ((outcome.2.content plainReadings).routers "r1").remotePeers.map
          RemoteWireGuardPeer.disabled)) = some (true, [true]) := by
    decide +kernel
  obtain ⟨⟨⟨result, ⟨⟩⟩, W'⟩, hrun, hresult⟩ := Option.map_eq_some_iff.1 hshown
  cases result with
  | error e => cases hresult
  | ok _ =>
    obtain ⟨calls, hcalls⟩ : Program.Ends (RecordWorld.environment Platform.plain plainReadings
        (fun _ => .native) fun _ _ => True) _ plainRecordWorld _ W' :=
      Program.ends_of_run (fun d _ _ _ => ⟨d, trivial, rfl⟩) hrun
    have hexecutes : Executes (fun _ => True)
        (setPeerEnabled Platform.plain "p1" false .manual : Service Unit Unit) :=
      executes_setPeerEnabled fun _ _ => trivial
    exact ⟨calls, W', (Prod.ext_iff.1 hresult).2,
      runs_content hexecutes.readable plainRecordWorld_unnamed hcalls⟩

end WireguardPanel
