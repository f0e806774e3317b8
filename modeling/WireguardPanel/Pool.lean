import WireguardPanel.Statements

/-!
# Address pools

The pools of client addresses and the addresses that are taken from them.

* `createPool`, `updatePool`, `deletePool`, `reservePoolAddress`,
  `unreservePoolAddress`: the transactions on pools.
* `lockPoolForPeer`, `choosePoolAddress`, `claimPoolAddress`,
  `releasePeerPoolAddress`: the parts of the transactions that create, change
  or delete a peer.
-/

namespace WireguardPanel

open Foundation

/-! ## Values of the database as the application sees them -/

/-- `host(…)` of an address. -/
def hostText (P : Platform) (ip : Inet) : String :=
  match ip.family with
  | .v4 => dotted ip.addr
  | .v6 => P.host6 ip.addr

/-- A row of `wireguard_pools` as `lockPool` reads it. -/
structure WireGuardPool where
  id : String
  name : String
  routerId : String
  interfaceId : String
  gatewayIp : String
  startIp : String
  endIp : String
  dns : String
  clientAllowedIps : String
  endpointHost : Option String
  endpointPort : Option ℤ
  mtu : ℤ
  persistentKeepalive : ℤ
  enabled : Bool
  routerName : String
  interfaceName : String

/-- `PoolInput`. -/
structure PoolInput where
  name : String
  routerId : String
  interfaceId : String
  networkCidr : String
  gatewayIp : String
  startIp : String
  endIp : String
  dns : String
  clientAllowedIps : String
  endpointHost : Option String
  endpointPort : Option ℤ
  mtu : ℤ
  persistentKeepalive : ℤ
  enabled : Bool

/-- The state of an address in messages. -/
def AddressState.text : AddressState → String
  | available => "available"
  | reserved => "reserved"
  | allocated => "allocated"
  | router => "router"

/-- A text that is not empty, as `||` picks it. -/
def nonEmpty (s : String) : Option String := if s = "" then none else some s

/-- `MAX_POOL_ADDRESSES`. -/
def maxPoolAddresses : ℕ := 65536

/-- `normalizePoolInput`. -/
def normalizePoolInput (input : PoolInput) : Except AppError PoolInput := do
  let valid ← validatePoolRange input.networkCidr input.gatewayIp input.startIp input.endIp
  rejectIf (maxPoolAddresses < valid.range.total) <|
    .ipAllocation "A pool range can contain at most 65,536 IPv4 addresses."
  return { input with
    name := Text.trim input.name
    networkCidr := valid.network.cidr
    gatewayIp := valid.gateway
    startIp := ← numberToIpv4 valid.range.first
    endIp := ← numberToIpv4 valid.range.last
    dns := Text.trim input.dns
    clientAllowedIps := Text.trim input.clientAllowedIps
    endpointHost := input.endpointHost.bind fun host => nonEmpty (Text.trim host) }

/-- `validateAddressInPool`. -/
def validateAddressInPool (pool : WireGuardPool) (value : String) : Except AppError String := do
  let ip := normalizeClientIp value
  let number ← ipv4ToNumber ip
  let range ← ipv4Range pool.startIp pool.endIp
  rejectIf (number < range.first ∨ range.last < number) <|
    .poolConflict (ip ++ " is outside " ++ pool.name ++ " (" ++ pool.startIp ++ " – " ++
      pool.endIp ++ ").") none
  rejectIf (ip = normalizeClientIp pool.gatewayIp) <|
    .poolConflict (ip ++ " is the router/interface address.") none
  return ip

/-- `conflictMessage`. -/
def conflictMessage (ip : String) (owner : PoolOwner) : String :=
  "Cannot use " ++ ip ++ "\n\nThis address is already assigned to:\n\nPeer: " ++
    owner.peer.getD "Unknown peer" ++ "\nRouter: " ++ owner.router.getD "Unknown router" ++
    "\nInterface: " ++ owner.interface.getD "Unknown interface"

section Platform

variable (P : Platform)

/-- The cast of a parameter to `inet`. -/
def castInet (text : String) : Tx Inet := Tx.orThrow (P.inet text) (.database .invalidText)

/-! ## Locks and lookups -/

/-- A row of `wireguard_pools` with the names that `lockPool` adds. -/
def PoolRow.view (row : PoolRow) (router : RouterRow) (interface : InterfaceRow) :
    WireGuardPool where
  id := row.id
  name := row.name
  routerId := row.routerId
  interfaceId := row.interfaceId
  gatewayIp := hostText P row.gatewayIp
  startIp := hostText P row.startIp
  endIp := hostText P row.endIp
  dns := row.dns
  clientAllowedIps := row.clientAllowedIps
  endpointHost := row.endpointHost
  endpointPort := row.endpointPort
  mtu := row.mtu
  persistentKeepalive := row.persistentKeepalive
  enabled := row.enabled
  routerName := router.name
  interfaceName := interface.name

/-- `lockPool`. -/
def lockPool (id : String) : Tx WireGuardPool := do
  let db ← get
  let notFound := AppError.poolConflict "WireGuard pool not found." none
  let row ← Tx.orThrow (db.pool id) notFound
  let router ← Tx.orThrow (db.router row.routerId) notFound
  let interface ← Tx.orThrow (db.interface row.interfaceId) notFound
  return row.view P router interface

/-- `lockPoolForPeer`. -/
def lockPoolForPeer (poolId routerId interfaceId : String) : Tx WireGuardPool := do
  let pool ← lockPool P poolId
  Tx.require (pool.routerId = routerId ∧ pool.interfaceId = interfaceId) <|
    .poolConflict
      "The selected pool does not belong to the selected router and WireGuard interface."
      none
  Tx.require (pool.enabled = true) (.poolConflict "The selected WireGuard pool is disabled." none)
  return pool

/-- The addresses of the peers of a router, with their owners. -/
def addressOwners (db : Database) (routerId : String) (excludePeerId : Option String) :
    List (String × PoolOwner) :=
  db.peers.rows.filterMap fun p =>
    if p.routerId = routerId ∧ excludePeerId ≠ some p.id then do
      let clientIp ← p.clientIp
      let router ← db.router p.routerId
      let interface ← db.interface p.interfaceId
      return (clientIp, {
        peer := some p.name, router := some router.name, interface := some interface.name
        kind := some "peer" })
    else none

/-- The addresses of a router that are reserved, allocated or its own. -/
def blockedAddresses (db : Database) (routerId : String) (excludePeerId : Option String) :
    List (String × AddressState × Option String) :=
  (db.addresses.rows.filter fun a => a.routerId = routerId ∧ a.state ≠ .available ∧
    (excludePeerId = none ∨ a.peerId ≠ excludePeerId)).map fun a =>
      (hostText P a.ipAddress, a.state, a.comment)

/-- `explain`: why an address cannot be used, if it cannot. -/
def explain (db : Database) (pool : WireGuardPool) (remotePeers : List RemoteWireGuardPeer)
    (excludePeerId : Option String) (ip : String) : Option AppError :=
  match (addressOwners db pool.routerId excludePeerId).find? fun o =>
      normalizeClientIp o.1 = ip with
  | some (_, owner) => some (.poolConflict (conflictMessage ip owner) (some owner))
  | none =>
    match (blockedAddresses P db pool.routerId excludePeerId).find? fun b => b.1 = ip with
    | some (_, state, comment) =>
      some (.poolConflict ("Cannot use " ++ ip ++ "\n\nThis address is " ++ state.text ++ ": " ++
        comment.getD state.text ++ ".") (some { kind := some state.text }))
    | none =>
      match remotePeers.find? fun peer => allowedAddressOwnsIp peer.allowedAddress ip with
      | some remote =>
        let label := (nonEmpty remote.comment).getD remote.name
        some (.poolConflict (conflictMessage ip {
            peer := some ((nonEmpty label).getD "Existing MikroTik peer")
            router := some pool.routerName, interface := some remote.interfaceName })
          (some {
            peer := some label, router := some pool.routerName
            interface := some remote.interfaceName, kind := some "mikrotik_peer" }))
      | none => none

/-- The first of the next `count` addresses that nothing speaks against. -/
def firstFree (free : String → Bool) : ℕ → ℕ → Except AppError (Option String)
  | 0, _ => .ok none
  | count + 1, value => do
    let ip ← numberToIpv4 value
    if free ip then return some ip else firstFree free count (value + 1)

/-- `choosePoolAddress`. -/
def choosePoolAddress (pool : WireGuardPool) (remotePeers : List RemoteWireGuardPeer)
    (requestedIp excludePeerId : Option String) : Tx String := do
  let db ← get
  match requestedIp.bind nonEmpty with
  | some requested =>
    let ip ← Tx.ofExcept (validateAddressInPool pool requested)
    match explain P db pool remotePeers excludePeerId ip with
    | some conflict => throw conflict
    | none => return ip
  | none =>
    let range ← Tx.ofExcept (ipv4Range pool.startIp pool.endIp)
    let chosen ← Tx.ofExcept (firstFree
      (fun ip => (explain P db pool remotePeers excludePeerId ip).isNone) range.total range.first)
    Tx.orThrow chosen (.poolConflict ("No addresses are available in " ++ pool.name ++ ".") none)

/-- `claimPoolAddress`. -/
def claimPoolAddress (pool : WireGuardPool) (ip peerId peerName : String) : Tx Unit := do
  let address ← castInet P ip
  Tx.deleteAddresses fun a => a.poolId = pool.id ∧ a.ipAddress = address ∧ a.state = .available
  Tx.insertAddress {
    poolId := pool.id, routerId := pool.routerId, interfaceId := pool.interfaceId
    ipAddress := address, state := .allocated, peerId := some peerId, comment := some peerName }

/-- `releasePeerPoolAddress`. -/
def releasePeerPoolAddress (peerId : String) : Tx Unit :=
  Tx.deleteAddresses fun a => a.peerId = some peerId

/-! ## Pools -/

/-- `interfaceScope`: the name and the addresses of the interface. -/
def interfaceScope (routerId interfaceId : String) : Tx InterfaceRow := do
  let db ← get
  let missing := AppError.poolConflict
    "The selected WireGuard interface does not belong to the selected router." none
  let interface ← Tx.orThrow (db.interface interfaceId) missing
  Tx.require (interface.routerId = routerId ∧ (db.router routerId).isSome = true) missing
  return interface

/-- The address of an interface that a pool with this gateway and network belongs to. -/
def matchesScope (gatewayIp cidr address : String) : Bool :=
  match parseIpv4Cidr address with
  | .ok network => decide (normalizeClientIp address = gatewayIp ∧ network.cidr = cidr)
  | .error _ => false

/-- `validateScope`. -/
def validateScope (scope : InterfaceRow) (pool : PoolInput) : Tx Unit := do
  let network ← Tx.ofExcept (parseIpv4Cidr pool.networkCidr)
  Tx.require (scope.addresses = [] ∨
      scope.addresses.any (matchesScope pool.gatewayIp network.cidr) = true) <|
    .poolConflict ("Gateway " ++ pool.gatewayIp ++ " with network " ++ network.cidr ++
      " is not assigned to " ++ scope.name ++
      ". Synchronize the router or select its actual WireGuard address.") none

/-- `assertNoOverlap`. -/
def assertNoOverlap (routerId : String) (first last : Inet) (excludeId : Option String) :
    Tx Unit := do
  let db ← get
  match db.pools.rows.find? fun p => p.routerId = routerId ∧ excludeId ≠ some p.id ∧
      ¬(p.endIp < first ∨ last < p.startIp) with
  | some p => throw (.poolConflict ("This range overlaps " ++ p.name ++ " (" ++
      hostText P p.startIp ++ " – " ++ hostText P p.endIp ++ ") on the same router.") none)
  | none => return ()

/-- The peers whose address the database finds between two others. -/
def selectBetween (first last : Inet) : List PeerRow → Except AppError (List (PeerRow × Inet))
  | [] => .ok []
  | p :: ps =>
    match p.clientIp with
    | none => selectBetween first last ps
    | some clientIp =>
      match P.inet clientIp with
      | none => .error (.database .invalidText)
      | some ip => do
        let rest ← selectBetween first last ps
        return if first ≤ ip ∧ ip ≤ last then (p, ip) :: rest else rest

/-- The loop of `attachExistingPeers`. -/
def attachPeers (poolId routerId interfaceId : String) : List (PeerRow × Inet) → Tx Unit
  | [] => return ()
  | (p, ip) :: ps => do
    Tx.movePeer p.id p.routerId p.interfaceId (p.poolId.or (some poolId)) fun p =>
      { p with poolId := p.poolId.or (some poolId) }
    Tx.insertFreeAddress {
      poolId, routerId, interfaceId, ipAddress := ip, state := .allocated, peerId := some p.id
      comment := some p.name }
    attachPeers poolId routerId interfaceId ps

/-- `attachExistingPeers`. -/
def attachExistingPeers (poolId routerId interfaceId : String) (first last : Inet) : Tx Unit := do
  let db ← get
  let peers ← Tx.ofExcept (selectBetween P first last <|
    db.peers.rows.filter fun p => p.routerId = routerId ∧ p.interfaceId = interfaceId)
  attachPeers poolId routerId interfaceId peers

/-- The row of the gateway of a pool. -/
def gatewayAddress (poolId routerId interfaceId : String) (gateway : Inet) : PoolAddressRow where
  poolId := poolId
  routerId := routerId
  interfaceId := interfaceId
  ipAddress := gateway
  state := .router
  peerId := none
  comment := some "WireGuard interface address"

/-- The transaction of `createPool`, with the identifier and the time that the
    database gives to the new row. -/
def createPool (input : PoolInput) (newId : String) (now : ℤ) : Tx String := do
  let normalized ← Tx.ofExcept (normalizePoolInput input)
  let scope ← interfaceScope input.routerId input.interfaceId
  validateScope scope normalized
  let first ← castInet P normalized.startIp
  let last ← castInet P normalized.endIp
  assertNoOverlap P input.routerId first last none
  let cidr ← castInet P normalized.networkCidr
  let gateway ← castInet P normalized.gatewayIp
  Tx.insertPool {
    id := newId, name := normalized.name, routerId := input.routerId
    interfaceId := input.interfaceId, networkCidr := cidr, gatewayIp := gateway, startIp := first
    endIp := last, dns := normalized.dns, clientAllowedIps := normalized.clientAllowedIps
    endpointHost := normalized.endpointHost, endpointPort := normalized.endpointPort
    mtu := normalized.mtu, persistentKeepalive := normalized.persistentKeepalive
    enabled := normalized.enabled, createdAt := now }
  Tx.insertFreeAddress (gatewayAddress newId input.routerId input.interfaceId gateway)
  attachExistingPeers P newId input.routerId input.interfaceId first last
  return newId

/-- The part of `updatePool` that keeps the addresses of a pool in its range. -/
def assertNoneOutside (id : String) (first last : Inet) : Tx Unit := do
  let db ← get
  match db.addresses.rows.find? fun a => a.poolId = id ∧
      (a.state = .reserved ∨ a.state = .allocated) ∧ (a.ipAddress < first ∨ last < a.ipAddress) with
  | some a => throw (.poolConflict ("Cannot shrink this pool: " ++ hostText P a.ipAddress ++
      " is " ++ a.state.text ++ ".") none)
  | none => return ()

/-- The transaction of `updatePool`. -/
def updatePool (id : String) (input : PoolInput) : Tx Unit := do
  let normalized ← Tx.ofExcept (normalizePoolInput input)
  let current ← lockPool P id
  Tx.require (current.routerId = input.routerId) <| .poolConflict
    "A pool cannot be moved to another router. Create a new pool instead." none
  Tx.require (current.interfaceId = input.interfaceId) <| .poolConflict
    "A pool cannot be moved to another WireGuard interface. Create a new pool instead." none
  let scope ← interfaceScope input.routerId input.interfaceId
  validateScope scope normalized
  let first ← castInet P normalized.startIp
  let last ← castInet P normalized.endIp
  assertNoOverlap P input.routerId first last (some id)
  assertNoneOutside P id first last
  let cidr ← castInet P normalized.networkCidr
  let gateway ← castInet P normalized.gatewayIp
  Tx.updatePool id fun row => { row with
    name := normalized.name, interfaceId := input.interfaceId, networkCidr := cidr
    gatewayIp := gateway, startIp := first, endIp := last, dns := normalized.dns
    clientAllowedIps := normalized.clientAllowedIps, endpointHost := normalized.endpointHost
    endpointPort := normalized.endpointPort, mtu := normalized.mtu
    persistentKeepalive := normalized.persistentKeepalive, enabled := normalized.enabled }
  Tx.deleteAddresses fun a => a.poolId = id ∧ a.state = .router
  Tx.insertFreeAddress (gatewayAddress id input.routerId input.interfaceId gateway)
  attachExistingPeers P id input.routerId input.interfaceId first last

/-- `deletePool`. -/
def deletePool (id : String) : Tx Unit := do
  let pool ← lockPool P id
  let db ← get
  Tx.require (∀ p ∈ db.peers.rows, p.poolId ≠ some id) <| .poolConflict
    "Move or delete every peer assigned by this pool before deleting it." none
  Tx.require (∀ a ∈ db.addresses.rows, ¬(a.poolId = id ∧ a.state = .reserved)) <| .poolConflict
    "Remove this pool's reserved addresses before deleting it." none
  Tx.deletePool pool.id

/-! ## Reservations -/

/-- The part of `assertDatabaseAddressFree` about the peers of the router. -/
def assertNoPeerHas (pool : WireGuardPool) (ip : String) : Tx Unit := do
  let db ← get
  match (addressOwners db pool.routerId none).find? fun o => o.1 = ip with
  | some (_, owner) => throw (.poolConflict (conflictMessage ip owner) none)
  | none => return ()

/-- `assertDatabaseAddressFree`. -/
def assertDatabaseAddressFree (pool : WireGuardPool) (ip : String) : Tx Unit := do
  assertNoPeerHas pool ip
  let address ← castInet P ip
  let db ← get
  match db.addresses.rows.find? fun a => a.routerId = pool.routerId ∧ a.ipAddress = address with
  | some a => throw (.poolConflict ("Cannot reserve " ++ ip ++ ": it is " ++ a.state.text ++
      ((a.comment.bind nonEmpty).elim "" fun comment => " (" ++ comment ++ ")") ++ ".") none)
  | none => return ()

/-- `reservePoolAddress`. -/
def reservePoolAddress (poolId ipAddress comment : String) : Tx Unit := do
  let pool ← lockPool P poolId
  let ip ← Tx.ofExcept (validateAddressInPool pool ipAddress)
  assertDatabaseAddressFree P pool ip
  let address ← castInet P ip
  Tx.insertAddress {
    poolId := pool.id, routerId := pool.routerId, interfaceId := pool.interfaceId
    ipAddress := address, state := .reserved, peerId := none, comment := some comment }

/-- `unreservePoolAddress`. -/
def unreservePoolAddress (poolId ipAddress : String) : Tx Unit := do
  let address ← castInet P (normalizeClientIp ipAddress)
  let db ← get
  Tx.require (∃ a ∈ db.addresses.rows, a.poolId = poolId ∧ a.ipAddress = address ∧
    a.state = .reserved) (.poolConflict "That address is not a reservation in this pool." none)
  Tx.deleteAddresses fun a => a.poolId = poolId ∧ a.ipAddress = address ∧ a.state = .reserved

/-! ## What the parts do -/

variable {P} {α : Type} {db db' : Database} {b : α}

theorem castInet_bind_ok {text : String} {f : Inet → Tx α} :
    (castInet P text >>= f) db = .ok (b, db') ↔
      ∃ ip, P.inet text = some ip ∧ f ip db = .ok (b, db') :=
  Tx.orThrow_bind_ok

/-- Locking a pool finds its row and changes nothing. -/
theorem lockPool_bind_ok {id : String} {f : WireGuardPool → Tx α} :
    (lockPool P id >>= f) db = .ok (b, db') ↔
      ∃ row router interface, db.pool id = some row ∧ db.router row.routerId = some router ∧
        db.interface row.interfaceId = some interface ∧
        f (row.view P router interface) db = .ok (b, db') := by
  rw [lockPool, bind_assoc, Tx.get_bind]
  simp only [bind_assoc, Tx.orThrow_bind_ok, pure_bind, exists_and_left]

/-- A pool that is locked for a peer belongs to its router and interface. -/
theorem lockPoolForPeer_bind_ok {poolId routerId interfaceId : String}
    {f : WireGuardPool → Tx α} (h : (lockPoolForPeer P poolId routerId interfaceId >>= f) db
      = .ok (b, db')) :
    ∃ row router interface, db.pool poolId = some row ∧ row.routerId = routerId ∧
      row.interfaceId = interfaceId ∧ row.enabled = true ∧
      f (row.view P router interface) db = .ok (b, db') := by
  rw [lockPoolForPeer, bind_assoc] at h
  obtain ⟨row, router, interface, hrow, -, -, h⟩ := lockPool_bind_ok.1 h
  rw [bind_assoc] at h
  obtain ⟨⟨hrouter, hinterface⟩, h⟩ := Tx.require_bind_ok.1 h
  rw [bind_assoc] at h
  obtain ⟨henabled, h⟩ := Tx.require_bind_ok.1 h
  exact ⟨row, router, interface, hrow, hrouter, hinterface, henabled, h⟩

/-- The addresses of a range that can be chosen. -/
theorem firstFree_ok {free : String → Bool} {count value : ℕ} {ip : String}
    (h : firstFree free count value = .ok (some ip)) :
    ∃ n, value ≤ n ∧ n < value + count ∧ ip = dotted n ∧ n ≤ 0xffffffff ∧ free ip = true := by
  induction count generalizing value with
  | zero => simp [firstFree] at h
  | succ count ih =>
    unfold firstFree numberToIpv4 at h
    split_ifs at h with hvalue
    · simp only [bind, Except.bind] at h
      split_ifs at h with hfree
      · cases h
        exact ⟨value, le_rfl, by omega, rfl, hvalue, hfree⟩
      · obtain ⟨n, hle, hlt, rest⟩ := ih h
        exact ⟨n, by omega, by omega, rest⟩
    · exact absurd h nofun

/-- The bounds of a pool are hosts, whose numbers the application reads back. -/
structure PoolRow.Bounded (row : PoolRow) (first last gateway : ℕ) : Prop where
  start : row.startIp = .host first
  stop : row.endIp = .host last
  gateway : row.gatewayIp = .host gateway
  first_le : first ≤ 0xffffffff
  last_le : last ≤ 0xffffffff

/-- The addresses of an input that has been normalised are dotted. -/
theorem normalizePoolInput_ok {input normalized : PoolInput}
    (h : normalizePoolInput input = .ok normalized) :
    ∃ first last gateway, normalized.startIp = dotted first ∧ normalized.endIp = dotted last ∧
      normalized.gatewayIp = dotted gateway ∧ first ≤ 0xffffffff ∧ last ≤ 0xffffffff ∧
      gateway ≤ 0xffffffff := by
  obtain ⟨valid, hvalid, h⟩ := except_bind_ok.1 h
  obtain ⟨gateway, hgateway, hgateway'⟩ := validatePoolRange_gateway hvalid
  obtain ⟨-, h⟩ := rejectIf_bind_ok.1 h
  obtain ⟨start, hstart, h⟩ := except_bind_ok.1 h
  obtain ⟨stop, hstop, h⟩ := except_bind_ok.1 h
  cases h
  obtain ⟨hfirst, hfirst'⟩ := numberToIpv4_ok.1 hstart
  obtain ⟨hlast, hlast'⟩ := numberToIpv4_ok.1 hstop
  exact ⟨_, _, _, hfirst'.symm, hlast'.symm, hgateway'.symm, hfirst, hlast, hgateway⟩

/-- No pool of the router overlaps the range. -/
theorem assertNoOverlap_bind_ok {routerId : String} {first last : Inet} {excludeId : Option String}
    {f : Unit → Tx α} (h : (assertNoOverlap P routerId first last excludeId >>= f) db
      = .ok (b, db')) :
    (∀ p ∈ db.pools.rows, p.routerId = routerId → excludeId ≠ some p.id →
      p.endIp < first ∨ last < p.startIp) ∧ f () db = .ok (b, db') := by
  rw [assertNoOverlap, bind_assoc, Tx.get_bind] at h
  split at h
  · exact absurd h Tx.throw_bind_ne_ok
  · next hnone =>
    refine ⟨fun p hp hrouter hne => ?_, h⟩
    have hp := List.find?_eq_none.1 hnone p hp
    simp only [decide_eq_true_eq, not_and, not_not] at hp
    exact hp hrouter hne

/-- No reserved or allocated address of the pool is outside the range. -/
theorem assertNoneOutside_bind_ok {id : String} {first last : Inet} {f : Unit → Tx α}
    (h : (assertNoneOutside P id first last >>= f) db = .ok (b, db')) :
    (∀ a ∈ db.addresses.rows, a.poolId = id → a.state = .reserved ∨ a.state = .allocated →
      first ≤ a.ipAddress ∧ a.ipAddress ≤ last) ∧ f () db = .ok (b, db') := by
  rw [assertNoneOutside, bind_assoc, Tx.get_bind] at h
  split at h
  · exact absurd h Tx.throw_bind_ne_ok
  · next hnone =>
    refine ⟨fun a ha hid htaken => ?_, h⟩
    have ha := List.find?_eq_none.1 hnone a ha
    simp only [hid, htaken, true_and, decide_eq_true_eq, not_or, Inet.not_lt] at ha
    exact ha

theorem interfaceScope_bind_ok {routerId interfaceId : String} {f : InterfaceRow → Tx α}
    (h : (interfaceScope routerId interfaceId >>= f) db = .ok (b, db')) :
    ∃ scope, db.interface interfaceId = some scope ∧ scope.routerId = routerId ∧
      f scope db = .ok (b, db') := by
  rw [interfaceScope, bind_assoc, Tx.get_bind, bind_assoc] at h
  obtain ⟨scope, hscope, h⟩ := Tx.orThrow_bind_ok.1 h
  rw [bind_assoc] at h
  obtain ⟨hvalid, h⟩ := Tx.require_bind_ok.1 h
  exact ⟨scope, hscope, hvalid.1, h⟩

theorem validateScope_bind_ok {scope : InterfaceRow} {pool : PoolInput} {f : Unit → Tx α}
    (h : (validateScope scope pool >>= f) db = .ok (b, db')) : f () db = .ok (b, db') := by
  rw [validateScope, bind_assoc] at h
  obtain ⟨network, -, h⟩ := Tx.ofExcept_bind_ok.1 h
  exact (Tx.require_bind_ok.1 h).2

theorem assertDatabaseAddressFree_bind_ok {pool : WireGuardPool} {ip : String} {f : Unit → Tx α}
    (h : (assertDatabaseAddressFree P pool ip >>= f) db = .ok (b, db')) :
    f () db = .ok (b, db') := by
  rw [assertDatabaseAddressFree, assertNoPeerHas, bind_assoc, bind_assoc, Tx.get_bind] at h
  split at h
  · exact absurd h Tx.throw_bind_ne_ok
  · rw [pure_bind, bind_assoc] at h
    obtain ⟨address, -, h⟩ := castInet_bind_ok.1 h
    rw [bind_assoc, Tx.get_bind] at h
    split at h
    · exact absurd h Tx.throw_bind_ne_ok
    · exact h

/-- The peers that the database finds between two addresses. -/
theorem selectBetween_ok {first last : Inet} {peers : List PeerRow} {found : List (PeerRow × Inet)}
    (h : selectBetween P first last peers = .ok found) :
    ∀ x ∈ found, x.1 ∈ peers ∧ (∃ clientIp, x.1.clientIp = some clientIp ∧
      P.inet clientIp = some x.2) ∧ first ≤ x.2 ∧ x.2 ≤ last := by
  induction peers generalizing found with
  | nil =>
    cases h
    simp
  | cons p peers ih =>
    have hrest : ∀ rest, selectBetween P first last peers = .ok rest → ∀ x ∈ rest,
        x.1 ∈ p :: peers ∧ (∃ clientIp, x.1.clientIp = some clientIp ∧
          P.inet clientIp = some x.2) ∧ first ≤ x.2 ∧ x.2 ≤ last := fun rest hrest x hx => by
      obtain ⟨hmem, hx⟩ := ih hrest x hx
      exact ⟨List.mem_cons_of_mem _ hmem, hx⟩
    unfold selectBetween at h
    split at h
    · exact hrest found h
    · next clientIp hclient =>
      split at h
      · cases h
      · next ip hip =>
        obtain ⟨rest, hselect, h⟩ := except_bind_ok.1 h
        cases h
        split_ifs with hbetween
        · refine List.forall_mem_cons.2 ⟨?_, hrest rest hselect⟩
          exact ⟨List.mem_cons_self, ⟨clientIp, hclient, hip⟩, hbetween⟩
        · exact hrest rest hselect

section Bounds

variable {row : PoolRow} {first last gateway : ℕ}

theorem PoolRow.Bounded.view (hbounds : row.Bounded first last gateway) (router : RouterRow)
    (interface : InterfaceRow) :
    (row.view P router interface).startIp = dotted first ∧
      (row.view P router interface).endIp = dotted last ∧
      (row.view P router interface).gatewayIp = dotted gateway := by
  refine ⟨?_, ?_, ?_⟩
  · change hostText P row.startIp = _
    rw [hbounds.start]
    rfl
  · change hostText P row.endIp = _
    rw [hbounds.stop]
    rfl
  · change hostText P row.gatewayIp = _
    rw [hbounds.gateway]
    rfl

variable {router : RouterRow} {interface : InterfaceRow}

/-- A valid address has a number in the range of the pool. -/
theorem validateAddressInPool_ok (hbounds : row.Bounded first last gateway) {value ip : String}
    (h : validateAddressInPool (row.view P router interface) value = .ok ip) :
    ∃ n, ipv4ToNumber ip = .ok n ∧ first ≤ n ∧ n ≤ last ∧ ip ≠ dotted gateway := by
  obtain ⟨hstart, hstop, hgateway⟩ := hbounds.view (P := P) router interface
  rw [validateAddressInPool, hstart, hstop, hgateway, normalizeClientIp_dotted] at h
  obtain ⟨n, hnumber, h⟩ := except_bind_ok.1 h
  obtain ⟨range, hrange, h⟩ := except_bind_ok.1 h
  obtain ⟨-, rfl⟩ := ipv4Range_dotted hbounds.first_le hbounds.last_le hrange
  obtain ⟨hinside, h⟩ := rejectIf_bind_ok.1 h
  obtain ⟨hgateway, h⟩ := rejectIf_bind_ok.1 h
  obtain rfl := Except.ok.inj h
  dsimp only at hinside
  exact ⟨n, hnumber, by omega, by omega, hgateway⟩

/-- An address that is chosen for a peer has a number in the range of the pool. -/
theorem choosePoolAddress_bind_ok (hbounds : row.Bounded first last gateway)
    {remotePeers : List RemoteWireGuardPeer} {requestedIp excludePeerId : Option String}
    {f : String → Tx α}
    (h : (choosePoolAddress P (row.view P router interface) remotePeers requestedIp excludePeerId
      >>= f) db = .ok (b, db')) :
    ∃ ip n, ipv4ToNumber ip = .ok n ∧ first ≤ n ∧ n ≤ last ∧ f ip db = .ok (b, db') := by
  obtain ⟨hstart, hstop, -⟩ := hbounds.view (P := P) router interface
  rw [choosePoolAddress, bind_assoc, Tx.get_bind] at h
  cases hrequested : requestedIp.bind nonEmpty with
  | some requested =>
    simp only [hrequested, bind_assoc] at h
    obtain ⟨ip, hvalid, h⟩ := Tx.ofExcept_bind_ok.1 h
    obtain ⟨n, hnumber, hn, hn', -⟩ := validateAddressInPool_ok hbounds hvalid
    split at h
    · exact absurd h Tx.throw_bind_ne_ok
    · exact ⟨ip, n, hnumber, hn, hn', h⟩
  | none =>
    simp only [hrequested, bind_assoc] at h
    obtain ⟨range, hrange, h⟩ := Tx.ofExcept_bind_ok.1 h
    obtain ⟨chosen, hchosen, h⟩ := Tx.ofExcept_bind_ok.1 h
    obtain ⟨ip, rfl, h⟩ := Tx.orThrow_bind_ok.1 h
    rw [hstart, hstop] at hrange
    obtain ⟨hle, rfl⟩ := ipv4Range_dotted hbounds.first_le hbounds.last_le hrange
    obtain ⟨n, hn, hn', rfl, hmax, -⟩ := firstFree_ok hchosen
    dsimp only at hn hn'
    exact ⟨_, n, ipv4ToNumber_dotted hmax, hn, by omega, h⟩

end Bounds

/-- Claiming an address gives it a row and takes away rows that make it available. -/
theorem claimPoolAddress_ok {pool : WireGuardPool} {ip peerId peerName : String} {u : Unit}
    (h : claimPoolAddress P pool ip peerId peerName db = .ok (u, db')) :
    ∃ address addresses, P.inet ip = some address ∧ db' = { db with addresses } ∧
      addresses.rows = (db.addresses.rows.filter fun a =>
        !decide (a.poolId = pool.id ∧ a.ipAddress = address ∧ a.state = .available)) ++
        [{ poolId := pool.id, routerId := pool.routerId, interfaceId := pool.interfaceId
           ipAddress := address, state := .allocated, peerId := some peerId
           comment := some peerName }] := by
  obtain ⟨address, haddress, h⟩ := castInet_bind_ok.1 h
  obtain ⟨_, db₁, hdelete, h⟩ := Tx.bind_eq_ok.1 h
  obtain rfl := Tx.deleteAddresses_ok hdelete
  obtain ⟨addresses, rfl, hrows⟩ := Tx.insertAddress_ok h
  exact ⟨address, addresses, haddress, rfl, hrows⟩

end Platform

end WireguardPanel
