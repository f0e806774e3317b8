import WireguardPanel.PeerService
import WireguardPanel.PoolRanges

/-!
# The networks of a router

Before a pool is saved, its network is compared with the addresses and the
routes of the router. They may only overlap it where the selected interface
itself has the network.

* `assertNoRouterNetworkOverlap`: the service.
* `Ipv4Network.Meets`: two networks have an address in common (`cidrsOverlap_iff`).
* `NetworkClear`: what may overlap a pool.
* `networkClear_iff`: a network that is accepted is clear if and only if no route
  for it goes through an interface whose name has the selected one in it.
-/

namespace WireguardPanel

open Foundation

/-! ## The service -/

section Service

variable (networkCidr gatewayIp interfaceName : String)

/-- `assertNoRouterNetworkOverlap` for an address of the router. -/
def assertAddressClear (address : RemoteAddress) : Except AppError Unit :=
  if address.disabled = true then return ()
  else
    match parseIpv4Cidr address.address with
    | .error _ => return ()
    | .ok observed => do
      if (← cidrsOverlap networkCidr observed.cidr) = true then
        let network ← parseIpv4Cidr networkCidr
        rejectIf (¬(address.interfaceName = interfaceName ∧ observed.cidr = network.cidr ∧
            normalizeClientIp address.address = normalizeClientIp gatewayIp)) <|
          .poolConflict ("Cannot safely create " ++ networkCidr ++
            ".\n\nThis network overlaps RouterOS address " ++ address.address ++ " on " ++
            address.interfaceName ++ ".") none

/-- The destination of a route. -/
def routeDestination (route : RemoteRecord) : Option String :=
  (recordField route "dst-address").or (recordField route "dstAddress")

/-- The gateway of a route, or its interface. -/
def routeGateway (route : RemoteRecord) : String :=
  ((recordField route "gateway").or (recordField route "interface")).getD "unknown gateway"

/-- `connectedToSelected` of a route for exactly the network. -/
def connectedToSelected (route : RemoteRecord) : Bool :=
  decide (routeGateway route = interfaceName) ||
    (recordField route "immediate-gw").any fun gateway => Text.includes gateway interfaceName

/-- `assertNoRouterNetworkOverlap` for a route of the router. -/
def assertRouteClear (route : RemoteRecord) : Except AppError Unit :=
  match (routeDestination route).bind nonEmpty with
  | none => return ()
  | some destination =>
    if destination = "0.0.0.0/0" then return ()
    else
      match cidrsOverlap networkCidr destination with
      | .error _ | .ok false => return ()
      | .ok true => do
        let observed ← parseIpv4Cidr destination
        let network ← parseIpv4Cidr networkCidr
        rejectIf
          (¬(observed.cidr = network.cidr ∧ connectedToSelected interfaceName route = true)) <|
          .poolConflict ("Cannot safely create " ++ networkCidr ++
            ".\n\nThis network overlaps RouterOS route " ++ destination ++ " via " ++
            routeGateway route ++ ".") none

/-- The loops of `assertNoRouterNetworkOverlap`. -/
def assertNetworkClear (addresses : List RemoteAddress) (routes : List RemoteRecord) :
    Except AppError Unit := do
  addresses.forM (assertAddressClear networkCidr gatewayIp interfaceName)
  routes.forM (assertRouteClear networkCidr interfaceName)

end Service

/-- The message of an error. No statement of the database runs where it is asked for. -/
def AppError.message : AppError → String
  | .error message | .ipAllocation message | .poolConflict message _
  | .reconciliationConflict message | .driftChanged message | .bandwidthConflict message _
  | .routerConnection _ message => message
  | .database _ => "router unavailable"

/-- `assertNoRouterNetworkOverlap`. -/
def assertNoRouterNetworkOverlap {ℓ : Type} (P : Platform)
    (routerId interfaceId networkCidr gatewayIp : String) : Service ℓ Unit := do
  let router ← getRouter routerId
  let row ← Service.query fun db =>
    db.interfaces.rows.find? fun i => i.id = interfaceId ∧ i.routerId = routerId
  match row with
  | none => throw (.poolConflict
      "The selected WireGuard interface does not belong to this router." none)
  | some interfaceRow => do
    clientForRouter P router
    tryCatch (do
        let addresses ← Service.request router.id .getAddresses
        let routes ← Service.request router.id .getRoutes
        Service.ofExcept
          (assertNetworkClear networkCidr gatewayIp interfaceRow.name addresses routes))
      fun e =>
        match e with
        | .poolConflict .. => throw e
        | e => throw (.poolConflict ("Cannot verify RouterOS networks before saving the pool: " ++
            e.message ++ ".") none)

/-! ## Overlapping networks -/

namespace Ipv4Network

/-- Two networks have an address in common. -/
def Meets (a b : Ipv4Network) : Prop :=
  ∃ n, (a.networkNumber ≤ n ∧ n ≤ a.broadcastNumber) ∧ b.networkNumber ≤ n ∧ n ≤ b.broadcastNumber

/-- A network has its own address. -/
theorem Block.networkNumber_le {a : Ipv4Network} (h : a.Block) :
    a.networkNumber ≤ a.broadcastNumber := by
  have hlast := h.last
  have hpos := Nat.two_pow_pos (32 - a.pfx)
  omega

theorem meets_iff {a b : Ipv4Network} (ha : a.Block) (hb : b.Block) :
    a.Meets b ↔ a.networkNumber ≤ b.broadcastNumber ∧ b.networkNumber ≤ a.broadcastNumber := by
  have hale := ha.networkNumber_le
  have hble := hb.networkNumber_le
  constructor
  · rintro ⟨n, ha', hb'⟩
    omega
  · intro h
    exact ⟨max a.networkNumber b.networkNumber, by omega, by omega⟩

end Ipv4Network

theorem cidrsOverlap_iff {left right : String} {a b : Ipv4Network}
    (ha : parseIpv4Cidr left = .ok a) (hb : parseIpv4Cidr right = .ok b) :
    cidrsOverlap left right = .ok (decide (a.networkNumber ≤ b.broadcastNumber ∧
      b.networkNumber ≤ a.broadcastNumber)) := by
  rw [cidrsOverlap, ha, hb]
  rfl

theorem cidrsOverlap_of_meets {left right : String} {a b : Ipv4Network}
    (ha : parseIpv4Cidr left = .ok a) (hb : parseIpv4Cidr right = .ok b) (h : a.Meets b) :
    cidrsOverlap left right = .ok true := by
  rw [cidrsOverlap_iff ha hb, decide_eq_true]
  exact (Ipv4Network.meets_iff (parseIpv4Cidr_block ha) (parseIpv4Cidr_block hb)).1 h

/-- Networks with the same canonical text are the same. -/
theorem network_eq_of_cidr {left right : String} {a b : Ipv4Network}
    (ha : parseIpv4Cidr left = .ok a) (hb : parseIpv4Cidr right = .ok b) (h : a.cidr = b.cidr) :
    a = b := by
  have hread := parseIpv4Cidr_cidr ha
  rw [h] at hread
  exact Except.ok.inj (hread.symm.trans (parseIpv4Cidr_cidr hb))

/-! ## What may overlap a pool -/

/-- A route goes through an interface: RouterOS writes the name of the interface,
    after the address of the next hop if there is one. -/
def RouteThrough (interfaceName : String) (route : RemoteRecord) : Prop :=
  routeGateway route = interfaceName ∨ ∃ gateway, recordField route "immediate-gw" = some gateway ∧
    (gateway = interfaceName ∨ ∃ hop, gateway = hop ++ "%" ++ interfaceName)

/-- Only the selected interface has addresses and routes that overlap the network
    of a pool: the gateway in that network, and the route for that network. -/
structure NetworkClear (network : Ipv4Network) (gatewayIp interfaceName : String)
    (addresses : List RemoteAddress) (routes : List RemoteRecord) : Prop where
  addresses : ∀ address ∈ addresses, address.disabled = false →
    ∀ observed, parseIpv4Cidr address.address = .ok observed → network.Meets observed →
      address.interfaceName = interfaceName ∧ observed = network ∧
        normalizeClientIp address.address = normalizeClientIp gatewayIp
  /-- The default route may overlap every network. -/
  routes : ∀ route ∈ routes, ∀ destination, routeDestination route = some destination →
    ∀ observed, parseIpv4Cidr destination = .ok observed → observed.pfx ≠ 0 →
      network.Meets observed → observed = network ∧ RouteThrough interfaceName route

/-- The name of the selected interface stands in the immediate gateway of a route
    for the network only where the route goes through that interface. -/
def NamesSelected (network : Ipv4Network) (interfaceName : String) (routes : List RemoteRecord) :
    Prop :=
  ∀ route ∈ routes, ∀ destination, routeDestination route = some destination →
    parseIpv4Cidr destination = .ok network → network.pfx ≠ 0 →
      ∀ gateway, recordField route "immediate-gw" = some gateway →
        Text.includes gateway interfaceName = true → RouteThrough interfaceName route

theorem forM_ok {α : Type} {check : α → Except AppError Unit} {xs : List α} {u : Unit}
    (h : xs.forM check = .ok u) : ∀ x ∈ xs, check x = .ok () := by
  induction xs with
  | nil => exact nofun
  | cons x xs ih =>
    obtain ⟨_, hx, hxs⟩ := except_bind_ok.1 h
    exact List.forall_mem_cons.2 ⟨hx, ih hxs⟩

section Clear

variable {networkCidr gatewayIp interfaceName : String} {network : Ipv4Network}
  (hnetwork : parseIpv4Cidr networkCidr = .ok network)

include hnetwork

theorem assertAddressClear_ok {address : RemoteAddress} {observed : Ipv4Network}
    (h : assertAddressClear networkCidr gatewayIp interfaceName address = .ok ())
    (henabled : address.disabled = false) (hobserved : parseIpv4Cidr address.address = .ok observed)
    (hmeets : network.Meets observed) :
    address.interfaceName = interfaceName ∧ observed = network ∧
      normalizeClientIp address.address = normalizeClientIp gatewayIp := by
  have hoverlap := cidrsOverlap_of_meets hnetwork (parseIpv4Cidr_cidr hobserved) hmeets
  unfold assertAddressClear at h
  rw [if_neg (by rw [henabled]; decide), hobserved] at h
  obtain ⟨overlaps, hoverlaps, h⟩ := except_bind_ok.1 h
  obtain rfl := Except.ok.inj (hoverlap.symm.trans hoverlaps)
  rw [if_pos rfl, hnetwork] at h
  obtain ⟨hname, hcidr, hhost⟩ := not_not.1 (rejectIf_ok.1 h)
  exact ⟨hname, network_eq_of_cidr hobserved hnetwork hcidr, hhost⟩

theorem assertRouteClear_ok {route : RemoteRecord} {destination : String} {observed : Ipv4Network}
    (h : assertRouteClear networkCidr interfaceName route = .ok ())
    (hdestination : routeDestination route = some destination)
    (hobserved : parseIpv4Cidr destination = .ok observed) (hdefault : observed.pfx ≠ 0)
    (hmeets : network.Meets observed) :
    observed = network ∧ connectedToSelected interfaceName route = true := by
  have hoverlap := cidrsOverlap_of_meets hnetwork hobserved hmeets
  have hempty : nonEmpty destination = some destination := if_neg fun hempty => by
    have herror : (parseIpv4Cidr "").toBool = false := by decide +kernel
    rw [← hempty, hobserved] at herror
    cases herror
  have hspecific : destination ≠ "0.0.0.0/0" := fun hwhole => by
    have hzero : parseIpv4Cidr "0.0.0.0/0" = .ok (networkOf 0 0) :=
      parseIpv4Cidr_eq (by decide +kernel : Text.split '/' (Text.trim "0.0.0.0/0") =
        ["0.0.0.0", "0"]) (by decide +kernel) (by decide +kernel)
    rw [hwhole] at hobserved
    obtain rfl := Except.ok.inj (hzero.symm.trans hobserved)
    exact hdefault rfl
  unfold assertRouteClear at h
  rw [hdestination, Option.bind_some, hempty] at h
  dsimp only at h
  rw [if_neg hspecific, hoverlap] at h
  dsimp only at h
  rw [hobserved, hnetwork] at h
  obtain ⟨hcidr, hconnected⟩ := not_not.1 (rejectIf_ok.1 h)
  exact ⟨network_eq_of_cidr hobserved hnetwork hcidr, hconnected⟩

/-- A network that is accepted is clear if and only if the name of the selected
    interface only stands where the route goes through that interface. -/
theorem assertNetworkClear_iff {addresses : List RemoteAddress} {routes : List RemoteRecord}
    (h : assertNetworkClear networkCidr gatewayIp interfaceName addresses routes = .ok ()) :
    NetworkClear network gatewayIp interfaceName addresses routes ↔
      NamesSelected network interfaceName routes := by
  obtain ⟨_, haddresses, hroutes⟩ := except_bind_ok.1 h
  constructor
  -- A route to the network itself meets it.
  · intro hclear route hroute destination hdestination hparse hdefault _ _ _
    have hmeets : network.Meets network := by
      have hle := (parseIpv4Cidr_block hnetwork).networkNumber_le
      exact ⟨network.networkNumber, ⟨le_refl _, hle⟩, le_refl _, hle⟩
    exact (hclear.routes route hroute destination hdestination network hparse hdefault hmeets).2
  · intro hnames
    refine ⟨fun address haddress henabled observed hobserved hmeets =>
      assertAddressClear_ok hnetwork (forM_ok haddresses address haddress) henabled
        hobserved hmeets,
      fun route hroute destination hdestination observed hobserved hdefault hmeets => ?_⟩
    obtain ⟨rfl, hconnected⟩ := assertRouteClear_ok hnetwork (forM_ok hroutes route hroute)
      hdestination hobserved hdefault hmeets
    refine ⟨rfl, ?_⟩
    rcases Bool.or_eq_true_iff.1 hconnected with hgateway | himmediate
    · exact .inl (of_decide_eq_true hgateway)
    -- The gateway only has the name of the interface somewhere in it.
    · obtain ⟨gateway, hgateway, hincludes⟩ := (Option.any_eq_true _ _).1 himmediate
      exact hnames route hroute destination hdestination hobserved hdefault gateway hgateway
        hincludes

end Clear

section Runs

variable {P : Platform} {faults : Call → Fault → Prop} {ℓ : Type} {l l' : ℓ} {w w' : World}

theorem returns_assertNoRouterNetworkOverlap {routerId interfaceId networkCidr gatewayIp : String}
    (h : (assertNoRouterNetworkOverlap P routerId interfaceId networkCidr gatewayIp :
      Service ℓ Unit).Returns (World.environment P faults) l w () l' w') :
    ∃ interfaceRow ∈ w.db.interfaces.rows,
      interfaceRow.id = interfaceId ∧ interfaceRow.routerId = routerId ∧
      assertNetworkClear networkCidr gatewayIp interfaceRow.name (w.routers routerId).addresses
        (w.routers routerId).routes = .ok () := by
  obtain ⟨router, l₁, w₁, hrouter, h⟩ := Procedure.returns_bind.1 h
  obtain ⟨-, hid, rfl, rfl⟩ := returns_getRouter hrouter
  obtain ⟨row, l₁, w₁, hquery, h⟩ := Procedure.returns_bind.1 h
  obtain ⟨hrow, rfl, rfl⟩ := Service.returns_query hquery
  cases row with
  | none => exact absurd h Procedure.not_returns_throw
  | some interfaceRow =>
    have hmem := List.mem_of_find?_eq_some hrow.symm
    have hsome := List.find?_some hrow.symm
    refine ⟨interfaceRow, hmem, (of_decide_eq_true hsome).1, (of_decide_eq_true hsome).2, ?_⟩
    obtain ⟨_, l₁, w₁, hclient, h⟩ := Procedure.returns_bind.1 h
    obtain ⟨-, rfl, rfl⟩ := returns_clientForRouter hclient
    -- Whatever fails, the handler throws.
    have hbody := (Procedure.returns_tryCatch.1 h).resolve_right fun ⟨e, l₁, w₁, _, hhandler⟩ => by
      cases e <;> exact Procedure.not_returns_throw hhandler
    obtain ⟨addresses, l₁, w₁, haddresses, hbody⟩ := Procedure.returns_bind.1 hbody
    obtain ⟨_, _, hperform, rfl, rfl⟩ := Service.returns_request haddresses
    cases hperform
    obtain ⟨routes, l₁, w₁, hroutes, hbody⟩ := Procedure.returns_bind.1 hbody
    obtain ⟨_, _, hperform, rfl, rfl⟩ := Service.returns_request hroutes
    cases hperform
    have hclear := (Service.returns_ofExcept hbody).1
    rw [hid] at hclear
    have hsame : ((w.setRouter routerId (w.routers routerId)).routers routerId).routes =
      (w.routers routerId).routes := by
      simp [World.setRouter]
    rw [hsame] at hclear
    exact hclear

/-- When `assertNoRouterNetworkOverlap` accepts a network, the router is clear of it
    if and only if the name of the selected interface only stands where the route
    goes through that interface. -/
theorem networkClear_iff {routerId interfaceId networkCidr gatewayIp : String}
    {network : Ipv4Network} (hnetwork : parseIpv4Cidr networkCidr = .ok network)
    (h : (assertNoRouterNetworkOverlap P routerId interfaceId networkCidr gatewayIp :
      Service ℓ Unit).Returns (World.environment P faults) l w () l' w') :
    ∃ interfaceRow ∈ w.db.interfaces.rows,
      interfaceRow.id = interfaceId ∧ interfaceRow.routerId = routerId ∧
      (NetworkClear network gatewayIp interfaceRow.name (w.routers routerId).addresses
          (w.routers routerId).routes ↔
        NamesSelected network interfaceRow.name (w.routers routerId).routes) := by
  obtain ⟨interfaceRow, hmem, hid, hrouter, hclear⟩ := returns_assertNoRouterNetworkOverlap h
  exact ⟨interfaceRow, hmem, hid, hrouter, assertNetworkClear_iff hnetwork hclear⟩

end Runs

/-! ## A router with one route -/

/-- The installation, whose router has the given routes. -/
def routedWorld (routes : List RemoteRecord) : World :=
  { plainWorld plainPeer (by decide) plainRemote with
    routers := fun _ => { plainContent plainRemote with routes } }

theorem exists_returns_assertNoRouterNetworkOverlap {routes : List RemoteRecord}
    {networkCidr gatewayIp : String}
    (h : assertNetworkClear networkCidr gatewayIp "wg1" [] routes = .ok ()) :
    ∃ w', (assertNoRouterNetworkOverlap Platform.plain "r1" "i1" networkCidr gatewayIp :
      Service Unit Unit).Returns (World.environment Platform.plain fun _ _ => True) ()
        (routedWorld routes) () () w' := by
  have hquery : ∀ {α : Type} (read : Database → α), (Service.query read : Service Unit α).Returns
      (World.environment Platform.plain fun _ _ => True) () (routedWorld routes)
      (read (routedWorld routes).db) () (routedWorld routes) := fun read =>
    Procedure.returns_call.2 ⟨⟨{}, trivial, rfl⟩, rfl⟩
  have hlist : ∀ (w : World) (q : RouterRequest) (a : q.Result),
      q.perform "" (w.routers "r1") = some (a, w.routers "r1") →
      (Service.request "r1" q : Service Unit _).Returns
        (World.environment Platform.plain fun _ _ => True) () w a ()
        (w.setRouter "r1" (w.routers "r1")) := fun w q a hperform =>
    Procedure.returns_call.2 ⟨⟨{}, trivial, by simp [World.answer, hperform]⟩, rfl⟩
  have hrouter : (getRouter "r1" : Service Unit RouterRow).Returns
      (World.environment Platform.plain fun _ _ => True) () (routedWorld routes) plainRouter ()
      (routedWorld routes) :=
    Procedure.returns_bind.2 ⟨some plainRouter, (), routedWorld routes, hquery _,
      Procedure.returns_pure.2 ⟨rfl, rfl, rfl⟩⟩
  let w₁ := (routedWorld routes).setRouter "r1" ((routedWorld routes).routers "r1")
  let w₂ := w₁.setRouter "r1" (w₁.routers "r1")
  refine ⟨w₂, Procedure.returns_bind.2 ⟨plainRouter, (), routedWorld routes, hrouter,
    Procedure.returns_bind.2 ⟨some plainInterface, (), routedWorld routes, hquery _, ?_⟩⟩⟩
  refine Procedure.returns_bind.2 ⟨(), (), routedWorld routes, Procedure.returns_bind.2
    ⟨("admin", "password"), (), routedWorld routes, Procedure.returns_pure.2 ⟨rfl, rfl, rfl⟩,
      Procedure.returns_pure.2 ⟨rfl, rfl, rfl⟩⟩, ?_⟩
  refine Procedure.returns_tryCatch.2 (.inl ?_)
  refine Procedure.returns_bind.2 ⟨[], (), w₁, hlist _ .getAddresses _ rfl, ?_⟩
  refine Procedure.returns_bind.2 ⟨routes, (), w₂, hlist w₁ .getRoutes _ rfl, ?_⟩
  change (Service.ofExcept (assertNetworkClear networkCidr gatewayIp "wg1" [] routes)).Returns _ _ _
    _ _ _
  rw [h]
  exact Procedure.returns_pure.2 ⟨rfl, rfl, rfl⟩

/-- A route through an interface. -/
def routeVia (destination gateway immediate : String) : RemoteRecord :=
  [("dst-address", destination), ("gateway", gateway), ("immediate-gw", immediate)]

/-- `networkClear_iff` of a router with the route of its interface. -/
theorem networkClear_iff_connected :
    NetworkClear (networkOf 0x0a000000 24) "10.0.0.1" "wg1" []
      [routeVia "10.0.0.0/24" "wg1" "wg1"] := by
  obtain ⟨w', hreturns⟩ := exists_returns_assertNoRouterNetworkOverlap
    (by decide +kernel : assertNetworkClear "10.0.0.0/24" "10.0.0.1" "wg1" []
      [routeVia "10.0.0.0/24" "wg1" "wg1"] = .ok ())
  obtain ⟨interfaceRow, hmem, -, -, hiff⟩ := networkClear_iff parse_plainNetwork hreturns
  obtain rfl := List.mem_singleton.1 hmem
  refine hiff.2 fun route hroute _ _ _ _ _ _ _ => ?_
  obtain rfl := List.mem_singleton.1 hroute
  exact .inl rfl

/-- The route of another interface, whose name has the selected one in it, is
    taken for that of the selected interface. -/
theorem exists_not_networkClear :
    ¬∀ (w w' : World) (routerId interfaceId networkCidr gatewayIp : String)
      (network : Ipv4Network) (interfaceRow : InterfaceRow),
      parseIpv4Cidr networkCidr = .ok network → interfaceRow ∈ w.db.interfaces.rows →
      interfaceRow.id = interfaceId → interfaceRow.routerId = routerId →
      (assertNoRouterNetworkOverlap Platform.plain routerId interfaceId networkCidr gatewayIp :
        Service Unit Unit).Returns (World.environment Platform.plain fun _ _ =>
          True) () w () () w' →
      NetworkClear network gatewayIp interfaceRow.name (w.routers routerId).addresses
        (w.routers routerId).routes := by
  intro h
  -- The name of the interface `wg10` begins with that of `wg1`.
  obtain ⟨w', hreturns⟩ := exists_returns_assertNoRouterNetworkOverlap
    (by decide +kernel : assertNetworkClear "10.0.0.0/24" "10.0.0.1" "wg1" []
      [routeVia "10.0.0.0/24" "10.9.9.9" "10.9.9.9%wg10"] = .ok ())
  have hclear := h _ w' "r1" "i1" _ _ _ plainInterface parse_plainNetwork
    (List.mem_singleton_self _) rfl rfl hreturns
  have hmeets : (networkOf 0x0a000000 24).Meets (networkOf 0x0a000000 24) :=
    ⟨0x0a000000, by decide, by decide⟩
  obtain ⟨-, hgateway | ⟨gateway, himmediate, hthrough⟩⟩ :=
    hclear.routes _ (List.mem_singleton_self _)
    "10.0.0.0/24" rfl _ parse_plainNetwork (by decide) hmeets
  · exact absurd hgateway (by decide)
  · obtain rfl : "10.9.9.9%wg10" = gateway := Option.some.inj himmediate
    rcases hthrough with hthrough | ⟨hop, hthrough⟩
    · exact absurd hthrough (by decide)
    · have hlast := congrArg (fun s : String => s.toList.getLast?) hthrough
      have hname : plainInterface.name.toList.getLast? = some '1' := by decide
      rw [String.toList_append, List.getLast?_append, hname, Option.some_or] at hlast
      exact absurd hlast (by decide)

end WireguardPanel
