import WireguardPanel.AddressChoice
import WireguardPanel.ServiceCalls
import WireguardPanel.TransactionRules

/-!
# The configuration of a new client

`createPeer` generates the configuration of the client from its input and from
the rows of the pool, the router and the interface; `getPeerConfig` generates it
again from the row of the peer.

* `createdConfig`: the configuration that `createPeer` generates.
* `SameClient`: two databases that agree in what `getPeerConfig` reads.
* `createPeer_config_eq_iff`: the two configurations are equal just when the two
  ways to find the endpoint come to the same host and port.
-/

namespace WireguardPanel

open Foundation

/-! ## Endpoints -/

/-- A host as it is written in an endpoint. -/
def endpointHostText (host : String) : String :=
  if Text.includes host ":" ∧ host.toList.head? ≠ some '[' then "[" ++ host ++ "]" else host

/-- Configurations that differ in their endpoints at most. -/
theorem generateClientConfig_eq_iff {input : WireGuardConfigInput} {host host' : String}
    {port port' : ℤ} :
    generateClientConfig { input with endpointHost := host, endpointPort := port } =
        generateClientConfig { input with endpointHost := host', endpointPort := port' } ↔
      endpointHostText host = endpointHostText host' ∧ port = port' := by
  -- The endpoint is one line between others.
  have hline : ∃ front back, ∀ host port,
      generateClientConfig { input with endpointHost := host, endpointPort := port } =
        Text.join "\n" (front ++
          ("Endpoint = " ++ endpointHostText host ++ ":" ++ toString port) :: back) :=
    ⟨["[Interface]", "PrivateKey = " ++ input.privateKey, "Address = " ++
        (if Text.includes input.clientIp "/" then input.clientIp else input.clientIp ++ "/32"),
        "DNS = " ++ input.dns] ++
      ((nonZero input.mtu).elim [] fun mtu => ["MTU = " ++ toString mtu]) ++
      ["", "[Peer]", "PublicKey = " ++ input.serverPublicKey] ++
      ((filled input.presharedKey).elim [] fun key => ["PresharedKey = " ++ key]) ++
      ["AllowedIPs = " ++ input.allowedIps],
      ["PersistentKeepalive = " ++ toString input.persistentKeepalive, ""], fun host port => by
      rw [List.append_assoc]
      rfl⟩
  obtain ⟨front, back, hline⟩ := hline
  rw [hline, hline, Text.join_eq_join_iff]
  constructor
  · intro h
    have hcolon : ∀ n : ℤ, ':' ∉ (toString n).toList.reverse := fun n hmem => by
      rcases Text.mem_toString_int (List.mem_reverse.1 hmem) with hsign | hdigit
      · exact absurd hsign (by decide)
      · exact absurd hdigit (by decide)
    have hchars := congrArg (fun s : String => s.toList.reverse) h
    simp only [String.toList_append, List.reverse_append, List.append_assoc] at hchars
    change (toString port).toList.reverse ++ ':' :: _ = (toString port').toList.reverse ++ ':' :: _
      at hchars
    obtain ⟨hport, hhost⟩ := Text.append_cons_inj (hcolon port) (hcolon port') hchars
    refine ⟨?_, Text.toString_int_injective (String.ext (List.reverse_injective hport))⟩
    exact String.ext (List.reverse_injective (List.append_cancel_right hhost))
  · rintro ⟨hhost, rfl⟩
    rw [hhost]

/-! ## The two configurations -/

section Config

variable (input : CreatePeerInput) (pool : WireGuardPool) (router : RouterRow)
  (interface : InterfaceRow)

/-- The host of the endpoint that `createPeer` finds. -/
def createdHost : String :=
  ((filled input.endpointOverride).or <| (filled pool.endpointHost).or <|
    (filled router.endpointHostname).or (filled router.endpointIp)).getD router.managementIp

/-- The port of the endpoint that `createPeer` finds. -/
def createdPort : ℤ :=
  ((nonZero input.endpointPortOverride).or <| (nonZero pool.endpointPort).or <|
    nonZero router.wireguardPort).getD interface.listenPort

/-- The host that `getPeerConfig` finds. -/
def storedHost : String :=
  ((filled input.endpointOverride).or <|
    (filled router.endpointHostname).or (filled router.endpointIp)).getD router.managementIp

/-- The port that `getPeerConfig` finds. -/
def storedPort : ℤ := (nonZero input.endpointPortOverride).getD interface.listenPort

/-- The host and the port that are found are the same, up to the brackets of an
    IPv6 address. -/
def SameEndpoint : Prop :=
  endpointHostText (createdHost input pool router) = endpointHostText (storedHost input router) ∧
    createdPort input pool router interface = storedPort input interface

/-- What goes into the configuration, with the host and the port of the
    endpoint. -/
def clientInput (keys : WireGuardKeys) (clientIp host : String) (port : ℤ) :
    WireGuardConfigInput where
  privateKey := keys.privateKey
  clientIp := clientIp
  dns := (filled input.dnsServer).getD pool.dns
  serverPublicKey := interface.publicKey
  presharedKey := keys.presharedKey
  allowedIps := (filled input.clientAllowedIps).getD pool.clientAllowedIps
  endpointHost := host
  endpointPort := port
  persistentKeepalive := input.persistentKeepalive.getD pool.persistentKeepalive
  mtu := some (input.mtu.getD pool.mtu)

/-- The configuration that `createPeer` generates. -/
def createdConfig (keys : WireGuardKeys) (clientIp : String) : String :=
  generateClientConfig (clientInput input pool interface keys clientIp
    (createdHost input pool router) (createdPort input pool router interface))

end Config

/-- What is relied on of the encryption of secrets: what has been encrypted is
    decrypted again, and is not empty. -/
structure Platform.Seals (P : Platform) : Prop where
  decrypt : ∀ s, P.decryptSecret (P.encryptSecret s) = .ok s
  encrypt : ∀ s, P.encryptSecret s ≠ ""

/-- A row without the columns that are written after its staging. -/
def PeerRow.client (p : PeerRow) : PeerRow :=
  { p with
    remoteId := none, remoteFingerprint := none, lastRemoteState := none
    accounting := .fresh, presence := .fresh, bandwidth := .fresh
    lifecycleStatus := .creating, syncState := .pending, lastAppliedState := .obj [] }

theorem nonEmpty_eq_some {s : String} (h : s ≠ "") : nonEmpty s = some s := if_neg h

theorem filled_filled (s : Option String) : filled (filled s) = filled s := by
  rcases s with _ | s
  · rfl
  · change filled (nonEmpty s) = nonEmpty s
    unfold nonEmpty
    split_ifs with hs
    · rfl
    · exact if_neg hs

theorem nonZero_nonZero (n : Option ℤ) : nonZero (nonZero n) = nonZero n := by
  rcases n with _ | n
  · rfl
  · by_cases hn : n = 0
    · subst hn
      rfl
    · have hkeep : nonZero (some n) = some n := Option.filter_some_pos (by simpa using hn)
      rw [hkeep, hkeep]

/-- What `getPeerConfig` needs of a staged row, and the hash of its
    configuration. -/
theorem client_columns {P : Platform} (hP : P.Seals) {input : CreatePeerInput}
    {pool : WireGuardPool} {router : RouterRow} {interface : InterfaceRow} {keys : WireGuardKeys}
    {peerId clientIp : String} {window : Option QuotaWindow} {peer : PeerRow}
    (hfilled : clientIp ≠ "")
    (hpeer : peer.client =
      (stagedRow P input peerId router interface pool keys clientIp window).client) :
    filled peer.privateKeyEncrypted = some (P.encryptSecret keys.privateKey) ∧
      filled peer.clientIp = some clientIp ∧
      peer.qrConfigHash =
        some (qrConfigHash P (createdConfig input pool router interface keys clientIp)) := by
  refine ⟨?_, ?_, congrArg PeerRow.qrConfigHash hpeer⟩
  · rw [show peer.privateKeyEncrypted = some (P.encryptSecret keys.privateKey) from
      congrArg PeerRow.privateKeyEncrypted hpeer]
    exact nonEmpty_eq_some (hP.encrypt _)
  · rw [show peer.clientIp = some clientIp from congrArg PeerRow.clientIp hpeer]
    exact nonEmpty_eq_some hfilled

/-- A secret that has been encrypted if it was there is decrypted again. -/
theorem Platform.Seals.decryptFilled {P : Platform} (hP : P.Seals) (secret : Option String) :
    P.decryptFilled (secret.map P.encryptSecret) = .ok secret := by
  cases secret with
  | none => rfl
  | some secret =>
    unfold Platform.decryptFilled
    rw [Option.map_some, filled, Option.bind_some, nonEmpty_eq_some (hP.encrypt secret)]
    change some <$> P.decryptSecret (P.encryptSecret secret) = _
    rw [hP.decrypt]
    rfl

/-- The configuration of a staged row can be generated again, and is the one that was generated
    just when the endpoints are the same. -/
theorem ConfigRow.exists_config {P : Platform} (hP : P.Seals) {input : CreatePeerInput}
    {pool : WireGuardPool} {keys : WireGuardKeys} {peerId clientIp : String}
    {window : Option QuotaWindow} {row : ConfigRow}
    (hrow : row.peer.client =
      (stagedRow P input peerId row.router row.interface pool keys clientIp window).client) :
    ∃ config, row.config P (P.encryptSecret keys.privateKey) clientIp = .ok config ∧
      (config = createdConfig input pool row.router row.interface keys clientIp ↔
        SameEndpoint input pool row.router row.interface) := by
  have hcolumn : ∀ {β : Type} (f : PeerRow → β), f row.peer.client =
      f (stagedRow P input peerId row.router row.interface pool keys clientIp window).client :=
    fun f => congrArg f hrow
  have hkey : P.decryptFilled row.peer.presharedKeyEncrypted = .ok (filled keys.presharedKey) := by
    rw [show row.peer.presharedKeyEncrypted = (filled keys.presharedKey).map P.encryptSecret from
      hcolumn PeerRow.presharedKeyEncrypted]
    exact hP.decryptFilled _
  have hfilled : ∀ config : WireGuardConfigInput,
      generateClientConfig { config with presharedKey := filled config.presharedKey } =
        generateClientConfig config := fun config => by
    unfold generateClientConfig
    rw [filled_filled]
  have hstored : row.config P (P.encryptSecret keys.privateKey) clientIp =
      .ok (generateClientConfig (clientInput input pool row.interface keys clientIp
        (storedHost input row.router) (storedPort input row.interface))) := by
    refine Eq.trans ?_ (congrArg Except.ok (hfilled _))
    rw [ConfigRow.config, hkey, hP.decrypt,
      show row.peer.dnsServer = _ from hcolumn PeerRow.dnsServer,
      show row.peer.clientAllowedIps = _ from hcolumn PeerRow.clientAllowedIps,
      show row.peer.endpointOverride = filled input.endpointOverride from
        hcolumn PeerRow.endpointOverride,
      show row.peer.endpointPortOverride = nonZero input.endpointPortOverride from
        hcolumn PeerRow.endpointPortOverride,
      show row.peer.persistentKeepalive = _ from hcolumn PeerRow.persistentKeepalive,
      show row.peer.mtu = _ from hcolumn PeerRow.mtu, filled_filled, nonZero_nonZero]
    rfl
  refine ⟨_, hstored, ?_⟩
  rw [createdConfig, eq_comm]
  exact @generateClientConfig_eq_iff
    (clientInput input pool row.interface keys clientIp "" 0) _ _ _ _

/-! ## What stays as it was staged -/

/-- Two databases that agree in what `getPeerConfig` reads. -/
structure SameClient (db db' : Database) : Prop where
  peer : ∀ id, (db'.peer id).map PeerRow.client = (db.peer id).map PeerRow.client
  routers : db'.routers = db.routers
  interfaces : db'.interfaces = db.interfaces

instance : IsPreorder Database SameClient where
  refl _ := ⟨fun _ => rfl, rfl, rfl⟩
  trans _ _ _ h h' := ⟨fun id => (h'.peer id).trans (h.peer id), h'.routers.trans h.routers,
    h'.interfaces.trans h.interfaces⟩

variable {P : Platform}

/-- A statement that keeps what `getPeerConfig` reads. -/
def Statement.KeepsClient (P : Platform) (s : Statement) : Prop :=
  ∀ now id, Within SameClient (s.tx P now id)

theorem keepsClient_updatePeer {peerId : String} {update : PeerUpdate}
    (h : ∀ now p, (update.apply P now p).client = p.client) :
    (Statement.updatePeer peerId update).KeepsClient P := fun now _ db _ db' htx => by
  have hpeer := Tx.peer_updatePeer (fun p => update.apply_id now p) htx
  obtain ⟨peers, rfl, -⟩ := Tx.updatePeer_ok htx
  refine ⟨fun id => ?_, rfl, rfl⟩
  rw [hpeer]
  split_ifs
  · rw [Option.map_map]
    exact Option.map_congr fun p _ => h now p
  · rfl

theorem keepsClient_operation {operationId : String} {s : Statement}
    (h : s.OfOperation operationId) : s.KeepsClient P := by
  intro now id db a db' htx
  cases s <;> try exact False.elim h
  all_goals
    cases htx
    exact ⟨fun _ => rfl, rfl, rfl⟩

theorem keepsClient_bandwidth {peerId : String} {s : Statement} (h : s.OfBandwidth peerId) :
    s.KeepsClient P := by
  cases s <;> try exact False.elim h
  case updatePeer id update =>
    cases update <;> try exact False.elim h
    exact keepsClient_updatePeer fun _ _ => rfl
  case deleteManagedQueue =>
    intro now id db a db' htx
    cases htx
    exact ⟨fun _ => rfl, rfl, rfl⟩
  case storeManagedQueue row =>
    intro now id db a db' htx
    change Tx.upsertManagedObject row db = _ at htx
    unfold Tx.upsertManagedObject at htx
    split at htx
    · exact absurd htx nofun
    · obtain ⟨managedObjects, -, hrest⟩ := Tx.statement_bind_ok.1 htx
      cases Tx.return_eq_ok.1 hrest
      exact ⟨fun _ => rfl, rfl, rfl⟩

/-! ## The run -/

/-- What the staging transaction leaves. -/
theorem stagePeer_ok {input : CreatePeerInput} {peerId operationId : String} {router : RouterRow}
    {interface : InterfaceRow} {keys : WireGuardKeys}
    {listing : Except AppError (List RemoteWireGuardPeer)} {now : ℤ} {db db' : Database}
    {staged : StagedPeer}
    (h : stagePeer P input peerId operationId router interface keys listing now
      db = .ok (staged, db')) :
    ∃ row poolRouter poolInterface window, db.pool input.poolId = some row ∧
      staged.clientIp ≠ "" ∧ db'.peer peerId = some (stagedRow P input peerId router interface
        (row.view P poolRouter poolInterface) keys staged.clientIp window) ∧
      db'.routers = db.routers ∧ db'.interfaces = db.interfaces := by
  obtain ⟨row, poolRouter, poolInterface, hrow, -, -, -, h⟩ := lockPoolForPeer_bind_ok h
  obtain ⟨remotePeers, -, h⟩ := Tx.ofExcept_bind_ok.1 h
  obtain ⟨clientIp, db₁, hchoose, h⟩ := Tx.bind_eq_ok.1 h
  obtain rfl : db = db₁ := within_choosePoolAddress _ _ _ hchoose
  rw [stageChosen, Tx.get_bind] at h
  obtain ⟨window, -, h⟩ := Tx.ofExcept_bind_ok.1 h
  obtain ⟨_, db₂, hinsert, h⟩ := Tx.bind_eq_ok.1 h
  obtain ⟨_, db₃, hclaim, h⟩ := Tx.bind_eq_ok.1 h
  obtain ⟨_, db₄, hoperation, hreturn⟩ := Tx.bind_eq_ok.1 h
  cases hoperation
  cases hreturn
  have haddress : clientIp ≠ "" := by
    rintro rfl
    obtain ⟨n, hnumber⟩ := choosePoolAddress_number hchoose
    exact absurd hnumber nofun
  refine ⟨row, poolRouter, poolInterface, window, hrow, haddress, ?_⟩
  have hunique := fun p => Tx.eq_of_insertPeer (p := p) hinsert
  obtain ⟨peers, rfl, hpeers⟩ := Tx.insertPeer_ok hinsert
  obtain ⟨_, addresses, -, rfl, -⟩ := claimPoolAddress_ok hclaim
  refine ⟨?_, rfl, rfl⟩
  exact @Database.peer_eq_some { db with peers } _
    (hpeers ▸ List.mem_append_right _ (List.mem_singleton_self _))

section Run

variable {faults : Call → Fault → Prop} {ℓ : Type} {l l' : ℓ} {w w' : World}

/-- A creation that is abandoned does not return. -/
theorem not_returns_abandonCreation {routerId peerId operationId : String} {e : AppError}
    {k k' : CreationLocals} {a : String} :
    ¬(abandonCreation routerId peerId operationId e).Returns (World.environment P faults) k w a k'
      w' := fun h =>
  have hnever : Procedure.Makes (Call.Executing fun _ => True)
      (abandonCreation routerId peerId operationId e) fun _ => False :=
    makes_abandonCreation trivial (fun _ _ _ => trivial) fun _ _ => trivial
  (hnever.returns (K := fun _ => True) (fun _ _ _ _ _ _ _ => trivial) trivial h).1

/-- What a creation that returns leaves: the row as it was staged, as far as the
    configuration is concerned. -/
theorem returns_createStagedPeer {input : CreatePeerInput} {peerId operationId clientIp : String}
    {router : RouterRow} {interface : InterfaceRow} {keys : WireGuardKeys} {now : ℤ}
    {k k' : CreationLocals}
    (h : (createStagedPeer P input peerId operationId router interface keys now).Returns
      (World.environment P faults) k w clientIp k' w') :
    ∃ row poolRouter poolInterface window, w.db.pool input.poolId = some row ∧ clientIp ≠ "" ∧
      (w'.db.peer peerId).map PeerRow.client = some (stagedRow P input peerId router interface
        (row.view P poolRouter poolInterface) keys clientIp window).client ∧
      w'.db.routers = w.db.routers ∧ w'.db.interfaces = w.db.interfaces := by
  obtain ⟨listing, k₁, w₁, hlisting, h⟩ := Procedure.returns_bind.1 h
  have hdb : w₁.db = w.db := by
    have hread : Executes (fun _ => False)
        (Procedure.attempt (Service.request router.id .getPeers) : Service CreationLocals _) :=
      Executes.attempt (executes_request trivial)
    exact hread.returns (I := fun db => db = w.db) (fun _ hs => absurd hs id) rfl hlisting
  obtain ⟨staged, k₂, w₂, hstage, h⟩ := Procedure.returns_bind.1 h
  obtain ⟨_, _, db, htx, rfl, rfl⟩ := Service.returns_execute hstage
  rw [hdb] at htx
  obtain ⟨row, poolRouter, poolInterface, window, hrow, hfilled, hpeer, hrouters, hinterfaces⟩ :=
    stagePeer_ok htx
  -- What follows keeps the row as it is staged, and returns its address.
  have hrest : clientIp = staged.clientIp ∧ SameClient db w'.db := by
    have hstep : (Statement.operationStep operationId).KeepsClient P :=
      @keepsClient_operation P operationId _ rfl
    refine Procedure.Makes.returns (S := Call.Executing (Statement.KeepsClient P))
      (Q := fun a => a = staged.clientIp) (K := fun w => SameClient db w.db) ?_
      (Call.Executing.within fun _ hs => hs) (Std.Refl.refl _) h
    refine Procedure.makes_modify.bind fun _ _ => ?_
    refine Procedure.Makes.bind (executes_execute hstep) fun _ _ => ?_
    refine Procedure.Makes.bind (executes_request trivial) fun _ _ => ?_
    refine Procedure.Makes.bind (executes_execute fun _ _ => within_confirmAddress) fun _ _ => ?_
    refine Procedure.Makes.bind (executes_request trivial) fun remoteId _ => ?_
    refine Procedure.makes_modify.bind fun _ _ => ?_
    refine Procedure.Makes.bind (executes_request trivial) fun remotePeers _ => ?_
    split
    · exact Procedure.makes_throw
    · refine Procedure.Makes.bind
        (executes_execute (keepsClient_updatePeer fun _ _ => rfl)) fun _ _ => ?_
      refine Procedure.Makes.bind (executes_execute hstep) fun _ _ => ?_
      refine Procedure.Makes.bind executes_getEffectivePeerBandwidth fun _ _ => ?_
      refine Procedure.Makes.bind executes_applyPeerBandwidthRemote fun _ _ => ?_
      refine Procedure.Makes.bind
        (executes_persistBandwidthResult fun _ => keepsClient_bandwidth) fun _ _ => ?_
      refine Procedure.Makes.bind (executes_execute hstep) fun _ _ => ?_
      refine Procedure.Makes.bind
        (executes_execute (keepsClient_updatePeer fun _ _ => rfl)) fun _ _ => ?_
      exact Procedure.Makes.bind (executes_execute (keepsClient_operation rfl)) fun _ _ =>
        Procedure.makes_pure rfl
  obtain ⟨haddress, hsame⟩ := hrest
  refine ⟨row, poolRouter, poolInterface, window, hrow, haddress ▸ hfilled, ?_,
    hsame.routers.trans hrouters,
    hsame.interfaces.trans hinterfaces⟩
  rw [hsame.peer, hpeer, haddress]
  rfl

/-- The rows from which the configuration of a new peer is generated again. -/
theorem returns_createPeer {input : CreatePeerInput} {peerId clientIp : String}
    {keys : WireGuardKeys} {now : ℤ}
    (h : (createPeer P input peerId keys now).Returns (World.environment P faults) l w clientIp l'
      w') :
    ∃ row poolRouter poolInterface router interface window peer,
      w.db.pool input.poolId = some row ∧ w.db.router input.routerId = some router ∧
      w.db.interface input.interfaceId = some interface ∧ clientIp ≠ "" ∧
      peer.client = (stagedRow P input peerId router interface
        (row.view P poolRouter poolInterface) keys clientIp window).client ∧
      w'.db.configRow peerId = some ⟨peer, interface, router⟩ := by
  obtain ⟨operationId, l₁, w₁, hstart, h⟩ := Procedure.returns_bind.1 h
  obtain ⟨_, _, db, htx, rfl, rfl⟩ := Service.returns_execute hstart
  obtain ⟨-, -, rfl⟩ := Tx.insertOperation_ok htx
  obtain ⟨router, l₁, w₁, hget, h⟩ := Procedure.returns_bind.1 h
  obtain ⟨hrouter, hrouterId, rfl, rfl⟩ := returns_getRouter hget
  obtain ⟨_, l₁, w₁, hquery, h⟩ := Procedure.returns_bind.1 h
  obtain ⟨rfl, rfl, rfl⟩ := Service.returns_query hquery
  obtain ⟨interface, l₁, w₁, hthrow, h⟩ := Procedure.returns_bind.1 h
  obtain ⟨hfind, rfl, rfl⟩ := Service.returns_orThrow hthrow
  obtain ⟨hinterface, -⟩ := Option.filter_eq_some_iff.1 hfind
  have hinterfaceId : interface.id = input.interfaceId := by
    simpa using List.find?_some hinterface
  obtain ⟨_, l₁, w₁, hclient, h⟩ := Procedure.returns_bind.1 h
  obtain ⟨-, rfl, rfl⟩ := returns_clientForRouter hclient
  obtain ⟨k', hrun, rfl⟩ := Procedure.returns_withLocals h
  rcases Procedure.returns_tryCatch.1 hrun with hcreate | ⟨e, _, _, -, habandon⟩
  · obtain ⟨row, poolRouter, poolInterface, window, hrow, hfilled, hpeer, hrouters, hinterfaces⟩ :=
      returns_createStagedPeer hcreate
    obtain ⟨peer, hfind, hpeer⟩ := Option.map_eq_some_iff.1 hpeer
    refine ⟨row, poolRouter, poolInterface, router, interface, window, peer, hrow, hrouter,
      hinterface, hfilled, hpeer, ?_⟩
    have hplace : peer.interfaceId = input.interfaceId ∧ peer.routerId = input.routerId :=
      ⟨(congrArg PeerRow.interfaceId hpeer).trans hinterfaceId,
        (congrArg PeerRow.routerId hpeer).trans hrouterId⟩
    rw [Database.configRow, hfind]
    change (w'.db.interface peer.interfaceId).bind _ = _
    rw [hplace.1, show w'.db.interface input.interfaceId = some interface by
      rw [Database.interface, hinterfaces]
      exact hinterface]
    change (w'.db.router peer.routerId).bind _ = _
    rw [hplace.2, show w'.db.router input.routerId = some router by
      rw [Database.router, hrouters]
      exact hrouter]
    rfl
  · exact absurd habandon not_returns_abandonCreation

theorem Database.peer_of_configRow {db : Database} {peerId : String} {row : ConfigRow}
    (h : db.configRow peerId = some row) : db.peer peerId = some row.peer := by
  obtain ⟨peer, hpeer, h⟩ := Option.bind_eq_some_iff.1 h
  obtain ⟨interface, -, h⟩ := Option.bind_eq_some_iff.1 h
  obtain ⟨router, -, h⟩ := Option.bind_eq_some_iff.1 h
  cases h
  exact hpeer

/-- What `getPeerConfig` returns. -/
theorem returns_getPeerConfig {peerId config : String} {row : ConfigRow}
    {privateKey clientIp : String} (hrow : w.db.configRow peerId = some row)
    (hkey : filled row.peer.privateKeyEncrypted = some privateKey)
    (haddress : filled row.peer.clientIp = some clientIp) :
    (getPeerConfig P peerId : Service ℓ String).Returns (World.environment P faults) l w config l'
        w' → row.config P privateKey clientIp = .ok config := by
  intro h
  obtain ⟨_, l₁, w₁, hquery, h⟩ := Procedure.returns_bind.1 h
  obtain ⟨rfl, rfl, rfl⟩ := Service.returns_query hquery
  obtain ⟨row', l₁, w₁, hthrow, h⟩ := Procedure.returns_bind.1 h
  obtain ⟨hrow', rfl, rfl⟩ := Service.returns_orThrow hthrow
  cases hrow.symm.trans hrow'
  rw [hkey, haddress] at h
  exact (Service.returns_ofExcept h).1

/-- `getPeerConfig` returns, if its query does not fail and the secrets can be decrypted. -/
theorem exists_returns_getPeerConfig {peerId config : String} {row : ConfigRow}
    {privateKey clientIp : String} (hrow : w.db.configRow peerId = some row)
    (hkey : filled row.peer.privateKeyEncrypted = some privateKey)
    (haddress : filled row.peer.clientIp = some clientIp)
    (hconfig : row.config P privateKey clientIp = .ok config) (hnone : ∀ c, faults c .none) :
    (getPeerConfig P peerId : Service ℓ String).Returns (World.environment P faults) l w config l
      w := by
  refine Procedure.returns_bind.2 ⟨_, l, w, Procedure.returns_call.2 ⟨⟨{}, hnone _, rfl⟩, rfl⟩, ?_⟩
  refine Procedure.returns_bind.2 ⟨row, l, w, ?_, ?_⟩
  · change (Service.orThrow (w.db.configRow peerId) _).Returns _ _ _ _ _ _
    rw [hrow]
    exact Procedure.returns_pure.2 ⟨rfl, rfl, rfl⟩
  · rw [hkey, haddress]
    change (Service.ofExcept (row.config P privateKey clientIp)).Returns _ _ _ _ _ _
    rw [hconfig]
    exact Procedure.returns_pure.2 ⟨rfl, rfl, rfl⟩

end Run

/-- After a creation, and as long as the rows of the peer, the router and the
    interface are not changed, the configuration that `getPeerConfig` returns is
    the one that was generated, and whose hash was stored, just when the
    endpoints are the same. -/
theorem createPeer_config_eq_iff (P : Platform) (hP : P.Seals) (faults : Call → Fault → Prop)
    {ℓ : Type} {l l' : ℓ} {w w' : World} {input : CreatePeerInput} {peerId clientIp : String}
    {keys : WireGuardKeys} {now : ℤ}
    (h : (createPeer P input peerId keys now).Returns (World.environment P faults) l w clientIp l'
      w') :
    ∃ row poolRouter poolInterface router interface, w.db.pool input.poolId = some row ∧
      w.db.router input.routerId = some router ∧
      w.db.interface input.interfaceId = some interface ∧
      (w'.db.peer peerId).map PeerRow.qrConfigHash = some (some (qrConfigHash P
        (createdConfig input (row.view P poolRouter poolInterface) router interface keys
          clientIp))) ∧
      ∀ w₁ : World, w₁.db.configRow peerId = w'.db.configRow peerId →
        ∃ config, (getPeerConfig P peerId).Returns
            (World.environment P fun _ _ => True) () w₁ config
            () w₁ ∧
          (∀ config' w₂, (getPeerConfig P peerId).Returns (World.environment P faults) () w₁ config'
            () w₂ → config' = config) ∧
          (config = createdConfig input (row.view P poolRouter poolInterface) router interface keys
              clientIp ↔
            SameEndpoint input (row.view P poolRouter poolInterface) router interface) := by
  obtain ⟨row, poolRouter, poolInterface, router, interface, window, peer, hrow, hrouter,
    hinterface, hfilled, hpeer, hconfig⟩ := returns_createPeer h
  obtain ⟨hkey, haddress, hhash⟩ := client_columns hP hfilled hpeer
  refine ⟨row, poolRouter, poolInterface, router, interface, hrow, hrouter, hinterface, ?_,
    fun w₁ hsame => ?_⟩
  · rw [Database.peer_of_configRow hconfig, Option.map_some, hhash]
  · rw [hconfig] at hsame
    obtain ⟨config, hgenerated, hiff⟩ :=
      @ConfigRow.exists_config P hP _ _ _ _ _ _ ⟨peer, interface, router⟩ hpeer
    refine ⟨config, exists_returns_getPeerConfig hsame hkey haddress hgenerated fun _ => trivial,
      fun config' w₂ h => ?_, hiff⟩
    exact Except.ok.inj ((returns_getPeerConfig hsame hkey haddress h).symm.trans hgenerated)

/-! ## A second peer of the installation -/

/-- A platform that marks what it has encrypted, and rejects what is not marked. -/
def sealingPlatform : Platform :=
  { Platform.plain with
    encryptSecret s := "v1:" ++ s
    decryptSecretWithKey s :=
      if s.toList.take 3 = ['v', '1', ':'] then .ok (String.ofList (s.toList.drop 3))
      else .error "Encrypted value is invalid." }

theorem sealingPlatform_seals : sealingPlatform.Seals where
  decrypt s := by
    have hchars : (sealingPlatform.encryptSecret s).toList = ['v', '1', ':'] ++ s.toList :=
      String.toList_append
    have hmarked :
        sealingPlatform.decryptSecretWithKey (sealingPlatform.encryptSecret s) = .ok s := by
      refine (if_pos (by rw [hchars]; rfl)).trans (congrArg Except.ok ?_)
      rw [hchars]
      exact String.ofList_toList
    unfold Platform.decryptSecret
    rw [hmarked]
  encrypt s h := by
    have hchars := congrArg String.toList h
    rw [show sealingPlatform.encryptSecret s = "v1:" ++ s from rfl, String.toList_append] at hchars
    exact absurd hchars (List.append_ne_nil_of_left_ne_nil (by decide) _)

/-- The router of the installation, with credentials that the platform has encrypted. -/
def sealedRouter : RouterRow :=
  { plainRouter with usernameEncrypted := "v1:admin", passwordEncrypted := "v1:password" }

/-- The installation with another pool. -/
def poolWorld (pool : PoolRow) (hpool : poolSchema.check pool = true) : World where
  db := { plainDatabase plainPeer plainPeer_check with
    routers := [sealedRouter], pools := .single pool hpool }
  routers _ := plainContent plainRemote

/-- The pool of the installation with an endpoint of its own. -/
def hostedPool : PoolRow := { plainPool with endpointHost := some "vpn.example.net" }

def secondPeerInput : CreatePeerInput where
  routerId := "r1"
  interfaceId := "i1"
  poolId := "w1"
  name := "Second peer"

def secondKeys : WireGuardKeys where
  privateKey := "private"
  publicKey := "second key"
  presharedKey := none

/-- The creation of a second peer. -/
def createSecondPeer : Service Unit String :=
  createPeer sealingPlatform secondPeerInput "p2" secondKeys 0

/-- The creation returns, and the configuration can be generated again. -/
theorem exists_createSecondPeer (pool : PoolRow) (hpool : poolSchema.check pool = true)
    (h : ((createSecondPeer.run sealingPlatform (List.replicate 40 { id := "*2" })
      (poolWorld pool hpool)).bind fun result => result.1.toOption) = some "10.0.0.3") :
    ∃ w', createSecondPeer.Returns (World.environment sealingPlatform fun _ _ => True) ()
      (poolWorld pool hpool) "10.0.0.3" () w' := by
  obtain ⟨⟨r, w'⟩, hrun, hr⟩ := Option.bind_eq_some_iff.1 h
  cases r with
  | error e => cases hr
  | ok a =>
    cases hr
    exact ⟨w', Service.returns_of_run hrun⟩

/-- The pool has no endpoint of its own: the configurations are the same. -/
theorem createPeer_config_eq_iff_secondPeer :
    ∃ w' config, createSecondPeer.Returns (World.environment sealingPlatform fun _ _ => True) ()
        (poolWorld plainPool (by decide)) "10.0.0.3" () w' ∧
      (getPeerConfig sealingPlatform "p2").Returns
        (World.environment sealingPlatform fun _ _ => True) () w' config () w' ∧
      config = createdConfig secondPeerInput
        (plainPool.view sealingPlatform sealedRouter plainInterface) sealedRouter plainInterface
        secondKeys "10.0.0.3" := by
  obtain ⟨w', hcreate⟩ := exists_createSecondPeer plainPool (by decide) (by decide +kernel)
  obtain ⟨row, poolRouter, poolInterface, router, interface, hrow, hrouter,
      hinterface, -, hafter⟩ :=
    createPeer_config_eq_iff sealingPlatform sealingPlatform_seals _ hcreate
  cases hrow
  cases hrouter
  cases hinterface
  obtain ⟨config, hconfig, -, hiff⟩ := hafter w' rfl
  exact ⟨w', config, hcreate, hconfig, hiff.2 ⟨rfl, rfl⟩⟩

/-- The endpoint of the pool is in the configuration that was generated, but not
    in that which is generated again. -/
theorem exists_createPeer_config_ne :
    ¬∀ (P : Platform), P.Seals → ∀ (input : CreatePeerInput) (peerId clientIp : String)
      (keys : WireGuardKeys) (now : ℤ) (w w' w₁ : World) (config : String),
      (createPeer P input peerId keys now).Returns (World.environment P fun _ _ => True) () w
        clientIp () w' →
      (getPeerConfig P peerId).Returns (World.environment P fun _ _ => True) () w' config () w₁ →
      (w'.db.peer peerId).bind PeerRow.qrConfigHash = some (qrConfigHash P config) := by
  intro h
  obtain ⟨w', hcreate⟩ := exists_createSecondPeer hostedPool (by decide) (by decide +kernel)
  obtain ⟨row, poolRouter, poolInterface, router, interface, window, peer, hrow, hrouter,
    hinterface, hfilled, hpeer, hrows⟩ := returns_createPeer hcreate
  cases hrow
  cases hrouter
  cases hinterface
  obtain ⟨hkey, haddress, hhash⟩ := client_columns sealingPlatform_seals hfilled hpeer
  obtain ⟨config, hgenerated, hiff⟩ := @ConfigRow.exists_config sealingPlatform
    sealingPlatform_seals _ _ _ _ _ _ ⟨peer, plainInterface, sealedRouter⟩ hpeer
  have hsame := h sealingPlatform sealingPlatform_seals secondPeerInput "p2" "10.0.0.3" secondKeys 0
    _ w' w' _ hcreate (exists_returns_getPeerConfig hrows hkey haddress hgenerated fun _ => trivial)
  rw [Database.peer_of_configRow hrows, Option.bind_some, hhash] at hsame
  -- The digests of this platform are the texts themselves.
  have hconfig := String.toList_injective (String.ofList_injective (Option.some.inj hsame))
  have hendpoint := hiff.1 hconfig.symm
  have hhost : endpointHostText "vpn.example.net" = endpointHostText "192.0.2.1" := hendpoint.1
  exact absurd hhost (by decide)

end WireguardPanel
