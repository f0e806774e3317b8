import WireguardPanel.Sync
import WireguardPanel.Foundation.System

/-!
# The allocation of addresses

What is true of pools, pool addresses and managed peers in every state that the
transactions of the application reach.

* `PoolTransaction`: the transactions on pools and on the addresses of peers.
* `AddressLaw`: the ranges of pools are disjoint, addresses lie in the range of
  their pool, and every managed peer has one address of its own.
* `Allocation`: the invariant, with a peer that a transaction is about to place.
-/

namespace WireguardPanel

open Foundation

/-! ## The law -/

/-- An address lies in the range of a pool. -/
def PoolRow.Contains (pool : PoolRow) (ip : Inet) : Prop :=
  ip.family = .v4 ∧ pool.startIp.addr ≤ ip.addr ∧ ip.addr ≤ pool.endIp.addr

/-- An address is reserved or allocated. -/
def PoolAddressRow.Taken (a : PoolAddressRow) : Prop := a.state = .reserved ∨ a.state = .allocated

/-- The client address of a peer denotes an address. -/
def PeerRow.Denotes (P : Platform) (p : PeerRow) (ip : Inet) : Prop :=
  ∃ clientIp, p.clientIp = some clientIp ∧ P.inet clientIp = some ip

/-- A row allocates to a peer the address that it has, in its pool and router. -/
structure PoolAddressRow.Gives (P : Platform) (a : PoolAddressRow) (p : PeerRow) : Prop where
  allocated : a.state = .allocated
  peer : a.peerId = some p.id
  pool : p.poolId = some a.poolId
  router : a.routerId = p.routerId
  address : p.Denotes P a.ipAddress

/-- What the allocation of addresses is meant to guarantee. -/
structure AddressLaw (P : Platform) (db : Database) : Prop where
  /-- The ranges of two pools of a router are disjoint. -/
  disjoint : ∀ p ∈ db.pools.rows, ∀ q ∈ db.pools.rows, p.routerId = q.routerId → p.id ≠ q.id →
    ∀ ip, p.Contains ip → ¬q.Contains ip
  /-- A reserved or allocated address lies in the range of its pool. -/
  inside : ∀ a ∈ db.addresses.rows, a.Taken → ∃ pool ∈ db.pools.rows, pool.id = a.poolId ∧
    pool.Contains a.ipAddress ∧ a.ipAddress.addr ≠ pool.gatewayIp.addr ∧
    a.ipAddress.addr ≠ pool.networkCidr.network ∧ a.ipAddress.addr ≠ pool.networkCidr.broadcast
  /-- A managed peer has exactly one allocated row, which gives it its address. -/
  placed : ∀ p ∈ db.peers.rows, p.origin = .managed →
    ∃ a, db.addresses.rows.filter
        (fun a => decide (a.state = .allocated ∧ a.peerId = some p.id)) = [a] ∧ a.Gives P p
  /-- Managed peers of a router with the same client address are the same. -/
  distinct : ∀ p ∈ db.peers.rows, ∀ q ∈ db.peers.rows, p.origin = .managed → q.origin = .managed →
    p.routerId = q.routerId → ∀ ip, p.Denotes P ip → q.Denotes P ip → p = q

/-! ## Transactions -/

/-- The transactions on pools and on the addresses of peers. `stagePeer` has
    looked up the rows of the router and the interface that the input names. -/
inductive PoolTransaction
  | createPool (input : PoolInput) (newId : String) (now : ℤ)
  | updatePool (id : String) (input : PoolInput)
  | deletePool (id : String)
  | reservePoolAddress (poolId ipAddress comment : String)
  | unreservePoolAddress (poolId ipAddress : String)
  | stagePeer (input : CreatePeerInput) (peerId operationId : String) (router : RouterRow)
      (interface : InterfaceRow) (keys : WireGuardKeys)
      (listing : Except AppError (List RemoteWireGuardPeer)) (now : ℤ)
      (hrouter : router.id = input.routerId) (hinterface : interface.id = input.interfaceId)
  | releaseStagedPeer (peerId : String)
  | commitUpdate (commit : PeerCommit) (now : ℤ)
  | archiveAndDelete (row : PeerRow)
  | importPeer (routerId interfaceId : String) (remote : RemoteWireGuardPeer)
      (fingerprint : String) (onlineSeconds : ℤ) (newId : String) (now : ℤ)
  | adoptRouterState (peer : PeerRow) (poolId : String) (remote : RemoteWireGuardPeer)
      (peers : List RemoteWireGuardPeer) (clientIp : String)

section Platform

variable (P : Platform)

/-- The transaction on the database. -/
def PoolTransaction.tx : PoolTransaction → Tx Unit
  | .createPool input newId now => do
    let _ ← WireguardPanel.createPool P input newId now
    return ()
  | .updatePool id input => WireguardPanel.updatePool P id input
  | .deletePool id => WireguardPanel.deletePool P id
  | .reservePoolAddress poolId ipAddress comment =>
    WireguardPanel.reservePoolAddress P poolId ipAddress comment
  | .unreservePoolAddress poolId ipAddress => WireguardPanel.unreservePoolAddress P poolId ipAddress
  | .stagePeer input peerId operationId router interface keys listing now _ _ => do
    let _ ← WireguardPanel.stagePeer P input peerId operationId router interface keys listing now
    return ()
  | .releaseStagedPeer peerId => WireguardPanel.releaseStagedPeer peerId
  | .commitUpdate commit now => WireguardPanel.commitUpdate P commit now
  | .archiveAndDelete row => WireguardPanel.archiveAndDelete row
  | .importPeer routerId interfaceId remote fingerprint onlineSeconds newId now =>
    WireguardPanel.importPeer P routerId interfaceId remote fingerprint onlineSeconds newId now
  | .adoptRouterState peer poolId remote peers clientIp =>
    WireguardPanel.adoptRouterState P peer poolId remote peers clientIp

/-- The columns of a peer that say who it is and what address it has. -/
def PeerRow.placement (p : PeerRow) : String × String × Option String × Option String × Origin :=
  (p.id, p.routerId, p.poolId, p.clientIp, p.origin)

/-- Everything else that happens to the database: it changes no pool, no pool
    address and no placement of a peer. -/
structure SamePlacement (db db' : Database) : Prop where
  pools : db'.pools = db.pools
  addresses : db'.addresses = db.addresses
  peers : db'.peers.rows.map PeerRow.placement = db.peers.rows.map PeerRow.placement

/-- The database as a system: a transaction commits, or something else happens. -/
def poolSystem : System Database (Option PoolTransaction) where
  step
    | some t, db, db' => t.tx P db = .ok ((), db')
    | none, db, db' => SamePlacement db db'

/-! ## Conditions -/

/-- If the database finds an address between two others, it lies between them. -/
def Fits (first last ip : Inet) : Prop :=
  first ≤ ip → ip ≤ last → ip.family = .v4 ∧ first.addr ≤ ip.addr ∧ ip.addr ≤ last.addr

/-- The addresses of the peers of an interface fit a range. -/
def PeersFit (db : Database) (routerId interfaceId : String) (first last : Inet) : Prop :=
  ∀ p ∈ db.peers.rows, p.routerId = routerId → p.interfaceId = interfaceId →
    ∀ ip, p.Denotes P ip → Fits first last ip

/-- The condition on a transaction and the state before it: the addresses that
    it compares with a range fit it, and it does not adopt a drift of a managed
    peer that is no longer in the pool and on the router of the drift. -/
def PoolTransaction.Fits (db : Database) : PoolTransaction → Prop
  | .createPool input _ _ => ∀ normalized first last, normalizePoolInput input = .ok normalized →
      P.inet normalized.startIp = some first → P.inet normalized.endIp = some last →
      PeersFit P db input.routerId input.interfaceId first last
  | .updatePool id input => ∀ normalized first last, normalizePoolInput input = .ok normalized →
      P.inet normalized.startIp = some first → P.inet normalized.endIp = some last →
      PeersFit P db input.routerId input.interfaceId first last ∧
      ∀ a ∈ db.addresses.rows, a.poolId = id → a.Taken → WireguardPanel.Fits first last a.ipAddress
  | .importPeer routerId interfaceId remote _ _ _ _ => ∀ clientIp ip pool,
      importedClientIp remote.allowedAddress = some clientIp → P.inet clientIp = some ip →
      importPool db routerId interfaceId ip = some pool → pool.Contains ip
  | .adoptRouterState peer poolId _ _ _ => ∀ p ∈ db.peers.rows, p.id = peer.id →
      p.origin = .managed → p.poolId = some poolId ∧ p.routerId = peer.routerId
  | _ => True

/-- The condition on a step. -/
def AdmitsStep (step : Option PoolTransaction) (db : Database) : Prop :=
  ∀ t ∈ step, t.Fits P db

/-! ## The invariant -/

/-- An address lies in the range of its pool, on its router. -/
def PoolAddressRow.InPool (a : PoolAddressRow) (db : Database) : Prop :=
  ∃ pool ∈ db.pools.rows, pool.id = a.poolId ∧ pool.routerId = a.routerId ∧
    pool.Contains a.ipAddress

/-- The invariant. The peer `except` may be without its address. -/
structure Allocation (except : Option String) (db : Database) : Prop where
  bounded : ∀ p ∈ db.pools.rows, ∃ first last gateway, p.Bounded first last gateway
  apart : ∀ p ∈ db.pools.rows, ∀ q ∈ db.pools.rows, p.routerId = q.routerId → p.id ≠ q.id →
    p.endIp < q.startIp ∨ q.endIp < p.startIp
  inside : ∀ a ∈ db.addresses.rows, a.Taken → a.InPool db
  placed : ∀ p ∈ db.peers.rows, p.origin = .managed → some p.id ≠ except →
    ∃ a ∈ db.addresses.rows, a.Gives P p

variable {P} {except except' : Option String} {db db' : Database}

theorem PoolRow.Bounded.contains_iff {pool : PoolRow} {first last gateway : ℕ}
    (h : pool.Bounded first last gateway) {ip : Inet} :
    pool.Contains ip ↔ ip.family = .v4 ∧ first ≤ ip.addr ∧ ip.addr ≤ last := by
  rw [Contains, h.start, h.stop]
  rfl

theorem PeerRow.Denotes.unique {p : PeerRow} {ip ip' : Inet} (h : p.Denotes P ip)
    (h' : p.Denotes P ip') : ip = ip' := by
  obtain ⟨clientIp, hclient, hip⟩ := h
  obtain ⟨clientIp', hclient', hip'⟩ := h'
  cases hclient.symm.trans hclient'
  exact Option.some.inj (hip.symm.trans hip')

/-- The law follows from the invariant. -/
theorem Allocation.addressLaw (h : Allocation P none db) : AddressLaw P db where
  disjoint p hp q hq hrouter hne ip hin hin' := by
    obtain ⟨first, last, gateway, hbounds⟩ := h.bounded p hp
    obtain ⟨first', last', gateway', hbounds'⟩ := h.bounded q hq
    have hapart := h.apart p hp q hq hrouter hne
    rw [hbounds.start, hbounds.stop, hbounds'.start, hbounds'.stop, Inet.host_lt_host,
      Inet.host_lt_host] at hapart
    have hlow := hbounds.contains_iff.1 hin
    have hlow' := hbounds'.contains_iff.1 hin'
    omega
  inside a ha htaken := by
    obtain ⟨pool, hpool, hid, -, hin⟩ := h.inside a ha htaken
    obtain ⟨first, last, gateway, hbounds⟩ := h.bounded pool hpool
    have hcheck := db.pools.check pool hpool
    simp only [poolSchema, Bool.and_eq_true, decide_eq_true_eq, hbounds.start, hbounds.stop,
      hbounds.gateway, Inet.host_le_host] at hcheck
    obtain ⟨⟨⟨⟨⟨⟨⟨⟨-, -, hfirst, hlast⟩, -⟩, hgateway⟩, hnetwork, -⟩, -, hbroadcast⟩, -⟩, -⟩, -⟩ :=
      hcheck
    have hlow := (Inet.Within.bounds hfirst).1
    have hhigh := (Inet.Within.bounds hlast).2
    have hrange := hbounds.contains_iff.1 hin
    have hnetwork : first ≠ pool.networkCidr.network := hnetwork
    have hbroadcast : last ≠ pool.networkCidr.broadcast := hbroadcast
    have haddr : pool.gatewayIp.addr = gateway := congrArg Inet.addr hbounds.gateway
    exact ⟨pool, hpool, hid, hin, by omega, by omega, by omega⟩
  placed p hp hmanaged := by
    obtain ⟨a, ha, hgives⟩ := h.placed p hp hmanaged (by simp)
    refine ⟨a, db.addresses.filter_eq_singleton ha ?_ fun r s hr hs => ?_, hgives⟩
    · simp [hgives.allocated, hgives.peer]
    · simp only [decide_eq_true_eq] at hr hs
      simp [addressSchema, hr.2, hs.2]
  distinct p hp q hq hmanaged hmanaged' hrouter ip hdenotes hdenotes' := by
    obtain ⟨a, ha, hgives⟩ := h.placed p hp hmanaged (by simp)
    obtain ⟨b, hb, hgives'⟩ := h.placed q hq hmanaged' (by simp)
    have hip := hgives.address.unique hdenotes
    have hip' := hgives'.address.unique hdenotes'
    have hab : a = b := db.addresses.eq_of_clash ha hb <| by
      simp [addressSchema, hgives.router, hgives'.router, hrouter, hip, hip']
    have hpeer := hgives.peer
    rw [hab, hgives'.peer, Option.some.injEq] at hpeer
    exact db.peer_unique hp hq hpeer.symm

/-! ## Statements and the invariant -/

/-- A change that leaves the pools as they are keeps the invariant if the
    addresses it adds lie in their pools and it places the peers it touches. -/
theorem Allocation.transport (h : Allocation P except db) (hpools : db'.pools = db.pools)
    (hinside : ∀ a ∈ db'.addresses.rows, a.Taken → a ∈ db.addresses.rows ∨ a.InPool db)
    (hplaced : ∀ p ∈ db'.peers.rows, p.origin = .managed → some p.id ≠ except' →
      ∃ a ∈ db'.addresses.rows, a.Gives P p) : Allocation P except' db' where
  bounded := hpools ▸ h.bounded
  apart := hpools ▸ h.apart
  inside a ha htaken := by
    rw [PoolAddressRow.InPool, hpools]
    exact (hinside a ha htaken).elim (fun hold => h.inside a hold htaken) id
  placed := hplaced

/-- What gives a peer its address depends on its placement. -/
theorem PoolAddressRow.Gives.congr {a : PoolAddressRow} {p q : PeerRow} (h : a.Gives P p)
    (hpq : q.placement = p.placement) : a.Gives P q := by
  simp only [PeerRow.placement, Prod.mk.injEq] at hpq
  obtain ⟨hid, hrouter, hpool, hclient, -⟩ := hpq
  exact ⟨h.allocated, hid ▸ h.peer, hpool ▸ h.pool, hrouter ▸ h.router, by
    simpa only [PeerRow.Denotes, hclient] using h.address⟩

/-- Everything else keeps the invariant. -/
theorem Allocation.other (h : Allocation P except db) (hsame : SamePlacement db db') :
    Allocation P except db' := by
  refine h.transport hsame.pools (fun a ha _ => .inl (hsame.addresses ▸ ha)) ?_
  intro p hp hmanaged hne
  obtain ⟨q, hq, hqp⟩ : ∃ q ∈ db.peers.rows, q.placement = p.placement := by
    have hmem := List.mem_map_of_mem (f := PeerRow.placement) hp
    rw [hsame.peers] at hmem
    exact List.mem_map.1 hmem
  have hid : q.id = p.id := congrArg Prod.fst hqp
  have horigin : q.origin = p.origin := congrArg (fun t => t.2.2.2.2) hqp
  obtain ⟨a, ha, hgives⟩ := h.placed q hq (horigin.trans hmanaged) (hid ▸ hne)
  exact ⟨a, hsame.addresses ▸ ha, hgives.congr hqp.symm⟩

/-- A new row of the addresses that lies in its pool. -/
theorem Allocation.insertAddress (h : Allocation P except db) {row : PoolAddressRow}
    (hrow : row.Taken → row.InPool db)
    {addresses : Table addressSchema} (hrows : addresses.rows = db.addresses.rows ++ [row]) :
    Allocation P except { db with addresses } := by
  refine h.transport rfl (fun a ha htaken => ?_) (fun p hp hmanaged hne => ?_)
  · rw [hrows, List.mem_append, List.mem_singleton] at ha
    rcases ha with ha | rfl
    · exact .inl ha
    · exact .inr (hrow htaken)
  · obtain ⟨a, ha, hgives⟩ := h.placed p hp hmanaged hne
    exact ⟨a, by rw [hrows]; exact List.mem_append_left _ ha, hgives⟩

theorem Allocation.insertFreeAddress (h : Allocation P except db) {row : PoolAddressRow}
    (hrow : row.Taken → row.InPool db) {u : Unit}
    (hinsert : Tx.insertFreeAddress row db = .ok (u, db')) : Allocation P except db' := by
  rcases Tx.insertFreeAddress_ok hinsert with ⟨rfl, -⟩ | ⟨addresses, rfl, hrows⟩
  · exact h
  · exact h.insertAddress hrow hrows

/-- Rows that give no peer its address can be deleted. -/
theorem Allocation.deleteAddresses (h : Allocation P except db) {p : PoolAddressRow → Bool}
    (hp : ∀ a ∈ db.addresses.rows, p a = true → ∀ q ∈ db.peers.rows, q.origin = .managed →
      some q.id ≠ except' → ¬a.Gives P q)
    (hexcept : ∀ q ∈ db.peers.rows, some q.id ≠ except' → some q.id ≠ except) :
    Allocation P except' { db with addresses := db.addresses.delete p } := by
  refine h.transport rfl (fun a ha _ => .inl ?_) (fun q hq hmanaged hne => ?_)
  · rw [Table.rows_delete] at ha
    exact List.mem_of_mem_filter ha
  · obtain ⟨a, ha, hgives⟩ := h.placed q hq hmanaged (hexcept q hq hne)
    refine ⟨a, ?_, hgives⟩
    rw [Table.rows_delete, List.mem_filter]
    refine ⟨ha, ?_⟩
    cases hpa : p a with
    | false => rfl
    | true => exact absurd hgives (hp a ha hpa q hq hmanaged hne)

/-- A change of one peer keeps the invariant if it moves no managed peer but
    the one that is about to be placed. -/
theorem Allocation.updatePeer (h : Allocation P except db) {id : String} {f : PeerRow → PeerRow}
    {u : Unit} (hupdate : Tx.updatePeer id f db = .ok (u, db'))
    (hf : ∀ p ∈ db.peers.rows, p.id = id → (f p).origin = .managed → some (f p).id ≠ except' →
      (f p).placement = p.placement)
    (hexcept : ∀ other, some other ≠ except' → some other ≠ except) :
    Allocation P except' db' := by
  obtain ⟨peers, rfl, hrows⟩ := Tx.updatePeer_ok hupdate
  refine h.transport rfl (fun a ha _ => .inl ha) (fun p hp hmanaged hne => ?_)
  rw [hrows] at hp
  obtain ⟨q, hq, rfl⟩ := List.mem_map.1 hp
  split_ifs at hmanaged hne ⊢ with hid
  · have hsame := hf q hq hid hmanaged hne
    have horigin : (f q).origin = q.origin := congrArg (fun t => t.2.2.2.2) hsame
    have hqid : (f q).id = q.id := congrArg Prod.fst hsame
    obtain ⟨a, ha, hgives⟩ := h.placed q hq (horigin ▸ hmanaged) (hexcept _ (hqid ▸ hne))
    exact ⟨a, ha, hgives.congr hsame⟩
  · exact h.placed q hq hmanaged (hexcept _ hne)

/-- A new peer is not placed yet, unless it is imported. -/
theorem Allocation.insertPeer (h : Allocation P none db) {row : PeerRow}
    (hexcept : row.origin = .managed → except' = some row.id) {u : Unit}
    (hinsert : Tx.insertPeer row db = .ok (u, db')) : Allocation P except' db' := by
  obtain ⟨peers, rfl, hrows⟩ := Tx.insertPeer_ok hinsert
  refine h.transport rfl (fun a ha _ => .inl ha) (fun p hp hmanaged hne => ?_)
  rw [hrows, List.mem_append, List.mem_singleton] at hp
  rcases hp with hp | rfl
  · exact h.placed p hp hmanaged (by simp)
  · exact absurd (hexcept hmanaged).symm hne

/-- A peer whose addresses have been released can be deleted. -/
theorem Allocation.deletePeer {id : String} (h : Allocation P (some id) db) {u : Unit}
    (hdelete : Tx.deletePeer id db = .ok (u, db'))
    (hfree : ∀ a ∈ db.addresses.rows, a.peerId ≠ some id) : Allocation P none db' := by
  obtain ⟨hpeers, hpools, -, -, haddresses⟩ := Tx.deletePeer_ok hdelete
  have hsame : db'.addresses.rows = db.addresses.rows := by
    rw [haddresses]
    conv_rhs => rw [← List.map_id db.addresses.rows]
    exact List.map_congr_left fun a ha => if_neg (hfree a ha)
  refine h.transport hpools (fun a ha _ => .inl (hsame ▸ ha)) (fun p hp hmanaged _ => ?_)
  rw [hpeers, List.mem_filter] at hp
  have hne : p.id ≠ id := by simpa using hp.2
  obtain ⟨a, ha, hgives⟩ := h.placed p hp.1 hmanaged (by simpa using hne)
  exact ⟨a, hsame ▸ ha, hgives⟩

/-- Releasing the addresses of a peer leaves it to be placed. -/
theorem Allocation.release (h : Allocation P except db) {id : String}
    (hexcept : except = none ∨ except = some id) {u : Unit}
    (hrelease : releasePeerPoolAddress id db = .ok (u, db')) :
    Allocation P (some id) db' ∧ (∀ a ∈ db'.addresses.rows, a.peerId ≠ some id) ∧
      ∃ addresses, db' = { db with addresses } := by
  obtain rfl := Tx.deleteAddresses_ok hrelease
  refine ⟨h.deleteAddresses (fun a _ ha q _ _ hne hgives => ?_) (fun q _ hne => ?_),
    fun a ha => ?_, _, rfl⟩
  · rw [decide_eq_true_eq, hgives.peer] at ha
    exact hne ha
  · rcases hexcept with rfl | rfl
    · simp
    · exact hne
  · rw [Table.rows_delete, List.mem_filter] at ha
    simpa using ha.2

/-- A row that allocates an address of a pool to a peer. -/
structure PoolAddressRow.Claims (P : Platform) (a : PoolAddressRow) (row : PoolRow)
    (ip peerId : String) : Prop where
  allocated : a.state = .allocated
  peer : a.peerId = some peerId
  pool : a.poolId = row.id
  router : a.routerId = row.routerId
  address : P.inet ip = some a.ipAddress

/-- Claiming an address of a pool for a peer adds its row. -/
theorem Allocation.claim (hP : P.ReadsIpv4) {ip peerId peerName : String}
    (h : Allocation P (some peerId) db) {row : PoolRow} (hrow : row ∈ db.pools.rows)
    {first last gateway n : ℕ} (hbounds : row.Bounded first last gateway)
    (hnumber : ipv4ToNumber ip = .ok n) (hfirst : first ≤ n) (hlast : n ≤ last)
    {router : RouterRow} {interface : InterfaceRow} {u : Unit}
    (hclaim : claimPoolAddress P (row.view P router interface) ip peerId peerName db
      = .ok (u, db')) :
    Allocation P (some peerId) db' ∧ (∃ a ∈ db'.addresses.rows, a.Claims P row ip peerId) ∧
      ∃ addresses, db' = { db with addresses } := by
  obtain ⟨address, addresses, haddress, rfl, hrows⟩ := claimPoolAddress_ok hclaim
  have hin : row.Contains address := hbounds.contains_iff.2 <| by
    rw [hP.eq_host hnumber haddress]
    exact ⟨rfl, hfirst, hlast⟩
  refine ⟨?_, ⟨_, by rw [hrows]; exact List.mem_append_right _ (List.mem_singleton_self _),
    ⟨rfl, rfl, rfl, rfl, haddress⟩⟩, _, rfl⟩
  refine h.transport rfl (fun a ha htaken => ?_) (fun p hp hmanaged hne => ?_)
  · rw [hrows, List.mem_append, List.mem_singleton] at ha
    rcases ha with ha | rfl
    · exact .inl (List.mem_of_mem_filter ha)
    · exact .inr ⟨row, hrow, rfl, rfl, hin⟩
  · obtain ⟨a, ha, hgives⟩ := h.placed p hp hmanaged hne
    refine ⟨a, ?_, hgives⟩
    rw [hrows]
    exact List.mem_append_left _ (List.mem_filter.2 ⟨ha, by simp [hgives.allocated]⟩)

/-- The claim of a peer gives it its address. -/
theorem PoolAddressRow.Claims.gives {a : PoolAddressRow} {row : PoolRow} {ip : String}
    {p : PeerRow} (h : a.Claims P row ip p.id) (hpool : p.poolId = some row.id)
    (hrouter : p.routerId = row.routerId) (hclient : p.clientIp = some ip) : a.Gives P p where
  allocated := h.allocated
  peer := h.peer
  pool := hpool.trans (congrArg some h.pool.symm)
  router := h.router.trans hrouter.symm
  address := ⟨ip, hclient, h.address⟩

/-- A peer that has been placed is no exception any more. -/
theorem Allocation.settle {id : String} (h : Allocation P (some id) db)
    (hid : ∀ p ∈ db.peers.rows, p.id = id → p.origin = .managed →
      ∃ a ∈ db.addresses.rows, a.Gives P p) : Allocation P none db := by
  refine h.transport rfl (fun a ha _ => .inl ha) (fun p hp hmanaged _ => ?_)
  by_cases hne : p.id = id
  · exact hid p hp hne hmanaged
  · exact h.placed p hp hmanaged (by simpa using hne)

end Platform

end WireguardPanel
