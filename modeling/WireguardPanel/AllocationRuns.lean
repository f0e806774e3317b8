import WireguardPanel.Allocation
import WireguardPanel.TransactionRules

/-!
# Runs of the allocation

Every transaction on pools and peers keeps the invariant of the allocation.

* `Allocation.step`: the step lemma, assembled from one lemma for each
  transaction.
* `addressLaw_of_reaches`: the law holds in all runs in which no address with a
  network mask is found in a range that it does not lie in, and no drift is
  adopted for a managed peer that has been moved meanwhile.
-/

namespace WireguardPanel

open Foundation

section Platform

variable {P : Platform} {db db' : Database}

/-! ## Transactions on pools -/

/-- A new pool apart from the others of its router. -/
theorem Allocation.insertPool (h : Allocation P none db) {row : PoolRow}
    {first last gateway : ℕ} (hbounds : row.Bounded first last gateway)
    (hapart : ∀ p ∈ db.pools.rows, p.routerId = row.routerId →
      p.endIp < row.startIp ∨ row.endIp < p.startIp) {pools : Table poolSchema}
    (hrows : pools.rows = db.pools.rows ++ [row]) : Allocation P none { db with pools } where
  bounded p hp := by
    rw [hrows, List.mem_append, List.mem_singleton] at hp
    rcases hp with hp | rfl
    · exact h.bounded p hp
    · exact ⟨first, last, gateway, hbounds⟩
  apart p hp q hq hrouter hne := by
    rw [hrows, List.mem_append, List.mem_singleton] at hp hq
    rcases hp with hp | rfl <;> rcases hq with hq | rfl
    · exact h.apart p hp q hq hrouter hne
    · exact hapart p hp hrouter
    · exact (hapart q hq hrouter.symm).symm
    · exact absurd rfl hne
  inside a ha htaken := by
    obtain ⟨pool, hpool, hin⟩ := h.inside a ha htaken
    exact ⟨pool, by rw [hrows]; exact List.mem_append_left _ hpool, hin⟩
  placed := h.placed

/-- A new range for a pool, apart from the others of its router, in which the
    addresses of the pool lie. -/
theorem Allocation.updatePool (h : Allocation P none db) {id routerId : String}
    {f : PoolRow → PoolRow} {pools : Table poolSchema}
    (hrows : pools.rows = db.pools.rows.map fun p => if p.id = id then f p else p)
    (hf : ∀ p, (f p).id = p.id ∧ (f p).routerId = p.routerId)
    (hrouter : ∀ p ∈ db.pools.rows, p.id = id → p.routerId = routerId)
    {first last gateway : ℕ} (hbounds : ∀ p, (f p).Bounded first last gateway)
    (hapart : ∀ p ∈ db.pools.rows, p.routerId = routerId → some id ≠ some p.id →
      p.endIp < .host first ∨ .host last < p.startIp)
    (hinside : ∀ a ∈ db.addresses.rows, a.poolId = id → a.Taken → ∀ p, (f p).Contains a.ipAddress) :
    Allocation P none { db with pools } where
  bounded r hr := by
    rw [hrows] at hr
    obtain ⟨p, hp, rfl⟩ := List.mem_map.1 hr
    split_ifs with hpid
    · exact ⟨first, last, gateway, hbounds p⟩
    · exact h.bounded p hp
  apart r hr s hs hrs hne := by
    rw [hrows] at hr hs
    obtain ⟨p, hp, rfl⟩ := List.mem_map.1 hr
    obtain ⟨q, hq, rfl⟩ := List.mem_map.1 hs
    have hother : ∀ p : PoolRow, p.id ≠ id → some id ≠ some p.id := fun p hne hid =>
      hne (Option.some.inj hid).symm
    split_ifs at hrs hne ⊢ with hpid hqid hqid
    · exact absurd ((hf p).1.trans (hpid.trans (hqid.symm.trans (hf q).1.symm))) hne
    · rw [(hbounds p).start, (hbounds p).stop]
      rw [(hf p).2, hrouter p hp hpid] at hrs
      exact (hapart q hq hrs.symm (hother q hqid)).symm
    · rw [(hbounds q).start, (hbounds q).stop]
      rw [(hf q).2, hrouter q hq hqid] at hrs
      exact hapart p hp hrs (hother p hpid)
    · exact h.apart p hp q hq hrs hne
  inside a ha htaken := by
    obtain ⟨pool, hpool, hid, hpoolRouter, hin⟩ := h.inside a ha htaken
    refine ⟨_, by rw [hrows]; exact List.mem_map_of_mem hpool, ?_⟩
    split_ifs with hpid
    · exact ⟨(hf pool).1.trans hid, (hf pool).2.trans hpoolRouter,
        hinside a ha (hid.symm.trans hpid) htaken pool⟩
    · exact ⟨hid, hpoolRouter, hin⟩
  placed := h.placed

/-- Attaching peers to a pool leaves managed peers where they are. -/
theorem Allocation.attachPeers {poolId routerId interfaceId : String} {pool : PoolRow}
    (hid : pool.id = poolId) (hrouter : pool.routerId = routerId) {peers : List (PeerRow × Inet)}
    (hpeers : ∀ x ∈ peers, pool.Contains x.2) {u : Unit} (h : Allocation P none db)
    (hpool : pool ∈ db.pools.rows)
    (hattach : attachPeers poolId routerId interfaceId peers db = .ok (u, db')) :
    Allocation P none db' := by
  induction peers generalizing db with
  | nil =>
    cases hattach
    exact h
  | cons x peers ih =>
    obtain ⟨p, ip⟩ := x
    obtain ⟨hin, hpeers⟩ := List.forall_mem_cons.1 hpeers
    obtain ⟨_, db₁, hmove, hnext⟩ := Tx.bind_eq_ok.1 hattach
    obtain ⟨_, db₂, hinsert, hrest⟩ := Tx.bind_eq_ok.1 hnext
    have hupdate := Tx.movePeer_ok hmove
    -- A managed peer is in a pool already, which `COALESCE` keeps.
    have h₁ : Allocation P none db₁ := h.updatePeer hupdate (fun q hq _ hmanaged _ => by
      obtain ⟨a, -, hgives⟩ := h.placed q hq hmanaged (by simp)
      simp [PeerRow.placement, hgives.pool]) (fun _ => id)
    obtain ⟨_, rfl, -⟩ := Tx.updatePeer_ok hupdate
    have h₂ := h₁.insertFreeAddress (fun _ => ⟨pool, hpool, hid, hrouter, hin⟩) hinsert
    refine ih hpeers h₂ ?_ hrest
    rcases Tx.insertFreeAddress_ok hinsert with ⟨rfl, -⟩ | ⟨_, rfl, -⟩ <;> exact hpool

/-- The peers that the database finds in the range of a pool lie in it. -/
theorem Allocation.attachExistingPeers {poolId routerId interfaceId : String} {pool : PoolRow}
    (h : Allocation P none db) (hpool : pool ∈ db.pools.rows) (hid : pool.id = poolId)
    (hrouter : pool.routerId = routerId)
    (hfit : PeersFit P db routerId interfaceId pool.startIp pool.endIp) {u : Unit}
    (hattach : attachExistingPeers P poolId routerId interfaceId pool.startIp pool.endIp db
      = .ok (u, db')) : Allocation P none db' := by
  rw [WireguardPanel.attachExistingPeers, Tx.get_bind] at hattach
  obtain ⟨peers, hselect, hattach⟩ := Tx.ofExcept_bind_ok.1 hattach
  refine h.attachPeers hid hrouter (fun x hx => ?_) hpool hattach
  obtain ⟨hmem, hdenotes, hfirst, hlast⟩ := selectBetween_ok hselect x hx
  rw [List.mem_filter, decide_eq_true_eq] at hmem
  exact hfit x.1 hmem.1 hmem.2.1 hmem.2.2 x.2 hdenotes hfirst hlast

/-- The row of a gateway is neither reserved nor allocated. -/
theorem not_taken_gatewayAddress {poolId routerId interfaceId : String} {gateway : Inet} :
    ¬(gatewayAddress poolId routerId interfaceId gateway).Taken := by
  simp [PoolAddressRow.Taken, gatewayAddress]

/-- The bounds of an input that has been normalised, as the database reads them. -/
theorem bounds_of_normalizePoolInput (hP : P.ReadsIpv4) {input normalized : PoolInput}
    (hnormalized : normalizePoolInput input = .ok normalized) {start stop gateway : Inet}
    (hstart : P.inet normalized.startIp = some start) (hstop : P.inet normalized.endIp = some stop)
    (hgateway : P.inet normalized.gatewayIp = some gateway) :
    ∃ first last gatewayN, start = .host first ∧ stop = .host last ∧ gateway = .host gatewayN ∧
      first ≤ 0xffffffff ∧ last ≤ 0xffffffff := by
  obtain ⟨first, last, gatewayN, hfirst, hlast, hgatewayN, hfirst', hlast', hgateway'⟩ :=
    normalizePoolInput_ok hnormalized
  rw [hfirst] at hstart
  rw [hlast] at hstop
  rw [hgatewayN] at hgateway
  exact ⟨first, last, gatewayN, hP.eq_host (ipv4ToNumber_dotted hfirst') hstart,
    hP.eq_host (ipv4ToNumber_dotted hlast') hstop,
    hP.eq_host (ipv4ToNumber_dotted hgateway') hgateway, hfirst', hlast'⟩

theorem Allocation.createPool (hP : P.ReadsIpv4) {input : PoolInput} {newId : String} {now : ℤ}
    (h : Allocation P none db) (hfits : (PoolTransaction.createPool input newId now).Fits P db)
    {result : String} (hcreate : createPool P input newId now db = .ok (result, db')) :
    Allocation P none db' := by
  obtain ⟨normalized, hnormalized, hcreate⟩ := Tx.ofExcept_bind_ok.1 hcreate
  obtain ⟨scope, -, -, hcreate⟩ := interfaceScope_bind_ok hcreate
  have hcreate := validateScope_bind_ok hcreate
  obtain ⟨start, hstart, hcreate⟩ := castInet_bind_ok.1 hcreate
  obtain ⟨stop, hstop, hcreate⟩ := castInet_bind_ok.1 hcreate
  obtain ⟨hapart, hcreate⟩ := assertNoOverlap_bind_ok hcreate
  obtain ⟨cidr, -, hcreate⟩ := castInet_bind_ok.1 hcreate
  obtain ⟨gateway, hgateway, hcreate⟩ := castInet_bind_ok.1 hcreate
  obtain ⟨_, db₁, hinsert, hcreate⟩ := Tx.bind_eq_ok.1 hcreate
  obtain ⟨_, db₂, hrow, hcreate⟩ := Tx.bind_eq_ok.1 hcreate
  obtain ⟨_, db₃, hattach, hcreate⟩ := Tx.bind_eq_ok.1 hcreate
  cases hcreate
  obtain ⟨first, last, gatewayN, rfl, rfl, rfl, hfirst, hlast⟩ :=
    bounds_of_normalizePoolInput hP hnormalized hstart hstop hgateway
  have hfit := hfits normalized _ _ hnormalized hstart hstop
  obtain ⟨pools, rfl, hpools⟩ := Tx.insertPool_ok hinsert
  have h₁ := h.insertPool ⟨rfl, rfl, rfl, hfirst, hlast⟩
    (fun p hp hrouter => hapart p hp hrouter nofun) hpools
  have h₂ := h₁.insertFreeAddress (fun htaken => absurd htaken not_taken_gatewayAddress) hrow
  have hpool : _ ∈ pools.rows := hpools ▸ List.mem_append_right _ (List.mem_singleton_self _)
  rcases Tx.insertFreeAddress_ok hrow with ⟨rfl, -⟩ | ⟨_, rfl, -⟩ <;>
    exact h₂.attachExistingPeers hpool rfl rfl hfit hattach

theorem Allocation.updatePoolRange (hP : P.ReadsIpv4) {id : String} {input : PoolInput}
    (h : Allocation P none db) (hfits : (PoolTransaction.updatePool id input).Fits P db) {u : Unit}
    (hupdate : WireguardPanel.updatePool P id input db = .ok (u, db')) :
    Allocation P none db' := by
  obtain ⟨normalized, hnormalized, hupdate⟩ := Tx.ofExcept_bind_ok.1 hupdate
  obtain ⟨row, router, interface, hrow, -, -, hupdate⟩ := lockPool_bind_ok.1 hupdate
  obtain ⟨hrouter, hupdate⟩ := Tx.require_bind_ok.1 hupdate
  obtain ⟨-, hupdate⟩ := Tx.require_bind_ok.1 hupdate
  obtain ⟨scope, -, -, hupdate⟩ := interfaceScope_bind_ok hupdate
  have hupdate := validateScope_bind_ok hupdate
  obtain ⟨start, hstart, hupdate⟩ := castInet_bind_ok.1 hupdate
  obtain ⟨stop, hstop, hupdate⟩ := castInet_bind_ok.1 hupdate
  obtain ⟨hapart, hupdate⟩ := assertNoOverlap_bind_ok hupdate
  obtain ⟨houtside, hupdate⟩ := assertNoneOutside_bind_ok hupdate
  obtain ⟨cidr, -, hupdate⟩ := castInet_bind_ok.1 hupdate
  obtain ⟨gateway, hgateway, hupdate⟩ := castInet_bind_ok.1 hupdate
  obtain ⟨_, db₁, hpool, hupdate⟩ := Tx.bind_eq_ok.1 hupdate
  obtain ⟨_, db₂, hdelete, hupdate⟩ := Tx.bind_eq_ok.1 hupdate
  obtain ⟨_, db₃, hinsert, hattach⟩ := Tx.bind_eq_ok.1 hupdate
  obtain ⟨first, last, gatewayN, rfl, rfl, rfl, hfirst, hlast⟩ :=
    bounds_of_normalizePoolInput hP hnormalized hstart hstop hgateway
  obtain ⟨hfit, hinside⟩ := hfits normalized _ _ hnormalized hstart hstop
  obtain ⟨pools, rfl, hpools⟩ := Tx.updatePool_ok hpool
  obtain rfl := Tx.deleteAddresses_ok hdelete
  have hcurrent := Database.pool_spec hrow
  have h₁ := h.updatePool hpools (fun _ => ⟨rfl, rfl⟩) (fun p hp hid => by
      rw [db.pool_unique hp hcurrent.1 (hid.trans hcurrent.2.symm)]
      exact hrouter)
    (fun _ => ⟨rfl, rfl, rfl, hfirst, hlast⟩) hapart
    (fun a ha hid htaken _ =>
      have hbetween := houtside a ha hid htaken
      hinside a ha hid htaken hbetween.1 hbetween.2)
  have h₂ := h₁.deleteAddresses (p := fun a => a.poolId = id ∧ a.state = .router)
    (fun a _ ha q _ _ _ hgives => by
      rw [decide_eq_true_eq, hgives.allocated] at ha
      exact absurd ha.2 nofun) (fun _ _ hne => hne)
  have h₃ := h₂.insertFreeAddress (fun htaken => absurd htaken not_taken_gatewayAddress) hinsert
  have hpool : _ ∈ pools.rows := hpools ▸ List.mem_map_of_mem hcurrent.1
  rw [if_pos hcurrent.2] at hpool
  rcases Tx.insertFreeAddress_ok hinsert with ⟨rfl, -⟩ | ⟨_, rfl, -⟩ <;>
    exact h₃.attachExistingPeers hpool hcurrent.2 hrouter hfit hattach

theorem Allocation.deletePool {id : String} (h : Allocation P none db) {u : Unit}
    (hdelete : WireguardPanel.deletePool P id db = .ok (u, db')) : Allocation P none db' := by
  obtain ⟨row, router, interface, hrow, -, -, hrest⟩ := lockPool_bind_ok.1 hdelete
  rw [Tx.get_bind] at hrest
  obtain ⟨hpeers, hrest⟩ := Tx.require_bind_ok.1 hrest
  obtain ⟨-, hrest⟩ := Tx.require_bind_ok.1 hrest
  obtain ⟨hpools', haddresses', hpeers'⟩ := Tx.deletePool_ok hrest
  have hid : (row.view P router interface).id = id := (Database.pool_spec hrow).2
  rw [hid] at hpools' haddresses' hpeers'
  have hsame : db'.peers.rows = db.peers.rows := by
    rw [hpeers']
    conv_rhs => rw [← List.map_id db.peers.rows]
    exact List.map_congr_left fun p hp => if_neg (hpeers p hp)
  have hpool : ∀ p ∈ db'.pools.rows, p ∈ db.pools.rows := fun p hp => by
    rw [hpools'] at hp
    exact List.mem_of_mem_filter hp
  refine ⟨fun p hp => h.bounded p (hpool p hp),
    fun p hp q hq => h.apart p (hpool p hp) q (hpool q hq), fun a ha htaken => ?_,
    fun p hp hmanaged _ => ?_⟩
  · rw [haddresses', List.mem_filter] at ha
    obtain ⟨pool, hpool, hpoolId, hin⟩ := h.inside a ha.1 htaken
    refine ⟨pool, ?_, hpoolId, hin⟩
    rw [hpools', List.mem_filter, hpoolId]
    exact ⟨hpool, ha.2⟩
  · rw [hsame] at hp
    obtain ⟨a, ha, hgives⟩ := h.placed p hp hmanaged (by simp)
    refine ⟨a, ?_, hgives⟩
    rw [haddresses', List.mem_filter]
    exact ⟨ha, by simpa using fun hid => hpeers p hp (hgives.pool.trans (congrArg some hid))⟩

theorem Allocation.reservePoolAddress (hP : P.ReadsIpv4) {poolId ipAddress comment : String}
    (h : Allocation P none db) {u : Unit}
    (hreserve : WireguardPanel.reservePoolAddress P poolId ipAddress comment db = .ok (u, db')) :
    Allocation P none db' := by
  obtain ⟨row, router, interface, hrow, -, -, hrest⟩ := lockPool_bind_ok.1 hreserve
  obtain ⟨ip, hvalid, hrest⟩ := Tx.ofExcept_bind_ok.1 hrest
  have hrest := assertDatabaseAddressFree_bind_ok hrest
  obtain ⟨address, haddress, hinsert⟩ := castInet_bind_ok.1 hrest
  have hpool := (Database.pool_spec hrow).1
  obtain ⟨first, last, gateway, hbounds⟩ := h.bounded row hpool
  obtain ⟨n, hnumber, hfirst, hlast, -⟩ := validateAddressInPool_ok hbounds hvalid
  obtain ⟨addresses, rfl, hrows⟩ := Tx.insertAddress_ok hinsert
  refine h.insertAddress (fun _ => ⟨row, hpool, rfl, rfl, hbounds.contains_iff.2 ?_⟩) hrows
  rw [hP.eq_host hnumber haddress]
  exact ⟨rfl, hfirst, hlast⟩

theorem Allocation.unreservePoolAddress {poolId ipAddress : String} (h : Allocation P none db)
    {u : Unit}
    (hunreserve : WireguardPanel.unreservePoolAddress P poolId ipAddress db = .ok (u, db')) :
    Allocation P none db' := by
  obtain ⟨address, -, hrest⟩ := castInet_bind_ok.1 hunreserve
  rw [Tx.get_bind] at hrest
  obtain ⟨-, hdelete⟩ := Tx.require_bind_ok.1 hrest
  obtain rfl := Tx.deleteAddresses_ok hdelete
  refine h.deleteAddresses (fun a _ ha q _ _ _ hgives => ?_) (fun _ _ hne => hne)
  rw [decide_eq_true_eq, hgives.allocated] at ha
  exact absurd ha.2.2 nofun

/-! ## Transactions on peers -/

theorem Allocation.stagePeer (hP : P.ReadsIpv4) {input : CreatePeerInput}
    {peerId operationId : String} {router : RouterRow} {interface : InterfaceRow}
    {keys : WireGuardKeys} {listing : Except AppError (List RemoteWireGuardPeer)} {now : ℤ}
    (hrouter : router.id = input.routerId) (h : Allocation P none db) {staged : StagedPeer}
    (hstage : WireguardPanel.stagePeer P input peerId operationId router interface keys listing now
      db = .ok (staged, db')) : Allocation P none db' := by
  obtain ⟨row, _, _, hrow, hrowRouter, -, -, hrest⟩ := lockPoolForPeer_bind_ok hstage
  obtain ⟨hpool, hpoolId⟩ := Database.pool_spec hrow
  obtain ⟨first, last, gateway, hbounds⟩ := h.bounded row hpool
  obtain ⟨remotePeers, -, hrest⟩ := Tx.ofExcept_bind_ok.1 hrest
  obtain ⟨ip, n, hnumber, hfirst, hlast, hrest⟩ := choosePoolAddress_bind_ok hbounds hrest
  rw [stageChosen, Tx.get_bind] at hrest
  obtain ⟨window, -, hrest⟩ := Tx.ofExcept_bind_ok.1 hrest
  obtain ⟨_, db₁, hinsert, hrest⟩ := Tx.bind_eq_ok.1 hrest
  obtain ⟨_, db₂, hclaim, hrest⟩ := Tx.bind_eq_ok.1 hrest
  obtain ⟨_, db₃, hoperation, hlog⟩ := Tx.bind_eq_ok.1 hrest
  cases hoperation
  cases hlog
  have h₁ := h.insertPeer (fun _ => rfl) hinsert
  have hstaged := fun p => Tx.eq_of_insertPeer (p := p) hinsert
  obtain ⟨peers, rfl, -⟩ := Tx.insertPeer_ok hinsert
  obtain ⟨h₂, ⟨a, ha, hclaims⟩, addresses, rfl⟩ :=
    h₁.claim hP hpool hbounds hnumber hfirst hlast hclaim
  refine (h₂.settle fun p hp hid _ => ⟨a, ha, ?_⟩).other ⟨rfl, rfl, rfl⟩
  obtain rfl := hstaged p hp hid
  exact hclaims.gives rfl (hrouter.trans hrowRouter.symm) rfl

theorem Allocation.releaseStagedPeer {peerId : String} (h : Allocation P none db) {u : Unit}
    (hrelease : WireguardPanel.releaseStagedPeer peerId db = .ok (u, db')) :
    Allocation P none db' := by
  obtain ⟨_, db₁, hrow, hdelete⟩ := Tx.bind_eq_ok.1 hrelease
  obtain ⟨h₁, hfree, -⟩ := h.release (.inl rfl) hrow
  exact h₁.deletePeer hdelete hfree

theorem Allocation.archiveAndDelete {row : PeerRow} (h : Allocation P none db) {u : Unit}
    (harchive : WireguardPanel.archiveAndDelete row db = .ok (u, db')) :
    Allocation P none db' := by
  obtain ⟨_, db₁, hlog, hrest⟩ := Tx.bind_eq_ok.1 harchive
  obtain ⟨_, db₂, hrow, hrest⟩ := Tx.bind_eq_ok.1 hrest
  obtain ⟨_, db₃, hobjects, hdelete⟩ := Tx.bind_eq_ok.1 hrest
  cases hlog
  cases hobjects
  have hsame : ∀ archives, SamePlacement db { db with archives } := fun _ => ⟨rfl, rfl, rfl⟩
  obtain ⟨h₁, hfree, -⟩ := (h.other (hsame _)).release (.inl rfl) hrow
  have hsame' : ∀ managedObjects, SamePlacement db₂ { db₂ with managedObjects } :=
    fun _ => ⟨rfl, rfl, rfl⟩
  exact (h₁.other (hsame' _)).deletePeer hdelete hfree

theorem Allocation.commitUpdate (hP : P.ReadsIpv4) {c : PeerCommit} {now : ℤ}
    (h : Allocation P none db) {u : Unit}
    (hcommit : WireguardPanel.commitUpdate P c now db = .ok (u, db')) : Allocation P none db' := by
  obtain ⟨row, router, interface, hrow, hrouter, -, -, hrest⟩ := lockPoolForPeer_bind_ok hcommit
  obtain ⟨hpool, hpoolId⟩ := Database.pool_spec hrow
  obtain ⟨first, last, gateway, hbounds⟩ := h.bounded row hpool
  obtain ⟨ip, n, hnumber, hfirst, hlast, hrest⟩ := choosePoolAddress_bind_ok hbounds hrest
  obtain ⟨history, hrest⟩ : ∃ history, (Tx.movePeer c.row.id c.input.routerId c.input.interfaceId
      (some c.input.poolId) (c.assign P ip) >>= fun _ =>
          releasePeerPoolAddress c.row.id >>= fun _ =>
        claimPoolAddress P (row.view P router interface) ip c.row.id c.input.name)
        { db with history } = .ok (u, db') := by
    split at hrest
    · obtain ⟨_, db₁, hhistory, hrest⟩ := Tx.bind_eq_ok.1 hrest
      obtain ⟨history, rfl⟩ := Tx.insertHistory_ok hhistory
      exact ⟨history, hrest⟩
    · exact absurd hrest Tx.throw_bind_ne_ok
    · exact ⟨_, hrest⟩
  obtain ⟨_, db₂, hmove, hrest⟩ := Tx.bind_eq_ok.1 hrest
  obtain ⟨_, db₃, hrelease, hclaim⟩ := Tx.bind_eq_ok.1 hrest
  have hupdate := Tx.movePeer_ok hmove
  have h₁ : Allocation P none { db with history } := h.other ⟨rfl, rfl, rfl⟩
  have h₂ : Allocation P (some c.row.id) db₂ := h₁.updatePeer hupdate (fun p _ hid _ hne =>
    absurd (congrArg some hid) hne) (fun _ _ => nofun)
  obtain ⟨peers, rfl, hpeers⟩ := Tx.updatePeer_ok hupdate
  obtain ⟨h₃, -, addresses₃, rfl⟩ := h₂.release (.inr rfl) hrelease
  obtain ⟨h₄, ⟨a, ha, hclaims⟩, addresses₄, rfl⟩ :=
    h₃.claim hP hpool hbounds hnumber hfirst hlast hclaim
  refine h₄.settle fun p hp hid _ => ⟨a, ha, ?_⟩
  change p ∈ peers.rows at hp
  rw [hpeers] at hp
  obtain ⟨q, -, rfl⟩ := List.mem_map.1 hp
  split_ifs at hid ⊢ with hqid
  · rw [← hqid] at hclaims
    exact hclaims.gives (p := c.assign P ip q) (congrArg some hpoolId.symm) hrouter.symm rfl
  · exact absurd hid hqid

theorem Allocation.adoptRouterState (hP : P.ReadsIpv4) {peer : PeerRow} {poolId clientIp : String}
    {remote : RemoteWireGuardPeer} {peers : List RemoteWireGuardPeer} (h : Allocation P none db)
    (hfits : (PoolTransaction.adoptRouterState peer poolId remote peers clientIp).Fits P db)
    {u : Unit} (hadopt : WireguardPanel.adoptRouterState P peer poolId remote peers clientIp db
      = .ok (u, db')) : Allocation P none db' := by
  obtain ⟨row, router, interface, hrow, hrouter, -, -, hrest⟩ := lockPoolForPeer_bind_ok hadopt
  obtain ⟨hpool, hpoolId⟩ := Database.pool_spec hrow
  obtain ⟨first, last, gateway, hbounds⟩ := h.bounded row hpool
  obtain ⟨ip, n, hnumber, hfirst, hlast, hrest⟩ := choosePoolAddress_bind_ok hbounds hrest
  obtain ⟨_, db₁, hrelease, hrest⟩ := Tx.bind_eq_ok.1 hrest
  obtain ⟨_, db₂, hclaim, hupdate⟩ := Tx.bind_eq_ok.1 hrest
  obtain ⟨h₁, -, addresses₁, rfl⟩ := h.release (.inl rfl) hrelease
  obtain ⟨h₂, ⟨a, ha, hclaims⟩, addresses₂, rfl⟩ :=
    h₁.claim hP hpool hbounds hnumber hfirst hlast hclaim
  have h₃ : Allocation P (some peer.id) db' := h₂.updatePeer hupdate (fun p _ hid _ hne =>
    absurd (congrArg some hid) hne) (fun _ => id)
  obtain ⟨peers, rfl, hpeers⟩ := Tx.updatePeer_ok hupdate
  refine h₃.settle fun p hp hid hmanaged => ⟨a, ha, ?_⟩
  change p ∈ peers.rows at hp
  rw [hpeers] at hp
  obtain ⟨q, hq, rfl⟩ := List.mem_map.1 hp
  split_ifs at hid hmanaged ⊢ with hqid
  · obtain ⟨hqpool, hqrouter⟩ := hfits q hq hqid hmanaged
    rw [← hqid] at hclaims
    refine PoolAddressRow.Claims.gives hclaims ?_ (hqrouter.trans hrouter.symm) rfl
    exact hqpool.trans (congrArg some hpoolId.symm)
  · exact absurd hid hqid

theorem Allocation.importPeer {routerId interfaceId : String} {remote : RemoteWireGuardPeer}
    {fingerprint : String} {onlineSeconds : ℤ} {newId : String} {now : ℤ} (h : Allocation P none db)
    (hfits : (PoolTransaction.importPeer routerId interfaceId remote fingerprint onlineSeconds newId
      now).Fits P db) {u : Unit}
    (himport : WireguardPanel.importPeer P routerId interfaceId remote fingerprint onlineSeconds
      newId now db = .ok (u, db')) : Allocation P none db' := by
  rw [WireguardPanel.importPeer, Tx.get_bind] at himport
  split at himport
  · cases himport
    exact h
  · obtain ⟨_, db₁, hinsert, hrest⟩ := Tx.bind_eq_ok.1 himport
    have h₁ : Allocation P none db₁ :=
      h.insertPeer (fun hmanaged => absurd hmanaged (by simp [importedRow])) hinsert
    have himported := fun p => Tx.eq_of_insertPeer (p := p) hinsert
    obtain ⟨peers, hdb, -⟩ := Tx.insertPeer_ok hinsert
    cases hclient : importedClientIp remote.allowedAddress with
    | none =>
      simp only [hclient] at hrest
      cases hrest
      exact h₁
    | some clientIp =>
      simp only [hclient] at hrest
      obtain ⟨ip, hip, hplace⟩ := castInet_bind_ok.1 hrest
      rw [Tx.get_bind] at hplace
      cases hpool : importPool db₁ routerId interfaceId ip with
      | none =>
        simp only [hpool] at hplace
        cases hplace
        exact h₁
      | some pool =>
        simp only [hpool] at hplace
        obtain ⟨_, db₂, hupdate, hfree⟩ := Tx.bind_eq_ok.1 hplace
        have hin := hfits clientIp ip pool hclient hip 
          ((importPool_congr (by rw [hdb])).symm.trans hpool)
        have hmem := List.argmin_mem hpool
        rw [List.mem_filter, decide_eq_true_eq] at hmem
        have h₂ : Allocation P none db₂ := h₁.updatePeer hupdate (fun p hp hid hmanaged _ => by
          rw [himported p hp hid] at hmanaged
          exact absurd hmanaged (by simp [importedRow])) (fun _ => id)
        obtain ⟨_, rfl, -⟩ := Tx.updatePeer_ok hupdate
        exact h₂.insertFreeAddress (fun _ => ⟨pool, hmem.1, rfl, hmem.2.1, hin⟩) hfree

/-- A transaction keeps the invariant. -/
theorem Allocation.step (hP : P.ReadsIpv4) {step : Option PoolTransaction}
    (h : Allocation P none db) (hallow : AdmitsStep P step db)
    (hstep : (poolSystem P).step step db db') : Allocation P none db' := by
  cases step with
  | none => exact h.other hstep
  | some t =>
    have hfits := hallow t rfl
    cases t with
    | createPool =>
      obtain ⟨_, db₁, hcreate, hreturn⟩ := Tx.bind_eq_ok.1 hstep
      cases hreturn
      exact h.createPool hP hfits hcreate
    | updatePool => exact h.updatePoolRange hP hfits hstep
    | deletePool => exact h.deletePool hstep
    | reservePoolAddress => exact h.reservePoolAddress hP hstep
    | unreservePoolAddress => exact h.unreservePoolAddress hstep
    | stagePeer input peerId operationId router interface keys listing now hrouter =>
      obtain ⟨_, db₁, hstage, hreturn⟩ := Tx.bind_eq_ok.1 hstep
      cases hreturn
      exact h.stagePeer hP hrouter hstage
    | releaseStagedPeer => exact h.releaseStagedPeer hstep
    | commitUpdate => exact h.commitUpdate hP hstep
    | archiveAndDelete => exact h.archiveAndDelete hstep
    | importPeer => exact h.importPeer hfits hstep
    | adoptRouterState => exact h.adoptRouterState hP hfits hstep

/-- The empty database keeps the invariant. -/
theorem allocation_empty : Allocation P none Database.empty where
  bounded _ hp := absurd hp List.not_mem_nil
  apart _ hp := absurd hp List.not_mem_nil
  inside _ ha := absurd ha List.not_mem_nil
  placed _ hp := absurd hp List.not_mem_nil

/-- The law holds in every run whose steps meet the condition. -/
theorem addressLaw_of_reaches (hP : P.ReadsIpv4)
    (h : (poolSystem P).Reaches (AdmitsStep P) Database.empty db) : AddressLaw P db :=
  (h.invariant allocation_empty fun _ _ _ hs hallow hstep =>
    hs.step hP hallow hstep).addressLaw

end Platform

/-! ## Runs of a small installation -/

/-- A run goes on with a transaction that commits. -/
theorem reaches_after {P : Platform} {admits : Option PoolTransaction → Database → Prop}
    {db db' : Database} (t : PoolTransaction) (h : (poolSystem P).Reaches admits db db')
    (hallow : admits (some t) db') (hcommits : (t.tx P db').toOption.isSome = true) :
    (poolSystem P).Reaches admits db ((t.tx P).after db') :=
  h.tail (a := some t) hallow (Tx.after_eq hcommits)

/-- A router and an interface, as a synchronisation stores them. -/
def plainInstalled : Database :=
  { Database.empty with
    routers := [plainRouter]
    interfaces := .single plainInterface plainInterface_check }

/-- The input of the plain pool. -/
def plainPoolInput : PoolInput where
  name := "Pool"
  routerId := "r1"
  interfaceId := "i1"
  networkCidr := "10.0.0.0/24"
  gatewayIp := "10.0.0.1"
  startIp := "10.0.0.2"
  endIp := "10.0.0.100"
  dns := "1.1.1.1"
  clientAllowedIps := "0.0.0.0/0"
  endpointHost := none
  endpointPort := none
  mtu := 1420
  persistentKeepalive := 25
  enabled := true

/-- The creation of the plain pool. -/
def plainCreatePool : PoolTransaction := .createPool plainPoolInput "w1" 0

/-- The staging of a peer in the plain pool. -/
def plainStagePeer : PoolTransaction :=
  .stagePeer { routerId := "r1", interfaceId := "i1", poolId := "w1", name := "Peer" } "p1" "o1"
    plainRouter plainInterface ⟨"private key", "peer key", none⟩ (.ok []) 0 rfl rfl

/-- The import of a peer whose allowed address has a network mask: its bits
    under the mask lie between the bounds of the plain pool, its host does not. -/
def maskedImport : PoolTransaction :=
  .importPeer "r1" "i1" { plainRemote with allowedAddress := "10.0.0.110/28" } "" 180 "p1" 0

/-- The database with the plain pool. -/
def plainPooled : Database := (plainCreatePool.tx Platform.plain).after plainInstalled

/-- The plain pool can be created. -/
theorem reaches_plainPooled {admits : Option PoolTransaction → Database → Prop}
    (hother : admits none Database.empty) (hcreate : admits (some plainCreatePool) plainInstalled) :
    (poolSystem Platform.plain).Reaches admits Database.empty plainPooled := by
  have hinstall : SamePlacement Database.empty plainInstalled := ⟨rfl, rfl, rfl⟩
  exact reaches_after _ (.tail (a := none) .refl hother hinstall) hcreate (by decide +kernel)

/-- The law holds after a peer has been staged. -/
theorem addressLaw_of_staged :
    AddressLaw Platform.plain ((plainStagePeer.tx Platform.plain).after plainPooled) :=
  addressLaw_of_reaches Platform.readsIpv4_plain <| reaches_after plainStagePeer
    (reaches_plainPooled (fun _ => nofun) fun _ ht => by
      obtain rfl := Option.some.inj ht
      exact fun _ _ _ _ _ _ p hp => absurd hp List.not_mem_nil)
    (fun _ ht => by
      obtain rfl := Option.some.inj ht
      trivial) (by decide +kernel)

/-- An address with a network mask is allocated outside the range of its pool. -/
theorem exists_not_addressLaw :
    ¬∀ (P : Platform) (db : Database), P.ReadsIpv4 →
      (poolSystem P).Reaches (fun _ _ => True) Database.empty db → AddressLaw P db := fun h => by
  have hlaw := h Platform.plain _ Platform.readsIpv4_plain <|
    reaches_after maskedImport (reaches_plainPooled trivial trivial) trivial (by decide +kernel)
  have hout : ∃ a ∈ ((maskedImport.tx Platform.plain).after plainPooled).addresses.rows,
      a.state = .allocated ∧
        ∀ pool ∈ ((maskedImport.tx Platform.plain).after plainPooled).pools.rows,
          pool.endIp.addr < a.ipAddress.addr := by decide +kernel
  obtain ⟨a, ha, hallocated, hout⟩ := hout
  obtain ⟨pool, hpool, -, hin, -⟩ := hlaw.inside a ha (.inr hallocated)
  exact absurd hin.2.2 (Nat.not_le.2 (hout pool hpool))

end WireguardPanel
