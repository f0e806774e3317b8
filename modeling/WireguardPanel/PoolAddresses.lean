import WireguardPanel.Foundation.Views
import WireguardPanel.Pool

/-!
# The addresses of a pool

The page of a pool lists its addresses, and counts them apart from the list.

* `listPoolAddresses`, `getPoolStats`: the list, in pages, and the counts.
* `shownAddresses`: the addresses as the unfiltered list shows them.
* `listPoolAddresses_agrees`: the pages have every address once, and as many in
  each state as are counted.
-/

namespace WireguardPanel

open Foundation

/-! ## The pool and its counts -/

section Queries

variable (P : Platform) (db : Database) (poolId : String)

/-- `getPool`. -/
def getPool : Except AppError WireGuardPool :=
  let found := do
    let row ← db.pool poolId
    let router ← db.router row.routerId
    let interface ← db.interface row.interfaceId
    return row.view P router interface
  match found with
  | some pool => .ok pool
  | none => .error (.poolConflict "WireGuard pool not found." none)

/-- The rows of `wireguard_pool_addresses` that belong to a pool. -/
def poolAddressRows : List PoolAddressRow := db.addresses.rows.filter fun a => a.poolId = poolId

/-- What `getPoolStats` returns. -/
structure PoolStats where
  total : ℤ
  used : ℤ
  reserved : ℤ
  available : ℤ
  deriving DecidableEq

/-- `getPoolStats`. -/
def getPoolStats : Except AppError PoolStats := do
  let pool ← getPool P db poolId
  let range ← ipv4Range pool.startIp pool.endIp
  let rows := poolAddressRows db poolId
  let used : ℤ := rows.countP fun a => a.state = .allocated
  let reserved : ℤ := rows.countP fun a => a.state = .reserved
  return {
    total := range.total, used, reserved, available := max 0 (range.total - used - reserved) }

/-! ## The list -/

/-- A row of the pool as the list reads it, with the peer that has the address. -/
structure StoredAddress where
  ip : String
  state : AddressState
  comment : Option String
  peerName : Option String
  origin : Option Origin

/-- The `SELECT` of the list. -/
def storedAddresses : List StoredAddress :=
  (poolAddressRows db poolId).map fun a =>
    let peer := a.peerId.bind db.peer
    { ip := hostText P a.ipAddress, state := a.state, comment := a.comment
      peerName := peer.map PeerRow.name, origin := peer.map PeerRow.origin }

end Queries

/-- The states that the list shows. -/
inductive ViewState
  | available
  | used
  | imported
  | reserved
  | router
  deriving DecidableEq

/-- The text of a state that is shown. -/
def ViewState.text : ViewState → String
  | .available => "available"
  | .used => "used"
  | .imported => "imported"
  | .reserved => "reserved"
  | .router => "router"

/-- `AddressView`. -/
structure AddressView where
  ip : String
  state : ViewState
  owner : Option String
  comment : Option String
  deriving DecidableEq

/-- The state in which an address is shown. -/
def StoredAddress.shownState (row : StoredAddress) : ViewState :=
  match row.state with
  | .allocated => if row.origin = some .imported then .imported else .used
  | .available => .available
  | .reserved => .reserved
  | .router => .router

/-- `addressView`. -/
def addressView (row : StoredAddress) : AddressView where
  ip := row.ip
  state := row.shownState
  owner := match row.state with
    | .allocated => row.peerName
    | .router => some "Router"
    | _ => none
  comment := row.comment

/-- An address of the range, as it is shown. -/
def rangeView (stored : List StoredAddress) (ip : String) : AddressView :=
  match Views.lookup StoredAddress.ip stored ip with
  | some row => addressView row
  | none => { ip, state := .available, owner := none, comment := none }

/-- The gateway, as it is shown where the rows do not have it. -/
def gatewayView (pool : WireGuardPool) (gateway : String) : AddressView where
  ip := gateway
  state := .router
  owner := some pool.interfaceName
  comment := some "WireGuard interface address"

/-- The rows of the list before they are filtered and sorted. -/
def shownAddresses (pool : WireGuardPool) (stored : List StoredAddress) (ips : List String) :
    List AddressView :=
  let rows := ips.map (rangeView stored)
  let gateway := normalizeClientIp pool.gatewayIp
  if rows.any fun row => row.ip = gateway then rows
  else rows ++ [gatewayView pool gateway]

/-! ## The order of the list -/

/-- `String.prototype.localeCompare`, as it is called without and with the options
    `numeric` and `sensitivity`. -/
structure Collation where
  localeCompare : String → String → ℤ
  localeCompareNumeric : String → String → ℤ

/-- An address as `compareIpAddresses` parses it: its network, if it is one of
    version 4, and its text. -/
def parseComparedIp (value : String) : Option (ℕ × ℕ) × String :=
  let raw := Text.trim (((Text.split ',' (Text.trim value)).head?).getD "")
  let network := if Text.includes raw ":" then none
    else (parseIpv4Cidr (if Text.includes raw "/" then raw else raw ++ "/32")).toOption
  (network.map fun network => (network.networkNumber, network.pfx), raw)

/-- `compareIpAddresses`. -/
def compareIpAddresses (C : Collation) (a b : String) : ℤ :=
  match parseComparedIp a, parseComparedIp b with
  | (some left, _), (some right, _) =>
    if (left.1 : ℤ) - right.1 ≠ 0 then (left.1 : ℤ) - right.1 else (left.2 : ℤ) - right.2
  | (some _, _), (none, _) => -1
  | (none, _), (some _, _) => 1
  | (none, left), (none, right) => C.localeCompareNumeric left right

/-- The options of `listPoolAddresses`. -/
structure ListOptions where
  filter : Option String := none
  sort : Option String := none
  page : Option ℤ := none
  limit : Option ℤ := none

/-- The comparison of two rows in the order of `sort`. -/
def compareViews (C : Collation) (sort : Option String) (a b : AddressView) : ℤ :=
  let parts := Text.split '_' (sort.getD "ip_asc")
  let factor : ℤ := if parts[1]? = some "desc" then -1 else 1
  factor *
    if parts[0]? = some "state" then C.localeCompare a.state.text b.state.text
    else if parts[0]? = some "owner" then C.localeCompare (a.owner.getD "") (b.owner.getD "")
    else compareIpAddresses C a.ip b.ip

/-- What `listPoolAddresses` returns. -/
structure AddressPage where
  pool : WireGuardPool
  rows : List AddressView
  total : ℕ
  page : ℤ
  pages : ℕ
  stats : PoolStats

/-- The size of a page. -/
def ListOptions.size (options : ListOptions) : ℤ := min 250 (max 25 (options.limit.getD 100))

/-- `listPoolAddresses`. -/
def listPoolAddresses (C : Collation) (P : Platform) (db : Database) (poolId : String)
    (options : ListOptions) : Except AppError AddressPage := do
  let pool ← getPool P db poolId
  let range ← ipv4Range pool.startIp pool.endIp
  let ips ← (List.range range.total).mapM fun i => numberToIpv4 (range.first + i)
  let rows := shownAddresses pool (storedAddresses P db poolId) ips
  let filter := options.filter.getD "all"
  let filtered := if filter = "all" then rows else rows.filter fun row => row.state.text = filter
  let sorted := filtered.mergeSort fun a b => compareViews C options.sort a b ≤ 0
  let page := max 1 (options.page.getD 1)
  let limit := options.size
  return {
    pool
    rows := Views.slice sorted ((page - 1) * limit).toNat (page * limit).toNat
    total := sorted.length
    page
    pages := Views.pageCount sorted.length limit.toNat
    stats := ← getPoolStats P db poolId }

/-! ## Ranges -/

/-- The addresses from one number up to another. -/
def rangeIps (first last : ℕ) : List String :=
  (List.range (last - first + 1)).map fun i => dotted (first + i)

/-- The pool has the addresses from `first` to `last`, and a gateway that is not
    among them. -/
structure WireGuardPool.Spans (pool : WireGuardPool) (first last gateway : ℕ) : Prop where
  startIp : pool.startIp = dotted first
  endIp : pool.endIp = dotted last
  gatewayIp : pool.gatewayIp = dotted gateway
  first_le : first ≤ last
  last_le : last ≤ 0xffffffff
  gateway_le : gateway ≤ 0xffffffff
  outside : ¬(first ≤ gateway ∧ gateway ≤ last)

section Ranges

variable {first last gateway : ℕ}

theorem mem_rangeIps {ip : String} (hle : first ≤ last) :
    ip ∈ rangeIps first last ↔ ∃ n, first ≤ n ∧ n ≤ last ∧ ip = dotted n := by
  rw [rangeIps, List.mem_map]
  constructor
  · rintro ⟨i, hi, rfl⟩
    have hlt := List.mem_range.1 hi
    exact ⟨first + i, by omega, by omega, rfl⟩
  · rintro ⟨n, hfirst, hlast, rfl⟩
    exact ⟨n - first, List.mem_range.2 (by omega), by rw [Nat.add_sub_cancel' hfirst]⟩

theorem nodup_rangeIps (hlast : last ≤ 0xffffffff) (hle : first ≤ last) :
    (rangeIps first last).Nodup := by
  refine List.Nodup.map_on (fun i hi j hj h => ?_) List.nodup_range
  have hi := List.mem_range.1 hi
  have hj := List.mem_range.1 hj
  have heq := dotted_injective (by omega) (by omega) h
  omega

/-- What each number of a list is converted to, if none of them fails. -/
theorem mapM_eq_ok {α β : Type} {f : α → Except AppError β} {g : α → β} {xs : List α}
    (h : ∀ x ∈ xs, f x = .ok (g x)) : xs.mapM f = .ok (xs.map g) := by
  induction xs with
  | nil => rfl
  | cons x xs ih =>
    obtain ⟨hx, hxs⟩ := List.forall_mem_cons.1 h
    rw [List.mapM_cons, hx, ih hxs]
    rfl

namespace WireGuardPool.Spans

variable {pool : WireGuardPool} (h : pool.Spans first last gateway)

include h

theorem range : ipv4Range pool.startIp pool.endIp = .ok ⟨first, last, last - first + 1⟩ := by
  have hfirst := le_trans h.first_le h.last_le
  rw [h.startIp, h.endIp, ipv4Range, normalizeClientIp_dotted, normalizeClientIp_dotted,
    ipv4ToNumber_dotted hfirst, ipv4ToNumber_dotted h.last_le]
  exact rejectIf_bind_ok.2 ⟨Nat.not_lt.2 h.first_le, rfl⟩

theorem ips : ((List.range (last - first + 1)).mapM fun i => numberToIpv4 (first + i)) =
    .ok (rangeIps first last) :=
  mapM_eq_ok fun i hi => numberToIpv4_ok.2 ⟨by
    have hlt := List.mem_range.1 hi
    have hle := h.first_le
    have hlast := h.last_le
    omega, rfl⟩

theorem gateway_not_mem : dotted gateway ∉ rangeIps first last := fun hmem => by
  obtain ⟨n, hfirst, hlast, heq⟩ := (mem_rangeIps h.first_le).1 hmem
  obtain rfl := dotted_injective h.gateway_le (le_trans hlast h.last_le) heq
  exact h.outside ⟨hfirst, hlast⟩

end WireGuardPool.Spans

end Ranges

/-- A pool that its table has accepted, with hosts as its bounds. -/
theorem spans_of_getPool {P : Platform} {db : Database} {poolId : String} {pool : WireGuardPool}
    {row : PoolRow} {first last gateway : ℕ} (hpool : getPool P db poolId = .ok pool)
    (hrow : db.pool poolId = some row) (hbounds : row.Bounded first last gateway)
    (hgateway : gateway ≤ 0xffffffff) : pool.Spans first last gateway := by
  have hcheck := db.pools.check row (Database.pool_spec hrow).1
  simp only [poolSchema, Bool.and_eq_true, decide_eq_true_eq, hbounds.start, hbounds.stop,
    hbounds.gateway, Inet.host_le_host] at hcheck
  obtain ⟨⟨⟨⟨⟨⟨⟨-, hle⟩, houtside⟩, -⟩, -⟩, -⟩, -⟩, -⟩ := hcheck
  rw [getPool, hrow] at hpool
  cases hrouter : db.router row.routerId with
  | none =>
    rw [Option.bind_eq_bind, Option.bind_some, hrouter] at hpool
    cases hpool
  | some router =>
    cases hinterface : db.interface row.interfaceId with
    | none =>
      rw [Option.bind_eq_bind, Option.bind_some, hrouter, Option.bind_eq_bind, Option.bind_some,
        hinterface] at hpool
      cases hpool
    | some interface =>
      rw [Option.bind_eq_bind, Option.bind_some, hrouter, Option.bind_eq_bind, Option.bind_some,
        hinterface] at hpool
      cases hpool
      obtain ⟨hstart, hstop, hgatewayIp⟩ := hbounds.view router interface
      exact ⟨hstart, hstop, hgatewayIp, hle, hbounds.last_le, hgateway, houtside⟩

/-! ## What is shown -/

/-- The rows of a pool: their addresses differ, those that are reserved or
    allocated are in the range, and that of the router is the gateway. -/
structure PlacedRows (stored : List StoredAddress) (first last gateway : ℕ) : Prop where
  unique : (stored.map StoredAddress.ip).Nodup
  inside : ∀ row ∈ stored, row.state = .reserved ∨ row.state = .allocated →
    row.ip ∈ rangeIps first last
  router : ∀ row ∈ stored, row.state = .router → row.ip = dotted gateway

@[simp] theorem rangeView_ip (stored : List StoredAddress) (ip : String) :
    (rangeView stored ip).ip = ip := by
  rw [rangeView]
  split
  · next row hrow => exact (Views.mem_of_lookup hrow).2
  · rfl

section Shown

variable {stored : List StoredAddress} {first last gateway : ℕ} {ips : List String}
  {pool : WireGuardPool}

theorem shownState_rangeView (ip : String) :
    (rangeView stored ip).state =
      (Views.lookup StoredAddress.ip stored ip).elim .available StoredAddress.shownState := by
  rw [rangeView]
  cases Views.lookup StoredAddress.ip stored ip <;> rfl

/-- An address is shown as used or imported just when its row is allocated. -/
theorem shown_used_iff (ip : String) :
    decide ((rangeView stored ip).state = .used ∨ (rangeView stored ip).state = .imported) =
      (Views.lookup StoredAddress.ip stored ip).any fun row => row.state = .allocated := by
  rw [shownState_rangeView]
  cases Views.lookup StoredAddress.ip stored ip with
  | none => rfl
  | some row =>
    obtain ⟨ip, state, comment, peerName, origin⟩ := row
    cases state with
    | allocated =>
      change decide ((if origin = some .imported then ViewState.imported else .used) = .used ∨
        (if origin = some .imported then ViewState.imported else .used) = .imported) = true
      split_ifs <;> rfl
    | available => rfl
    | reserved => rfl
    | router => rfl

theorem shown_reserved_iff (ip : String) :
    decide ((rangeView stored ip).state = .reserved) =
      (Views.lookup StoredAddress.ip stored ip).any fun row => row.state = .reserved := by
  rw [shownState_rangeView]
  cases Views.lookup StoredAddress.ip stored ip with
  | none => rfl
  | some row =>
    obtain ⟨ip, state, comment, peerName, origin⟩ := row
    cases state with
    | allocated =>
      change decide ((if origin = some .imported then ViewState.imported else .used) = .reserved) =
        false
      split_ifs <;> rfl
    | available => rfl
    | reserved => rfl
    | router => rfl

theorem shown_router {ip : String} (h : (rangeView stored ip).state = .router) :
    ∃ row ∈ stored, row.state = .router ∧ row.ip = ip := by
  rw [shownState_rangeView] at h
  cases hrow : Views.lookup StoredAddress.ip stored ip with
  | none =>
    rw [hrow] at h
    cases h
  | some row =>
    rw [hrow] at h
    obtain ⟨hmem, hip⟩ := Views.mem_of_lookup hrow
    refine ⟨row, hmem, ?_, hip⟩
    change row.shownState = .router at h
    rw [StoredAddress.shownState] at h
    split at h
    · split_ifs at h
    · cases h
    · cases h
    · assumption

/-- Every row is shown in one of four ways. -/
theorem length_eq_counts (rows : List AddressView) :
    rows.length = rows.countP (fun row => row.state = .available) +
      rows.countP (fun row => row.state = .used ∨ row.state = .imported) +
      rows.countP (fun row => row.state = .reserved) +
      rows.countP (fun row => row.state = .router) := by
  induction rows with
  | nil => rfl
  | cons row rows ih =>
    simp only [List.length_cons, List.countP_cons, ih]
    cases row.state <;> simp <;> omega

/-- The rows that are shown: those of the range and that of the gateway. -/
theorem shownAddresses_eq (hspans : pool.Spans first last gateway) :
    shownAddresses pool stored (rangeIps first last) =
      (rangeIps first last).map (rangeView stored) ++ [gatewayView pool (dotted gateway)] := by
  have hnone : ((rangeIps first last).map (rangeView stored)).any
      (fun row => row.ip = dotted gateway) = false := by
    rw [List.any_eq_false]
    intro row hrow hip
    obtain ⟨ip, hmem, rfl⟩ := List.mem_map.1 hrow
    rw [rangeView_ip] at hip
    exact hspans.gateway_not_mem (of_decide_eq_true hip ▸ hmem)
  rw [shownAddresses, hspans.gatewayIp, normalizeClientIp_dotted]
  exact if_neg (by rw [hnone]; decide)

theorem map_ip_rangeView : ((rangeIps first last).map (rangeView stored)).map AddressView.ip =
    rangeIps first last := by
  rw [List.map_map]
  exact List.map_id'' (fun ip => rangeView_ip stored ip) _

/-- The addresses that are shown in a state are as many as the rows in it. -/
theorem countP_shown {shown : AddressView → Bool} {kept : StoredAddress → Bool}
    (hspans : pool.Spans first last gateway) (hrows : PlacedRows stored first last gateway)
    (hstate : ∀ ip, shown (rangeView stored ip) =
      (Views.lookup StoredAddress.ip stored ip).any kept)
    (hinside : ∀ row ∈ stored, kept row = true → row.ip ∈ rangeIps first last) :
    ((rangeIps first last).map (rangeView stored)).countP shown = stored.countP kept := by
  rw [List.countP_map, ← Views.countP_lookup (nodup_rangeIps hspans.last_le hspans.first_le)
    hrows.unique kept hinside]
  exact List.countP_congr fun ip _ => by rw [Function.comp_apply, hstate]

end Shown

/-- Rows that list every address of a pool and its gateway once, and as many in
    each state as are counted. -/
structure ListsOnce (rows : List AddressView) (stats : PoolStats) (first last gateway : ℕ) :
    Prop where
  perm : (rows.map AddressView.ip).Perm (rangeIps first last ++ [dotted gateway])
  nodup : (rows.map AddressView.ip).Nodup
  available : (rows.countP fun row => row.state = .available) = stats.available
  used : (rows.countP fun row => row.state = .used ∨ row.state = .imported) = stats.used
  reserved : (rows.countP fun row => row.state = .reserved) = stats.reserved

/-- The rows in an order of their own agree as well. -/
theorem ListsOnce.of_perm {rows rows' : List AddressView} {stats : PoolStats}
    {first last gateway : ℕ} (h : ListsOnce rows stats first last gateway)
    (hperm : rows'.Perm rows) :
    ListsOnce rows' stats first last gateway where
  perm := (hperm.map _).trans h.perm
  nodup := (hperm.map _).nodup_iff.2 h.nodup
  available := by rw [hperm.countP_eq, h.available]
  used := by rw [hperm.countP_eq, h.used]
  reserved := by rw [hperm.countP_eq, h.reserved]

section Agreement

variable {P : Platform} {db : Database} {poolId : String} {pool : WireGuardPool}
  {first last gateway : ℕ}

/-- The counts, over the rows as the list reads them. -/
theorem getPoolStats_eq (hpool : getPool P db poolId = .ok pool)
    (hspans : pool.Spans first last gateway) :
    getPoolStats P db poolId = .ok
      (let used : ℤ := (storedAddresses P db poolId).countP fun row => row.state = .allocated
       let reserved : ℤ := (storedAddresses P db poolId).countP fun row => row.state = .reserved
       { total := (last - first + 1 : ℕ), used, reserved
         available := max 0 ((last - first + 1 : ℕ) - used - reserved) }) := by
  have hcount : ∀ state : AddressState,
      (storedAddresses P db poolId).countP (fun row => row.state = state) =
        (poolAddressRows db poolId).countP fun a => a.state = state := fun state => by
    rw [storedAddresses, List.countP_map]
    exact List.countP_congr fun _ _ => Iff.rfl
  rw [hcount, hcount]
  exact except_bind_ok.2 ⟨pool, hpool, except_bind_ok.2 ⟨_, hspans.range, rfl⟩⟩

/-- The rows of the whole list agree with the counts. -/
theorem agrees_shownAddresses (hpool : getPool P db poolId = .ok pool)
    (hspans : pool.Spans first last gateway)
    (hrows : PlacedRows (storedAddresses P db poolId) first last gateway) :
    ∃ stats, getPoolStats P db poolId = .ok stats ∧
      ListsOnce (shownAddresses pool (storedAddresses P db poolId) (rangeIps first last))
        stats first
        last gateway := by
  refine ⟨_, getPoolStats_eq hpool hspans, ?_⟩
  rw [shownAddresses_eq hspans]
  generalize storedAddresses P db poolId = stored at hrows ⊢
  have hused : ((rangeIps first last).map (rangeView stored)).countP
      (fun row => row.state = .used ∨ row.state = .imported) =
        stored.countP fun row => row.state = .allocated :=
    countP_shown hspans hrows shown_used_iff fun row hmem hstate =>
      hrows.inside row hmem (.inr (of_decide_eq_true hstate))
  have hreserved : ((rangeIps first last).map (rangeView stored)).countP
      (fun row => row.state = .reserved) = stored.countP fun row => row.state = .reserved :=
    countP_shown hspans hrows shown_reserved_iff fun row hmem hstate =>
      hrows.inside row hmem (.inl (of_decide_eq_true hstate))
  -- No row of the router is in the range.
  have hrouter : ((rangeIps first last).map (rangeView stored)).countP
      (fun row => row.state = .router) = 0 := by
    refine List.countP_eq_zero.2 fun row hrow hstate => ?_
    obtain ⟨ip, hip, rfl⟩ := List.mem_map.1 hrow
    obtain ⟨found, hmem, hfound, rfl⟩ := shown_router (of_decide_eq_true hstate)
    exact hspans.gateway_not_mem (hrows.router found hmem hfound ▸ hip)
  -- What is left of the range is available.
  have hlength := length_eq_counts ((rangeIps first last).map (rangeView stored))
  rw [List.length_map, rangeIps, List.length_map, List.length_range, ← rangeIps, hused, hreserved,
    hrouter] at hlength
  have hips : ((rangeIps first last).map (rangeView stored) ++
      [gatewayView pool (dotted gateway)]).map AddressView.ip =
        rangeIps first last ++ [dotted gateway] := by
    rw [List.map_append, map_ip_rangeView]
    rfl
  constructor
  · rw [hips]
  · rw [hips]
    refine List.nodup_append.2 ⟨nodup_rangeIps hspans.last_le hspans.first_le,
      List.nodup_singleton _, fun ip hip other hother heq => ?_⟩
    rw [List.mem_singleton] at hother
    exact hspans.gateway_not_mem (hother ▸ heq ▸ hip)
  -- The row of the gateway is in no count.
  · rw [List.countP_append]
    change ((_ + 0 : ℕ) : ℤ) = max 0 _
    omega
  · rw [List.countP_append, hused]
    rfl
  · rw [List.countP_append, hreserved]
    rfl

/-- The list, when it is not filtered: a page of all rows, in some order. -/
theorem listPoolAddresses_eq (C : Collation) (hpool : getPool P db poolId = .ok pool)
    (hspans : pool.Spans first last gateway) {stats : PoolStats}
    (hstats : getPoolStats P db poolId = .ok stats) {options : ListOptions}
    (hall : options.filter.getD "all" = "all") :
    ∃ sorted, sorted.Perm
        (shownAddresses pool (storedAddresses P db poolId) (rangeIps first last)) ∧
      ∀ page, 1 ≤ page →
        listPoolAddresses C P db poolId { options with page := some page } = .ok
          { pool, total := sorted.length, page, stats
            rows := Views.slice sorted ((page - 1) * options.size).toNat
              (page * options.size).toNat
            pages := Views.pageCount sorted.length options.size.toNat } := by
  refine ⟨_, List.mergeSort_perm _ fun a b => compareViews C options.sort a b ≤ 0,
    fun page hpage => ?_⟩
  have hmax : max 1 ((some page).getD 1) = page := max_eq_right hpage
  refine except_bind_ok.2 ⟨pool, hpool, except_bind_ok.2 ⟨_, hspans.range, except_bind_ok.2
    ⟨_, hspans.ips, except_bind_ok.2 ⟨stats, hstats, ?_⟩⟩⟩⟩
  simp only [hall, if_true, hmax]
  rfl

/-- The pages of the unfiltered list have every address of the range and the
    gateway once, and show as many addresses as available, as used or imported
    and as reserved as are counted. -/
theorem listPoolAddresses_agrees (C : Collation) (hpool : getPool P db poolId = .ok pool)
    (hspans : pool.Spans first last gateway)
    (hrows : PlacedRows (storedAddresses P db poolId) first last gateway) (options : ListOptions)
    (hall : options.filter.getD "all" = "all") :
    ∃ (stats : PoolStats) (pages : ℕ) (view : ℕ → AddressPage),
      getPoolStats P db poolId = .ok stats ∧ 1 ≤ pages ∧
      (∀ k, 1 ≤ k → k ≤ pages →
        listPoolAddresses C P db poolId { options with page := some k } = .ok (view k) ∧
          (view k).pages = pages ∧ (view k).stats = stats) ∧
      ListsOnce ((List.range pages).flatMap fun k => (view (k + 1)).rows) stats first
        last gateway := by
  obtain ⟨stats, hstats, hagrees⟩ := agrees_shownAddresses hpool hspans hrows
  obtain ⟨sorted, hperm, hpage⟩ := listPoolAddresses_eq C hpool hspans hstats hall
  have hsize : 25 ≤ options.size := by
    rw [ListOptions.size]
    omega
  -- The size of a page is between two bounds, both positive.
  obtain ⟨size, hnat⟩ := Int.eq_ofNat_of_zero_le (le_trans (by decide) hsize)
  have hpos : 0 < size := by omega
  refine ⟨stats, Views.pageCount sorted.length size, fun k =>
    { pool, total := sorted.length, page := k, stats
      rows := Views.slice sorted ((k - 1) * size) (k * size)
      pages := Views.pageCount sorted.length size }, hstats, le_max_left _ _,
    fun k hk _ => ⟨?_, rfl, rfl⟩, ?_⟩
  · have hstart : (((k : ℤ) - 1) * options.size).toNat = (k - 1) * size := by
      rw [hnat, ← Int.natCast_pred_of_pos hk, ← Int.natCast_mul, Int.toNat_natCast]
    have hstop : ((k : ℤ) * options.size).toNat = k * size := by
      rw [hnat, ← Int.natCast_mul, Int.toNat_natCast]
    rw [hpage k (by omega), hstart, hstop, hnat]
    rfl
  · exact (Views.flatMap_pages sorted hpos).symm ▸ hagrees.of_perm hperm

end Agreement

/-! ## The pool of the installation -/

/-- An order of texts by their characters. -/
def plainCollation : Collation where
  localeCompare a b := if a < b then -1 else if b < a then 1 else 0
  localeCompareNumeric a b := if a < b then -1 else if b < a then 1 else 0

/-- The installation, with a peer that has the first address of the pool. -/
def pooledDatabase : Database := plainDatabase plainPeer plainPeer_check

theorem placedRows_pooledDatabase : PlacedRows (storedAddresses Platform.plain pooledDatabase "w1")
    0x0a000002 0x0a000064 0x0a000001 where
  unique := List.nodup_singleton _
  inside row hrow _ := by
    obtain rfl := List.mem_singleton.1 hrow
    exact (mem_rangeIps (by decide)).2 ⟨0x0a000002, le_rfl, by decide, rfl⟩
  router row hrow hstate := by
    obtain rfl := List.mem_singleton.1 hrow
    cases hstate

/-- The list of the pool of the installation, in its first order. -/
theorem listPoolAddresses_agrees_plain :
    ∃ (stats : PoolStats) (pages : ℕ) (view : ℕ → AddressPage),
      getPoolStats Platform.plain pooledDatabase "w1" = .ok stats ∧ 1 ≤ pages ∧
      (∀ k, 1 ≤ k → k ≤ pages →
        listPoolAddresses plainCollation Platform.plain pooledDatabase "w1" { page := some k } =
            .ok (view k) ∧ (view k).pages = pages ∧ (view k).stats = stats) ∧
      ListsOnce ((List.range pages).flatMap fun k => (view (k + 1)).rows) stats
        0x0a000002 0x0a000064
        0x0a000001 := by
  have hpool : getPool Platform.plain pooledDatabase "w1" =
      .ok (plainPool.view Platform.plain plainRouter plainInterface) := rfl
  have hspans := spans_of_getPool hpool rfl
    (⟨rfl, rfl, rfl, by decide, by decide⟩ : plainPool.Bounded 0x0a000002 0x0a000064 0x0a000001)
    (by decide)
  exact listPoolAddresses_agrees plainCollation hpool hspans placedRows_pooledDatabase {} rfl

end WireguardPanel
