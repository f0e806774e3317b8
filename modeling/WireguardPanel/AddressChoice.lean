import Mathlib.Order.Nat
import WireguardPanel.Pool

/-!
# The choice of an address

Which address `choosePoolAddress` gives to a peer. Four kinds of owners are in
its way: the peers of the router, the rows of its pools, and what its RouterOS
peers own in their allowed addresses, with a mask or without.

* `Owned`, `OwnedAs`: an address has an owner by its number, and in a spelling.
* `choosePoolAddress_free_iff`: the address that is returned has no owner just
  when none of the addresses that the call can come to has an owner in another
  spelling only.
* `choosePoolAddress_least`: without a request it is the least address that is
  not taken, and the preview `allocateClientIp` comes to the same address.
-/

namespace WireguardPanel

open Foundation

/-! ## The preview -/

/-- `allocateClientIp`. -/
def allocateClientIp (poolStart poolEnd : String) (usedAddresses : List String)
    (requested : Option String) : Except AppError String := do
  let start ← ipv4ToNumber (normalizeClientIp poolStart)
  let stop ← ipv4ToNumber (normalizeClientIp poolEnd)
  rejectIf (stop < start) <|
    .ipAllocation "The client pool start must be before the pool end."
  let used := usedAddresses.map normalizeClientIp
  match requested.bind nonEmpty with
  | some requested =>
    let normalized := normalizeClientIp requested
    let candidate ← ipv4ToNumber normalized
    rejectIf (candidate < start ∨ stop < candidate) <|
      .ipAllocation (normalized ++ " is outside this interface's client pool.")
    rejectIf (normalized ∈ used) <|
      .ipAllocation (normalized ++ " is already assigned to another peer.")
    return normalized
  | none =>
    match ← firstFree (fun ip => decide (ip ∉ used)) (stop - start + 1) start with
    | some ip => return ip
    | none => throw <|
        .ipAllocation "No client addresses are available in this interface's pool."

/-! ## Owners -/

/-- The entries of an allowed address. -/
def allowedEntries (allowedAddresses : String) : List String :=
  (Text.split ',' allowedAddresses).map Text.trim

/-- A network that contains the address `n`. -/
def NetworkContains (entry : String) (n : ℕ) : Prop :=
  ∃ network, parseIpv4Cidr entry = .ok network ∧ network.networkNumber ≤ n ∧
    n ≤ network.broadcastNumber

/-- An allowed address covers the number `n`: it has the address, in whatever
    spelling, or a network that contains it. -/
def Covers (allowedAddresses : String) (n : ℕ) : Prop :=
  ∃ entry ∈ allowedEntries allowedAddresses, ipv4ToNumber entry = .ok n ∨ NetworkContains entry n

/-- An allowed address has an entry for the address `n`: the address in its
    dotted form, or a network that contains it. -/
def Takes (allowedAddresses : String) (n : ℕ) : Prop :=
  ∃ entry ∈ allowedEntries allowedAddresses, entry = dotted n ∨ NetworkContains entry n

section Owners

variable (P : Platform) (db : Database) (routerId : String)
  (remotePeers : List RemoteWireGuardPeer) (excludePeerId : Option String)

/-- One of the owners in the way of a choice: another peer of the router whose
    `client_ip` is as given, a row of the router that is not available and not
    of the excluded peer whose `host` is as given, or a RouterOS peer whose
    allowed address is as given. -/
def SomeOwner (clientIp host allowedAddress : String → Prop) : Prop :=
  (∃ p ∈ db.peers.rows, p.routerId = routerId ∧ excludePeerId ≠ some p.id ∧
      ∃ text, p.clientIp = some text ∧ clientIp text) ∨
    (∃ a ∈ db.addresses.rows, a.routerId = routerId ∧ a.state ≠ .available ∧
      (excludePeerId = none ∨ a.peerId ≠ excludePeerId) ∧ host (hostText P a.ipAddress)) ∨
    ∃ remote ∈ remotePeers, allowedAddress remote.allowedAddress

/-- The address `n` has an owner, in whatever spelling. -/
def Owned (n : ℕ) : Prop :=
  SomeOwner P db routerId remotePeers excludePeerId
    (fun text => ipv4ToNumber (normalizeClientIp text) = .ok n) (fun host => host = dotted n)
    fun allowedAddress => Covers allowedAddress n

/-- The address has an owner in the spelling `ip`, or in a network. -/
def OwnedAs (ip : String) : Prop :=
  SomeOwner P db routerId remotePeers excludePeerId (fun text => normalizeClientIp text = ip)
    (fun host => host = ip) fun allowedAddress => allowedAddressOwnsIp allowedAddress ip = true

/-- The address `n` is taken: it is the `client_ip` of another peer, the address
    of a row, or has an entry in an allowed address. -/
def Taken (n : ℕ) : Prop :=
  SomeOwner P db routerId remotePeers excludePeerId
    (fun text => ipv4ToNumber (normalizeClientIp text) = .ok n) (fun host => host = dotted n)
    fun allowedAddress => Takes allowedAddress n

end Owners

/-- The addresses of the range that the call can come to, in the spelling in
    which it looks for their owners: the one that is asked for, or one that all
    smaller ones have an owner below. -/
def Candidate (P : Platform) (db : Database) (pool : WireGuardPool)
    (remotePeers : List RemoteWireGuardPeer) (requestedIp excludePeerId : Option String)
    (ip : String) (n : ℕ) : Prop :=
  ∃ range, ipv4Range pool.startIp pool.endIp = .ok range ∧ range.first ≤ n ∧ n ≤ range.last ∧
    match requestedIp.bind nonEmpty with
    | some requested =>
      ip = normalizeClientIp requested ∧ ipv4ToNumber ip = .ok n ∧
        ip ≠ normalizeClientIp pool.gatewayIp
    | none =>
      ip = dotted n ∧ ∀ m, range.first ≤ m → m < n →
        OwnedAs P db pool.routerId remotePeers excludePeerId (dotted m)

/-- Every peer has its router, interface and pool. -/
def Database.PeersPlaced (db : Database) : Prop :=
  ∀ p ∈ db.peers.rows, Tx.References db p.routerId p.interfaceId p.poolId

/-! ## Numbers and ranges -/

/-- The search finds the least address that nothing speaks against. -/
theorem firstFree_eq_some_iff {free : String → Bool} {count value : ℕ}
    (hmax : value + count ≤ 0x100000000) {ip : String} :
    firstFree free count value = .ok (some ip) ↔
      ∃ n, ip = dotted n ∧
      IsLeast {m | value ≤ m ∧ m < value + count ∧ free (dotted m) = true} n := by
  induction count generalizing value with
  | zero =>
    refine iff_of_false nofun ?_
    rintro ⟨n, -, ⟨hle, hlt, -⟩, -⟩
    omega
  | succ count ih =>
    have hvalue : value ≤ 0xffffffff := by omega
    rw [firstFree, numberToIpv4_ok.2 ⟨hvalue, rfl⟩]
    simp only [bind, Except.bind]
    by_cases hfree : free (dotted value) = true
    · rw [if_pos hfree]
      constructor
      · intro h
        cases h
        exact ⟨value, rfl, ⟨le_rfl, by omega, hfree⟩, fun m hm => hm.1⟩
      · rintro ⟨n, rfl, ⟨hle, -, -⟩, hleast⟩
        have hn := hleast ⟨le_rfl, by omega, hfree⟩
        rw [Nat.le_antisymm hn hle]
        rfl
    · rw [if_neg hfree, ih (by omega)]
      -- The first address is no candidate, so the candidates are the later ones.
      have hset : {m | value + 1 ≤ m ∧ m < value + 1 + count ∧ free (dotted m) = true} =
          {m | value ≤ m ∧ m < value + (count + 1) ∧ free (dotted m) = true} := by
        ext m
        constructor
        · rintro ⟨hle, hlt, hm⟩
          exact ⟨by omega, by omega, hm⟩
        · rintro ⟨hle, hlt, hm⟩
          have hne : m ≠ value := fun heq => hfree (heq ▸ hm)
          exact ⟨by omega, by omega, hm⟩
      rw [hset]

theorem firstFree_eq_none_iff {free : String → Bool} {count value : ℕ}
    (hmax : value + count ≤ 0x100000000) :
    firstFree free count value = .ok none ↔
      ∀ m, value ≤ m → m < value + count → free (dotted m) = false := by
  induction count generalizing value with
  | zero => exact iff_of_true rfl fun m hle hlt => absurd hlt (by omega)
  | succ count ih =>
    have hvalue : value ≤ 0xffffffff := by omega
    rw [firstFree, numberToIpv4_ok.2 ⟨hvalue, rfl⟩]
    simp only [bind, Except.bind]
    by_cases hfree : free (dotted value) = true
    · rw [if_pos hfree]
      refine iff_of_false (fun h => ?_) fun h => ?_
      · cases h
      · rw [h value le_rfl (by omega)] at hfree
        cases hfree
    · rw [if_neg hfree, ih (by omega)]
      constructor
      · intro h m hle hlt
        rcases Nat.eq_or_lt_of_le hle with rfl | hlt'
        · simpa using hfree
        · exact h m hlt' (by omega)
      · exact fun h m hle hlt => h m (by omega) (by omega)

/-! ## What speaks against an address -/

section Platform

variable {P : Platform} {db db' : Database} {pool : WireGuardPool}
  {remotePeers : List RemoteWireGuardPeer} {requestedIp excludePeerId : Option String}

theorem mem_addressOwners (hplaced : db.PeersPlaced) {routerId clientIp : String} :
    (∃ owner, (clientIp, owner) ∈ addressOwners db routerId excludePeerId) ↔
      ∃ p ∈ db.peers.rows, p.routerId = routerId ∧ excludePeerId ≠ some p.id ∧
        p.clientIp = some clientIp := by
  constructor
  · rintro ⟨owner, hmem⟩
    obtain ⟨p, hp, howner⟩ := List.mem_filterMap.1 hmem
    split_ifs at howner with hother
    obtain ⟨text, htext, howner⟩ := Option.bind_eq_some_iff.1 howner
    obtain ⟨router, -, howner⟩ := Option.bind_eq_some_iff.1 howner
    obtain ⟨interface, -, howner⟩ := Option.bind_eq_some_iff.1 howner
    cases howner
    exact ⟨p, hp, hother.1, hother.2, htext⟩
  · rintro ⟨p, hp, hrouter, hother, htext⟩
    obtain ⟨hrouter', hinterface, -⟩ := hplaced p hp
    obtain ⟨router, hrouter'⟩ := Option.isSome_iff_exists.1 hrouter'
    obtain ⟨interface, hinterface⟩ := Option.isSome_iff_exists.1 hinterface
    let owner : PoolOwner := {
      peer := some p.name, router := some router.name, interface := some interface.name
      kind := some "peer" }
    refine ⟨owner, List.mem_filterMap.2 ⟨p, hp, ?_⟩⟩
    rw [if_pos ⟨hrouter, hother⟩, htext, hrouter', hinterface]
    rfl

/-- Nothing speaks against an address just when it has no owner in its
    spelling. -/
theorem explain_eq_none_iff (hplaced : db.PeersPlaced) {ip : String} :
    explain P db pool remotePeers excludePeerId ip = none ↔
      ¬OwnedAs P db pool.routerId remotePeers excludePeerId ip := by
  have howners : (addressOwners db pool.routerId excludePeerId).find?
      (fun o => normalizeClientIp o.1 = ip) = none ↔
      ¬∃ p ∈ db.peers.rows, p.routerId = pool.routerId ∧ excludePeerId ≠ some p.id ∧
        ∃ text, p.clientIp = some text ∧ normalizeClientIp text = ip := by
    rw [List.find?_eq_none]
    constructor
    · rintro hnone ⟨p, hp, hrouter, hother, text, htext, hip⟩
      obtain ⟨owner, hmem⟩ := (mem_addressOwners hplaced).2 ⟨p, hp, hrouter, hother, htext⟩
      exact hnone _ hmem (by simpa using hip)
    · rintro hnone ⟨text, owner⟩ hmem hip
      obtain ⟨p, hp, hrouter, hother, htext⟩ := (mem_addressOwners hplaced).1 ⟨owner, hmem⟩
      exact hnone ⟨p, hp, hrouter, hother, text, htext, by simpa using hip⟩
  have hrows :
      (blockedAddresses P db pool.routerId excludePeerId).find? (fun b => b.1 = ip) = none ↔
      ¬∃ a ∈ db.addresses.rows, a.routerId = pool.routerId ∧ a.state ≠ .available ∧
        (excludePeerId = none ∨ a.peerId ≠ excludePeerId) ∧ hostText P a.ipAddress = ip := by
    simp [blockedAddresses, List.find?_eq_none]
  have hremotes :
      remotePeers.find? (fun peer => allowedAddressOwnsIp peer.allowedAddress ip) = none ↔
      ¬∃ remote ∈ remotePeers, allowedAddressOwnsIp remote.allowedAddress ip = true := by
    simp [List.find?_eq_none]
  unfold explain OwnedAs SomeOwner
  rw [not_or, not_or, ← howners, ← hrows, ← hremotes]
  split
  · next hfound => simp [hfound]
  · next hnone =>
    split
    · next hfound => simp [hfound]
    · next hnone' =>
      split
      · next hfound => simp [hfound]
      · next hnone'' => simp [hnone, hnone', hnone'']

/-- An address is valid just when its number is in the range of the pool and it
    is not the gateway. -/
theorem validateAddressInPool_ok_iff {value ip : String} :
    validateAddressInPool pool value = .ok ip ↔
      ∃ range n, ipv4Range pool.startIp pool.endIp = .ok range ∧ range.first ≤ n ∧
        n ≤ range.last ∧ ip = normalizeClientIp value ∧ ipv4ToNumber ip = .ok n ∧
        ip ≠ normalizeClientIp pool.gatewayIp := by
  rw [validateAddressInPool, except_bind_ok]
  constructor
  · rintro ⟨n, hnumber, h⟩
    obtain ⟨range, hrange, h⟩ := except_bind_ok.1 h
    obtain ⟨hinside, h⟩ := rejectIf_bind_ok.1 h
    obtain ⟨hgateway, h⟩ := rejectIf_bind_ok.1 h
    have hip : normalizeClientIp value = ip := Except.ok.inj h
    rw [hip] at hnumber hgateway
    rw [not_or, Nat.not_lt, Nat.not_lt] at hinside
    exact ⟨range, n, hrange, hinside.1, hinside.2, hip.symm, hnumber, hgateway⟩
  · rintro ⟨range, n, hrange, hfirst, hlast, hip, hnumber, hgateway⟩
    rw [hip] at hnumber hgateway ⊢
    refine ⟨n, hnumber, ?_⟩
    rw [except_bind_ok]
    refine ⟨range, hrange, ?_⟩
    rw [rejectIf_bind_ok, rejectIf_bind_ok]
    exact ⟨by omega, hgateway, rfl⟩

/-- A search over a range stays within the addresses of version 4. -/
theorem ipv4Range_max {start stop : String} {range : Ipv4Range}
    (h : ipv4Range start stop = .ok range) : range.first + range.total ≤ 0x100000000 := by
  obtain ⟨hle, hlast, htotal⟩ := ipv4Range_ok h
  omega

/-- What the call returns: an address that it can come to and that has no owner
    in its spelling. -/
theorem choosePoolAddress_ok_iff (hplaced : db.PeersPlaced) {ip : String} :
    choosePoolAddress P pool remotePeers requestedIp excludePeerId db = .ok (ip, db') ↔
      db = db' ∧ (∃ n, Candidate P db pool remotePeers requestedIp excludePeerId ip n) ∧
        ¬OwnedAs P db pool.routerId remotePeers excludePeerId ip := by
  rw [choosePoolAddress, Tx.get_bind, ← explain_eq_none_iff hplaced]
  unfold Candidate
  cases hrequested : requestedIp.bind nonEmpty with
  | some requested =>
    simp only [Tx.ofExcept_bind_ok, validateAddressInPool_ok_iff]
    constructor
    · rintro ⟨text, ⟨range, n, hrange, hfirst, hlast, hvalid⟩, h⟩
      cases hexplain : explain P db pool remotePeers excludePeerId text with
      | some conflict =>
        rw [hexplain] at h
        exact absurd h Tx.throw_ne_ok
      | none =>
        rw [hexplain] at h
        obtain ⟨rfl, rfl⟩ := Tx.pure_eq_ok.1 h
        exact ⟨rfl, ⟨n, range, hrange, hfirst, hlast, hvalid⟩, hexplain⟩
    · rintro ⟨rfl, ⟨n, range, hrange, hfirst, hlast, hvalid⟩, hnone⟩
      refine ⟨ip, ⟨range, n, hrange, hfirst, hlast, hvalid⟩, ?_⟩
      rw [hnone]
      rfl
  | none =>
    have hfree : ∀ ip, (explain P db pool remotePeers excludePeerId ip).isNone = true ↔
        ¬OwnedAs P db pool.routerId remotePeers excludePeerId ip := fun ip => by
      rw [Option.isNone_iff_eq_none, explain_eq_none_iff hplaced]
    simp only [Tx.ofExcept_bind_ok]
    constructor
    · rintro ⟨range, hrange, chosen, hchosen, h⟩
      obtain ⟨-, -, htotal⟩ := ipv4Range_ok hrange
      cases chosen with
      | none => exact absurd h Tx.throw_ne_ok
      | some ip' =>
        obtain ⟨rfl, rfl⟩ := Tx.pure_eq_ok.1 h
        obtain ⟨n, rfl, ⟨hfirst, hlast, hnone⟩, hleast⟩ :=
          (firstFree_eq_some_iff (ipv4Range_max hrange)).1 hchosen
        obtain ⟨hle, -, -⟩ := ipv4Range_ok hrange
        refine ⟨rfl, ⟨n, range, hrange, hfirst, by omega, rfl, fun m hm hlt => ?_⟩,
          Option.isNone_iff_eq_none.1 hnone⟩
        by_contra howned
        exact absurd (hleast ⟨hm, by omega, (hfree _).2 howned⟩) (by omega)
    · rintro ⟨rfl, ⟨n, range, hrange, hfirst, hlast, rfl, hbelow⟩, hnone⟩
      obtain ⟨-, -, htotal⟩ := ipv4Range_ok hrange
      refine ⟨range, hrange, some (dotted n), ?_, rfl⟩
      refine (firstFree_eq_some_iff (ipv4Range_max hrange)).2
        ⟨n, rfl, ⟨hfirst, by omega, Option.isNone_iff_eq_none.2 hnone⟩, fun m hm => ?_⟩
      by_contra hlt
      exact (hfree _).1 hm.2.2 (hbelow m hm.1 (by omega))

/-- What is returned is an address, in the spelling in which it was asked for or
    else in the dotted one. -/
theorem choosePoolAddress_spelling {ip : String}
    (h : choosePoolAddress P pool remotePeers requestedIp excludePeerId db = .ok (ip, db')) :
    (∃ n, ipv4ToNumber ip = .ok n) ∧
      match requestedIp.bind nonEmpty with
      | some requested => ip = normalizeClientIp requested
      | none => ∃ n, ip = dotted n := by
  rw [choosePoolAddress, Tx.get_bind] at h
  cases hrequested : requestedIp.bind nonEmpty with
  | some requested =>
    simp only [hrequested] at h
    obtain ⟨text, hvalid, h⟩ := Tx.ofExcept_bind_ok.1 h
    obtain ⟨-, n, -, -, -, htext, hnumber, -⟩ := validateAddressInPool_ok_iff.1 hvalid
    cases hexplain : explain P db pool remotePeers excludePeerId text with
    | some conflict =>
      rw [hexplain] at h
      exact absurd h Tx.throw_ne_ok
    | none =>
      rw [hexplain] at h
      obtain ⟨rfl, -⟩ := Tx.pure_eq_ok.1 h
      exact ⟨⟨n, hnumber⟩, htext⟩
  | none =>
    simp only [hrequested] at h
    obtain ⟨range, -, h⟩ := Tx.ofExcept_bind_ok.1 h
    obtain ⟨chosen, hchosen, h⟩ := Tx.ofExcept_bind_ok.1 h
    cases chosen with
    | none => exact absurd h Tx.throw_ne_ok
    | some ip' =>
      obtain ⟨rfl, -⟩ := Tx.pure_eq_ok.1 h
      obtain ⟨n, -, -, rfl, hn, -⟩ := firstFree_ok hchosen
      exact ⟨⟨n, ipv4ToNumber_dotted hn⟩, n, rfl⟩

/-- What is returned is an address. -/
theorem choosePoolAddress_number {ip : String}
    (h : choosePoolAddress P pool remotePeers requestedIp excludePeerId db = .ok (ip, db')) :
    ∃ n, ipv4ToNumber ip = .ok n := (choosePoolAddress_spelling h).1

/-! ## Spellings -/

/-- The number of the address that the call can come to. -/
theorem Candidate.number {ip : String} {n : ℕ}
    (h : Candidate P db pool remotePeers requestedIp excludePeerId ip n) :
    ipv4ToNumber ip = .ok n := by
  obtain ⟨range, hrange, -, hlast, h⟩ := h
  obtain ⟨-, hmax, -⟩ := ipv4Range_ok hrange
  cases hrequested : requestedIp.bind nonEmpty with
  | some requested =>
    rw [hrequested] at h
    exact h.2.1
  | none =>
    rw [hrequested] at h
    obtain ⟨rfl, -⟩ := h
    exact ipv4ToNumber_dotted (le_trans hlast hmax)

/-- The address that is returned lies in the range and has no owner just when
    every address that the call can come to and that has an owner has one in
    the spelling in which the call looks for it. -/
theorem choosePoolAddress_free_iff (P : Platform) (db : Database) (pool : WireGuardPool)
    (remotePeers : List RemoteWireGuardPeer) (requestedIp excludePeerId : Option String)
    (hplaced : db.PeersPlaced) :
    (∀ ip db', choosePoolAddress P pool remotePeers requestedIp excludePeerId db = .ok (ip, db') →
        ∃ n range, ipv4ToNumber ip = .ok n ∧ ipv4Range pool.startIp pool.endIp = .ok range ∧
          range.first ≤ n ∧ n ≤ range.last ∧
          ¬Owned P db pool.routerId remotePeers excludePeerId n) ↔
      ∀ ip n, Candidate P db pool remotePeers requestedIp excludePeerId ip n →
        Owned P db pool.routerId remotePeers excludePeerId n →
          OwnedAs P db pool.routerId remotePeers excludePeerId ip := by
  constructor
  · intro h ip n hcandidate howned
    by_contra hspelled
    obtain ⟨n', range, hnumber, -, -, -, hfree⟩ :=
      h ip db ((choosePoolAddress_ok_iff hplaced).2 ⟨rfl, ⟨n, hcandidate⟩, hspelled⟩)
    rw [hcandidate.number] at hnumber
    cases hnumber
    exact hfree howned
  · intro h ip db' hchoose
    obtain ⟨rfl, ⟨n, hcandidate⟩, hspelled⟩ := (choosePoolAddress_ok_iff hplaced).1 hchoose
    have hfree := mt (h ip n hcandidate) hspelled
    have hnumber := hcandidate.number
    obtain ⟨range, hrange, hfirst, hlast, -⟩ := hcandidate
    exact ⟨n, range, hnumber, hrange, hfirst, hlast, hfree⟩

/-! ## The least free address -/

theorem NetworkContains.slash {entry : String} {n : ℕ} (h : NetworkContains entry n) :
    '/' ∈ entry.toList := by
  obtain ⟨network, h, -⟩ := h
  by_contra hslash
  rw [parseIpv4Cidr, Text.split_eq_singleton fun hmem => hslash (Text.mem_trim hmem)] at h
  cases h

theorem cidrContainsIp_dotted {cidr : String} {n : ℕ} (hn : n ≤ 0xffffffff) :
    cidrContainsIp cidr (dotted n) = true ↔ NetworkContains cidr n := by
  unfold cidrContainsIp ipv4InCidr NetworkContains
  rw [normalizeClientIp_dotted, ipv4ToNumber_dotted hn]
  generalize parseIpv4Cidr cidr = parsed
  cases parsed with
  | error e => exact iff_of_false nofun fun ⟨_, h, _⟩ => nomatch h
  | ok network =>
    change decide (network.networkNumber ≤ n ∧ n ≤ network.broadcastNumber) = true ↔ _
    rw [decide_eq_true_eq]
    exact ⟨fun h => ⟨network, rfl, h⟩, fun ⟨_, heq, h⟩ => Except.ok.inj heq ▸ h⟩

/-- A text with a slash includes a slash. -/
theorem includes_slash {s : String} : Text.includes s "/" = true ↔ '/' ∈ s.toList := by
  rw [Text.includes, decide_eq_true_eq]
  exact List.singleton_infix_iff '/' s.toList

/-- Who owns a dotted address has an entry for it. -/
theorem allowedAddressOwnsIp_dotted {allowedAddresses : String} {n : ℕ} (hn : n ≤ 0xffffffff) :
    allowedAddressOwnsIp allowedAddresses (dotted n) = true ↔ Takes allowedAddresses n := by
  have hdotted : '/' ∉ (dotted n).toList := fun hmem => by
    rcases mem_dotted hmem with h | h
    · exact absurd h (by decide)
    · exact (isDigit_spec h).2.2 rfl
  have hempty : "" ≠ dotted n := fun heq => by
    have hread := ipv4ToNumber_dotted hn
    rw [← heq] at hread
    exact absurd hread nofun
  unfold allowedAddressOwnsIp Takes allowedEntries
  rw [List.any_eq_true]
  simp only [List.mem_map, exists_exists_and_eq_and]
  refine exists_congr fun value => and_congr_right fun _ => ?_
  have htrim := Text.trim_trim value
  generalize Text.trim value = entry at htrim ⊢
  split_ifs with hnone hincludes
  · refine iff_of_false nofun ?_
    rintro (rfl | h)
    · exact hempty hnone.symm
    · rw [hnone] at h
      exact absurd h.slash (by decide)
  · rw [cidrContainsIp_dotted hn]
    refine (or_iff_right fun heq => hdotted ?_).symm
    rw [← heq]
    exact includes_slash.1 hincludes
  · -- An entry without a slash is an address.
    have hslash : '/' ∉ entry.toList := fun hmem => hincludes (includes_slash.2 hmem)
    have hentry : normalizeClientIp entry = entry := by
      rw [normalizeClientIp, htrim, Text.split_eq_singleton hslash]
      rfl
    rw [decide_eq_true_eq, hentry, normalizeClientIp_dotted]
    exact (or_iff_left fun h => hslash h.slash).symm

/-- The addresses of peers are in their dotted form. -/
def Database.ClientIpsDotted (db : Database) : Prop :=
  ∀ p ∈ db.peers.rows, ∀ text, p.clientIp = some text → ∃ n ≤ 0xffffffff, text = dotted n

/-- In the dotted form an address has an owner just when it is taken. -/
theorem ownedAs_dotted_iff (hdotted : db.ClientIpsDotted) {routerId : String} {n : ℕ}
    (hn : n ≤ 0xffffffff) :
    OwnedAs P db routerId remotePeers excludePeerId (dotted n) ↔
      Taken P db routerId remotePeers excludePeerId n := by
  refine or_congr ?_ (or_congr_right ?_)
  · refine exists_congr fun p => and_congr_right fun hp => and_congr_right fun _ =>
      and_congr_right fun _ => exists_congr fun text => and_congr_right fun htext => ?_
    obtain ⟨m, hm, rfl⟩ := hdotted p hp text htext
    dsimp only
    rw [normalizeClientIp_dotted, ipv4ToNumber_dotted hm, Except.ok.injEq]
    exact ⟨dotted_injective hm hn, congrArg dotted⟩
  · exact exists_congr fun remote => and_congr_right fun _ => allowedAddressOwnsIp_dotted hn

theorem choosePoolAddress_none_ok_iff (hplaced : db.PeersPlaced) (hdotted : db.ClientIpsDotted)
    {range : Ipv4Range} (hrange : ipv4Range pool.startIp pool.endIp = .ok range) {ip : String} :
    choosePoolAddress P pool remotePeers none excludePeerId db = .ok (ip, db') ↔
      db = db' ∧ ∃ n, ip = dotted n ∧ IsLeast {n | range.first ≤ n ∧ n ≤ range.last ∧
        ¬Taken P db pool.routerId remotePeers excludePeerId n} n := by
  obtain ⟨-, hmax, -⟩ := ipv4Range_ok hrange
  rw [choosePoolAddress_ok_iff hplaced]
  refine and_congr_right fun _ => ?_
  constructor
  · rintro ⟨⟨n, range', hrange', hfirst, hlast, rfl, hbelow⟩, hspelled⟩
    obtain rfl := Except.ok.inj (hrange.symm.trans hrange')
    rw [ownedAs_dotted_iff hdotted (by omega)] at hspelled
    refine ⟨n, rfl, ⟨hfirst, hlast, hspelled⟩, fun m ⟨hm, hm', hfree⟩ => ?_⟩
    by_contra hlt
    exact hfree ((ownedAs_dotted_iff hdotted (by omega)).1 (hbelow m hm (by omega)))
  · rintro ⟨n, rfl, ⟨hfirst, hlast, hfree⟩, hleast⟩
    refine ⟨⟨n, range, hrange, hfirst, hlast, rfl, fun m hm hlt => ?_⟩, ?_⟩
    · rw [ownedAs_dotted_iff hdotted (by omega)]
      by_contra hfree'
      exact absurd (hleast ⟨hm, by omega, hfree'⟩) (by omega)
    · rwa [ownedAs_dotted_iff hdotted (by omega)]

/-- A search over a range comes to an end. -/
theorem exists_firstFree {free : String → Bool} {count value : ℕ}
    (hmax : value + count ≤ 0x100000000) : ∃ chosen, firstFree free count value = .ok chosen := by
  by_cases hany : ∃ m, value ≤ m ∧ m < value + count ∧ free (dotted m) = true
  · classical
    exact ⟨some _, (firstFree_eq_some_iff hmax).2 ⟨_, rfl, Nat.isLeast_find hany⟩⟩
  · refine ⟨none, (firstFree_eq_none_iff hmax).2 fun m hle hlt => ?_⟩
    by_contra hfree
    exact hany ⟨m, hle, hlt, by simpa using hfree⟩

/-- Without a request the call fails for one reason only. -/
theorem choosePoolAddress_none_cases {range : Ipv4Range}
    (hrange : ipv4Range pool.startIp pool.endIp = .ok range) :
    (∃ ip, choosePoolAddress P pool remotePeers none excludePeerId db = .ok (ip, db)) ∨
      choosePoolAddress P pool remotePeers none excludePeerId db =
        .error (.poolConflict ("No addresses are available in " ++ pool.name ++ ".") none) := by
  have hfind : ∃ chosen, firstFree (fun ip =>
      (explain P db pool remotePeers excludePeerId ip).isNone) range.total range.first =
        .ok chosen := exists_firstFree (ipv4Range_max hrange)
  obtain ⟨chosen, hchosen⟩ := hfind
  have hrun : choosePoolAddress P pool remotePeers none excludePeerId db =
      Tx.orThrow chosen
        (.poolConflict ("No addresses are available in " ++ pool.name ++ ".") none) db := by
    rw [choosePoolAddress, Tx.get_bind]
    dsimp only [Option.bind_none]
    rw [hrange]
    change (Tx.ofExcept (firstFree (fun ip =>
      (explain P db pool remotePeers excludePeerId ip).isNone) range.total range.first) >>=
        fun chosen => Tx.orThrow chosen _) db = _
    rw [hchosen]
    rfl
  rw [hrun]
  cases chosen with
  | none => exact .inr rfl
  | some ip => exact .inl ⟨ip, rfl⟩

/-- The preview without a request, for a range that it can read. -/
theorem allocateClientIp_none_ok_iff {start stop : String} {range : Ipv4Range}
    (hrange : ipv4Range start stop = .ok range) {usedAddresses : List String} {ip : String} :
    allocateClientIp start stop usedAddresses none = .ok ip ↔
      ∃ n, ip = dotted n ∧ IsLeast {n | range.first ≤ n ∧ n ≤ range.last ∧
        dotted n ∉ usedAddresses.map normalizeClientIp} n := by
  obtain ⟨hle, -, htotal⟩ := ipv4Range_ok hrange
  have hmax := ipv4Range_max hrange
  obtain ⟨first, hfirst, hrange⟩ := except_bind_ok.1 hrange
  obtain ⟨last, hlast, hrange⟩ := except_bind_ok.1 hrange
  obtain ⟨-, hrange⟩ := rejectIf_bind_ok.1 hrange
  cases hrange
  dsimp only at hle htotal hmax ⊢
  have hset : {n | first ≤ n ∧ n < first + (last - first + 1) ∧
        decide (dotted n ∉ usedAddresses.map normalizeClientIp) = true} =
      {n | first ≤ n ∧ n ≤ last ∧ dotted n ∉ usedAddresses.map normalizeClientIp} := by
    ext n
    simp only [Set.mem_ofPred_eq, decide_eq_true_eq]
    exact and_congr_right fun hn => and_congr_left fun _ => by omega
  have hsearch : firstFree (fun ip => decide (ip ∉ usedAddresses.map normalizeClientIp))
      (last - first + 1) first = .ok (some ip) ↔ _ := firstFree_eq_some_iff hmax
  rw [hset] at hsearch
  rw [← hsearch, allocateClientIp, except_bind_ok]
  constructor
  · rintro ⟨start, hstart, h⟩
    obtain rfl := Except.ok.inj (hfirst.symm.trans hstart)
    obtain ⟨stop, hstop, h⟩ := except_bind_ok.1 h
    obtain rfl := Except.ok.inj (hlast.symm.trans hstop)
    obtain ⟨-, h⟩ := rejectIf_bind_ok.1 h
    obtain ⟨chosen, hchosen, h⟩ := except_bind_ok.1 h
    cases chosen with
    | none => cases h
    | some chosen =>
      rw [← Except.ok.inj h]
      exact hchosen
  · intro hchosen
    refine ⟨first, hfirst, ?_⟩
    rw [except_bind_ok]
    refine ⟨last, hlast, ?_⟩
    rw [rejectIf_bind_ok]
    refine ⟨by omega, ?_⟩
    dsimp only [Option.bind_none]
    rw [hchosen]
    rfl

/-- Without a request the call returns the least address of the range that is
    not taken, it reports a conflict just when all of them are, and the preview
    comes to the same address. -/
theorem choosePoolAddress_least (P : Platform) (db : Database) (pool : WireGuardPool)
    (remotePeers : List RemoteWireGuardPeer) (excludePeerId : Option String)
    (hplaced : db.PeersPlaced) (hdotted : db.ClientIpsDotted) {range : Ipv4Range}
    (hrange : ipv4Range pool.startIp pool.endIp = .ok range) :
    (∀ ip db', choosePoolAddress P pool remotePeers none excludePeerId db = .ok (ip, db') ↔
        db = db' ∧ ∃ n, ip = dotted n ∧ IsLeast {n | range.first ≤ n ∧ n ≤ range.last ∧
          ¬Taken P db pool.routerId remotePeers excludePeerId n} n) ∧
      ((∃ message owner, choosePoolAddress P pool remotePeers none excludePeerId db =
          .error (.poolConflict message owner)) ↔
        ∀ n, range.first ≤ n → n ≤ range.last →
          Taken P db pool.routerId remotePeers excludePeerId n) ∧
      ∀ used : List String, (∀ text, text ∈ used ↔ ∃ n, range.first ≤ n ∧ n ≤ range.last ∧
          Taken P db pool.routerId remotePeers excludePeerId n ∧ text = dotted n) →
        ∀ ip, allocateClientIp pool.startIp pool.endIp used none = .ok ip ↔
          choosePoolAddress P pool remotePeers none excludePeerId db = .ok (ip, db) := by
  obtain ⟨-, hmax, -⟩ := ipv4Range_ok hrange
  have hok : ∀ ip db', choosePoolAddress P pool remotePeers none excludePeerId db = .ok (ip, db') ↔
      db = db' ∧ ∃ n, ip = dotted n ∧ IsLeast {n | range.first ≤ n ∧ n ≤ range.last ∧
        ¬Taken P db pool.routerId remotePeers excludePeerId n} n := fun ip db' =>
    choosePoolAddress_none_ok_iff hplaced hdotted hrange
  refine ⟨hok, ?_, fun used hused ip => ?_⟩
  · constructor
    · rintro ⟨message, owner, herror⟩ n hfirst hlast
      by_contra hfree
      classical
      have hfree : ∃ n, range.first ≤ n ∧ n ≤ range.last ∧
          ¬Taken P db pool.routerId remotePeers excludePeerId n := ⟨n, hfirst, hlast, hfree⟩
      rw [(hok _ db).2 ⟨rfl, _, rfl, Nat.isLeast_find hfree⟩] at herror
      cases herror
    · intro htaken
      rcases choosePoolAddress_none_cases hrange with ⟨ip, hchoose⟩ | herror
      · obtain ⟨-, n, -, ⟨hfirst, hlast, hfree⟩, -⟩ := (hok ip db).1 hchoose
        exact absurd (htaken n hfirst hlast) hfree
      · exact ⟨_, _, herror⟩
  · -- The used addresses are what is taken.
    have hset : {n | range.first ≤ n ∧ n ≤ range.last ∧ dotted n ∉ used.map normalizeClientIp} =
        {n | range.first ≤ n ∧ n ≤ range.last ∧
          ¬Taken P db pool.routerId remotePeers excludePeerId n} := by
      ext n
      refine and_congr_right fun hfirst => and_congr_right fun hlast => not_congr ?_
      constructor
      · intro hmem
        obtain ⟨text, htext, heq⟩ := List.mem_map.1 hmem
        obtain ⟨m, -, hm, htaken, rfl⟩ := (hused text).1 htext
        rw [normalizeClientIp_dotted] at heq
        exact dotted_injective (by omega) (by omega) heq ▸ htaken
      · intro htaken
        exact List.mem_map.2
          ⟨_, (hused _).2 ⟨n, hfirst, hlast, htaken, rfl⟩, normalizeClientIp_dotted n⟩
    rw [allocateClientIp_none_ok_iff hrange, hset, hok]
    exact (and_iff_right rfl).symm

end Platform

/-! ## The pool of the small installation -/

/-- The pool of the small installation, as it is locked. -/
def plainLockedPool : WireGuardPool := plainPool.view Platform.plain plainRouter plainInterface

theorem plainDatabase_peersPlaced : (plainDatabase plainPeer plainPeer_check).PeersPlaced := by
  intro p hp
  cases List.mem_singleton.1 hp
  decide

theorem plainDatabase_clientIpsDotted :
    (plainDatabase plainPeer plainPeer_check).ClientIpsDotted := by
  intro p hp text htext
  cases List.mem_singleton.1 hp
  cases htext
  exact ⟨0x0a000002, by decide, by decide +kernel⟩

/-- The range of the pool. -/
theorem plainLockedPool_range : ipv4Range plainLockedPool.startIp plainLockedPool.endIp =
    .ok ⟨0x0a000002, 0x0a000064, 99⟩ := by
  obtain ⟨range, hrange, h⟩ :
      ∃ range, ipv4Range (dotted 0x0a000002) (dotted 0x0a000064) = .ok range ∧
      range = ⟨0x0a000002, 0x0a000064, 99⟩ := by
    refine ⟨_, ?_, rfl⟩
    simp only [ipv4Range, normalizeClientIp_dotted]
    rw [ipv4ToNumber_dotted (by decide), ipv4ToNumber_dotted (by decide)]
    rfl
  exact h ▸ hrange

/-- What the call returns, when it leaves the database as it was. -/
theorem choosePoolAddress_of_map {P : Platform} {db : Database} {pool : WireGuardPool}
    {remotePeers : List RemoteWireGuardPeer} {requestedIp excludePeerId : Option String}
    {ip : String} (hplaced : db.PeersPlaced)
    (h : (choosePoolAddress P pool remotePeers requestedIp excludePeerId db).map
      Prod.fst = .ok ip) :
    choosePoolAddress P pool remotePeers requestedIp excludePeerId db = .ok (ip, db) := by
  rcases hrun :
    choosePoolAddress P pool remotePeers requestedIp excludePeerId db with e | ⟨ip', db'⟩
  · rw [hrun] at h
    cases h
  · rw [hrun] at h
    cases h
    obtain ⟨rfl, -⟩ := (choosePoolAddress_ok_iff hplaced).1 hrun
    rfl

/-- The equivalence holds of the pool of the small installation. -/
theorem choosePoolAddress_free_iff_plain :
    (∀ ip db', choosePoolAddress Platform.plain plainLockedPool [plainRemote] none none
        (plainDatabase plainPeer plainPeer_check) = .ok (ip, db') →
        ∃ n range, ipv4ToNumber ip = .ok n ∧
          ipv4Range plainLockedPool.startIp plainLockedPool.endIp = .ok range ∧
          range.first ≤ n ∧ n ≤ range.last ∧
          ¬Owned Platform.plain (plainDatabase plainPeer plainPeer_check) "r1"
            [plainRemote] none n) ↔
      ∀ ip n, Candidate Platform.plain (plainDatabase plainPeer plainPeer_check) plainLockedPool
          [plainRemote] none none ip n →
        Owned Platform.plain (plainDatabase plainPeer plainPeer_check) "r1" [plainRemote] none n →
          OwnedAs Platform.plain (plainDatabase plainPeer plainPeer_check) "r1"
            [plainRemote] none ip :=
  choosePoolAddress_free_iff _ _ _ _ _ _ plainDatabase_peersPlaced

/-- The address of a peer is given away in another spelling. -/
theorem exists_choosePoolAddress_owned :
    ¬∀ (P : Platform) (db : Database) (pool : WireGuardPool)
        (remotePeers : List RemoteWireGuardPeer)
        (requestedIp excludePeerId : Option String), db.PeersPlaced → ∀ ip db',
      choosePoolAddress P pool remotePeers requestedIp excludePeerId db = .ok (ip, db') →
        ∃ n range, ipv4ToNumber ip = .ok n ∧ ipv4Range pool.startIp pool.endIp = .ok range ∧
          range.first ≤ n ∧ n ≤ range.last ∧
          ¬Owned P db pool.routerId remotePeers excludePeerId n := fun h => by
  obtain ⟨n, -, hnumber, -, -, -, hfree⟩ :=
    h Platform.plain _ plainLockedPool [] (some "010.0.0.2") none plainDatabase_peersPlaced
      "010.0.0.2" _ (choosePoolAddress_of_map plainDatabase_peersPlaced (by decide +kernel))
  have hread : ipv4ToNumber "010.0.0.2" = .ok 0x0a000002 := by decide +kernel
  obtain rfl := Except.ok.inj (hread.symm.trans hnumber)
  exact hfree (.inl ⟨plainPeer, List.mem_singleton_self _, rfl, nofun, "10.0.0.2", rfl,
    by decide +kernel⟩)

/-- The peer and its row take the first address of the pool, so that the second
    one is the least. -/
theorem choosePoolAddress_least_plain :
    IsLeast {n | 0x0a000002 ≤ n ∧ n ≤ 0x0a000064 ∧ ¬Taken Platform.plain
      (plainDatabase plainPeer plainPeer_check) "r1" [plainRemote] none n} 0x0a000003 := by
  obtain ⟨hok, -⟩ := choosePoolAddress_least Platform.plain _ plainLockedPool [plainRemote] none
    plainDatabase_peersPlaced plainDatabase_clientIpsDotted plainLockedPool_range
  obtain ⟨-, n, hn, hleast⟩ := (hok "10.0.0.3" _).1
    (choosePoolAddress_of_map plainDatabase_peersPlaced (by decide +kernel))
  have hdotted : dotted 0x0a000003 = "10.0.0.3" := by decide +kernel
  have hle : n ≤ 0xffffffff := le_trans hleast.1.2.1 (by decide)
  obtain rfl := dotted_injective (by decide) hle (hdotted.trans hn)
  exact hleast

end WireguardPanel
