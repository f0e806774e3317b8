import WireguardPanel.Pool

/-!
# Ranges of pools

What `validatePoolRange` accepts, next to the constraints of the table and to
the ranges that the application suggests.

* `validatePoolRange_ok_iff`: what is accepted, in numbers.
* `validatePoolRange_iff_check`: the accepted ranges are those of the rows that
  the table takes, and all of their addresses can be given to clients.
* `suggestPoolFromInterfaceAddress`: the range that is suggested for an interface.
* `validatePoolRange_suggestion_iff`: it is accepted if and only if the address
  of the interface is at one end of its network.
-/

namespace WireguardPanel

open Foundation

/-! ## Networks -/

/-- The network of an address. -/
def networkOf (ip pfx : ℕ) : Ipv4Network :=
  let size := 2 ^ (32 - pfx)
  let networkNumber := ip / size * size
  { cidr := dotted networkNumber ++ "/" ++ toString pfx, pfx, network := dotted networkNumber
    broadcast := dotted (networkNumber + size - 1), networkNumber
    broadcastNumber := networkNumber + size - 1, size }

/-- The first and the last address of a network, which are those of a block of
    addresses. -/
structure Ipv4Network.Block (network : Ipv4Network) : Prop where
  pfx_le : network.pfx ≤ 32
  first : network.networkNumber / 2 ^ (32 - network.pfx) * 2 ^ (32 - network.pfx) =
    network.networkNumber
  last : network.broadcastNumber + 1 = network.networkNumber + 2 ^ (32 - network.pfx)
  last_le : network.broadcastNumber ≤ 0xffffffff
  cidr : network.cidr = dotted network.networkNumber ++ "/" ++ toString network.pfx

/-- The block of an address lies among the addresses of version 4. -/
theorem networkOf_block {ip pfx : ℕ} (hip : ip ≤ 0xffffffff) (hpfx : pfx ≤ 32) :
    (networkOf ip pfx).Block where
  pfx_le := hpfx
  first := by
    change ip / 2 ^ (32 - pfx) * 2 ^ (32 - pfx) / 2 ^ (32 - pfx) * 2 ^ (32 - pfx) = _
    rw [Nat.mul_div_cancel _ (Nat.two_pow_pos _)]
    rfl
  last := by
    have hpos := Nat.two_pow_pos (32 - pfx)
    change ip / 2 ^ (32 - pfx) * 2 ^ (32 - pfx) + 2 ^ (32 - pfx) - 1 + 1 = _
    exact Nat.sub_add_cancel (by omega)
  last_le := by
    have hpow : 2 ^ 32 = 2 ^ pfx * 2 ^ (32 - pfx) := by
      rw [← pow_add, Nat.add_sub_cancel' hpfx]
    have hlt : ip / 2 ^ (32 - pfx) < 2 ^ pfx :=
      Nat.div_lt_of_lt_mul (by rw [mul_comm, ← hpow]; omega)
    have hle : (ip / 2 ^ (32 - pfx) + 1) * 2 ^ (32 - pfx) ≤ 2 ^ 32 :=
      hpow ▸ Nat.mul_le_mul_right _ hlt
    rw [add_mul] at hle
    change ip / 2 ^ (32 - pfx) * 2 ^ (32 - pfx) + 2 ^ (32 - pfx) - 1 ≤ _
    omega
  cidr := rfl

theorem parsePrefix_ok {s : String} {pfx : ℕ} (h : parsePrefix s = some pfx) :
    pfx ≤ 32 ∧ toString pfx = s := by
  unfold parsePrefix at h
  have hmem := List.mem_range.1 (List.mem_of_find?_eq_some h)
  have hsome := List.find?_some h
  exact ⟨Nat.le_of_lt_succ hmem, of_decide_eq_true hsome⟩

theorem parsePrefix_toString {pfx : ℕ} (h : pfx ≤ 32) : parsePrefix (toString pfx) = some pfx := by
  cases hfind : parsePrefix (toString pfx) with
  | none =>
    have hnot := List.find?_eq_none.1 hfind pfx (List.mem_range.2 (by omega))
    exact absurd (decide_eq_true rfl) hnot
  | some k => rw [Text.toString_nat_injective (parsePrefix_ok hfind).2]

/-- `parseIpv4Cidr` on an address with a mask. -/
theorem parseIpv4Cidr_eq {value address prefixRaw : String} {ip pfx : ℕ}
    (hsplit : Text.split '/' (Text.trim value) = [address, prefixRaw])
    (hlead : parsePrefix prefixRaw = some pfx) (hip : ipv4ToNumber address = .ok ip) :
    parseIpv4Cidr value = .ok (networkOf ip pfx) := by
  have hblock := networkOf_block (ipv4ToNumber_le hip) (parsePrefix_ok hlead).1
  have hlast := hblock.last_le
  have hfirst : (networkOf ip pfx).networkNumber ≤ 0xffffffff := by
    have hpos := Nat.two_pow_pos (32 - pfx)
    have hend : (networkOf ip pfx).broadcastNumber + 1 =
      (networkOf ip pfx).networkNumber + 2 ^ (32 - pfx) := hblock.last
    omega
  unfold parseIpv4Cidr
  rw [hsplit]
  simp only [hlead, hip]
  change (numberToIpv4 (networkOf ip pfx).networkNumber >>= fun network =>
    numberToIpv4 (networkOf ip pfx).broadcastNumber >>= fun broadcast => _) = _
  rw [numberToIpv4_ok.2 ⟨hfirst, rfl⟩, numberToIpv4_ok.2 ⟨hlast, rfl⟩]
  rfl

theorem parseIpv4Cidr_ok {value : String} {network : Ipv4Network}
    (h : parseIpv4Cidr value = .ok network) : ∃ address prefixRaw ip pfx,
      Text.split '/' (Text.trim value) = [address, prefixRaw] ∧
      parsePrefix prefixRaw = some pfx ∧ ipv4ToNumber address = .ok ip ∧
      network = networkOf ip pfx := by
  have hparsed := h
  unfold parseIpv4Cidr at h
  split at h
  · rename_i address prefixRaw hsplit
    split at h
    · rename_i pfx hlead
      obtain ⟨ip, hip, -⟩ := except_bind_ok.1 h
      refine ⟨address, prefixRaw, ip, pfx, hsplit, hlead, hip, ?_⟩
      exact Except.ok.inj (hparsed.symm.trans (parseIpv4Cidr_eq hsplit hlead hip))
    · cases h
  · cases h

theorem parseIpv4Cidr_block {value : String} {network : Ipv4Network}
    (h : parseIpv4Cidr value = .ok network) : network.Block := by
  obtain ⟨_, _, ip, pfx, -, hlead, hip, rfl⟩ := parseIpv4Cidr_ok h
  exact networkOf_block (ipv4ToNumber_le hip) (parsePrefix_ok hlead).1

namespace Ipv4Network

variable {network : Ipv4Network} {n : ℕ}

/-- The network as a value of the database. -/
def toInet (network : Ipv4Network) : Inet := ⟨.v4, network.networkNumber, network.pfx⟩

theorem Block.network_toInet (h : network.Block) :
    network.toInet.network = network.networkNumber := h.first

theorem Block.broadcast_toInet (h : network.Block) :
    network.toInet.broadcast = network.broadcastNumber := by
  have hlast := h.last
  have hbroadcast : network.toInet.broadcast =
    network.toInet.network + 2 ^ (32 - network.pfx) - 1 := rfl
  rw [hbroadcast, h.network_toInet]
  omega

/-- The hosts of a network are the addresses of its block. -/
theorem Block.within_iff (h : network.Block) : (Inet.host n).Within network.toInet ↔
    network.networkNumber ≤ n ∧ n ≤ network.broadcastNumber := by
  have hpos := Nat.two_pow_pos (32 - network.pfx)
  have hlast := h.last
  have hfirst := h.first
  constructor
  · intro hwithin
    have hbounds := hwithin.bounds
    rwa [h.network_toInet, h.broadcast_toInet] at hbounds
  · rintro ⟨hge, hle⟩
    refine ⟨rfl, h.pfx_le, ?_⟩
    change n / 2 ^ (32 - network.pfx) = network.networkNumber / 2 ^ (32 - network.pfx)
    refine Nat.div_eq_of_lt_le ?_ ?_
    · rw [hfirst]
      exact hge
    · rw [Nat.succ_mul, hfirst]
      omega

end Ipv4Network

/-! ## What is accepted -/

section Validation

variable {cidr gateway start stop : String} {network : Ipv4Network} {gatewayNumber first last : ℕ}
  (hcidr : parseIpv4Cidr cidr = .ok network) (hgateway : ipv4ToNumber gateway = .ok gatewayNumber)
  (hstart : ipv4ToNumber (normalizeClientIp start) = .ok first)
  (hstop : ipv4ToNumber (normalizeClientIp stop) = .ok last)

/-- An address lies in the network, and a client may have it. -/
def Ipv4Network.ForClients (network : Ipv4Network) (gatewayNumber n : ℕ) : Prop :=
  network.networkNumber < n ∧ n < network.broadcastNumber ∧ n ≠ gatewayNumber

include hcidr hgateway hstart hstop

theorem validatePoolRange_ok_iff {valid : ValidRange} :
    validatePoolRange cidr gateway start stop = .ok valid ↔
      (network.networkNumber ≤ gatewayNumber ∧ gatewayNumber ≤ network.broadcastNumber ∧
        first ≤ last ∧ network.ForClients gatewayNumber first ∧
        network.ForClients gatewayNumber last ∧ ¬(first ≤ gatewayNumber ∧ gatewayNumber ≤ last)) ∧
      valid = ⟨network, ⟨first, last, last - first + 1⟩, dotted gatewayNumber⟩ := by
  have hblock := parseIpv4Cidr_block hcidr
  have hlast := hblock.last
  have hmax := ipv4ToNumber_le hgateway
  -- A network of one address has only its network address.
  have hone : ¬network.pfx < 32 → network.broadcastNumber = network.networkNumber := fun hnot => by
    have hzero : 32 - network.pfx = 0 := by omega
    rw [hzero] at hlast
    omega
  have hrange : ∀ {range : Ipv4Range}, ipv4Range start stop = .ok range ↔
      first ≤ last ∧ ⟨first, last, last - first + 1⟩ = range := fun {range} => by
    rw [ipv4Range, hstart, hstop]
    change (rejectIf (last < first) _ >>= fun _ => _) = _ ↔ _
    rw [rejectIf_bind_ok, not_lt]
    exact and_congr_right fun _ => ⟨Except.ok.inj, congrArg _⟩
  unfold Ipv4Network.ForClients
  constructor
  · intro h
    obtain ⟨_, hnetwork, h⟩ := except_bind_ok.1 h
    obtain rfl := Except.ok.inj (hcidr.symm.trans hnetwork)
    obtain ⟨_, hnumber, h⟩ := except_bind_ok.1 h
    obtain rfl := Except.ok.inj (hgateway.symm.trans hnumber)
    obtain ⟨_, hvalid, h⟩ := except_bind_ok.1 h
    obtain ⟨hle, rfl⟩ := hrange.1 hvalid
    obtain ⟨hgate, h⟩ := rejectIf_bind_ok.1 h
    obtain ⟨hfirst, h⟩ := rejectIf_bind_ok.1 h
    obtain ⟨hend, h⟩ := rejectIf_bind_ok.1 h
    obtain ⟨hnet, h⟩ := rejectIf_bind_ok.1 h
    obtain ⟨hbroad, h⟩ := rejectIf_bind_ok.1 h
    obtain ⟨houtside, h⟩ := rejectIf_bind_ok.1 h
    obtain ⟨_, htext, h⟩ := except_bind_ok.1 h
    obtain ⟨-, rfl⟩ := numberToIpv4_ok.1 htext
    obtain rfl := Except.ok.inj h
    dsimp only at hfirst hend hnet hbroad houtside
    refine ⟨?_, rfl⟩
    by_cases hpfx : network.pfx < 32
    · omega
    · have hsame := hone hpfx
      omega
  · rintro ⟨⟨hge, hle, horder, hfirst, hend, houtside⟩, rfl⟩
    have hinside : ∀ n, network.networkNumber ≤ n → n ≤ network.broadcastNumber →
        ¬(n < network.networkNumber ∨ network.broadcastNumber < n) := by omega
    have hnet : ¬(first = network.networkNumber ∨ last = network.networkNumber) := by omega
    have hbroad : ¬(network.pfx < 32 ∧
        (first = network.broadcastNumber ∨ last = network.broadcastNumber)) := by omega
    exact except_bind_ok.2 ⟨network, hcidr, except_bind_ok.2 ⟨gatewayNumber, hgateway,
      except_bind_ok.2 ⟨_, hrange.2 ⟨horder, rfl⟩, rejectIf_bind_ok.2 ⟨hinside _ hge hle,
        rejectIf_bind_ok.2 ⟨hinside _ hfirst.1.le hfirst.2.1.le,
          rejectIf_bind_ok.2 ⟨hinside _ hend.1.le hend.2.1.le, rejectIf_bind_ok.2 ⟨hnet,
            rejectIf_bind_ok.2 ⟨hbroad, rejectIf_bind_ok.2 ⟨houtside,
              except_bind_ok.2 ⟨_, numberToIpv4_ok.2 ⟨hmax, rfl⟩, rfl⟩⟩⟩⟩⟩⟩⟩⟩⟩⟩

/-- Between the ends of an accepted range, every address can be given to a client. -/
theorem validatePoolRange_forClients {valid : ValidRange}
    (h : validatePoolRange cidr gateway start stop = .ok valid) :
    ∀ n, first ≤ n → n ≤ last → network.ForClients gatewayNumber n := by
  obtain ⟨⟨-, -, -, hfirst, hlast, hgateway⟩, -⟩ :=
    (validatePoolRange_ok_iff hcidr hgateway hstart hstop).1 h
  intro n hn hn'
  refine ⟨hfirst.1.trans_le hn, hn'.trans_lt hlast.2.1, ?_⟩
  rintro rfl
  exact hgateway ⟨hn, hn'⟩

/-- The columns of a row that the accepted range determines, as the casts to
    `cidr` and `inet` read its texts. -/
structure PoolRow.HasRange (row : PoolRow) (network : Ipv4Network)
    (gatewayNumber first last : ℕ) : Prop where
  networkCidr : row.networkCidr = network.toInet
  gatewayIp : row.gatewayIp = .host gatewayNumber
  startIp : row.startIp = .host first
  endIp : row.endIp = .host last

/-- A range is accepted if and only if the table takes the row that has it, as far
    as the range is concerned, and then every address of it can be given to a client. -/
theorem validatePoolRange_iff_check {row : PoolRow}
    (hrow : row.HasRange network gatewayNumber first last) :
    (poolSchema.check row = true ↔
      (∃ valid, validatePoolRange cidr gateway start stop = .ok valid) ∧
        absentOrBetween 1 65535 row.endpointPort = true ∧
        absentOrBetween 576 9000 (some row.mtu) = true ∧
        absentOrBetween 0 65535 (some row.persistentKeepalive) = true) ∧
      ∀ valid, validatePoolRange cidr gateway start stop = .ok valid →
        (valid.network = network ∧ valid.gateway = dotted gatewayNumber ∧
          valid.range.first = first ∧ valid.range.last = last) ∧
        ∀ n, first ≤ n → n ≤ last → network.ForClients gatewayNumber n := by
  have hok : ∀ valid, validatePoolRange _ _ _ _ = .ok valid ↔ _ := fun valid =>
    validatePoolRange_ok_iff hcidr hgateway hstart hstop
  refine ⟨?_, fun valid hvalid => ⟨?_, validatePoolRange_forClients hcidr hgateway hstart hstop
    hvalid⟩⟩
  · have hexists : (∃ valid, validatePoolRange cidr gateway start stop = .ok valid) ↔ _ :=
      ⟨fun ⟨valid, hvalid⟩ => ((hok valid).1 hvalid).1, fun h => ⟨_, (hok _).2 ⟨h, rfl⟩⟩⟩
    rw [hexists]
    have hblock := parseIpv4Cidr_block hcidr
    have hspan := hblock.last
    unfold poolSchema
    simp only [hrow.networkCidr, hrow.gatewayIp, hrow.startIp, hrow.endIp, Bool.and_eq_true,
      decide_eq_true_eq, hblock.within_iff, Inet.host_le_host, hblock.network_toInet,
      hblock.broadcast_toInet, Ipv4Network.ForClients]
    constructor
    · rintro ⟨⟨⟨⟨⟨⟨⟨⟨-, hinside⟩, hle⟩, hgate⟩, hnet⟩, hbroad⟩, hport⟩, hmtu⟩, hkeepalive⟩
      change first ≠ _ ∧ last ≠ _ at hnet hbroad
      refine ⟨?_, hport, hmtu, hkeepalive⟩
      omega
    · rintro ⟨hrange, hport, hmtu, hkeepalive⟩
      refine ⟨⟨⟨⟨⟨⟨⟨⟨⟨rfl, rfl, rfl, rfl⟩, ?_⟩, ?_⟩, ?_⟩, ?_⟩, ?_⟩, hport⟩, hmtu⟩, hkeepalive⟩
      · omega
      · omega
      · omega
      · change first ≠ _ ∧ last ≠ _
        omega
      · change first ≠ _ ∧ last ≠ _
        omega
  · obtain ⟨-, rfl⟩ := (hok valid).1 hvalid
    exact ⟨rfl, rfl, rfl, rfl⟩

end Validation

theorem parse_plainNetwork : parseIpv4Cidr "10.0.0.0/24" = .ok (networkOf 0x0a000000 24) :=
  parseIpv4Cidr_eq (by decide +kernel : Text.split '/' (Text.trim "10.0.0.0/24") =
    ["10.0.0.0", "24"]) (by decide +kernel) (by decide +kernel)

/-- `validatePoolRange_iff_check` of a pool. -/
theorem plainPool_accepted :
    ∃ valid, validatePoolRange "10.0.0.0/24" "10.0.0.1" "10.0.0.2" "10.0.0.100" = .ok valid ∧
      ∀ n, 0x0a000002 ≤ n → n ≤ 0x0a000064 → (networkOf 0x0a000000 24).ForClients 0x0a000001 n := by
  have hrow : plainPool.HasRange (networkOf 0x0a000000 24) 0x0a000001 0x0a000002 0x0a000064 :=
    ⟨rfl, rfl, rfl, rfl⟩
  have hgateway : ipv4ToNumber "10.0.0.1" = .ok 0x0a000001 := by decide +kernel
  have hstart : ipv4ToNumber (normalizeClientIp "10.0.0.2") = .ok 0x0a000002 := by decide +kernel
  have hstop : ipv4ToNumber (normalizeClientIp "10.0.0.100") = .ok 0x0a000064 := by decide +kernel
  obtain ⟨hcheck, hrange⟩ := validatePoolRange_iff_check parse_plainNetwork hgateway hstart
    hstop hrow
  obtain ⟨⟨valid, hvalid⟩, -⟩ := hcheck.1 (by decide)
  exact ⟨valid, hvalid, (hrange valid hvalid).2⟩

/-! ## What is suggested -/

/-- A range that is suggested for a pool. -/
structure PoolSuggestion where
  network : String
  gateway : String
  startIp : String
  endIp : String
  deriving DecidableEq

/-- `suggestPoolFromInterfaceAddress`. -/
def suggestPoolFromInterfaceAddress (address : String) :
    Except AppError (Option PoolSuggestion) := do
  let network ← parseIpv4Cidr address
  if 30 < network.pfx then return none
  let gateway := normalizeClientIp address
  let gatewayNumber ← ipv4ToNumber gateway
  let start :=
    if network.networkNumber + 1 = gatewayNumber then network.networkNumber + 1 + 1
    else network.networkNumber + 1
  let stop :=
    if network.broadcastNumber - 1 = gatewayNumber then network.broadcastNumber - 1 - 1
    else network.broadcastNumber - 1
  if stop < start then return none
  return some { network := network.cidr, gateway, startIp := ← numberToIpv4 start
                endIp := ← numberToIpv4 stop }

/-- The address of the interface is the first or the last address that the
    network has for hosts, or lies outside of them. -/
def Ipv4Network.AtEnd (network : Ipv4Network) (gatewayNumber : ℕ) : Prop :=
  gatewayNumber ≤ network.networkNumber + 1 ∨ network.broadcastNumber ≤ gatewayNumber + 1

instance (network : Ipv4Network) (gatewayNumber : ℕ) : Decidable (network.AtEnd gatewayNumber) :=
  inferInstanceAs (Decidable (_ ∨ _))

/-- A dotted address with a mask. -/
theorem parseIpv4Cidr_dotted {n pfx : ℕ} (hn : n ≤ 0xffffffff) (hpfx : pfx ≤ 32) :
    parseIpv4Cidr (dotted n ++ "/" ++ toString pfx) = .ok (networkOf n pfx) := by
  -- There is nothing to trim, and the slash is the only one.
  have hslash : ∀ s ∈ [dotted n, toString pfx], '/' ∉ s.toList := fun s hs hmem => by
    rcases List.mem_pair.1 hs with rfl | rfl
    · rcases mem_dotted hmem with h | hdigit
      · exact absurd h (by decide)
      · exact (isDigit_spec hdigit).2.2 rfl
    · exact (isDigit_spec (Text.isDigit_toString hmem)).2.2 rfl
  have htrim : Text.trim (dotted n ++ "/" ++ toString pfx) = dotted n ++ "/" ++ toString pfx := by
    refine Text.trim_eq_self fun c hc => ?_
    rw [String.toList_append, String.toList_append] at hc
    rcases List.mem_append.1 hc with hc | hc
    · rcases List.mem_append.1 hc with hc | hc
      · rcases mem_dotted hc with rfl | hdigit
        · decide
        · exact (isDigit_spec hdigit).1
      · rw [List.mem_singleton.1 hc]
        decide
    · exact (isDigit_spec (Text.isDigit_toString hc)).1
  have hsplit : Text.split '/' (Text.trim (dotted n ++ "/" ++ toString pfx)) =
      [dotted n, toString pfx] := by
    have hjoin : dotted n ++ "/" ++ toString pfx =
        Text.join (String.singleton '/') [dotted n, toString pfx] := by
      have hsingle : String.singleton '/' = "/" := by decide
      rw [hsingle, Text.join, Text.join]
    rw [htrim, hjoin]
    exact Text.split_join (List.cons_ne_nil _ _) hslash
  exact parseIpv4Cidr_eq hsplit (parsePrefix_toString hpfx) (ipv4ToNumber_dotted hn)

/-- The network of a canonical text is the network itself. -/
theorem parseIpv4Cidr_cidr {value : String} {network : Ipv4Network}
    (h : parseIpv4Cidr value = .ok network) : parseIpv4Cidr network.cidr = .ok network := by
  obtain ⟨_, _, ip, pfx, -, hlead, hip, rfl⟩ := parseIpv4Cidr_ok h
  have hpfx := (parsePrefix_ok hlead).1
  have hle : ip / 2 ^ (32 - pfx) * 2 ^ (32 - pfx) ≤ 0xffffffff :=
    (Nat.div_mul_le_self _ _).trans (ipv4ToNumber_le hip)
  have hsame : networkOf (ip / 2 ^ (32 - pfx) * 2 ^ (32 - pfx)) pfx = networkOf ip pfx := by
    simp only [networkOf, Nat.mul_div_cancel _ (Nat.two_pow_pos (32 - pfx))]
  exact (parseIpv4Cidr_dotted hle hpfx).trans (congrArg _ hsame)

/-- An address lies in its network. -/
theorem mem_of_parseIpv4Cidr {address : String} {network : Ipv4Network} {n : ℕ}
    (hnetwork : parseIpv4Cidr address = .ok network)
    (hn : ipv4ToNumber (normalizeClientIp address) = .ok n) :
    network.networkNumber ≤ n ∧ n ≤ network.broadcastNumber := by
  obtain ⟨host, prefixRaw, ip, pfx, hsplit, -, hip, rfl⟩ := parseIpv4Cidr_ok hnetwork
  have hhost : normalizeClientIp address = host := by
    rw [normalizeClientIp, hsplit]
    rfl
  rw [hhost] at hn
  obtain rfl := Except.ok.inj (hip.symm.trans hn)
  have hlt := Nat.lt_div_mul_add (Nat.two_pow_pos (32 - pfx)) (a := ip)
  refine ⟨Nat.div_mul_le_self _ _, ?_⟩
  change ip ≤ ip / 2 ^ (32 - pfx) * 2 ^ (32 - pfx) + 2 ^ (32 - pfx) - 1
  omega

/-- The texts of a suggestion. -/
theorem suggestPoolFromInterfaceAddress_ok {address : String} {suggestion : PoolSuggestion}
    (h : suggestPoolFromInterfaceAddress address = .ok (some suggestion)) :
    ∃ network gatewayNumber start stop, parseIpv4Cidr address = .ok network ∧
      network.pfx ≤ 30 ∧ ipv4ToNumber (normalizeClientIp address) = .ok gatewayNumber ∧
      start = (if network.networkNumber + 1 = gatewayNumber then network.networkNumber + 1 + 1
        else network.networkNumber + 1) ∧
      stop = (if network.broadcastNumber - 1 = gatewayNumber then network.broadcastNumber - 1 - 1
        else network.broadcastNumber - 1) ∧ start ≤ stop ∧ stop ≤ 0xffffffff ∧
      suggestion = ⟨network.cidr, normalizeClientIp address, dotted start, dotted stop⟩ := by
  obtain ⟨network, hnetwork, h⟩ := except_bind_ok.1 h
  dsimp only at h
  split at h
  · cases h
  · rename_i hpfx
    obtain ⟨gatewayNumber, hgateway, h⟩ := except_bind_ok.1 h
    generalize hfirst : (if network.networkNumber + 1 = gatewayNumber then _ else _) = start at h
    generalize hlast : (if network.broadcastNumber - 1 = gatewayNumber then _ else _) = stop at h
    split at h
    · cases h
    · rename_i hle
      obtain ⟨startIp, hstart, h⟩ := except_bind_ok.1 h
      obtain ⟨endIp, hstop, h⟩ := except_bind_ok.1 h
      obtain ⟨-, rfl⟩ := numberToIpv4_ok.1 hstart
      obtain ⟨hmax, rfl⟩ := numberToIpv4_ok.1 hstop
      cases h
      exact ⟨network, gatewayNumber, start, stop, hnetwork, not_lt.1 hpfx, hgateway, hfirst.symm,
        hlast.symm, not_lt.1 hle, hmax, rfl⟩

/-- The range that is suggested is accepted, and every address of it can be given
    to a client, if and only if the address of the interface is at one end of its
    network: the suggestion only looks at the two ends of the range. -/
theorem validatePoolRange_suggestion_iff {address : String} {suggestion : PoolSuggestion}
    (h : suggestPoolFromInterfaceAddress address = .ok (some suggestion)) :
    (∃ network gatewayNumber, parseIpv4Cidr address = .ok network ∧
        ipv4ToNumber (normalizeClientIp address) = .ok gatewayNumber ∧
        ∃ valid, validatePoolRange suggestion.network suggestion.gateway suggestion.startIp
          suggestion.endIp = .ok valid ∧
        ∀ n, valid.range.first ≤ n → n ≤ valid.range.last → network.ForClients gatewayNumber n) ↔
      ∃ network gatewayNumber, parseIpv4Cidr address = .ok network ∧
        ipv4ToNumber (normalizeClientIp address) = .ok gatewayNumber ∧
        network.AtEnd gatewayNumber := by
  obtain ⟨network, gatewayNumber, start, stop, hnetwork, hpfx, hgateway, hfirst, hlast, hle, hmax,
    rfl⟩ := suggestPoolFromInterfaceAddress_ok h
  dsimp only
  have hcidr := parseIpv4Cidr_cidr hnetwork
  have hstart : ipv4ToNumber (normalizeClientIp (dotted start)) = .ok start := by
    rw [normalizeClientIp_dotted, ipv4ToNumber_dotted (hle.trans hmax)]
  have hstop : ipv4ToNumber (normalizeClientIp (dotted stop)) = .ok stop := by
    rw [normalizeClientIp_dotted, ipv4ToNumber_dotted hmax]
  have hok : ∀ valid, validatePoolRange _ _ _ _ = .ok valid ↔ _ := fun valid =>
    validatePoolRange_ok_iff hcidr hgateway hstart hstop
  -- The network has four addresses at least, and the interface has one of them.
  have hblock := parseIpv4Cidr_block hnetwork
  have hspan := hblock.last
  have hfour : 2 ^ 2 ≤ 2 ^ (32 - network.pfx) := Nat.pow_le_pow_right (by decide) (by omega)
  have hinside : network.networkNumber ≤ gatewayNumber ∧
      gatewayNumber ≤ network.broadcastNumber := mem_of_parseIpv4Cidr hnetwork hgateway
  constructor
  -- A range that is accepted leaves out the address of the interface.
  · rintro ⟨_, _, hnetwork', hgateway', valid, hvalid, -⟩
    obtain ⟨⟨-, -, -, -, -, houtside⟩, -⟩ := (hok valid).1 hvalid
    refine ⟨network, gatewayNumber, hnetwork, hgateway, ?_⟩
    unfold Ipv4Network.AtEnd
    split_ifs at hfirst hlast <;> omega
  · rintro ⟨_, _, hnetwork', hgateway', hend⟩
    obtain rfl := Except.ok.inj (hnetwork.symm.trans hnetwork')
    obtain rfl := Except.ok.inj (hgateway.symm.trans hgateway')
    have hvalid := (hok _).2 ⟨?_, rfl⟩
    · exact ⟨network, gatewayNumber, hnetwork, hgateway, _, hvalid,
        validatePoolRange_forClients hcidr hgateway hstart hstop hvalid⟩
    · unfold Ipv4Network.AtEnd at hend
      unfold Ipv4Network.ForClients
      split_ifs at hfirst hlast <;> omega

/-- `validatePoolRange_suggestion_iff` of a router with the first address. -/
theorem validatePoolRange_suggestion_first :
    ∃ valid, validatePoolRange "10.0.0.0/24" "10.0.0.1" "10.0.0.2" "10.0.0.254" = .ok valid := by
  have hcidr : parseIpv4Cidr "10.0.0.1/24" = .ok (networkOf 0x0a000001 24) :=
    parseIpv4Cidr_eq (by decide +kernel : Text.split '/' (Text.trim "10.0.0.1/24") =
      ["10.0.0.1", "24"]) (by decide +kernel) (by decide +kernel)
  have hsuggested : suggestPoolFromInterfaceAddress "10.0.0.1/24" =
      .ok (some ⟨"10.0.0.0/24", "10.0.0.1", "10.0.0.2", "10.0.0.254"⟩) := by decide +kernel
  have hiff := validatePoolRange_suggestion_iff hsuggested
  obtain ⟨-, -, -, -, valid, hvalid, -⟩ :=
    hiff.2 ⟨_, 0x0a000001, hcidr, by decide +kernel, .inl (by decide)⟩
  exact ⟨valid, hvalid⟩

/-- The range that is suggested for a router in the middle of its network has the
    address of the router. -/
theorem exists_suggestion_rejected :
    ¬∀ address suggestion, suggestPoolFromInterfaceAddress address = .ok (some suggestion) →
      ∃ valid, validatePoolRange suggestion.network suggestion.gateway suggestion.startIp
        suggestion.endIp = .ok valid := by
  intro h
  obtain ⟨valid, hvalid⟩ := h "10.0.0.100/24"
    ⟨"10.0.0.0/24", "10.0.0.100", "10.0.0.1", "10.0.0.254"⟩ (by decide +kernel)
  have hrejected : (validatePoolRange "10.0.0.0/24" "10.0.0.100" "10.0.0.1" "10.0.0.254").toBool =
    false := by decide +kernel
  rw [hvalid] at hrejected
  cases hrejected

end WireguardPanel
