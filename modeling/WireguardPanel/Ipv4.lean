import WireguardPanel.Platform

/-!
# IPv4 addresses and ranges

The address arithmetic of the application, on texts as it receives them. The
numbers of addresses are natural numbers below `2 ^ 32`.
-/

namespace WireguardPanel

open Foundation

/-- An IPv4 network in the parts that `parseIpv4Cidr` returns. -/
structure Ipv4Network where
  cidr : String
  pfx : ℕ
  network : String
  broadcast : String
  networkNumber : ℕ
  broadcastNumber : ℕ
  size : ℕ

/-- A range of addresses, both ends included. -/
structure Ipv4Range where
  first : ℕ
  last : ℕ
  total : ℕ

/-- A part of a dotted address. -/
def parseOctet (part : String) : Option ℕ := (Text.parseDigits part).filter (· ≤ 255)

/-- `ipv4ToNumber`. -/
def ipv4ToNumber (ip : String) : Except AppError ℕ :=
  match (Text.split '.' (Text.trim ip)).map parseOctet with
  | [some a, some b, some c, some d] => .ok (((a * 256 + b) * 256 + c) * 256 + d)
  | _ => .error (.ipAllocation ("'" ++ ip ++ "' is not a valid IPv4 address."))

/-- The dotted form of a number. -/
def dotted (value : ℕ) : String :=
  Text.join "." ([24, 16, 8, 0].map fun shift => toString (value / 2 ^ shift % 256))

/-- `numberToIpv4`. -/
def numberToIpv4 (value : ℕ) : Except AppError String :=
  if value ≤ 0xffffffff then .ok (dotted value)
  else .error (.ipAllocation "IPv4 value is outside the valid range.")

/-- `normalizeClientIp`. -/
def normalizeClientIp (value : String) : String :=
    ((Text.split '/' (Text.trim value)).head?).getD ""

/-- The prefix lengths `0` to `32`, written without superfluous zeros. -/
def parsePrefix (s : String) : Option ℕ := (List.range 33).find? fun n => toString n = s

/-- `parseIpv4Cidr`. -/
def parseIpv4Cidr (value : String) : Except AppError Ipv4Network :=
  match Text.split '/' (Text.trim value) with
  | [address, prefixRaw] =>
    match parsePrefix prefixRaw with
    | some pfx => do
      let ip ← ipv4ToNumber address
      let size := 2 ^ (32 - pfx)
      let networkNumber := ip / size * size
      let broadcastNumber := networkNumber + size - 1
      let network ← numberToIpv4 networkNumber
      let broadcast ← numberToIpv4 broadcastNumber
      return { cidr := network ++ "/" ++ toString pfx, pfx, network, broadcast, networkNumber
               broadcastNumber, size }
    | none => .error (.ipAllocation ("'" ++ value ++ "' is not a valid IPv4 CIDR."))
  | _ => .error (.ipAllocation ("'" ++ value ++ "' is not a valid IPv4 CIDR."))

/-- `ipv4InCidr`. -/
def ipv4InCidr (ip cidr : String) : Except AppError Bool := do
  let value ← ipv4ToNumber (normalizeClientIp ip)
  let network ← parseIpv4Cidr cidr
  return decide (network.networkNumber ≤ value ∧ value ≤ network.broadcastNumber)

/-- `cidrContainsIp`. -/
def cidrContainsIp (cidr ip : String) : Bool :=
  match ipv4InCidr ip cidr with
  | .ok b => b
  | .error _ => false

/-- `cidrsOverlap`. -/
def cidrsOverlap (left right : String) : Except AppError Bool := do
  let a ← parseIpv4Cidr left
  let b ← parseIpv4Cidr right
  return decide (a.networkNumber ≤ b.broadcastNumber ∧ b.networkNumber ≤ a.broadcastNumber)

/-- `ipv4Range`. -/
def ipv4Range (start stop : String) : Except AppError Ipv4Range := do
  let first ← ipv4ToNumber (normalizeClientIp start)
  let last ← ipv4ToNumber (normalizeClientIp stop)
  rejectIf (last < first) (.ipAllocation "The pool start must be before the pool end.")
  return { first, last, total := last - first + 1 }

/-- What `validatePoolRange` returns. -/
structure ValidRange where
  network : Ipv4Network
  range : Ipv4Range
  gateway : String

/-- A bound of the range has to lie in the network. -/
def assertInNetwork (network : Ipv4Network) (label : String) (value : ℕ) : Except AppError Unit :=
  rejectIf (value < network.networkNumber ∨ network.broadcastNumber < value) <|
    .ipAllocation (label ++ " is outside " ++ network.cidr ++ ".")

/-- `validatePoolRange`. -/
def validatePoolRange (cidr gateway start stop : String) : Except AppError ValidRange := do
  let network ← parseIpv4Cidr cidr
  let gatewayNumber ← ipv4ToNumber gateway
  let range ← ipv4Range start stop
  assertInNetwork network "Gateway/router" gatewayNumber
  assertInNetwork network "Start IP" range.first
  assertInNetwork network "End IP" range.last
  rejectIf (range.first = network.networkNumber ∨ range.last = network.networkNumber) <|
    .ipAllocation "The network address cannot be part of the client range."
  rejectIf (network.pfx < 32 ∧
      (range.first = network.broadcastNumber ∨ range.last = network.broadcastNumber)) <|
    .ipAllocation "The broadcast address cannot be part of the client range."
  rejectIf (range.first ≤ gatewayNumber ∧ gatewayNumber ≤ range.last) <|
    .ipAllocation "The router/interface address must be excluded from the client range."
  return { network, range, gateway := ← numberToIpv4 gatewayNumber }

/-- `allowedAddressOwnsIp`. -/
def allowedAddressOwnsIp (allowedAddresses ip : String) : Bool :=
  (Text.split ',' allowedAddresses).any fun value =>
    let trimmed := Text.trim value
    if trimmed = "" then false
    else if ¬Text.includes trimmed "/" then
      decide (normalizeClientIp trimmed = normalizeClientIp ip)
    else cidrContainsIp trimmed ip

/-! ## Dotted addresses -/

theorem mem_dotted {n : ℕ} {c : Char} (h : c ∈ (dotted n).toList) : c = '.' ∨ c.isDigit = true := by
  rcases Text.mem_join h with h | ⟨s, hs, h⟩
  · exact .inl (by simpa using h)
  · obtain ⟨shift, -, rfl⟩ := List.mem_map.1 hs
    exact .inr (Text.isDigit_toString h)

/-- A digit is no white space, no dot and no slash. -/
theorem isDigit_spec {c : Char} (h : c.isDigit = true) :
    Text.isSpace c = false ∧ c ≠ '.' ∧ c ≠ '/' := by
  refine ⟨Text.isSpace_of_isDigit h, ?_, ?_⟩
  · rintro rfl
    exact absurd h (by decide)
  · rintro rfl
    exact absurd h (by decide)

theorem trim_dotted (n : ℕ) : Text.trim (dotted n) = dotted n :=
  Text.trim_eq_self fun c hc => by
    rcases mem_dotted hc with rfl | hdigit
    · decide
    · exact (isDigit_spec hdigit).1

@[simp] theorem normalizeClientIp_dotted (n : ℕ) : normalizeClientIp (dotted n) = dotted n := by
  have hslash : '/' ∉ (dotted n).toList := fun hc => by
    rcases mem_dotted hc with h | hdigit
    · exact absurd h (by decide)
    · exact (isDigit_spec hdigit).2.2 rfl
  rw [normalizeClientIp, trim_dotted, Text.split_eq_singleton hslash]
  rfl

/-- A number is read back from its dotted form. -/
@[simp] theorem ipv4ToNumber_dotted {n : ℕ} (h : n ≤ 0xffffffff) :
    ipv4ToNumber (dotted n) = .ok n := by
  have hoctet : ∀ k, parseOctet (toString (n / 2 ^ k % 256)) = some (n / 2 ^ k % 256) := fun k => by
    have hlt : n / 2 ^ k % 256 < 256 := Nat.mod_lt _ (by omega)
    rw [parseOctet, Text.parseDigits_toString, Option.filter_some, if_pos (by simpa using by omega)]
  have hsplit : Text.split '.' (dotted n) =
      [24, 16, 8, 0].map fun shift => toString (n / 2 ^ shift % 256) :=
    Text.split_join (by simp) fun s hs hc => by
      obtain ⟨shift, -, rfl⟩ := List.mem_map.1 hs
      exact (isDigit_spec (Text.isDigit_toString hc)).2.1 rfl
  have hparts : (Text.split '.' (dotted n)).map parseOctet =
      [some (n / 2 ^ 24 % 256), some (n / 2 ^ 16 % 256), some (n / 2 ^ 8 % 256),
        some (n / 2 ^ 0 % 256)] := by
    rw [hsplit]
    simp only [List.map_cons, List.map_nil, hoctet]
  rw [ipv4ToNumber, trim_dotted, hparts]
  simp only [Except.ok.injEq]
  omega

theorem numberToIpv4_ok {n : ℕ} {s : String} :
    numberToIpv4 n = .ok s ↔ n ≤ 0xffffffff ∧ dotted n = s := by
  unfold numberToIpv4
  split_ifs with h <;> simp [h]

theorem ipv4ToNumber_le {ip : String} {n : ℕ} (h : ipv4ToNumber ip = .ok n) : n ≤ 0xffffffff := by
  have hoctet : ∀ {part : String} {k : ℕ}, parseOctet part = some k → k ≤ 255 := fun h => by
    simpa using (Option.mem_filter_iff.1 h).2
  unfold ipv4ToNumber at h
  split at h
  · next a b c d hparts =>
    have hall : ∀ k,
        some k ∈ (Text.split '.' (Text.trim ip)).map parseOctet → k ≤ 255 := fun k hk => by
      obtain ⟨part, -, hpart⟩ := List.mem_map.1 hk
      exact hoctet hpart
    rw [hparts] at hall
    have ha := hall a (by simp)
    have hb := hall b (by simp)
    have hc := hall c (by simp)
    have hd := hall d (by simp)
    cases h
    omega
  · cases h

theorem ipv4Range_ok {start stop : String} {range : Ipv4Range}
    (h : ipv4Range start stop = .ok range) :
    range.first ≤ range.last ∧ range.last ≤ 0xffffffff ∧
      range.total = range.last - range.first + 1 := by
  obtain ⟨first, -, h⟩ := except_bind_ok.1 h
  obtain ⟨last, hlast, h⟩ := except_bind_ok.1 h
  obtain ⟨hle, h⟩ := rejectIf_bind_ok.1 h
  cases h
  exact ⟨Nat.not_lt.1 hle, ipv4ToNumber_le hlast, rfl⟩

theorem dotted_injective {m n : ℕ} (hm : m ≤ 0xffffffff) (hn : n ≤ 0xffffffff)
    (h : dotted m = dotted n) : m = n := by
  have hread := ipv4ToNumber_dotted hm
  rw [h, ipv4ToNumber_dotted hn] at hread
  exact (Except.ok.inj hread).symm

/-- The range between two dotted addresses. -/
theorem ipv4Range_dotted {first last : ℕ} (hfirst : first ≤ 0xffffffff) (hlast : last ≤ 0xffffffff)
    {range : Ipv4Range} (h : ipv4Range (dotted first) (dotted last) = .ok range) :
    first ≤ last ∧ range = ⟨first, last, last - first + 1⟩ := by
  simp only [ipv4Range, normalizeClientIp_dotted, ipv4ToNumber_dotted hfirst,
    ipv4ToNumber_dotted hlast] at h
  obtain ⟨hle, h⟩ := rejectIf_bind_ok.1 h
  cases h
  exact ⟨by omega, rfl⟩

/-- The gateway of a range that is accepted is dotted. -/
theorem validatePoolRange_gateway {cidr gateway start stop : String} {valid : ValidRange}
    (h : validatePoolRange cidr gateway start stop = .ok valid) :
    ∃ n, n ≤ 0xffffffff ∧ dotted n = valid.gateway := by
  obtain ⟨network, -, h⟩ := except_bind_ok.1 h
  obtain ⟨gatewayNumber, -, h⟩ := except_bind_ok.1 h
  obtain ⟨range, -, h⟩ := except_bind_ok.1 h
  obtain ⟨-, h⟩ := rejectIf_bind_ok.1 h
  obtain ⟨-, h⟩ := rejectIf_bind_ok.1 h
  obtain ⟨-, h⟩ := rejectIf_bind_ok.1 h
  obtain ⟨-, h⟩ := rejectIf_bind_ok.1 h
  obtain ⟨-, h⟩ := rejectIf_bind_ok.1 h
  obtain ⟨-, h⟩ := rejectIf_bind_ok.1 h
  obtain ⟨text, htext, h⟩ := except_bind_ok.1 h
  cases h
  exact ⟨gatewayNumber, numberToIpv4_ok.1 htext⟩

/-! ## The cast of the database -/

namespace Platform

/-- What is relied on of the cast to `inet`: four decimal numbers below 256 are
    read as the address of a host, if they are read at all. -/
def ReadsIpv4 (P : Platform) : Prop :=
  ∀ s n, ipv4ToNumber s = .ok n → P.inet s = none ∨ P.inet s = some (Inet.host n)

theorem ReadsIpv4.eq_host {P : Platform} (hP : P.ReadsIpv4) {s : String} {n : ℕ} {ip : Inet}
    (hnumber : ipv4ToNumber s = .ok n) (hip : P.inet s = some ip) : ip = .host n := by
  rcases hP s n hnumber with hnone | hsome
  · cases hnone.symm.trans hip
  · exact Option.some.inj (hip.symm.trans hsome)

/-- The cast to `inet` on IPv4 addresses with or without a mask. -/
def plainInet (s : String) : Option Inet :=
  match ipv4ToNumber s with
  | .ok n => some (.host n)
  | .error _ =>
    match Text.split '/' s with
    | [address, bits] =>
      match ipv4ToNumber address, Text.parseDigits bits with
      | .ok addr, some bits => if bits ≤ 32 then some ⟨.v4, addr, bits⟩ else none
      | _, _ => none
    | _ => none

/-- A platform to run the model on: texts are their own digests and secrets,
    the only time zone is `UTC`, network addresses are IPv4 addresses and rates
    are whole numbers. -/
def plain : Platform where
  sha256 := String.ofList
  timeZone name := if name = "UTC" then some fun _ => 0 else none
  scaledText text factor := toString ((Text.parseDigits text).getD 0 * factor)
  inet := plainInet
  host6 := toString
  encryptSecret := id
  decryptSecretWithKey := .ok

theorem readsIpv4_plain : plain.ReadsIpv4 := fun s n h => .inr <| by
  simp only [plain, plainInet, h]

end Platform

end WireguardPanel
