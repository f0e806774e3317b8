import WireguardPanel.Foundation.Net
import WireguardPanel.Peer
import WireguardPanel.QuotaInput

/-!
# Validation of requests

The schemas of `validation.ts` that a peer, a pool and a router are created
through: what is let through, and with which values. In a request, a number is
what is left of it after its coercion (`none` if it is not finite), and a date is
the moment that it denotes. The texts that a request is refused with are left
out.

* `Validation.peerCreateSchema`, `Validation.poolSchema`,
  `Validation.routerSchema`: the schemas.
* `client_of_peerCreateSchema`, `endpoint_of_routerSchema`: what is known of the
  texts that are let through.
-/

namespace WireguardPanel

open Foundation

namespace Validation

/-! ## Fields -/

section Fields

variable {α β : Type}

/-- The length of a text, in UTF-16 code units. -/
def length (s : String) : ℕ := (utf16 s).length

/-- `z.string().trim().min(low).max(high)`. -/
def text (low high : ℕ) (value : String) : Option String :=
  let trimmed := Text.trim value
  if low ≤ length trimmed ∧ length trimmed ≤ high then some trimmed else none

/-- `z.string().trim()`, refined. -/
def textWhere (accept : String → Bool) (value : String) : Option String :=
  (some (Text.trim value)).filter accept

/-- `z.coerce.number().int().min(low).max(high)`. -/
def whole (low high : ℤ) (value : Option ℚ) : Option ℤ :=
  value.bind fun x => if x.den = 1 ∧ low ≤ x.num ∧ x.num ≤ high then some x.num else none

/-- `z.coerce.number().positive().max(1_000_000)`. -/
def amount (value : Option ℚ) : Option ℚ := value.filter fun x => 0 < x ∧ x ≤ 1000000

/-- `z.string().uuid()`. -/
def uuid (value : String) : Option String :=
  let parts := value.toList.splitOn '-'
  if parts.map List.length = [8, 4, 4, 4, 12] ∧ parts.all (·.all Net.isHexDigit) then some value
  else none

/-- A schema followed by `.optional()` or `.nullable().optional()`. -/
def optional (schema : α → Option β) : Option α → Option (Option β)
  | none => some none
  | some value => (schema value).map some

/-- A schema followed by `.default(value)`, which is checked as well. -/
def withDefault (schema : α → Option β) (value : α) (given : Option α) : Option β :=
  schema (given.getD value)

/-- `optionalText`. -/
def optionalText (value : Option String) : Option (Option String) :=
  (optional (text 0 255) value).map filled

end Fields

/-! ## Peers -/

/-- What is entered for `bandwidthFields`. -/
structure BandwidthRequest where
  bandwidthMode : Option BandwidthMode := none
  bandwidthProfileId : Option String := none
  downloadLimitMbps : Option (Option ℚ) := none
  uploadLimitMbps : Option (Option ℚ) := none
  burstDownloadMbps : Option (Option ℚ) := none
  burstUploadMbps : Option (Option ℚ) := none
  burstTimeSeconds : Option (Option ℚ) := none

/-- What `bandwidthFields` lets through. -/
structure BandwidthFields where
  bandwidthMode : BandwidthMode
  bandwidthProfileId : Option String
  downloadLimitMbps : Option ℚ
  uploadLimitMbps : Option ℚ
  burstDownloadMbps : Option ℚ
  burstUploadMbps : Option ℚ
  burstTimeSeconds : Option ℤ
  deriving DecidableEq

/-- `bandwidthFields`. -/
def bandwidthFields (request : BandwidthRequest) : Option BandwidthFields := do
  return {
    bandwidthMode := request.bandwidthMode.getD .default
    bandwidthProfileId := ← optional uuid request.bandwidthProfileId
    downloadLimitMbps := ← optional amount request.downloadLimitMbps
    uploadLimitMbps := ← optional amount request.uploadLimitMbps
    burstDownloadMbps := ← optional amount request.burstDownloadMbps
    burstUploadMbps := ← optional amount request.burstUploadMbps
    burstTimeSeconds := ← optional (whole 1 3600) request.burstTimeSeconds }

/-- `validateBandwidth`. Amounts that are let through are not zero. -/
def validateBandwidth (value : BandwidthFields) : Bool :=
  match value.bandwidthMode with
  | .custom => value.downloadLimitMbps.isSome && value.uploadLimitMbps.isSome
  | .profile => (filled value.bandwidthProfileId).isSome
  | _ => true

deriving instance DecidableEq for QuotaFields

/-- What is entered for `quotaFields`. -/
structure QuotaRequest where
  quotaEnabled : Option Bool := none
  quotaValue : Option (Option ℚ) := none
  quotaUnit : Option QuotaUnit := none
  quotaPeriod : Option QuotaPeriod := none

/-- What `quotaFields` lets through. -/
structure QuotaInput extends QuotaFields where
  quotaPeriod : QuotaPeriod
  deriving DecidableEq

/-- `quotaFields`. -/
def quotaFields (request : QuotaRequest) : Option QuotaInput := do
  return {
    quotaEnabled := request.quotaEnabled.getD false
    quotaValue := ← optional amount request.quotaValue
    quotaUnit := request.quotaUnit.getD .gb
    quotaPeriod := request.quotaPeriod.getD .monthly }

/-- `validateQuota`. -/
def validateQuota (value : QuotaInput) : Bool := !value.quotaEnabled || value.quotaValue.isSome

/-- What is entered for a new peer. -/
structure PeerCreateRequest where
  routerId : String
  interfaceId : String
  poolId : String
  manual : Option Bool := none
  name : String
  description : Option String := none
  requestedIp : Option String := none
  allowedAddress : Option String := none
  clientAllowedIps : Option String := none
  dnsServer : Option String := none
  persistentKeepalive : Option (Option ℚ) := none
  mtu : Option (Option ℚ) := none
  endpointOverride : Option String := none
  endpointPortOverride : Option (Option ℚ) := none
  expiresAt : Option ℤ := none
  usePresharedKey : Option Bool := none
  profileId : Option String := none
  bandwidth : BandwidthRequest := {}
  quota : QuotaRequest := {}

/-- What `peerCreateSchema` lets through. -/
structure PeerCreate where
  routerId : String
  interfaceId : String
  poolId : String
  manual : Bool
  name : String
  description : Option String
  requestedIp : Option String
  allowedAddress : Option String
  clientAllowedIps : String
  dnsServer : String
  persistentKeepalive : ℤ
  mtu : ℤ
  endpointOverride : Option String
  endpointPortOverride : Option ℤ
  expiresAt : Option ℤ
  usePresharedKey : Bool
  profileId : Option String
  bandwidth : BandwidthFields
  quota : QuotaInput
  deriving DecidableEq

/-- The fields of `peerCreateSchema`. -/
def peerCreateFields (request : PeerCreateRequest) : Option PeerCreate := do
  return {
    routerId := ← uuid request.routerId
    interfaceId := ← uuid request.interfaceId
    poolId := ← uuid request.poolId
    manual := request.manual.getD false
    name := ← text 2 100 request.name
    description := ← optional (text 0 500) request.description
    requestedIp := request.requestedIp.map Text.trim
    allowedAddress := request.allowedAddress.map Text.trim
    clientAllowedIps := ← withDefault (text 3 500) "0.0.0.0/0" request.clientAllowedIps
    dnsServer := ← withDefault (text 1 255) "1.1.1.1" request.dnsServer
    persistentKeepalive := ← withDefault (whole 0 65535) (some 25) request.persistentKeepalive
    mtu := ← withDefault (whole 576 9000) (some 1420) request.mtu
    endpointOverride := ← optional (text 0 255) request.endpointOverride
    endpointPortOverride := ← optional (whole 1 65535) request.endpointPortOverride
    expiresAt := request.expiresAt
    usePresharedKey := request.usePresharedKey.getD false
    profileId := ← optional uuid request.profileId
    bandwidth := ← bandwidthFields request.bandwidth
    quota := ← quotaFields request.quota }

/-- `peerCreateSchema`. -/
def peerCreateSchema (request : PeerCreateRequest) : Option PeerCreate :=
  (peerCreateFields request).filter fun value =>
    validateQuota value.quota && validateBandwidth value.bandwidth &&
      (!value.manual || (filled value.requestedIp).isSome)

/-- `bandwidthBpsFromInput`, for one rate. -/
def bpsFromMbps (value : Option ℚ) : Option ℕ :=
  value.map fun mbps => (Double.round ((Double.ofRat (mbps * 10 ^ 6)).getD 0)).toNat

/-- The input of `createPeer`, as `POST /api/peers` passes it on. -/
def PeerCreate.toInput (value : PeerCreate) : Except AppError CreatePeerInput := do
  let quotaBytes ← quotaBytesFromInput value.quota.toQuotaFields
  return {
    routerId := value.routerId, interfaceId := value.interfaceId, poolId := value.poolId
    manual := value.manual, name := value.name, description := value.description
    requestedIp := value.requestedIp, clientAllowedIps := some value.clientAllowedIps
    dnsServer := some value.dnsServer, persistentKeepalive := some value.persistentKeepalive
    mtu := some value.mtu, endpointOverride := value.endpointOverride
    endpointPortOverride := value.endpointPortOverride, expiresAt := value.expiresAt
    usePresharedKey := value.usePresharedKey, quotaBytes
    quotaPeriod := (nonZero quotaBytes).map fun _ => value.quota.quotaPeriod
    profileId := value.profileId, bandwidthMode := some value.bandwidth.bandwidthMode
    bandwidthProfileId := value.bandwidth.bandwidthProfileId
    downloadLimitBps := bpsFromMbps value.bandwidth.downloadLimitMbps
    uploadLimitBps := bpsFromMbps value.bandwidth.uploadLimitMbps
    burstDownloadBps := bpsFromMbps value.bandwidth.burstDownloadMbps
    burstUploadBps := bpsFromMbps value.bandwidth.burstUploadMbps
    burstTimeSeconds := value.bandwidth.burstTimeSeconds.map Int.toNat }

/-! ## Pools and routers -/

deriving instance DecidableEq for PoolInput

/-- What is entered for a pool. -/
structure PoolRequest where
  name : String
  routerId : String
  interfaceId : String
  networkCidr : String
  gatewayIp : String
  startIp : String
  endIp : String
  dns : String
  clientAllowedIps : String
  endpointHost : Option String := none
  endpointPort : Option (Option ℚ) := none
  mtu : Option ℚ
  persistentKeepalive : Option ℚ
  enabled : Option Bool := none

/-- `poolSchema`. -/
def poolSchema (request : PoolRequest) : Option PoolInput := do
  return {
    name := ← text 2 100 request.name
    routerId := ← uuid request.routerId
    interfaceId := ← uuid request.interfaceId
    networkCidr := ← text 9 32 request.networkCidr
    gatewayIp := ← textWhere Net.isIPv4 request.gatewayIp
    startIp := ← textWhere Net.isIPv4 request.startIp
    endIp := ← textWhere Net.isIPv4 request.endIp
    dns := ← text 1 255 request.dns
    clientAllowedIps := ← text 3 500 request.clientAllowedIps
    endpointHost := ← optional (text 0 255) request.endpointHost
    endpointPort := ← optional (whole 1 65535) request.endpointPort
    mtu := ← whole 576 9000 request.mtu
    persistentKeepalive := ← whole 0 65535 request.persistentKeepalive
    enabled := request.enabled.getD true }

/-- The programming interface of a router. -/
inductive ApiType
  | native
  | rest
  deriving DecidableEq

/-- What is entered for a router. -/
structure RouterRequest where
  name : String
  managementIp : String
  apiPort : Option ℚ
  apiType : ApiType
  username : String
  password : String
  endpointHostname : Option String := none
  endpointIp : Option String := none
  wireguardPort : Option (Option ℚ) := none
  useTls : Bool
  verifyTls : Bool
  enabled : Option Bool := none

/-- What `routerSchema` lets through. -/
structure RouterInput where
  name : String
  managementIp : String
  apiPort : ℤ
  apiType : ApiType
  username : String
  password : String
  endpointHostname : Option String
  endpointIp : Option String
  wireguardPort : Option ℤ
  useTls : Bool
  verifyTls : Bool
  enabled : Bool
  deriving DecidableEq

/-- The pattern of a host name. -/
def isHostname (value : String) : Bool :=
  value ≠ "" && value.toList.all fun c => c.isAlphanum || c = '.' || c = '-'

/-- `routerSchema`. -/
def routerSchema (request : RouterRequest) : Option RouterInput := do
  return {
    name := ← text 2 80 request.name
    managementIp := ← textWhere Net.isIP request.managementIp
    apiPort := ← whole 1 65535 request.apiPort
    apiType := request.apiType
    username := ← text 1 128 request.username
    password := ← (some request.password).filter fun value =>
      1 ≤ length value ∧ length value ≤ 512
    endpointHostname := ← (optionalText request.endpointHostname).filter (·.all isHostname)
    endpointIp := ← (optionalText request.endpointIp).filter (·.all Net.isIP)
    wireguardPort := ← optional (whole 1 65535) request.wireguardPort
    useTls := request.useTls
    verifyTls := request.verifyTls
    enabled := request.enabled.getD true }

/-! ## What is let through -/

section Spec

variable {α β : Type}

/-- A text that has been let through is not trimmed again. -/
theorem text_spec {low high : ℕ} {value s : String} (h : text low high value = some s) :
    Text.trim s = s ∧ low ≤ length s := by
  rw [text] at h
  split_ifs at h with hbounds
  cases h
  exact ⟨Text.trim_trim value, hbounds.1⟩

theorem ne_empty_of_length {s : String} {low : ℕ} (hlow : 0 < low) (h : low ≤ length s) :
    s ≠ "" := by
  rintro rfl
  have hzero : length "" = 0 := rfl
  omega

theorem optional_spec {schema : α → Option β} {value : Option α} {b : β}
    (h : optional schema value = some (some b)) : ∃ a, schema a = some b := by
  cases value with
  | none => cases h
  | some a =>
    obtain ⟨b', hb', heq⟩ := Option.map_eq_some_iff.1 h
    cases heq
    exact ⟨a, hb'⟩

theorem textWhere_spec {accept : String → Bool} {value s : String}
    (h : textWhere accept value = some s) : accept s = true :=
  (Option.filter_eq_some_iff.1 h).2

/-- A text as it comes through a schema: without white space at its ends. -/
def Trimmed (s : String) : Prop := Text.trim s = s

/-- What is computed from a value is known once it is known of every value. -/
theorem forall_bind {x : Option α} {f : α → Option β} {Q : β → Prop}
    (h : ∀ a, x = some a → ∀ b, f a = some b → Q b) : ∀ b, x.bind f = some b → Q b :=
  fun b hb => by
    obtain ⟨a, ha, hb⟩ := Option.bind_eq_some_iff.1 hb
    exact h a ha b hb

/-- What is known of the fields from which a client is configured. -/
structure PeerCreate.Client (value : PeerCreate) : Prop where
  dnsServer : Trimmed value.dnsServer ∧ value.dnsServer ≠ ""
  clientAllowedIps : Trimmed value.clientAllowedIps ∧ value.clientAllowedIps ≠ ""
  mtu : value.mtu ≠ 0
  endpointOverride : ∀ host ∈ value.endpointOverride, Trimmed host

theorem client_of_peerCreateSchema {request : PeerCreateRequest} {value : PeerCreate}
    (h : peerCreateSchema request = some value) : value.Client := by
  refine (?_ : ∀ value, peerCreateFields request = some value → value.Client) value
    (Option.filter_eq_some_iff.1 h).1
  rw [peerCreateFields]
  refine forall_bind fun _ _ => forall_bind fun _ _ => forall_bind fun _ _ =>
    forall_bind fun _ _ => forall_bind fun _ _ => forall_bind fun allowed hallowed =>
    forall_bind fun dns hdns => forall_bind fun _ _ => forall_bind fun mtu hmtu =>
    forall_bind fun override hoverride => forall_bind fun _ _ => forall_bind fun _ _ =>
    forall_bind fun _ _ => forall_bind fun _ _ => fun value hvalue => ?_
  cases hvalue
  rw [withDefault] at hallowed hdns hmtu
  have hallowed := text_spec hallowed
  have hdns := text_spec hdns
  refine ⟨⟨hdns.1, ne_empty_of_length (by decide) hdns.2⟩,
    ⟨hallowed.1, ne_empty_of_length (by decide) hallowed.2⟩, ?_, ?_⟩
  · obtain ⟨x, -, hx⟩ := Option.bind_eq_some_iff.1 hmtu
    split_ifs at hx with hbounds
    cases hx
    change x.num ≠ 0
    omega
  · rintro host rfl
    obtain ⟨_, htext⟩ := optional_spec hoverride
    exact (text_spec htext).1

/-- What is known of the endpoint of a router. -/
structure RouterInput.Endpoint (input : RouterInput) : Prop where
  managementIp : Net.isIP input.managementIp = true
  endpointHostname : ∀ host ∈ input.endpointHostname, isHostname host = true
  endpointIp : ∀ host ∈ input.endpointIp, Net.isIP host = true

theorem endpoint_of_routerSchema {request : RouterRequest} {input : RouterInput}
    (h : routerSchema request = some input) : input.Endpoint := by
  refine (?_ : ∀ input, routerSchema request = some input → input.Endpoint) input h
  rw [routerSchema]
  refine forall_bind fun _ _ => forall_bind fun ip hip => forall_bind fun _ _ =>
    forall_bind fun _ _ => forall_bind fun _ _ => forall_bind fun hostname hhostname =>
    forall_bind fun endpoint hendpoint => forall_bind fun _ _ => fun input hinput => ?_
  cases hinput
  refine ⟨textWhere_spec hip, ?_, ?_⟩
  · rintro host rfl
    exact (Option.filter_eq_some_iff.1 hhostname).2
  · rintro host rfl
    exact (Option.filter_eq_some_iff.1 hendpoint).2

end Spec

end Validation

end WireguardPanel
