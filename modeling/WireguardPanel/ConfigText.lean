import WireguardPanel.ClientConfig
import WireguardPanel.Foundation.Ini
import WireguardPanel.Validation

/-!
# The text of a client configuration

The configuration of a new client is a file of two sections. Its values are read
back from it, as long as none of them takes more than one line.

* `configSections`: the sections of a configuration.
* `generateClientConfig_eq`: they are what is written.
* `read_createdConfig_iff`: the file of a new client has the values that were
  given just when the texts that are entered freely stand on one line each, and a
  host with a colon is an address.
-/

namespace WireguardPanel

open Foundation

/-! ## Sections -/

/-- The sections of a configuration whose endpoint has a given host. -/
def configSections (config : WireGuardConfigInput) (host : String) : List Ini.Section :=
  [{ name := "Interface"
     directives := [("PrivateKey", config.privateKey),
       ("Address", if Text.includes config.clientIp "/" then config.clientIp
        else config.clientIp ++ "/32"),
       ("DNS", config.dns)] ++
       (nonZero config.mtu).toList.map fun mtu => ("MTU", toString mtu) },
    { name := "Peer"
      directives := ("PublicKey", config.serverPublicKey) ::
        ((filled config.presharedKey).toList.map fun key => ("PresharedKey", key)) ++
        [("AllowedIPs", config.allowedIps),
          ("Endpoint", host ++ ":" ++ toString config.endpointPort),
          ("PersistentKeepalive", toString config.persistentKeepalive)] }]

/-- A configuration is the file of its sections. -/
theorem generateClientConfig_eq (config : WireGuardConfigInput) :
    generateClientConfig config =
      Ini.write (configSections config (endpointHostText config.endpointHost)) := by
  have hmtu : ∀ mtu : Option ℤ, (mtu.elim [] fun mtu => ["MTU = " ++ toString mtu]) =
      (mtu.toList.map fun mtu => ("MTU", toString mtu)).map Ini.directiveLine := by
    rintro (_ | mtu) <;> rfl
  have hkey : ∀ key : Option String, (key.elim [] fun key => ["PresharedKey = " ++ key]) =
      (key.toList.map fun key => ("PresharedKey", key)).map Ini.directiveLine := by
    rintro (_ | key) <;> rfl
  have hendpoint : "Endpoint" ++ " = " ++
      (endpointHostText config.endpointHost ++ ":" ++ toString config.endpointPort) =
      "Endpoint = " ++ endpointHostText config.endpointHost ++ ":" ++
        toString config.endpointPort := by
    rw [← String.append_assoc, ← String.append_assoc]
    rfl
  rw [generateClientConfig, hmtu, hkey, Ini.write]
  simp only [configSections, List.flatMap_cons, List.flatMap_nil, Ini.sectionLines,
    List.map_append, List.map_cons, List.map_nil, List.append_assoc, List.cons_append,
    List.nil_append, Ini.directiveLine, hendpoint]
  rfl

/-! ## Words -/

/-- A text that no line break, comment or white space can be in. -/
def Word (s : String) : Prop := ∀ c ∈ s.toList, Text.isSpace c = false ∧ c ≠ '#'

theorem Word.value {s : String} (h : Word s) : Ini.Value s ∧ Text.trim s = s :=
  ⟨⟨fun hmem => absurd (h _ hmem).1 (by decide), fun hmem => (h _ hmem).2 rfl⟩,
    Text.trim_eq_self fun c hc => (h c hc).1⟩

theorem Word.of_alphanum {s : String} (signs : List Char)
    (hsigns : (signs.all fun c => decide (Text.isSpace c = false ∧ c ≠ '#')) = true)
    (h : ∀ c ∈ s.toList, c.isAlphanum = true ∨ c ∈ signs) : Word s := fun c hc => by
  rcases h c hc with halnum | hsign
  · have hplain := Net.plain_of_isAlphanum halnum
    exact ⟨hplain.1, hplain.2.1⟩
  · exact of_decide_eq_true (List.all_eq_true.1 hsigns c hsign)

theorem word_int (n : ℤ) : Word (toString n) :=
  .of_alphanum ['-'] (by decide) fun c hc => by
    rcases Text.mem_toString_int hc with rfl | hdigit
    · exact .inr (by decide)
    · exact .inl (by rw [Char.isAlphanum, hdigit, Bool.or_true])

/-- A character of Base64, or of the padding at its end. -/
def isBase64Char (c : Char) : Bool := c.isAlphanum || c ∈ ['+', '/', '=']

/-- A text in the alphabet of Base64, such as a key. -/
def IsBase64 (s : String) : Prop := s ≠ "" ∧ s.toList.all isBase64Char = true

theorem IsBase64.word {s : String} (h : IsBase64 s) : Word s :=
  .of_alphanum ['+', '/', '='] (by decide) fun c hc =>
    (Bool.or_eq_true_iff.1 (List.all_eq_true.1 h.2 c hc)).imp_right of_decide_eq_true

theorem word_dotted (n : ℕ) : Word (dotted n) :=
  .of_alphanum ['.'] (by decide) fun c hc => by
    rcases mem_dotted hc with rfl | hdigit
    · exact .inr (by decide)
    · exact .inl (by rw [Char.isAlphanum, hdigit, Bool.or_true])

/-! ## White space at the beginning -/

/-- A text that does not begin with white space. -/
def Starts (s : String) : Prop := ∀ c ∈ s.toList.head?, Text.isSpace c = false

theorem starts_of_trimmed {s : String} (h : Validation.Trimmed s) : Starts s :=
  Text.head?_of_trim_eq h

theorem Word.starts {s : String} (h : Word s) : Starts s := fun c hc =>
  (h c (List.mem_of_mem_head? hc)).1

/-- A text is not trimmed if it does not begin with white space and ends with a
    word. -/
theorem Starts.trimmed_append {s t : String} (hs : Starts s) (ht : Word t) (hne : t ≠ "") :
    Validation.Trimmed (s ++ t) :=
  Text.trim_append_eq hs (fun c hc => (ht c hc).1) fun hnil => hne (String.toList_injective hnil)

/-- An address without its prefix length does not begin with white space. -/
theorem starts_normalizeClientIp (value : String) : Starts (normalizeClientIp value) := by
  intro c hc
  refine starts_of_trimmed (Text.trim_trim value) c ?_
  rw [normalizeClientIp, Text.split] at hc
  by_cases hslash : '/' ∈ (Text.trim value).toList
  · obtain ⟨front, back, hsplit, -, hpieces⟩ := Text.splitOn_of_mem hslash
    rw [hpieces, List.map_cons, List.head?_cons, Option.getD_some, String.toList_ofList] at hc
    rw [hsplit, List.head?_append]
    rw [Option.mem_def.1 hc]
    rfl
  · rw [List.splitOn_eq_singleton hslash, List.map_singleton, List.head?_cons, Option.getD_some,
      String.toList_ofList] at hc
    exact hc

/-- An address without its prefix length has no slash. -/
theorem not_slash_normalizeClientIp (value : String) :
    '/' ∉ (normalizeClientIp value).toList := by
  rw [normalizeClientIp, Text.split]
  cases hpieces : (Text.trim value).toList.splitOn '/' with
  | nil => exact absurd hpieces (List.splitOn_ne_nil _ _)
  | cons first rest =>
    rw [List.map_cons, List.head?_cons, Option.getD_some, String.toList_ofList]
    exact (Text.of_mem_splitOn (hpieces ▸ List.mem_cons_self)).1

/-! ## Hosts -/

/-- The host of an endpoint: an address of version 6 is put in brackets. -/
def bracketedHost (host : String) : String := if Net.isIPv6 host then "[" ++ host ++ "]" else host

/-- A host with a colon that is not in brackets is an address of version 6. -/
def BareHost (host : String) : Prop :=
  Text.includes host ":" ∧ host.toList.head? ≠ some '[' → Net.isIPv6 host = true

theorem brackets_ne (host : String) : "[" ++ host ++ "]" ≠ host := fun h => by
  have hlength := congrArg (fun s : String => s.toList.length) h
  simp only [String.toList_append, List.length_append] at hlength
  change 1 + host.toList.length + 1 = _ at hlength
  omega

theorem includes_colon {host : String} : Text.includes host ":" = true ↔ ':' ∈ host.toList := by
  rw [Text.includes, decide_eq_true_iff]
  exact List.singleton_infix_iff _ _

/-- The brackets are those of an address just when the host is bare. -/
theorem endpointHostText_eq_iff {host : String} :
    endpointHostText host = bracketedHost host ↔ BareHost host := by
  have hsix : Net.isIPv6 host = true →
      Text.includes host ":" ∧ host.toList.head? ≠ some '[' := fun h =>
    ⟨includes_colon.2 (Net.colon_of_isIPv6 h), fun hhead =>
      (Net.plain_of_isIPv6 h _ (List.mem_of_mem_head? hhead)).2.2 rfl⟩
  rw [endpointHostText, bracketedHost, BareHost]
  by_cases hcolon : Text.includes host ":" ∧ host.toList.head? ≠ some '['
  · rw [if_pos hcolon]
    by_cases h : Net.isIPv6 host = true
    · exact ⟨fun _ _ => h, fun _ => (if_pos h).symm⟩
    · rw [if_neg h]
      exact ⟨fun heq => absurd heq (brackets_ne host), fun hbare => absurd (hbare hcolon) h⟩
  · rw [if_neg hcolon, if_neg fun h => hcolon (hsix h)]
    exact ⟨fun _ h => absurd h hcolon, fun _ => rfl⟩

theorem mem_bracketedHost {host : String} {c : Char} (h : c ∈ host.toList) :
    c ∈ (bracketedHost host).toList := by
  rw [bracketedHost]
  split_ifs
  · rw [String.toList_append, String.toList_append, List.mem_append, List.mem_append]
    exact .inl (.inr h)
  · exact h

/-- What is written before the port: a value, if the host is one. -/
theorem endpointHostText_spec {host : String} (hvalue : Ini.Value host) (hstarts : Starts host) :
    Ini.Value (endpointHostText host) ∧ Starts (endpointHostText host) := by
  rw [endpointHostText]
  split_ifs with hcolon
  · have hmem : ∀ c, c ∈ ("[" ++ host ++ "]").toList → c = '[' ∨ c ∈ host.toList ∨ c = ']' := by
      intro c hc
      rw [String.toList_append, String.toList_append, List.mem_append, List.mem_append] at hc
      rcases hc with (hc | hc) | hc
      · exact .inl (List.mem_singleton.1 hc)
      · exact .inr (.inl hc)
      · exact .inr (.inr (List.mem_singleton.1 hc))
    refine ⟨⟨fun h => ?_, fun h => ?_⟩, fun c hc => ?_⟩
    · rcases hmem _ h with heq | h | heq
      · exact absurd heq (by decide)
      · exact hvalue.1 h
      · exact absurd heq (by decide)
    · rcases hmem _ h with heq | h | heq
      · exact absurd heq (by decide)
      · exact hvalue.2 h
      · exact absurd heq (by decide)
    · rw [String.toList_append, String.toList_append] at hc
      cases hc
      decide
  · exact ⟨hvalue, hstarts⟩

/-! ## Configurations that can be read -/

/-- What a configuration must be for its text to be read. -/
structure WireGuardConfigInput.Readable (config : WireGuardConfigInput) : Prop where
  privateKey : Word config.privateKey
  serverPublicKey : Word config.serverPublicKey
  presharedKey : ∀ key ∈ filled config.presharedKey, Word key
  clientIp : Ini.Value config.clientIp ∧ Starts config.clientIp ∧ '/' ∉ config.clientIp.toList
  dns : Ini.Value config.dns ∧ Validation.Trimmed config.dns
  allowedIps : Ini.Value config.allowedIps ∧ Validation.Trimmed config.allowedIps
  endpointHost : Ini.Value config.endpointHost ∧ Starts config.endpointHost

theorem value_append {s t : String} (hs : Ini.Value s) (ht : Word t) : Ini.Value (s ++ t) := by
  have hvalue := ht.value.1
  refine ⟨fun h => ?_, fun h => ?_⟩ <;> rw [String.toList_append, List.mem_append] at h
  · exact h.elim hs.1 hvalue.1
  · exact h.elim hs.2 hvalue.2

theorem value_of_append {s t : String} (h : Ini.Value (s ++ t)) : Ini.Value s := by
  rw [Ini.Value, String.toList_append, List.mem_append, List.mem_append] at h
  exact ⟨fun hmem => h.1 (.inl hmem), fun hmem => h.2 (.inl hmem)⟩

theorem word_port (port : ℤ) : Word (":" ++ toString port) := fun c hc => by
  rw [String.toList_append, List.mem_append] at hc
  rcases hc with hc | hc
  · rw [List.mem_singleton.1 hc]
    decide
  · exact word_int port c hc

/-- The keys and the names of sections that occur. -/
theorem isKey_of_mem : ∀ key ∈ ["PrivateKey", "Address", "DNS", "MTU", "PublicKey", "PresharedKey",
    "AllowedIPs", "Endpoint", "PersistentKeepalive"], Ini.IsKey key := fun key hkey => by
  have hall : (["PrivateKey", "Address", "DNS", "MTU", "PublicKey", "PresharedKey", "AllowedIPs",
      "Endpoint", "PersistentKeepalive"].all fun key => key.toList ≠ [] && key.toList.all fun c =>
        decide (Text.isSpace c = false ∧ c ≠ '=' ∧ c ≠ '#' ∧ c ≠ '[')) = true := by decide
  obtain ⟨hne, hplain⟩ := Bool.and_eq_true_iff.1 (List.all_eq_true.1 hall key hkey)
  exact ⟨of_decide_eq_true hne, fun c hc =>
    of_decide_eq_true (List.all_eq_true.1 hplain c hc)⟩

theorem value_name : ∀ name ∈ ["Interface", "Peer"], Ini.Value name := by
  have hall : ∀ name ∈ ["Interface", "Peer"], '\n' ∉ name.toList ∧ '#' ∉ name.toList := by
    decide +kernel
  exact hall

theorem isKey_of_mem_directives (config : WireGuardConfigInput) (host : String) :
    ∀ s ∈ configSections config host, ∀ d ∈ s.directives, Ini.IsKey d.1 := by
  refine List.forall_mem_cons.2 ⟨fun d hd => isKey_of_mem d.1 ?_, List.forall_mem_cons.2
    ⟨fun d hd => isKey_of_mem d.1 ?_, fun _ hmem => absurd hmem List.not_mem_nil⟩⟩
  · simp only [List.mem_append, List.mem_cons, List.mem_map, List.not_mem_nil, or_false] at hd
    rcases hd with (rfl | rfl | rfl) | ⟨mtu, -, rfl⟩ <;> simp
  · simp only [List.mem_append, List.mem_cons, List.mem_map, List.not_mem_nil, or_false] at hd
    rcases hd with (rfl | ⟨key, -, rfl⟩) | rfl | rfl | rfl <;> simp

/-- The address is a value without white space at its ends, with the length that
    is added to it. -/
theorem WireGuardConfigInput.Readable.address {config : WireGuardConfigInput}
    (h : config.Readable) :
    Ini.Value (if Text.includes config.clientIp "/" then config.clientIp
      else config.clientIp ++ "/32") ∧
    Validation.Trimmed (if Text.includes config.clientIp "/" then config.clientIp
      else config.clientIp ++ "/32") := by
  obtain ⟨hvalue, hstarts, hslash⟩ := h.clientIp
  have hnone : Text.includes config.clientIp "/" = false := by
    rw [Text.includes, decide_eq_false_iff_not]
    exact fun hmem => hslash ((List.singleton_infix_iff _ _).1 hmem)
  have hlength : Word "/32" := fun c hc => by
    have hall : ("/32".toList.all fun c => decide (Text.isSpace c = false ∧ c ≠ '#')) = true := by
      decide
    exact of_decide_eq_true (List.all_eq_true.1 hall c hc)
  rw [hnone]
  exact ⟨value_append hvalue hlength, hstarts.trimmed_append hlength (by decide)⟩

/-- So is the endpoint, with its port. -/
theorem WireGuardConfigInput.Readable.endpoint {config : WireGuardConfigInput}
    (h : config.Readable) :
    Ini.Value (endpointHostText config.endpointHost ++ ":" ++ toString config.endpointPort) ∧
    Validation.Trimmed
      (endpointHostText config.endpointHost ++ ":" ++ toString config.endpointPort) := by
  obtain ⟨hhost, hstarts⟩ := endpointHostText_spec h.endpointHost.1 h.endpointHost.2
  have hport := word_port config.endpointPort
  rw [String.append_assoc]
  refine ⟨value_append hhost hport, hstarts.trimmed_append hport fun hnil => ?_⟩
  refine absurd (congrArg String.toList hnil) ?_
  rw [String.toList_append]
  exact List.cons_ne_nil _ _

/-- The sections of a readable configuration can be written. -/
theorem WireGuardConfigInput.Readable.writable {config : WireGuardConfigInput}
    (h : config.Readable) :
    ∀ s ∈ configSections config (endpointHostText config.endpointHost), s.Writable := by
  obtain ⟨hinterface, hpeer⟩ := List.forall_mem_cons.1 (isKey_of_mem_directives config
    (endpointHostText config.endpointHost))
  refine List.forall_mem_cons.2 ⟨⟨value_name _ (by simp), hinterface, fun d hd => ?_⟩,
    List.forall_mem_singleton.2 ⟨value_name _ (by simp), List.forall_mem_singleton.1 hpeer,
      fun d hd => ?_⟩⟩
  · simp only [List.mem_append, List.mem_cons, List.mem_map, List.not_mem_nil, or_false] at hd
    rcases hd with (rfl | rfl | rfl) | ⟨mtu, -, rfl⟩
    · exact h.privateKey.value
    · exact h.address
    · exact h.dns
    · exact (word_int mtu).value
  · simp only [List.mem_append, List.mem_cons, List.mem_map, List.not_mem_nil, or_false] at hd
    rcases hd with (rfl | ⟨key, hkey, rfl⟩) | rfl | rfl | rfl
    · exact h.serverPublicKey.value
    · exact (h.presharedKey key (Option.mem_toList.1 hkey)).value
    · exact h.allowedIps
    · exact h.endpoint
    · exact (word_int config.persistentKeepalive).value

/-- A readable configuration is read as it was generated. -/
theorem WireGuardConfigInput.Readable.read {config : WireGuardConfigInput} (h : config.Readable) :
    Ini.read (generateClientConfig config) =
      some (configSections config (endpointHostText config.endpointHost)) := by
  rw [generateClientConfig_eq, Ini.read_write h.writable]

/-! ## New clients -/

/-- A pool that was entered through its schema. -/
def WireGuardPool.Entered (pool : WireGuardPool) : Prop :=
  ∃ request input normalized, Validation.poolSchema request = some input ∧
    normalizePoolInput input = .ok normalized ∧
    (pool.gatewayIp = normalized.gatewayIp ∧ pool.startIp = normalized.startIp ∧
      pool.endIp = normalized.endIp) ∧
    (pool.dns = normalized.dns ∧ pool.clientAllowedIps = normalized.clientAllowedIps ∧
      pool.mtu = normalized.mtu ∧ pool.persistentKeepalive = normalized.persistentKeepalive) ∧
    pool.endpointHost = normalized.endpointHost ∧ pool.endpointPort = normalized.endpointPort

/-- A router that was entered through its schema. -/
def RouterRow.Entered (router : RouterRow) : Prop :=
  ∃ request input, Validation.routerSchema request = some input ∧ router.name = input.name ∧
    router.managementIp = input.managementIp ∧
    router.endpointHostname = input.endpointHostname ∧ router.endpointIp = input.endpointIp ∧
    router.wireguardPort = input.wireguardPort

section Entered

variable (input : CreatePeerInput) (pool : WireGuardPool) (router : RouterRow)
  (interface : InterfaceRow) (keys : WireGuardKeys) (clientIp : String)

/-- The address that is asked for. -/
def requestedAddress : Option String :=
  (if input.manual then input.requestedIp else none).bind nonEmpty

/-- The texts that are entered freely and come into the configuration. -/
def enteredTexts : List String :=
  [(filled input.dnsServer).getD pool.dns,
    (filled input.clientAllowedIps).getD pool.clientAllowedIps, createdHost input pool router] ++
      (requestedAddress input).toList.map normalizeClientIp

/-- The sections with the values that were given. -/
def givenSections : List Ini.Section :=
  [{ name := "Interface"
     directives := [("PrivateKey", keys.privateKey), ("Address", clientIp ++ "/32"),
       ("DNS", (filled input.dnsServer).getD pool.dns),
       ("MTU", toString (input.mtu.getD pool.mtu))] },
    { name := "Peer"
      directives := ("PublicKey", interface.publicKey) ::
        (keys.presharedKey.toList.map fun key => ("PresharedKey", key)) ++
        [("AllowedIPs", (filled input.clientAllowedIps).getD pool.clientAllowedIps),
          ("Endpoint", bracketedHost (createdHost input pool router) ++ ":" ++
            toString (createdPort input pool router interface)),
          ("PersistentKeepalive",
            toString (input.persistentKeepalive.getD pool.persistentKeepalive))] }]

end Entered

theorem starts_isIP {s : String} (h : Net.isIP s = true) : Starts s := fun c hc => by
  rcases Bool.or_eq_true_iff.1 h with hfour | hsix
  · exact (Net.plain_of_isIPv4 hfour c (List.mem_of_mem_head? hc)).1.1
  · exact (Net.plain_of_isIPv6 hsix c (List.mem_of_mem_head? hc)).1

theorem starts_isHostname {s : String} (h : Validation.isHostname s = true) : Starts s := by
  have hall := List.all_eq_true.1 (Bool.and_eq_true_iff.1 h).2
  refine (Word.of_alphanum ['.', '-'] (by decide) fun c hc => ?_).starts
  simpa [or_assoc] using hall c hc

section NewClient

variable {request : Validation.PeerCreateRequest} {value : Validation.PeerCreate}
  {input : CreatePeerInput} {pool : WireGuardPool} {router : RouterRow}

/-- What is entered for a client is not empty, where it must not be. -/
structure CreatePeerInput.Client (input : CreatePeerInput) : Prop where
  dnsServer : ∃ dns, filled input.dnsServer = some dns ∧ Validation.Trimmed dns
  clientAllowedIps : ∃ allowed, filled input.clientAllowedIps = some allowed ∧
    Validation.Trimmed allowed
  mtu : ∃ mtu, input.mtu = some mtu ∧ mtu ≠ 0
  endpointOverride : ∀ host ∈ input.endpointOverride, Validation.Trimmed host

theorem client_of_toInput (hvalue : Validation.peerCreateSchema request = some value)
    (hinput : value.toInput = .ok input) : input.Client := by
  obtain ⟨⟨hdns, hdnsFilled⟩, ⟨hallowed, hallowedFilled⟩, hmtu, hoverride⟩ :=
    Validation.client_of_peerCreateSchema hvalue
  rw [Validation.PeerCreate.toInput] at hinput
  obtain ⟨quotaBytes, -, hinput⟩ := except_bind_ok.1 hinput
  cases hinput
  exact ⟨⟨_, nonEmpty_eq_some hdnsFilled, hdns⟩, ⟨_, nonEmpty_eq_some hallowedFilled, hallowed⟩,
    ⟨_, rfl, hmtu⟩, hoverride⟩

/-- The host of the endpoint, wherever it comes from, does not begin with white
    space. -/
theorem starts_createdHost (hinput : input.Client) (hpool : pool.Entered)
    (hrouter : router.Entered) : Starts (createdHost input pool router) := by
  obtain ⟨_, _, normalized, -, hnormalize, -, -, hpoolHost, -⟩ := hpool
  obtain ⟨_, entered, hschema, -, hmanagement, hhostname, hip, -⟩ := hrouter
  have hendpoint := Validation.endpoint_of_routerSchema hschema
  rw [createdHost]
  -- Each of the five hosts has been checked where it was entered.
  cases hoverride : filled input.endpointOverride with
  | some host => exact starts_of_trimmed (hinput.endpointOverride host (filled_eq_some hoverride))
  | none =>
    cases hhost : filled pool.endpointHost with
    | some host =>
      obtain ⟨valid, -, hnormalize⟩ := except_bind_ok.1 hnormalize
      obtain ⟨-, hnormalize⟩ := rejectIf_bind_ok.1 hnormalize
      obtain ⟨start, -, hnormalize⟩ := except_bind_ok.1 hnormalize
      obtain ⟨stop, -, hnormalize⟩ := except_bind_ok.1 hnormalize
      cases hnormalize
      obtain ⟨text, -, htext⟩ := Option.bind_eq_some_iff.1
        (hpoolHost.symm.trans (filled_eq_some hhost))
      have htrim : Text.trim text = host := by
        rw [nonEmpty] at htext
        split_ifs at htext
        exact Option.some.inj htext
      exact starts_of_trimmed (htrim ▸ Text.trim_trim text)
    | none =>
      cases hname : filled router.endpointHostname with
      | some host =>
        exact starts_isHostname (hendpoint.endpointHostname host
          (hhostname.symm.trans (filled_eq_some hname)))
      | none =>
        cases haddress : filled router.endpointIp with
        | some host =>
          exact starts_isIP (hendpoint.endpointIp host (hip.symm.trans (filled_eq_some haddress)))
        | none => exact starts_isIP (hmanagement ▸ hendpoint.managementIp)

variable {P : Platform} {db db' : Database} {remotePeers : List RemoteWireGuardPeer}
  {interface : InterfaceRow} {keys : WireGuardKeys} {clientIp : String}

/-- The address of a new client, which has no prefix length. -/
theorem clientIp_of_choosePoolAddress
    (h : choosePoolAddress P pool remotePeers (if input.manual then input.requestedIp else none)
      none db = .ok (clientIp, db')) :
    Starts clientIp ∧ '/' ∉ clientIp.toList ∧
      ((∀ text ∈ enteredTexts input pool router, Ini.Value text) → Ini.Value clientIp) ∧
      ∀ requested, requestedAddress input = some requested →
        clientIp = normalizeClientIp requested := by
  have hspelling := (choosePoolAddress_spelling h).2
  -- A requested address is kept in the spelling of the request; the others are the panel's.
  cases hrequested : requestedAddress input with
  | some requested =>
    rw [requestedAddress] at hrequested
    rw [hrequested] at hspelling
    have hip : clientIp = normalizeClientIp requested := hspelling
    rw [hip]
    refine ⟨starts_normalizeClientIp requested, not_slash_normalizeClientIp requested,
      fun hall => hall _ ?_, fun _ heq => ?_⟩
    · rw [enteredTexts, requestedAddress, hrequested]
      exact List.mem_append_right _ (List.mem_singleton_self _)
    · cases heq
      rfl
  | none =>
    rw [requestedAddress] at hrequested
    rw [hrequested] at hspelling
    obtain ⟨n, rfl⟩ : ∃ n, clientIp = dotted n := hspelling
    refine ⟨(word_dotted n).starts, fun hslash => ?_, fun _ => (word_dotted n).value.1, nofun⟩
    rcases mem_dotted hslash with hdot | hdigit
    · exact absurd hdot (by decide)
    · exact absurd hdigit (by decide)

/-- The keys of a client and of the interface are texts in Base64. -/
structure Base64Keys (interface : InterfaceRow) (keys : WireGuardKeys) : Prop where
  privateKey : IsBase64 keys.privateKey
  presharedKey : ∀ key ∈ keys.presharedKey, IsBase64 key
  publicKey : IsBase64 interface.publicKey

theorem Base64Keys.filled_presharedKey (h : Base64Keys interface keys) :
    filled keys.presharedKey = keys.presharedKey := by
  cases hkey : keys.presharedKey with
  | none => rfl
  | some key => exact nonEmpty_eq_some (h.presharedKey key hkey).1

/-- The configuration of a new client is readable, if the texts that are entered
    stand on one line each. -/
theorem readable_clientInput (hinput : input.Client) (hkeys : Base64Keys interface keys)
    (hclient : Starts clientIp ∧ '/' ∉ clientIp.toList ∧ Ini.Value clientIp)
    (hhost : Starts (createdHost input pool router))
    (hvalues : ∀ text ∈ enteredTexts input pool router, Ini.Value text) (port : ℤ) :
    (clientInput input pool interface keys clientIp (createdHost input pool router)
      port).Readable := by
  obtain ⟨dns, hdns, hdnsTrimmed⟩ := hinput.dnsServer
  obtain ⟨allowed, hallowed, hallowedTrimmed⟩ := hinput.clientAllowedIps
  rw [enteredTexts, List.forall_mem_append] at hvalues
  obtain ⟨hdnsValue, hvalues⟩ := List.forall_mem_cons.1 hvalues.1
  obtain ⟨hallowedValue, hvalues⟩ := List.forall_mem_cons.1 hvalues
  have hhostValue := hvalues _ List.mem_cons_self
  exact
    { privateKey := hkeys.privateKey.word
      serverPublicKey := hkeys.publicKey.word
      presharedKey := fun key hkey => (hkeys.presharedKey key (filled_eq_some hkey)).word
      clientIp := ⟨hclient.2.2, hclient.1, hclient.2.1⟩
      dns := ⟨hdnsValue, by
        change Validation.Trimmed ((filled input.dnsServer).getD pool.dns)
        rw [hdns]
        exact hdnsTrimmed⟩
      allowedIps := ⟨hallowedValue, by
        change Validation.Trimmed ((filled input.clientAllowedIps).getD pool.clientAllowedIps)
        rw [hallowed]
        exact hallowedTrimmed⟩
      endpointHost := ⟨hhostValue, hhost⟩ }

/-- The sections with the values that were given are those of the configuration,
    up to the brackets of the host. -/
theorem givenSections_eq (hinput : input.Client) (hkeys : Base64Keys interface keys)
    (hslash : '/' ∉ clientIp.toList) :
    givenSections input pool router interface keys clientIp =
      configSections (clientInput input pool interface keys clientIp
        (createdHost input pool router) (createdPort input pool router interface))
        (bracketedHost (createdHost input pool router)) := by
  obtain ⟨mtu, hmtu, hzero⟩ := hinput.mtu
  have haddress : Text.includes clientIp "/" = false := by
    rw [Text.includes, decide_eq_false_iff_not]
    exact fun hmem => hslash ((List.singleton_infix_iff _ _).1 hmem)
  have hnonZero : nonZero (some mtu) = some mtu := Option.filter_some_pos (by simpa using hzero)
  simp only [givenSections, configSections, clientInput, haddress, hkeys.filled_presharedKey, hmtu,
    Option.getD_some, hnonZero, Bool.false_eq_true, if_false, Option.toList_some, List.map_cons,
    List.map_nil, List.cons_append, List.nil_append]

theorem configSections_inj {config : WireGuardConfigInput} {host host' : String}
    (h : configSections config host = configSections config host') : host = host' := by
  simpa [configSections] using h

/-- The configuration of a new client is read as the values that were given just
    when the texts that were entered stand on one line each, and a host with a
    colon is an address of version 6 or in brackets. -/
theorem read_createdConfig_iff (hvalue : Validation.peerCreateSchema request = some value)
    (hinput : value.toInput = .ok input) (hpool : pool.Entered) (hrouter : router.Entered)
    (hkeys : Base64Keys interface keys)
    (hchoose : choosePoolAddress P pool remotePeers
      (if input.manual then input.requestedIp else none) none db = .ok (clientIp, db')) :
    Ini.read (createdConfig input pool router interface keys clientIp) =
        some (givenSections input pool router interface keys clientIp) ↔
      (∀ text ∈ enteredTexts input pool router, Ini.Value text) ∧
        BareHost (createdHost input pool router) := by
  have hentered := client_of_toInput hvalue hinput
  have hhost := starts_createdHost hentered hpool hrouter
  obtain ⟨hstarts, hslash, hclientValue, hclientIp⟩ :=
    @clientIp_of_choosePoolAddress input pool router P db db' remotePeers clientIp hchoose
  have hgiven := @givenSections_eq input pool router interface keys clientIp hentered hkeys hslash
  have hread := fun hvalues => (readable_clientInput hentered hkeys
    ⟨hstarts, hslash, hclientValue hvalues⟩ hhost hvalues
    (createdPort input pool router interface)).read
  constructor
  · intro h
    have hvalues : ∀ text ∈ enteredTexts input pool router, Ini.Value text := by
      have hall := Ini.read_values h
      simp only [givenSections, List.forall_mem_cons, List.mem_append] at hall
      obtain ⟨⟨-, haddress, hdns, -⟩, hpeer, -⟩ := hall
      have hallowed := hpeer ("AllowedIPs", _) (.inr List.mem_cons_self)
      have hendpoint := hpeer ("Endpoint", _)
        (.inr (List.mem_cons_of_mem _ List.mem_cons_self))
      refine List.forall_mem_append.2 ⟨List.forall_mem_cons.2 ⟨hdns, List.forall_mem_cons.2
        ⟨hallowed, List.forall_mem_singleton.2 ?_⟩⟩, fun text htext => ?_⟩
      · have hbracketed := value_of_append (value_of_append hendpoint)
        exact ⟨fun hmem => hbracketed.1 (mem_bracketedHost hmem),
          fun hmem => hbracketed.2 (mem_bracketedHost hmem)⟩
      · obtain ⟨requested, hrequested, rfl⟩ := List.mem_map.1 htext
        rw [← hclientIp requested (Option.mem_toList.1 hrequested)]
        exact value_of_append haddress
    -- The text is read as what was written, so that the brackets were not added.
    have hsections := Option.some.inj ((hread hvalues).symm.trans h)
    rw [hgiven] at hsections
    exact ⟨hvalues, endpointHostText_eq_iff.1 (configSections_inj hsections)⟩
  · rintro ⟨hvalues, hbare⟩
    rw [createdConfig, hread hvalues, hgiven]
    exact congrArg (fun host => some (configSections _ host)) (endpointHostText_eq_iff.2 hbare)

end NewClient

/-! ## A client of the installation -/

/-- What is entered for the pool of the installation. -/
def plainPoolRequest : Validation.PoolRequest where
  name := "Pool"
  routerId := "00000000-0000-4000-8000-000000000001"
  interfaceId := "00000000-0000-4000-8000-000000000002"
  networkCidr := "10.0.0.0/24"
  gatewayIp := "10.0.0.1"
  startIp := "10.0.0.2"
  endIp := "10.0.0.100"
  dns := "1.1.1.1"
  clientAllowedIps := "0.0.0.0/0"
  mtu := some 1420
  persistentKeepalive := some 25

/-- What is let through for the pool. -/
def plainPoolEntered : PoolInput where
  name := "Pool"
  routerId := "00000000-0000-4000-8000-000000000001"
  interfaceId := "00000000-0000-4000-8000-000000000002"
  networkCidr := "10.0.0.0/24"
  gatewayIp := "10.0.0.1"
  startIp := "10.0.0.2"
  endIp := "10.0.0.100"
  dns := "1.1.1.1"
  clientAllowedIps := "0.0.0.0/0"
  endpointHost := none
  endpointPort := none
  mtu := 1420
  persistentKeepalive := 25
  enabled := true

/-- What is entered for its router. -/
def plainRouterRequest : Validation.RouterRequest where
  name := "Router"
  managementIp := "192.0.2.1"
  apiPort := some 8729
  apiType := .native
  username := "admin"
  password := "secret"
  useTls := true
  verifyTls := true

/-- What is entered for a client whose names are resolved by a given server. -/
def clientRequest (dnsServer : String) : Validation.PeerCreateRequest where
  routerId := "00000000-0000-4000-8000-000000000001"
  interfaceId := "00000000-0000-4000-8000-000000000002"
  poolId := "00000000-0000-4000-8000-000000000003"
  name := "Client"
  dnsServer := some dnsServer

/-- What is let through. -/
def clientEntered (dnsServer : String) : Validation.PeerCreate where
  routerId := "00000000-0000-4000-8000-000000000001"
  interfaceId := "00000000-0000-4000-8000-000000000002"
  poolId := "00000000-0000-4000-8000-000000000003"
  manual := false
  name := "Client"
  description := none
  requestedIp := none
  allowedAddress := none
  clientAllowedIps := "0.0.0.0/0"
  dnsServer := dnsServer
  persistentKeepalive := 25
  mtu := 1420
  endpointOverride := none
  endpointPortOverride := none
  expiresAt := none
  usePresharedKey := false
  profileId := none
  bandwidth := { bandwidthMode := .default, bandwidthProfileId := none, downloadLimitMbps := none,
                 uploadLimitMbps := none, burstDownloadMbps := none, burstUploadMbps := none,
                 burstTimeSeconds := none }
  quota := { quotaEnabled := false, quotaValue := none, quotaUnit := .gb, quotaPeriod := .monthly }

/-- The input of its creation. -/
def clientCreated (dnsServer : String) : CreatePeerInput where
  routerId := "00000000-0000-4000-8000-000000000001"
  interfaceId := "00000000-0000-4000-8000-000000000002"
  poolId := "00000000-0000-4000-8000-000000000003"
  name := "Client"
  clientAllowedIps := some "0.0.0.0/0"
  dnsServer := some dnsServer
  persistentKeepalive := some 25
  mtu := some 1420
  bandwidthMode := some .default

/-- The pool of the installation, as it is locked. -/
def plainView : WireGuardPool := plainPool.view Platform.plain plainRouter plainInterface

theorem plainView_entered : plainView.Entered :=
  ⟨plainPoolRequest, plainPoolEntered, plainPoolEntered, by decide +kernel, by decide +kernel,
    by decide +kernel, by decide +kernel, by decide +kernel, by decide +kernel⟩

/-- What is let through for the router. -/
def plainRouterEntered : Validation.RouterInput where
  name := "Router"
  managementIp := "192.0.2.1"
  apiPort := 8729
  apiType := .native
  username := "admin"
  password := "secret"
  endpointHostname := none
  endpointIp := none
  wireguardPort := none
  useTls := true
  verifyTls := true
  enabled := true

theorem plainRouter_entered : plainRouter.Entered :=
  ⟨plainRouterRequest, plainRouterEntered, by decide +kernel, by decide +kernel⟩

/-- An interface and a client with keys. -/
def keyedInterface : InterfaceRow :=
  { plainInterface with publicKey := "xTIBA5rboUvnH4htodjb6e697QjLERt1NAB4mZqp8Dg=" }

def clientKeys : WireGuardKeys where
  privateKey := "yAnz5TF+lXXJte14tji3zlMNq+hd2rYUIgJBgB3fBmk="
  publicKey := "HIgo9xNzJMWLKASShiTqIybxZ0U3wGLiUeJ1PKf8ykw="
  presharedKey := some "FpCyhws9cxwWoV4xELtfJvjJN+zQVRPISllRWgeopVE="

theorem clientKeys_base64 : Base64Keys keyedInterface clientKeys where
  privateKey := ⟨by decide, by decide⟩
  presharedKey key hkey := by
    cases hkey
    exact ⟨by decide, by decide⟩
  publicKey := ⟨by decide, by decide⟩

/-- The first address of the pool is chosen. -/
theorem exists_chosen : ∃ db', choosePoolAddress Platform.plain plainView []
    (if (clientCreated "1.1.1.1").manual then (clientCreated "1.1.1.1").requestedIp else none) none
    Database.empty = .ok ("10.0.0.2", db') := by
  have hchosen : (choosePoolAddress Platform.plain plainView [] none none
      Database.empty).toOption.map Prod.fst = some "10.0.0.2" := by decide +kernel
  obtain ⟨⟨ip, db'⟩, hresult, hip⟩ := Option.map_eq_some_iff.1 hchosen
  obtain rfl : ip = "10.0.0.2" := hip
  refine ⟨db', ?_⟩
  change choosePoolAddress Platform.plain plainView [] none none Database.empty = _
  cases hrun : choosePoolAddress Platform.plain plainView [] none none Database.empty with
  | error e =>
    rw [hrun] at hresult
    cases hresult
  | ok result =>
    rw [hrun] at hresult
    exact congrArg Except.ok (Option.some.inj hresult)

/-- The configuration of a client with ordinary values is read back. -/
theorem read_createdConfig_iff_plain :
    Ini.read (createdConfig (clientCreated "1.1.1.1") plainView plainRouter keyedInterface
      clientKeys "10.0.0.2") =
        some (givenSections (clientCreated "1.1.1.1") plainView plainRouter keyedInterface
          clientKeys "10.0.0.2") := by
  obtain ⟨db', hchosen⟩ := exists_chosen
  have hvalues : ∀ text ∈ enteredTexts (clientCreated "1.1.1.1") plainView plainRouter,
      '\n' ∉ text.toList ∧ '#' ∉ text.toList := by decide +kernel
  have hentered : Validation.peerCreateSchema (clientRequest "1.1.1.1") =
      some (clientEntered "1.1.1.1") := by decide +kernel
  refine (read_createdConfig_iff hentered rfl plainView_entered plainRouter_entered
    clientKeys_base64 hchosen).2 ⟨hvalues, fun hcolon => ?_⟩
  exact absurd hcolon.1 (by decide +kernel)

/-- A server with a line break brings a directive of its own. -/
theorem exists_read_createdConfig_ne :
    ¬∀ (P : Platform) (request : Validation.PeerCreateRequest) (value : Validation.PeerCreate)
      (input : CreatePeerInput) (pool : WireGuardPool) (router : RouterRow)
      (interface : InterfaceRow) (keys : WireGuardKeys) (remotePeers : List RemoteWireGuardPeer)
      (db db' : Database) (clientIp : String),
      Validation.peerCreateSchema request = some value → value.toInput = .ok input →
      pool.Entered → router.Entered → Base64Keys interface keys →
      choosePoolAddress P pool remotePeers (if input.manual then input.requestedIp else none) none
        db = .ok (clientIp, db') →
      Ini.read (createdConfig input pool router interface keys clientIp) =
        some (givenSections input pool router interface keys clientIp) := by
  intro h
  obtain ⟨db', hchosen⟩ := exists_chosen
  have hentered : Validation.peerCreateSchema (clientRequest "1.1.1.1\nPostUp = reboot") =
      some (clientEntered "1.1.1.1\nPostUp = reboot") := by decide +kernel
  have hread := h Platform.plain _ _ (clientCreated "1.1.1.1\nPostUp = reboot") plainView
    plainRouter keyedInterface clientKeys [] Database.empty db' "10.0.0.2" hentered rfl
    plainView_entered plainRouter_entered clientKeys_base64 hchosen
  -- No value that is read has a line break.
  have hdns : Ini.Value "1.1.1.1\nPostUp = reboot" :=
    Ini.read_values hread _ List.mem_cons_self ("DNS", _)
      (List.mem_cons_of_mem _ (List.mem_cons_of_mem _ List.mem_cons_self))
  exact hdns.1 (by decide)

end WireguardPanel
