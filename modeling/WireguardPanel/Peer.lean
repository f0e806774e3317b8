import WireguardPanel.Pool

/-!
# Peers and their transactions

The inputs of the operations on peers, what is derived from them, and the
transactions in which the operations change the database.

* `generateClientConfig`: the configuration of a client.
* `quotaConfiguration`: the quota columns after a change of a peer.
* `stagePeer`, `releaseStagedPeer`: the staging of a new peer and its undoing.
* `commitUpdate`, `recoverUpdate`: the transactions of `updatePeer`.
* `resetQuota`: the transaction of `resetPeerQuotaUsage`.
* `archiveAndDelete`: the transaction of `deletePeer`.
-/

namespace WireguardPanel

open Foundation

/-! ## Inputs -/

/-- The keys of a new client. -/
structure WireGuardKeys where
  privateKey : String
  publicKey : String
  presharedKey : Option String
  deriving DecidableEq

/-- `CreatePeerInput`. -/
structure CreatePeerInput where
  routerId : String
  interfaceId : String
  poolId : String
  manual : Bool := false
  name : String
  description : Option String := none
  requestedIp : Option String := none
  clientAllowedIps : Option String := none
  dnsServer : Option String := none
  persistentKeepalive : Option ℤ := none
  mtu : Option ℤ := none
  endpointOverride : Option String := none
  endpointPortOverride : Option ℤ := none
  expiresAt : Option ℤ := none
  usePresharedKey : Bool := false
  quotaBytes : Option ℤ := none
  quotaPeriod : Option QuotaPeriod := none
  profileId : Option String := none
  bandwidthMode : Option BandwidthMode := none
  bandwidthProfileId : Option String := none
  downloadLimitBps : Option ℕ := none
  uploadLimitBps : Option ℕ := none
  burstDownloadBps : Option ℕ := none
  burstUploadBps : Option ℕ := none
  burstTimeSeconds : Option ℕ := none

/-- `UpdatePeerInput`. A field of two options distinguishes an absent value
    from `null`. -/
structure UpdatePeerInput where
  routerId : String
  interfaceId : String
  poolId : String
  clientIp : String
  name : String
  description : Option String := none
  allowedAddress : String
  clientAllowedIps : String
  dnsServer : String
  persistentKeepalive : ℤ
  mtu : ℤ
  expiresAt : Option ℤ := none
  endpointOverride : Option String := none
  endpointPortOverride : Option ℤ := none
  quotaBytes : Option (Option ℤ) := none
  quotaPeriod : Option QuotaPeriod := none
  profileId : Option (Option String) := none
  bandwidthMode : Option BandwidthMode := none
  bandwidthProfileId : Option (Option String) := none
  downloadLimitBps : Option (Option ℕ) := none
  uploadLimitBps : Option (Option ℕ) := none
  burstDownloadBps : Option (Option ℕ) := none
  burstUploadBps : Option (Option ℕ) := none
  burstTimeSeconds : Option (Option ℕ) := none

/-- A text that is not empty, if there is one. -/
def filled (s : Option String) : Option String := s.bind nonEmpty

theorem filled_eq_some {s : Option String} {a : String} (h : filled s = some a) : s = some a := by
  obtain ⟨b, rfl, hb⟩ := Option.bind_eq_some_iff.1 h
  unfold nonEmpty at hb
  split_ifs at hb
  cases hb
  rfl

/-- A number that is not zero, if there is one. -/
def nonZero (n : Option ℤ) : Option ℤ := n.filter (· ≠ 0)

/-! ## Client configurations -/

/-- `WireGuardConfigInput`. -/
structure WireGuardConfigInput where
  privateKey : String
  clientIp : String
  dns : String
  serverPublicKey : String
  presharedKey : Option String
  allowedIps : String
  endpointHost : String
  endpointPort : ℤ
  persistentKeepalive : ℤ
  mtu : Option ℤ

/-- `generateClientConfig`. -/
def generateClientConfig (input : WireGuardConfigInput) : String :=
  let host := if Text.includes input.endpointHost ":" ∧ input.endpointHost.toList.head? ≠ some '['
    then "[" ++ input.endpointHost ++ "]" else input.endpointHost
  let address := if Text.includes input.clientIp "/" then input.clientIp
    else input.clientIp ++ "/32"
  Text.join "\n" <|
    ["[Interface]", "PrivateKey = " ++ input.privateKey, "Address = " ++ address,
      "DNS = " ++ input.dns] ++
    ((nonZero input.mtu).elim [] fun mtu => ["MTU = " ++ toString mtu]) ++
    ["", "[Peer]", "PublicKey = " ++ input.serverPublicKey] ++
    ((filled input.presharedKey).elim [] fun key => ["PresharedKey = " ++ key]) ++
    ["AllowedIPs = " ++ input.allowedIps, "Endpoint = " ++ host ++ ":" ++
      toString input.endpointPort, "PersistentKeepalive = " ++ toString input.persistentKeepalive,
      ""]

/-- `qrConfigHash`. -/
def qrConfigHash (P : Platform) (config : String) : String := P.sha256 config.toList

/-! ## Staging -/

/-- What the staging transaction returns. -/
structure StagedPeer where
  clientIp : String
  keys : WireGuardKeys
  allowedAddress : String
  keepalive : ℤ

/-- The row that `createPeer` stages. -/
def stagedRow (P : Platform) (input : CreatePeerInput) (peerId : String) (router : RouterRow)
    (interface : InterfaceRow) (pool : WireGuardPool) (keys : WireGuardKeys) (clientIp : String)
    (window : Option QuotaWindow) : PeerRow :=
  let allowedAddress := clientIp ++ "/32"
  let endpointHost := (filled input.endpointOverride).or <| (filled pool.endpointHost).or <|
    (filled router.endpointHostname).or (filled router.endpointIp)
  let endpointPort := (nonZero input.endpointPortOverride).or <| (nonZero pool.endpointPort).or <|
    nonZero router.wireguardPort
  let dns := (filled input.dnsServer).getD pool.dns
  let clientAllowed := (filled input.clientAllowedIps).getD pool.clientAllowedIps
  let keepalive := input.persistentKeepalive.getD pool.persistentKeepalive
  let mtu := input.mtu.getD pool.mtu
  let config := generateClientConfig {
    privateKey := keys.privateKey, clientIp, dns, serverPublicKey := interface.publicKey
    presharedKey := keys.presharedKey, allowedIps := clientAllowed
    endpointHost := endpointHost.getD router.managementIp
    endpointPort := endpointPort.getD interface.listenPort, persistentKeepalive := keepalive
    mtu := some mtu }
  { id := peerId
    routerId := router.id
    interfaceId := interface.id
    poolId := some pool.id
    remoteId := none
    name := input.name
    description := filled input.description
    origin := .managed
    publicKey := keys.publicKey
    privateKeyEncrypted := some (P.encryptSecret keys.privateKey)
    presharedKeyEncrypted := (filled keys.presharedKey).map P.encryptSecret
    clientIp := some clientIp
    allowedAddress := allowedAddress
    clientAllowedIps := clientAllowed
    dnsServer := dns
    endpointOverride := filled input.endpointOverride
    endpointPortOverride := nonZero input.endpointPortOverride
    persistentKeepalive := keepalive
    mtu := mtu
    disabled := false
    expired := false
    disabledReason := none
    expiresAt := input.expiresAt
    accounting := { AccountingColumns.fresh with
      quotaLimitBytes := input.quotaBytes
      quotaPeriod := (nonZero input.quotaBytes).bind fun _ => input.quotaPeriod
      quotaPeriodStartedAt := window.map QuotaWindow.start
      quotaPeriodEndsAt := window.bind QuotaWindow.stop }
    presence := { PresenceColumns.fresh with remoteDisabled := some false }
    bandwidth := { BandwidthColumns.fresh with
      profileId := input.profileId
      bandwidthMode := input.bandwidthMode.getD .default
      bandwidthProfileId := input.bandwidthProfileId
      downloadLimitBps := input.downloadLimitBps
      uploadLimitBps := input.uploadLimitBps
      burstDownloadBps := input.burstDownloadBps
      burstUploadBps := input.burstUploadBps
      burstTimeSeconds := input.burstTimeSeconds }
    remoteFingerprint := none
    lastRemoteState := none
    desiredState := Json.jsonb (.obj [("interfaceName", .str interface.name),
      ("allowedAddress", .str allowedAddress),
      ("comment", .str ((filled input.description).getD "")),
      ("persistentKeepalive", .num keepalive), ("disabled", .bool false)])
    lastAppliedState := .obj []
    conflictType := none
    syncState := .pending
    lifecycleStatus := .creating
    qrConfigHash := some (qrConfigHash P config) }

/-- The window of the quota period of a new peer. -/
def stagedWindow (P : Platform) (input : CreatePeerInput) (policy : QuotaPolicy) (now : ℤ) :
    Except AppError (Option QuotaWindow) :=
  match nonZero input.quotaBytes, input.quotaPeriod with
  | some _, some period => (quotaPeriodWindow P now period policy).map some
  | _, _ => .ok none

/-- `UPDATE management_operations … WHERE id = …`. -/
def Tx.updateOperation (id : String) (f : OperationRow → OperationRow) : Tx Unit := fun db =>
  .ok ((), { db with operations := db.operations.map fun o => if o.id = id then f o else o })

section Platform

variable (P : Platform)

/-- The staging transaction of `createPeer`, given the RouterOS listing that it
    reads, after the address has been chosen. -/
def stageChosen (input : CreatePeerInput) (peerId operationId : String) (router : RouterRow)
    (interface : InterfaceRow) (pool : WireGuardPool) (keys : WireGuardKeys) (now : ℤ)
    (clientIp : String) : Tx StagedPeer := do
  let db ← get
  let window ← Tx.ofExcept (stagedWindow P input db.settings.quotaPolicy now)
  let row := stagedRow P input peerId router interface pool keys clientIp window
  Tx.insertPeer row
  claimPoolAddress P pool clientIp peerId input.name
  Tx.updateOperation operationId fun o => { o with peerId := some peerId, updatedAt := now }
  return { clientIp, keys, allowedAddress := row.allowedAddress
           keepalive := row.persistentKeepalive }

/-- The staging transaction of `createPeer`. -/
def stagePeer (input : CreatePeerInput) (peerId operationId : String) (router : RouterRow)
    (interface : InterfaceRow) (keys : WireGuardKeys)
    (listing : Except AppError (List RemoteWireGuardPeer)) (now : ℤ) : Tx StagedPeer := do
  let pool ← lockPoolForPeer P input.poolId input.routerId input.interfaceId
  let remotePeers ← Tx.ofExcept listing
  let clientIp ← choosePoolAddress P pool remotePeers
    (if input.manual then input.requestedIp else none) none
  stageChosen P input peerId operationId router interface pool keys now clientIp

/-- The transaction that undoes the staging of a peer. -/
def releaseStagedPeer (peerId : String) : Tx Unit := do
  releasePeerPoolAddress peerId
  Tx.deletePeer peerId

/-- The transaction in which `createPeer` and `updatePeer` look at an address
    without claiming it. -/
def confirmAddress (poolId routerId interfaceId : String)
    (remotePeers : List RemoteWireGuardPeer) (clientIp excludePeerId : String) : Tx String := do
  let pool ← lockPoolForPeer P poolId routerId interfaceId
  choosePoolAddress P pool remotePeers (some clientIp) (some excludePeerId)

end Platform

/-! ## Changes of a peer -/

/-- `replaceClientAddress`. -/
def replaceClientAddress (existing clientIp : String) : String :=
  match ((Text.split ',' existing).map Text.trim).filter (· ≠ "") with
  | [] => clientIp ++ "/32"
  | _ :: rest => Text.join "," ((clientIp ++ "/32") :: rest)

/-- What `quotaConfiguration` returns. -/
structure QuotaConfiguration where
  limit : Option ℤ
  period : Option QuotaPeriod
  start : Option ℤ
  stop : Option ℤ
  periodRx : ℤ
  periodTx : ℤ
  used : ℤ
  reachedAt : Option ℤ
  usageWhenDisabled : Option ℤ
  bypassUntil : Option ℤ
  archive : Option ResetReason

/-- `quotaConfiguration`. -/
def quotaConfiguration (P : Platform) (row : PeerRow) (input : UpdatePeerInput)
    (policy : QuotaPolicy) (now : ℤ) : Except AppError QuotaConfiguration :=
  let columns := row.accounting
  let oldLimit := columns.quotaLimitBytes
  let newLimit := input.quotaBytes.getD oldLimit
  let adding := oldLimit.isNone && (nonZero newLimit).isSome
  let removing := oldLimit.isSome && (nonZero newLimit).isNone
  let newPeriod := (input.quotaPeriod.or columns.quotaPeriod).getD .monthly
  let periodChanged := oldLimit.isSome && (nonZero newLimit).isSome &&
    decide (columns.quotaPeriod ≠ some newPeriod)
  let limitChanged := decide (oldLimit ≠ newLimit)
  let archive := if columns.quotaPeriodStartedAt.isSome ∧ (removing ∨ periodChanged) then
    some (if removing then ResetReason.limitRemoved else .configurationChanged) else none
  match nonZero newLimit with
  | none => .ok {
      limit := none, period := none, start := none, stop := none, periodRx := 0, periodTx := 0
      used := 0, reachedAt := none, usageWhenDisabled := none, bypassUntil := none, archive }
  | some limit => do
    let (start, stop, periodRx, periodTx) ←
      if adding ∨ periodChanged ∨ columns.quotaPeriodStartedAt.isNone then do
        let window ← quotaPeriodWindow P now newPeriod policy
        pure (some window.start, window.stop, (0 : ℤ), (0 : ℤ))
      else
        pure (columns.quotaPeriodStartedAt, columns.quotaPeriodEndsAt, columns.periodRxBytes,
          columns.periodTxBytes)
    let used := periodRx + periodTx
    let reached := decide (limit ≤ used)
    return {
      limit := some limit, period := some newPeriod, start, stop, periodRx, periodTx, used
      reachedAt := if reached then some (columns.quotaReachedAt.getD now) else none
      usageWhenDisabled :=
        if reached ∧ row.disabledReason = some .quota then some used else none
      bypassUntil := if limitChanged ∨ periodChanged then none else columns.quotaBypassUntil
      archive }

/-- `INSERT INTO quota_period_history` of the present period of `row`. -/
def Tx.insertHistory (row : PeerRow) (periodStartedAt periodEndedAt : ℤ) (reason : ResetReason) :
    Tx Unit := fun db =>
  match row.accounting.quotaPeriod with
  | none => .error (.database .notNull)
  | some quotaPeriod =>
    if (db.peer row.id).isNone then .error (.database .foreignKey)
    else .ok ((), { db with history := db.history ++ [{
      peerId := row.id, quotaPeriod, configuredLimitBytes := row.accounting.quotaLimitBytes
      rxBytes := row.accounting.periodRxBytes, txBytes := row.accounting.periodTxBytes
      periodStartedAt, periodEndedAt, quotaReachedAt := row.accounting.quotaReachedAt
      usageWhenDisabled := row.accounting.quotaUsageWhenDisabled, resetReason := reason }] })

/-- What `updatePeer` has worked out when it commits. -/
structure PeerCommit where
  /-- The row as `updatePeer` read it. -/
  row : PeerRow
  input : UpdatePeerInput
  clientIp : String
  allowedAddress : String
  quota : QuotaConfiguration
  updated : RemoteWireGuardPeer
  disabled : Bool
  disabledReason : Option DisabledReason
  usageWhenDisabled : Option ℤ
  changingRouter : Bool
  finalRemotePeers : List RemoteWireGuardPeer

/-- `remotePeerFingerprint`. -/
def remotePeerFingerprint (P : Platform) (peer : RemoteWireGuardPeer) : String :=
  P.sha256 (fingerprintState peer).stringify

/-- The columns that the commit of `updatePeer` sets. -/
def PeerCommit.assign (P : Platform) (c : PeerCommit) (confirmed : String) (p : PeerRow) :
    PeerRow :=
  { p with
    name := c.input.name
    description := filled c.input.description
    allowedAddress := c.allowedAddress
    clientAllowedIps := c.input.clientAllowedIps
    dnsServer := c.input.dnsServer
    persistentKeepalive := c.input.persistentKeepalive
    mtu := c.input.mtu
    expiresAt := c.input.expiresAt
    endpointOverride := filled c.input.endpointOverride
    endpointPortOverride := nonZero c.input.endpointPortOverride
    remoteFingerprint := some (remotePeerFingerprint P c.updated)
    lastRemoteState := some c.updated
    conflictType := none
    disabled := c.disabled
    disabledReason := c.disabledReason
    routerId := c.input.routerId
    interfaceId := c.input.interfaceId
    poolId := some c.input.poolId
    clientIp := some confirmed
    remoteId := some c.updated.id
    accounting := { p.accounting with
      quotaLimitBytes := c.quota.limit
      quotaPeriod := c.quota.period
      quotaPeriodStartedAt := c.quota.start
      quotaPeriodEndsAt := c.quota.stop
      periodRxBytes := c.quota.periodRx
      periodTxBytes := c.quota.periodTx
      quotaReachedAt := c.quota.reachedAt
      quotaUsageWhenDisabled := c.usageWhenDisabled
      quotaBypassUntil := c.quota.bypassUntil
      lastObservedRxBytes :=
        if c.changingRouter then some c.updated.rxBytes else p.accounting.lastObservedRxBytes
      lastObservedTxBytes :=
        if c.changingRouter then some c.updated.txBytes else p.accounting.lastObservedTxBytes
      rxBytes := if c.changingRouter then c.updated.rxBytes else p.accounting.rxBytes
      txBytes := if c.changingRouter then c.updated.txBytes else p.accounting.txBytes }
    bandwidth := { p.bandwidth with
      profileId := c.input.profileId.getD c.row.bandwidth.profileId
      bandwidthMode := c.input.bandwidthMode.getD c.row.bandwidth.bandwidthMode
      bandwidthProfileId := c.input.bandwidthProfileId.getD c.row.bandwidth.bandwidthProfileId
      downloadLimitBps := c.input.downloadLimitBps.getD c.row.bandwidth.downloadLimitBps
      uploadLimitBps := c.input.uploadLimitBps.getD c.row.bandwidth.uploadLimitBps
      burstDownloadBps := c.input.burstDownloadBps.getD c.row.bandwidth.burstDownloadBps
      burstUploadBps := c.input.burstUploadBps.getD c.row.bandwidth.burstUploadBps
      burstTimeSeconds := c.input.burstTimeSeconds.getD c.row.bandwidth.burstTimeSeconds }
    lifecycleStatus := .active
    syncState := .synced }

section Platform

variable (P : Platform)

/-- The transaction in which `updatePeer` commits. -/
def commitUpdate (c : PeerCommit) (now : ℤ) : Tx Unit := do
  let pool ← lockPoolForPeer P c.input.poolId c.input.routerId c.input.interfaceId
  let confirmed ← choosePoolAddress P pool c.finalRemotePeers (some c.clientIp) (some c.row.id)
  match c.quota.archive, c.row.accounting.quotaPeriodStartedAt with
  | some reason, some startedAt => Tx.insertHistory c.row startedAt now reason
  | some _, none => throw (.database .notNull)
  | none, _ => pure ()
  Tx.movePeer c.row.id c.input.routerId c.input.interfaceId (some c.input.poolId)
    (c.assign P confirmed)
  releasePeerPoolAddress c.row.id
  claimPoolAddress P pool confirmed c.row.id c.input.name

/-- The transaction in which `updatePeer` gives the database the copy of a peer
    that is left on the target router. -/
def recoverUpdate (row : PeerRow) (input : UpdatePeerInput) (recovery : RemoteWireGuardPeer)
    (recoveryIp : String) : Tx Unit := do
  let pool ← lockPoolForPeer P input.poolId input.routerId input.interfaceId
  releasePeerPoolAddress row.id
  Tx.movePeer row.id input.routerId input.interfaceId (some input.poolId) fun p => { p with
    routerId := input.routerId
    interfaceId := input.interfaceId
    poolId := some input.poolId
    remoteId := some recovery.id
    clientIp := some recoveryIp
    allowedAddress := recovery.allowedAddress
    disabled := true
    disabledReason := some .manual
    remoteFingerprint := some (remotePeerFingerprint P recovery)
    lastRemoteState := some recovery
    conflictType := none }
  claimPoolAddress P pool recoveryIp row.id row.name

/-- The transaction of `resetPeerQuotaUsage`, with the row as it was read and
    the RouterOS peer as it was observed. -/
def resetQuota (row : PeerRow) (windowEnd : Option ℤ) (observed : RemoteWireGuardPeer)
    (now : ℤ) : Tx Unit := do
  match row.accounting.quotaPeriodStartedAt with
  | some startedAt => Tx.insertHistory row startedAt now .manual
  | none => pure ()
  Tx.updatePeer row.id fun p => { p with
    accounting := { p.accounting with
      periodRxBytes := 0
      periodTxBytes := 0
      quotaPeriodStartedAt := some now
      quotaPeriodEndsAt := windowEnd
      quotaReachedAt := none
      quotaUsageWhenDisabled := none
      quotaBypassUntil := none }
    disabled := if p.disabledReason = some .quota then false else p.disabled
    disabledReason := if p.disabledReason = some .quota then none else p.disabledReason
    remoteFingerprint := some (remotePeerFingerprint P observed)
    lastRemoteState := some observed }

end Platform

/-- The transaction of `deletePeer`, with the row as it was read. -/
def archiveAndDelete (row : PeerRow) : Tx Unit := do
  modify fun db => { db with archives := db.archives ++ [{
    peerId := row.id, routerId := row.routerId, interfaceId := row.interfaceId
    poolId := row.poolId, name := row.name, description := row.description
    clientIp := row.clientIp, lifetimeRxBytes := row.accounting.lifetimeRxBytes
    lifetimeTxBytes := row.accounting.lifetimeTxBytes
    quotaHistory := (db.history.filter fun h => h.peerId = row.id).insertionSort
      fun h g => h.periodStartedAt ≤ g.periodStartedAt }] }
  releasePeerPoolAddress row.id
  modify fun db => { db with
    managedObjects := db.managedObjects.delete fun o => o.peerId = some row.id }
  Tx.deletePeer row.id

/-- The transaction in which the state of a router peer is adopted to resolve a
    drift. -/
def adoptRouterState (P : Platform) (peer : PeerRow) (poolId : String)
    (remote : RemoteWireGuardPeer) (peers : List RemoteWireGuardPeer) (clientIp : String) :
    Tx Unit := do
  let pool ← lockPoolForPeer P poolId peer.routerId peer.interfaceId
  let confirmed ← choosePoolAddress P pool (peers.filter fun item => item.id ≠ remote.id)
    (some clientIp) (some peer.id)
  releasePeerPoolAddress peer.id
  claimPoolAddress P pool confirmed peer.id peer.name
  Tx.updatePeer peer.id fun p => { p with
    publicKey := remote.publicKey
    clientIp := some confirmed
    allowedAddress := remote.allowedAddress
    description := nonEmpty remote.comment
    persistentKeepalive := remote.persistentKeepalive
    disabled := remote.disabled
    presence := { p.presence with remoteDisabled := some remote.disabled }
    remoteFingerprint := some (remotePeerFingerprint P remote)
    lastRemoteState := some remote
    desiredState := Json.jsonb (peerRouterState remote)
    lastAppliedState := Json.jsonb (peerRouterState remote)
    conflictType := none
    syncState := .synced }

end WireguardPanel
