import WireguardPanel.Bandwidth
import WireguardPanel.Foundation.Inet
import WireguardPanel.Foundation.Table
import WireguardPanel.Quota

/-!
# The database

The rows of the tables that the application works with, their constraints, and
the statements that keep them. A statement that would violate a constraint
fails, and with it the transaction that it is part of.

* `PeerRow`, `PoolRow`, `PoolAddressRow` and the other rows: the columns that
  the model reads or writes, under the names of the migrations.
* `peerSchema`, `poolSchema`, `addressSchema`: `CHECK` and `UNIQUE` constraints.
* `Tx`: a transaction, which changes the database or throws.
-/

namespace WireguardPanel

open Foundation

/-! ## Enumerations -/

/-- `peers.origin`. -/
inductive Origin
  | managed
  | imported
  deriving DecidableEq

/-- `peers.disabled_reason`. -/
inductive DisabledReason
  | manual
  | expired
  | quota
  deriving DecidableEq

/-- `peers.conflict_type`. -/
inductive ConflictType
  | modifiedExternally
  | disabledExternally
  | deletedExternally
  | dbOnly
  deriving DecidableEq

/-- `peers.sync_state`. -/
inductive SyncState
  | synced
  | pending
  | changedExternally
  | conflict
  | error
  | routerUnreachable
  deriving DecidableEq

/-- `peers.bandwidth_sync_state`. -/
inductive BandwidthSyncState
  | notConfigured
  | pending
  | synced
  | changedExternally
  | conflict
  | error
  | routerUnreachable
  | missing
  | duplicate
  | pendingCleanup
  deriving DecidableEq

/-- `peers.lifecycle_status`. -/
inductive LifecycleStatus
  | creating
  | active
  | needsReconciliation
  | pendingCleanup
  deriving DecidableEq

/-- `peers.bandwidth_mode`. -/
inductive BandwidthMode
  | default
  | unlimited
  | custom
  | profile
  deriving DecidableEq

/-- `routers.default_bandwidth_mode`. -/
inductive RouterBandwidthMode
  | global
  | unlimited
  | custom
  deriving DecidableEq

/-- `wireguard_pool_addresses.state`. -/
inductive AddressState
  | available
  | reserved
  | allocated
  | router
  deriving DecidableEq

/-- `management_operations.status`. -/
inductive OperationStatus
  | creating
  | active
  | partially
  | needsReconciliation
  | failed
  | completed
  | pendingCleanup
  deriving DecidableEq

/-- `quota_period_history.reset_reason`. -/
inductive ResetReason
  | scheduled
  | manual
  | configurationChanged
  | limitRemoved
  deriving DecidableEq

/-- `configuration_drifts.object_type`. -/
inductive DriftObjectType
  | peer
  | interface
  | bandwidth
  deriving DecidableEq

/-- `configuration_drifts.resolution`. -/
inductive DriftResolution
  | keepRouter
  | applyApplication
  | dismissed
  deriving DecidableEq

/-! ## Rows -/

/-- A row of `routers`. -/
structure RouterRow where
  id : String
  name : String
  managementIp : String
  usernameEncrypted : String
  passwordEncrypted : String
  endpointHostname : Option String
  endpointIp : Option String
  wireguardPort : Option ℤ
  defaultBandwidthMode : RouterBandwidthMode
  defaultDownloadBps : Option ℕ
  defaultUploadBps : Option ℕ
  deriving DecidableEq

/-- A row of `wireguard_interfaces`. -/
structure InterfaceRow where
  id : String
  routerId : String
  remoteId : String
  name : String
  listenPort : ℤ
  mtu : ℤ
  publicKey : String
  running : Bool
  disabled : Bool
  addresses : List String
  remoteFingerprint : Option String
  lastAppliedState : Json
  syncState : SyncState

/-- The columns of a peer that traffic accounting keeps. -/
structure AccountingColumns where
  quotaLimitBytes : Option ℤ
  quotaPeriod : Option QuotaPeriod
  quotaPeriodStartedAt : Option ℤ
  quotaPeriodEndsAt : Option ℤ
  periodRxBytes : ℤ
  periodTxBytes : ℤ
  quotaReachedAt : Option ℤ
  quotaUsageWhenDisabled : Option ℤ
  quotaBypassUntil : Option ℤ
  rxBytes : ℤ
  txBytes : ℤ
  lifetimeRxBytes : ℤ
  lifetimeTxBytes : ℤ
  lastObservedRxBytes : Option ℤ
  lastObservedTxBytes : Option ℤ
  lastTrafficSnapshotAt : Option ℤ
  deriving DecidableEq

/-- The columns of a peer that tell when it was seen. -/
structure PresenceColumns where
  lastHandshakeAt : Option ℤ
  lastSeenAt : Option ℤ
  lastOnlineAt : Option ℤ
  lastStatisticsPollAt : Option ℤ
  lastHandshakeRaw : Option String
  lastHandshakeParseValid : Bool
  remoteDisabled : Option Bool
  deriving DecidableEq

/-- The columns of a peer that hold its bandwidth policy. -/
structure BandwidthColumns where
  profileId : Option String
  bandwidthMode : BandwidthMode
  bandwidthProfileId : Option String
  bandwidthSource : BandwidthSource
  downloadLimitBps : Option ℕ
  uploadLimitBps : Option ℕ
  burstDownloadBps : Option ℕ
  burstUploadBps : Option ℕ
  burstThresholdDownloadBps : Option ℕ
  burstThresholdUploadBps : Option ℕ
  burstTimeSeconds : Option ℕ
  bandwidthSyncState : BandwidthSyncState
  deriving DecidableEq

/-- A row of `peers`. The column `last_remote_state` is kept as the RouterOS
    peer whose serialisation it holds. -/
structure PeerRow where
  id : String
  routerId : String
  interfaceId : String
  poolId : Option String
  remoteId : Option String
  name : String
  description : Option String
  origin : Origin
  publicKey : String
  privateKeyEncrypted : Option String
  presharedKeyEncrypted : Option String
  clientIp : Option String
  allowedAddress : String
  clientAllowedIps : String
  dnsServer : String
  endpointOverride : Option String
  endpointPortOverride : Option ℤ
  persistentKeepalive : ℤ
  mtu : ℤ
  disabled : Bool
  expired : Bool
  disabledReason : Option DisabledReason
  expiresAt : Option ℤ
  accounting : AccountingColumns
  presence : PresenceColumns
  bandwidth : BandwidthColumns
  remoteFingerprint : Option String
  lastRemoteState : Option RemoteWireGuardPeer
  desiredState : Json
  lastAppliedState : Json
  conflictType : Option ConflictType
  syncState : SyncState
  lifecycleStatus : LifecycleStatus
  qrConfigHash : Option String

/-- A row of `wireguard_pools`. -/
structure PoolRow where
  id : String
  name : String
  routerId : String
  interfaceId : String
  networkCidr : Inet
  gatewayIp : Inet
  startIp : Inet
  endIp : Inet
  dns : String
  clientAllowedIps : String
  endpointHost : Option String
  endpointPort : Option ℤ
  mtu : ℤ
  persistentKeepalive : ℤ
  enabled : Bool
  createdAt : ℤ
  deriving DecidableEq

/-- A row of `wireguard_pool_addresses`. -/
structure PoolAddressRow where
  poolId : String
  routerId : String
  interfaceId : String
  ipAddress : Inet
  state : AddressState
  peerId : Option String
  comment : Option String
  deriving DecidableEq

/-- A row of `management_operations`. -/
structure OperationRow where
  id : String
  operationType : String
  status : OperationStatus
  routerId : Option String
  peerId : Option String
  context : Json
  retryCount : ℕ
  nextRetryAt : Option ℤ
  updatedAt : ℤ

/-- A row of `quota_period_history`. -/
structure HistoryRow where
  peerId : String
  quotaPeriod : QuotaPeriod
  configuredLimitBytes : Option ℤ
  rxBytes : ℤ
  txBytes : ℤ
  periodStartedAt : ℤ
  periodEndedAt : ℤ
  quotaReachedAt : Option ℤ
  usageWhenDisabled : Option ℤ
  resetReason : ResetReason
  deriving DecidableEq

/-- A row of `traffic_snapshots`. -/
structure SnapshotRow where
  peerId : String
  rxBytes : ℤ
  txBytes : ℤ
  lastHandshakeAt : Option ℤ
  capturedAt : ℤ
  deltaRxBytes : ℤ
  deltaTxBytes : ℤ
  lifetimeRxBytes : ℤ
  lifetimeTxBytes : ℤ
  periodRxBytes : ℤ
  periodTxBytes : ℤ
  quotaPeriodStartedAt : Option ℤ
  deriving DecidableEq

/-- A row of `configuration_drifts`. -/
structure DriftRow where
  id : String
  routerId : String
  peerId : Option String
  objectType : DriftObjectType
  objectId : String
  state : SyncState
  applicationState : Json
  synchronizedState : Json
  routerState : Json
  differences : Json
  resolvedAt : Option ℤ
  resolution : Option DriftResolution

/-- A row of `managed_router_objects` for a Simple Queue. -/
structure ManagedObjectRow where
  routerId : String
  peerId : Option String
  remoteId : Option String
  ownershipComment : String
  expectedState : Json
  lastObservedState : Json
  fingerprint : String

/-- A row of `bandwidth_profiles`. -/
structure BandwidthProfileRow where
  id : String
  name : String
  downloadBps : Option ℕ
  uploadBps : Option ℕ
  burstDownloadBps : Option ℕ
  burstUploadBps : Option ℕ
  burstThresholdDownloadBps : Option ℕ
  burstThresholdUploadBps : Option ℕ
  burstTimeSeconds : Option ℕ
  enabled : Bool
  deriving DecidableEq

/-- A row of `peer_profiles`. -/
structure PeerProfileRow where
  id : String
  bandwidthProfileId : Option String
  deriving DecidableEq

/-- A row of `peer_archives`. -/
structure PeerArchiveRow where
  peerId : String
  routerId : String
  interfaceId : String
  poolId : Option String
  name : String
  description : Option String
  clientIp : Option String
  lifetimeRxBytes : ℤ
  lifetimeTxBytes : ℤ
  quotaHistory : List HistoryRow
  deriving DecidableEq

/-- A row of `audit_logs` written by the system. -/
structure AuditRow where
  action : String
  peerId : Option String
  deriving DecidableEq

/-- The settings, as the functions that read them return them. -/
structure Settings where
  quotaPolicy : QuotaPolicy
  onlineSeconds : ℤ
  rawTrafficSampleSeconds : ℤ
  bandwidthDefaults : Option (ℕ × ℕ)
  deriving DecidableEq

/-! ## New rows -/

/-- The accounting columns of a new row. -/
def AccountingColumns.fresh : AccountingColumns where
  quotaLimitBytes := none
  quotaPeriod := none
  quotaPeriodStartedAt := none
  quotaPeriodEndsAt := none
  periodRxBytes := 0
  periodTxBytes := 0
  quotaReachedAt := none
  quotaUsageWhenDisabled := none
  quotaBypassUntil := none
  rxBytes := 0
  txBytes := 0
  lifetimeRxBytes := 0
  lifetimeTxBytes := 0
  lastObservedRxBytes := none
  lastObservedTxBytes := none
  lastTrafficSnapshotAt := none

/-- The presence columns of a new row. -/
def PresenceColumns.fresh : PresenceColumns where
  lastHandshakeAt := none
  lastSeenAt := none
  lastOnlineAt := none
  lastStatisticsPollAt := none
  lastHandshakeRaw := none
  lastHandshakeParseValid := true
  remoteDisabled := none

/-- The bandwidth columns of a new row. -/
def BandwidthColumns.fresh : BandwidthColumns where
  profileId := none
  bandwidthMode := .default
  bandwidthProfileId := none
  bandwidthSource := .global
  downloadLimitBps := none
  uploadLimitBps := none
  burstDownloadBps := none
  burstUploadBps := none
  burstThresholdDownloadBps := none
  burstThresholdUploadBps := none
  burstTimeSeconds := none
  bandwidthSyncState := .notConfigured

/-! ## Constraints -/

/-- A number is absent or between two bounds. -/
def absentOrBetween (low high : ℤ) (value : Option ℤ) : Bool :=
  value.all fun n => decide (low ≤ n ∧ n ≤ high)

/-- A rate is absent or positive. -/
def absentOrPositive (value : Option ℕ) : Bool := value.all fun n => decide (0 < n)

/-- Two values are present and equal. In SQL a missing value equals nothing. -/
def sameValue {α : Type} [DecidableEq α] : Option α → Option α → Bool
  | some a, some b => decide (a = b)
  | _, _ => false

theorem sameValue_comm {α : Type} [DecidableEq α] (a b : Option α) :
    sameValue a b = sameValue b a := by
  cases a <;> cases b <;> simp [sameValue, eq_comm]

@[simp] theorem sameValue_self {α : Type} [DecidableEq α] (a : α) :
    sameValue (some a) (some a) = true := by
  simp [sameValue]

/-- The constraints of `peers`. -/
def peerSchema : Schema PeerRow where
  check p :=
    absentOrBetween 1 65535 p.endpointPortOverride &&
    absentOrBetween 0 65535 (some p.persistentKeepalive) &&
    absentOrBetween 576 9000 (some p.mtu) &&
    p.accounting.quotaLimitBytes.all (fun n => decide (0 < n)) &&
    decide (0 ≤ p.accounting.periodRxBytes ∧ 0 ≤ p.accounting.periodTxBytes ∧
      0 ≤ p.accounting.lifetimeRxBytes ∧ 0 ≤ p.accounting.lifetimeTxBytes) &&
    absentOrPositive p.bandwidth.downloadLimitBps &&
    absentOrPositive p.bandwidth.uploadLimitBps &&
    p.bandwidth.burstTimeSeconds.all (fun n => decide (1 ≤ n ∧ n ≤ 3600))
  clash p q :=
    decide (p.id = q.id) ||
    (decide (p.routerId = q.routerId) && decide (p.publicKey = q.publicKey)) ||
    (decide (p.routerId = q.routerId) && sameValue p.remoteId q.remoteId) ||
    (decide (p.interfaceId = q.interfaceId) && sameValue p.clientIp q.clientIp)
  clash_comm p q := by
    simp only [sameValue_comm p.remoteId, sameValue_comm p.clientIp, eq_comm (a := p.id),
      eq_comm (a := p.routerId), eq_comm (a := p.publicKey), eq_comm (a := p.interfaceId)]

/-- The constraints of `wireguard_interfaces`. -/
def interfaceSchema : Schema InterfaceRow where
  check i :=
    absentOrBetween 1 65535 (some i.listenPort) && absentOrBetween 576 9000 (some i.mtu)
  clash i j :=
    decide (i.id = j.id) ||
    (decide (i.routerId = j.routerId) && decide (i.remoteId = j.remoteId)) ||
    (decide (i.routerId = j.routerId) && decide (i.name = j.name))
  clash_comm i j := by
    simp only [eq_comm (a := i.id), eq_comm (a := i.routerId), eq_comm (a := i.remoteId),
      eq_comm (a := i.name)]

/-- The constraints of `wireguard_pools`, whose address family is 4. -/
def poolSchema : Schema PoolRow where
  check p :=
    decide (p.networkCidr.family = .v4 ∧ p.gatewayIp.family = .v4 ∧ p.startIp.family = .v4 ∧
      p.endIp.family = .v4) &&
    decide (p.gatewayIp.Within p.networkCidr ∧ p.startIp.Within p.networkCidr ∧
      p.endIp.Within p.networkCidr) &&
    decide (p.startIp ≤ p.endIp) &&
    decide (¬(p.startIp ≤ p.gatewayIp ∧ p.gatewayIp ≤ p.endIp)) &&
    decide (p.startIp.addr ≠ p.networkCidr.network ∧ p.endIp.addr ≠ p.networkCidr.network) &&
    decide (p.startIp.addr ≠ p.networkCidr.broadcast ∧ p.endIp.addr ≠ p.networkCidr.broadcast) &&
    absentOrBetween 1 65535 p.endpointPort && absentOrBetween 576 9000 (some p.mtu) &&
    absentOrBetween 0 65535 (some p.persistentKeepalive)
  clash p q :=
    decide (p.id = q.id) ||
    (decide (p.interfaceId = q.interfaceId) && decide (p.name = q.name))
  clash_comm p q := by
    simp only [eq_comm (a := p.id), eq_comm (a := p.interfaceId), eq_comm (a := p.name)]

/-- The constraints of `wireguard_pool_addresses`. -/
def addressSchema : Schema PoolAddressRow where
  check a :=
    decide ((a.state = .allocated) ↔ a.peerId.isSome = true) &&
    decide (a.state = .reserved → a.comment.isSome = true)
  clash a b :=
    (decide (a.poolId = b.poolId) && decide (a.ipAddress = b.ipAddress)) ||
    (decide (a.routerId = b.routerId) && decide (a.ipAddress = b.ipAddress)) ||
    sameValue a.peerId b.peerId
  clash_comm a b := by
    simp only [sameValue_comm a.peerId, eq_comm (a := a.poolId), eq_comm (a := a.ipAddress),
      eq_comm (a := a.routerId)]

/-- The constraints of `configuration_drifts`. -/
def driftSchema : Schema DriftRow where
  check _ := true
  clash d e :=
    decide (d.id = e.id) ||
    (decide (d.objectType = e.objectType) && decide (d.objectId = e.objectId))
  clash_comm d e := by
    simp only [eq_comm (a := d.id), eq_comm (a := d.objectType), eq_comm (a := d.objectId)]

/-- The constraints of `managed_router_objects`. -/
def managedObjectSchema : Schema ManagedObjectRow where
  check _ := true
  clash o q := decide (o.routerId = q.routerId) && decide (o.ownershipComment = q.ownershipComment)
  clash_comm o q := by
    simp only [eq_comm (a := o.routerId), eq_comm (a := o.ownershipComment)]

/-! ## The database -/

/-- The contents of the database. -/
structure Database where
  routers : List RouterRow
  interfaces : Table interfaceSchema
  peers : Table peerSchema
  pools : Table poolSchema
  addresses : Table addressSchema
  operations : List OperationRow
  history : List HistoryRow
  snapshots : List SnapshotRow
  drifts : Table driftSchema
  managedObjects : Table managedObjectSchema
  bandwidthProfiles : List BandwidthProfileRow
  peerProfiles : List PeerProfileRow
  archives : List PeerArchiveRow
  audits : List AuditRow
  settings : Settings

/-- The database after the migrations, before anything is entered. -/
def Database.empty : Database where
  routers := []
  interfaces := .empty _
  peers := .empty _
  pools := .empty _
  addresses := .empty _
  operations := []
  history := []
  snapshots := []
  drifts := .empty _
  managedObjects := .empty _
  bandwidthProfiles := []
  peerProfiles := []
  archives := []
  audits := []
  settings := {
    quotaPolicy := { timezone := "UTC", weekStartsOn := 1, monthlyResetDay := 1 }
    onlineSeconds := 180
    rawTrafficSampleSeconds := 300
    bandwidthDefaults := none }

namespace Database

/-- The row of a peer. -/
def peer (db : Database) (id : String) : Option PeerRow := db.peers.rows.find? fun p => p.id = id

/-- The row of a router. -/
def router (db : Database) (id : String) : Option RouterRow :=
  db.routers.find? fun r => r.id = id

/-- The row of an interface. -/
def interface (db : Database) (id : String) : Option InterfaceRow :=
  db.interfaces.rows.find? fun i => i.id = id

/-- The row of a pool. -/
def pool (db : Database) (id : String) : Option PoolRow := db.pools.rows.find? fun p => p.id = id

/-- The row of an operation. -/
def operation (db : Database) (id : String) : Option OperationRow :=
  db.operations.find? fun o => o.id = id

/-- The row of a peer has the identifier that it was looked up by. -/
theorem peer_spec {db : Database} {id : String} {p : PeerRow} (h : db.peer id = some p) :
    p ∈ db.peers.rows ∧ p.id = id :=
  ⟨List.mem_of_find?_eq_some h, by simpa using List.find?_some h⟩

theorem pool_spec {db : Database} {id : String} {p : PoolRow} (h : db.pool id = some p) :
    p ∈ db.pools.rows ∧ p.id = id :=
  ⟨List.mem_of_find?_eq_some h, by simpa using List.find?_some h⟩

/-- Two rows of a peer are the same. -/
theorem peer_unique (db : Database) {p q : PeerRow} (hp : p ∈ db.peers.rows)
    (hq : q ∈ db.peers.rows) (h : p.id = q.id) : p = q :=
  db.peers.eq_of_clash hp hq (by simp [peerSchema, h])

theorem interface_unique (db : Database) {i j : InterfaceRow} (hi : i ∈ db.interfaces.rows)
    (hj : j ∈ db.interfaces.rows) (h : i.id = j.id) : i = j :=
  db.interfaces.eq_of_clash hi hj (by simp [interfaceSchema, h])

theorem pool_unique (db : Database) {p q : PoolRow} (hp : p ∈ db.pools.rows)
    (hq : q ∈ db.pools.rows) (h : p.id = q.id) : p = q :=
  db.pools.eq_of_clash hp hq (by simp [poolSchema, h])

/-- A row is found under its identifier. -/
theorem peer_eq_some {db : Database} {p : PeerRow} (hp : p ∈ db.peers.rows) :
    db.peer p.id = some p := by
  cases hfind : db.peer p.id with
  | none =>
    have hnone := List.find?_eq_none.1 hfind p hp
    simp at hnone
  | some q =>
    obtain ⟨hq, hid⟩ := peer_spec hfind
    rw [db.peer_unique hq hp hid]

end Database

/-! ## An installation to run the model on -/

/-- The router of a small installation. -/
def plainRouter : RouterRow where
  id := "r1"
  name := "Router"
  managementIp := "192.0.2.1"
  usernameEncrypted := "admin"
  passwordEncrypted := "password"
  endpointHostname := none
  endpointIp := none
  wireguardPort := none
  defaultBandwidthMode := .global
  defaultDownloadBps := none
  defaultUploadBps := none

/-- Its interface. -/
def plainInterface : InterfaceRow where
  id := "i1"
  routerId := "r1"
  remoteId := "*1"
  name := "wg1"
  listenPort := 51820
  mtu := 1420
  publicKey := "interface key"
  running := true
  disabled := false
  addresses := []
  remoteFingerprint := none
  lastAppliedState := .obj []
  syncState := .synced

/-- The pool of the interface. -/
def plainPool : PoolRow where
  id := "w1"
  name := "Pool"
  routerId := "r1"
  interfaceId := "i1"
  networkCidr := ⟨.v4, 0x0a000000, 24⟩
  gatewayIp := .host 0x0a000001
  startIp := .host 0x0a000002
  endIp := .host 0x0a000064
  dns := "1.1.1.1"
  clientAllowedIps := "0.0.0.0/0"
  endpointHost := none
  endpointPort := none
  mtu := 1420
  persistentKeepalive := 25
  enabled := true
  createdAt := 0

/-- A peer with an address of the pool. -/
def plainPeer : PeerRow where
  id := "p1"
  routerId := "r1"
  interfaceId := "i1"
  poolId := some "w1"
  remoteId := some "*1"
  name := "Peer"
  description := none
  origin := .managed
  publicKey := "peer key"
  privateKeyEncrypted := some "private key"
  presharedKeyEncrypted := none
  clientIp := some "10.0.0.2"
  allowedAddress := "10.0.0.2/32"
  clientAllowedIps := "0.0.0.0/0"
  dnsServer := "1.1.1.1"
  endpointOverride := none
  endpointPortOverride := none
  persistentKeepalive := 25
  mtu := 1420
  disabled := false
  expired := false
  disabledReason := none
  expiresAt := none
  accounting := .fresh
  presence := .fresh
  bandwidth := .fresh
  remoteFingerprint := none
  lastRemoteState := none
  desiredState := .obj []
  lastAppliedState := .obj []
  conflictType := none
  syncState := .synced
  lifecycleStatus := .active
  qrConfigHash := none

/-- The peer on the router. -/
def plainRemote : RemoteWireGuardPeer where
  id := "*1"
  interfaceName := "wg1"
  name := ""
  comment := ""
  publicKey := "peer key"
  allowedAddress := "10.0.0.2/32"
  endpointAddress := none
  endpointPort := none
  persistentKeepalive := 25
  disabled := false
  lastHandshakeAt := none
  lastHandshakeRaw := none
  lastHandshakeParseValid := true
  rxBytes := 0
  txBytes := 0

/-- The address of the peer. -/
def plainPoolAddress : PoolAddressRow where
  poolId := "w1"
  routerId := "r1"
  interfaceId := "i1"
  ipAddress := .host 0x0a000002
  state := .allocated
  peerId := some "p1"
  comment := some "Peer"

theorem plainInterface_check : interfaceSchema.check plainInterface = true := by decide

theorem plainPeer_check : peerSchema.check plainPeer = true := by decide

/-- The installation, with the peer in a given state. -/
def plainDatabase (peer : PeerRow) (hpeer : peerSchema.check peer = true) : Database :=
  { Database.empty with
    routers := [plainRouter]
    interfaces := .single plainInterface plainInterface_check
    peers := .single peer hpeer
    pools := .single plainPool (by decide)
    addresses := .single plainPoolAddress (by decide) }

/-! ## Transactions -/

/-- A transaction: it throws, which leaves the database as it was, or commits. -/
abbrev Tx := StateT Database (Except AppError)

/-- The error that a violated constraint raises. -/
def violation : TableError → AppError
  | .check => .database .check
  | .unique => .database .unique

/-- The outcome of a statement on a table. -/
def statement {α : Type} : Except TableError α → Except AppError α
  | .ok a => .ok a
  | .error e => .error (violation e)

/-- The types that statements are checked for. -/
inductive SqlType
  | uuid
  | text
  | inet
  deriving DecidableEq

/-- The type of `peers.client_ip`. -/
def clientIpType : SqlType := .text

/-- `host` takes an `inet`. There is no cast from another type that it would find by itself. -/
def HostTakes (type : SqlType) : Prop := type = .inet

instance (type : SqlType) : Decidable (HostTakes type) := inferInstanceAs (Decidable (type = _))

/-- The types with which a drift of a peer or of its queue is inserted under the identifier of the
    peer, which is one parameter: `peer_id` is a UUID, and `object_id` is a text. -/
def peerDriftIdTypes : List SqlType := [.uuid, .text]

namespace Tx

/-- The present value, or an error. -/
def orThrow {α : Type} (value : Option α) (e : AppError) : Tx α :=
  match value with
  | some a => pure a
  | none => throw e

/-- The value of a computation that may throw. -/
def ofExcept {α : Type} (r : Except AppError α) : Tx α :=
  match r with
  | .ok a => pure a
  | .error e => throw e

/-- An error unless the condition holds. -/
def require (p : Prop) [Decidable p] (e : AppError) : Tx Unit :=
  if p then pure () else throw e

/-- The type of a parameter is deduced from its uses, and a statement that uses it with two types
    is rejected. -/
def deduceParameter (uses : List SqlType) : Tx Unit :=
  require (∀ t ∈ uses, ∀ t' ∈ uses, t = t') (.database .ambiguousParameter)

/-- No drift of a peer or of its queue is ever inserted. -/
theorem deduceParameter_peerDriftIdTypes :
    deduceParameter peerDriftIdTypes = throw (.database .ambiguousParameter) := by
  unfold deduceParameter require
  exact if_neg (by decide)

variable {α β : Type}

theorem pure_eq_ok {a b : α} {db db' : Database} :
    (pure a : Tx α) db = .ok (b, db') ↔ a = b ∧ db = db' := by
  change Except.ok (a, db) = .ok (b, db') ↔ _
  simp

theorem throw_ne_ok {e : AppError} {b : α} {db db' : Database} :
    (throw e : Tx α) db ≠ .ok (b, db') := nofun

theorem throw_bind_ne_ok {e : AppError} {f : α → Tx β} {b : β} {db db' : Database} :
    ((throw e : Tx α) >>= f) db ≠ .ok (b, db') := nofun

theorem bind_eq_ok {x : Tx α} {f : α → Tx β} {b : β} {db db' : Database} :
    (x >>= f) db = .ok (b, db') ↔ ∃ a db₁, x db = .ok (a, db₁) ∧ f a db₁ = .ok (b, db') := by
  simp only [bind, StateT.bind, Except.bind]
  cases hx : x db with
  | error e => simp
  | ok r =>
    obtain ⟨a, db₁⟩ := r
    simp

theorem get_bind (f : Database → Tx β) (db : Database) : (get >>= f) db = f db db := rfl

theorem orThrow_bind_ok {value : Option α} {e : AppError} {f : α → Tx β} {b : β}
    {db db' : Database} :
    (orThrow value e >>= f) db = .ok (b, db') ↔ ∃ a, value = some a ∧ f a db = .ok (b, db') := by
  cases value <;> simp [orThrow, bind_eq_ok, throw_ne_ok]

theorem ofExcept_bind_ok {r : Except AppError α} {f : α → Tx β} {b : β} {db db' : Database} :
    (ofExcept r >>= f) db = .ok (b, db') ↔ ∃ a, r = .ok a ∧ f a db = .ok (b, db') := by
  cases r <;> simp [ofExcept, bind_eq_ok, throw_ne_ok]

theorem require_bind_ok {p : Prop} [Decidable p] {e : AppError} {f : Unit → Tx β} {b : β}
    {db db' : Database} :
    (require p e >>= f) db = .ok (b, db') ↔ p ∧ f () db = .ok (b, db') := by
  unfold require
  split_ifs with hp <;> simp [hp, bind_eq_ok, throw_ne_ok]

end Tx

end WireguardPanel
