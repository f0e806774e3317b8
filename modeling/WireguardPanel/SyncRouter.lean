import WireguardPanel.Accounting
import WireguardPanel.Reconciliation
import WireguardPanel.Sync

/-!
# The transaction of a synchronisation

A synchronisation reads the interfaces and the peers of a router, and then
brings the database up to them in one transaction: interfaces first, then the
peers that the router has, then the peers that it has not.

* `syncInterface`, `syncPeer`, `syncMissing`: one step of each of the three loops.
* `syncTransaction`: the transaction.
* `syncPeer_ok`, `syncMissing_ok`: what a step does to the row of a peer.
-/

namespace WireguardPanel

open Foundation

/-! ## Statements -/

namespace Tx

/-- `INSERT INTO wireguard_interfaces`. -/
def insertInterface (row : InterfaceRow) : Tx Unit := fun db => do
  if (db.router row.routerId).isNone then throw (.database .foreignKey)
  let interfaces ← statement (db.interfaces.insert row)
  return ((), { db with interfaces })

/-- `UPDATE wireguard_interfaces … WHERE id = …`. -/
def updateInterface (id : String) (f : InterfaceRow → InterfaceRow) : Tx Unit := fun db => do
  let interfaces ← statement (db.interfaces.update fun i => if i.id = id then f i else i)
  return ((), { db with interfaces })

/-- `UPDATE configuration_drifts`. -/
def updateDrifts (f : DriftRow → DriftRow) : Tx Unit := fun db => do
  let drifts ← statement (db.drifts.update f)
  return ((), { db with drifts })

/-- `INSERT INTO configuration_drifts`. -/
def insertDrift (row : DriftRow) : Tx Unit := fun db => do
  if (db.router row.routerId).isNone ∨ ¬∀ id ∈ row.peerId, (db.peer id).isSome = true then
    throw (.database .foreignKey)
  let drifts ← statement (db.drifts.insert row)
  return ((), { db with drifts })

/-- `INSERT INTO configuration_drifts … ON CONFLICT(object_type, object_id) DO UPDATE`. -/
def upsertDrift (row : DriftRow) : Tx Unit := fun db =>
  if ∃ d ∈ db.drifts.rows, d.objectType = row.objectType ∧ d.objectId = row.objectId then
    updateDrifts (fun d =>
      if d.objectType = row.objectType ∧ d.objectId = row.objectId then
        { d with
          state := row.state
          applicationState := row.applicationState
          synchronizedState := row.synchronizedState
          routerState := row.routerState
          differences := row.differences
          resolvedAt := none
          resolution := none }
      else d) db
  else insertDrift row db

/-- The statement that dismisses the open drift of an object. -/
def dismissDrifts (objectType : DriftObjectType) (objectId : String) (now : ℤ) : Tx Unit :=
  updateDrifts fun d =>
    if d.objectType = objectType ∧ d.objectId = objectId ∧ d.resolvedAt = none then
      { d with resolvedAt := some now, resolution := some .dismissed }
    else d

variable {db db' : Database} {u : Unit}

theorem insertInterface_ok {row : InterfaceRow} (h : insertInterface row db = .ok (u, db')) :
    ∃ interfaces, db' = { db with interfaces } ∧
      interfaces.rows = db.interfaces.rows ++ [row] := by
  unfold insertInterface at h
  split at h
  · exact absurd h nofun
  · obtain ⟨interfaces, hinsert, h⟩ := statement_bind_ok.1 h
    cases return_eq_ok.1 h
    exact ⟨interfaces, rfl, Table.rows_insert hinsert⟩

theorem updateInterface_ok {id : String} {f : InterfaceRow → InterfaceRow}
    (h : updateInterface id f db = .ok (u, db')) :
    ∃ interfaces, db' = { db with interfaces } ∧
      interfaces.rows = db.interfaces.rows.map fun i => if i.id = id then f i else i := by
  obtain ⟨interfaces, hupdate, h⟩ := statement_bind_ok.1 h
  cases return_eq_ok.1 h
  exact ⟨interfaces, rfl, Table.rows_update hupdate⟩

theorem updateDrifts_ok {f : DriftRow → DriftRow} (h : updateDrifts f db = .ok (u, db')) :
    ∃ drifts, db' = { db with drifts } ∧ drifts.rows = db.drifts.rows.map f := by
  obtain ⟨drifts, hupdate, h⟩ := statement_bind_ok.1 h
  cases return_eq_ok.1 h
  exact ⟨drifts, rfl, Table.rows_update hupdate⟩

theorem insertDrift_ok {row : DriftRow} (h : insertDrift row db = .ok (u, db')) :
    ∃ drifts, db' = { db with drifts } ∧ drifts.rows = db.drifts.rows ++ [row] := by
  unfold insertDrift at h
  split at h
  · exact absurd h nofun
  · obtain ⟨drifts, hinsert, h⟩ := statement_bind_ok.1 h
    cases return_eq_ok.1 h
    exact ⟨drifts, rfl, Table.rows_insert hinsert⟩

/-- The drift of an object changes nothing but the drifts. -/
theorem upsertDrift_ok {row : DriftRow} (h : upsertDrift row db = .ok (u, db')) :
    ∃ drifts, db' = { db with drifts } := by
  unfold upsertDrift at h
  split at h
  · obtain ⟨drifts, rfl, -⟩ := updateDrifts_ok h
    exact ⟨drifts, rfl⟩
  · obtain ⟨drifts, rfl, -⟩ := insertDrift_ok h
    exact ⟨drifts, rfl⟩

theorem dismissDrifts_ok {objectType : DriftObjectType} {objectId : String} {now : ℤ}
    (h : dismissDrifts objectType objectId now db = .ok (u, db')) :
    ∃ drifts, db' = { db with drifts } := by
  obtain ⟨drifts, rfl, -⟩ := updateDrifts_ok h
  exact ⟨drifts, rfl⟩

end Tx

/-! ## What a synchronisation reads -/

/-- What the router has shown, and the settings. -/
structure SyncListing where
  interfaces : List RemoteWireGuardInterface
  peers : List RemoteWireGuardPeer
  addresses : List RemoteAddress
  onlineSeconds : ℤ
  now : ℤ

/-- The identifiers that `gen_random_uuid` gives to the rows of new objects. -/
structure FreshIds where
  interface : RemoteWireGuardInterface → String
  peer : RemoteWireGuardPeer → String
  drift : String → String

/-- The summary of a synchronisation. -/
structure SyncSummary where
  interfaces : ℕ := 0
  imported : ℕ := 0
  updated : ℕ := 0
  conflicts : ℕ := 0
  missing : ℕ := 0
  deriving DecidableEq

/-- What the loops hand on: `interfaceIds`, newest entry first, and the summary. -/
structure SyncProgress where
  interfaceIds : List (String × String) := []
  summary : SyncSummary := {}

/-- The progress after an interface. -/
def SyncProgress.addInterface (progress : SyncProgress) (name id : String) (conflicts : ℕ) :
    SyncProgress where
  interfaceIds := (name, id) :: progress.interfaceIds
  summary := { progress.summary with
    interfaces := progress.summary.interfaces + 1
    conflicts := progress.summary.conflicts + conflicts }

/-- `remoteInterfaceFingerprint`. -/
def remoteInterfaceFingerprint (P : Platform) (item : RemoteWireGuardInterface) : String :=
  P.sha256 (routerInterfaceState item).stringify

section Platform

variable (P : Platform) (routerId : String) (fresh : FreshIds) (listing : SyncListing)

/-! ## Interfaces -/

/-- The addresses of an interface that are in use. -/
def interfaceAddresses (item : RemoteWireGuardInterface) : List String :=
  (listing.addresses.filter fun a => a.interfaceName = item.name ∧ a.disabled = false).map
    RemoteAddress.address

/-- The row of a new interface. -/
def newInterfaceRow (item : RemoteWireGuardInterface) : InterfaceRow where
  id := fresh.interface item
  routerId := routerId
  remoteId := item.id
  name := item.name
  listenPort := item.listenPort
  mtu := item.mtu
  publicKey := item.publicKey
  running := item.running
  disabled := item.disabled
  addresses := interfaceAddresses listing item
  remoteFingerprint := some (remoteInterfaceFingerprint P item)
  lastAppliedState := (routerInterfaceState item).jsonb
  syncState := .synced

/-- The columns of an interface that has not changed since it was synchronised. -/
def syncedInterface (item : RemoteWireGuardInterface) (i : InterfaceRow) : InterfaceRow :=
  { i with
    name := item.name
    listenPort := item.listenPort
    mtu := item.mtu
    publicKey := item.publicKey
    running := item.running
    disabled := item.disabled
    addresses := interfaceAddresses listing item
    remoteFingerprint := some (remoteInterfaceFingerprint P item)
    lastAppliedState := (routerInterfaceState item).jsonb
    syncState := .synced }

/-- The drift of an interface that has changed. -/
def interfaceDrift (item : RemoteWireGuardInterface) (found : InterfaceRow) : DriftRow :=
  let differences := fieldDifferences (applicationInterfaceState found)
    (synchronizedInterfaceState found) (routerInterfaceState item)
  { id := fresh.drift found.id
    routerId := routerId
    peerId := none
    objectType := .interface
    objectId := found.id
    state := if SameFieldConflict differences then .conflict else .changedExternally
    applicationState := (applicationInterfaceState found).jsonb
    synchronizedState := (synchronizedInterfaceState found).jsonb
    routerState := (routerInterfaceState item).jsonb
    differences := (Json.arr (differences.map FieldDifference.toJson)).jsonb
    resolvedAt := none
    resolution := none }

/-- The fingerprint of an interface is known and is not that of `item`. -/
def InterfaceChanged (item : RemoteWireGuardInterface) (found : InterfaceRow) : Prop :=
  ∃ fingerprint ∈ filled found.remoteFingerprint, fingerprint ≠ remoteInterfaceFingerprint P item

instance (item : RemoteWireGuardInterface) (found : InterfaceRow) :
    Decidable (InterfaceChanged P item found) :=
  inferInstanceAs (Decidable (∃ fingerprint ∈ filled found.remoteFingerprint, _))

/-- The loop over the interfaces of the router, with the rows that were stored
    before it. -/
def syncInterface (existing : List InterfaceRow) (progress : SyncProgress)
    (item : RemoteWireGuardInterface) : Tx SyncProgress :=
  match existing.find? fun i => i.remoteId = item.id with
  | none => do
    Tx.insertInterface (newInterfaceRow P routerId fresh listing item)
    return progress.addInterface item.name (fresh.interface item) 0
  | some found =>
    if InterfaceChanged P item found then do
      let drift := interfaceDrift routerId fresh item found
      Tx.updateInterface found.id fun i => { i with
        running := item.running, addresses := interfaceAddresses listing item
        syncState := drift.state }
      Tx.upsertDrift drift
      return progress.addInterface item.name found.id 1
    else do
      Tx.updateInterface found.id (syncedInterface P listing item)
      Tx.dismissDrifts .interface found.id listing.now
      return progress.addInterface item.name found.id 0

/-! ## Peers of the router -/

/-- The rows of the peers of the router, as they are read after the first loop. -/
def existingPeers (db : Database) : List ExistingPeer :=
  (db.peers.rows.filter fun p => p.routerId = routerId).filterMap fun p =>
    (db.interface p.interfaceId).map fun i => { row := p, interfaceName := i.name }

/-- The peer of the router is that of the row, by its identifier or its key. -/
def PeerRow.Matches (p : PeerRow) (remote : RemoteWireGuardPeer) : Prop :=
  p.remoteId = some remote.id ∨ p.publicKey = remote.publicKey

instance (p : PeerRow) (remote : RemoteWireGuardPeer) : Decidable (p.Matches remote) :=
  inferInstanceAs (Decidable (_ ∨ _))

/-- The state that a peer of the router is found in. -/
def peerClass (peer : ExistingPeer) (remote : RemoteWireGuardPeer) : ReconciliationState :=
  classifyPeerSync P (some peer.row.local) (some remote)

/-- The conflict that is stored for a peer of the router. -/
def peerConflict (peer : ExistingPeer) (remote : RemoteWireGuardPeer) : Option ConflictType :=
  match peerClass P peer remote with
  | .disabledExternally => some .disabledExternally
  | .modifiedExternally => some .modifiedExternally
  | _ => none

/-- The differences that are found for a peer of the router. -/
def peerDifferences (peer : ExistingPeer) (remote : RemoteWireGuardPeer) : List FieldDifference :=
  fieldDifferences (applicationPeerState peer) (synchronizedPeerState peer.row)
    (peerRouterState remote)

/-- The synchronisation state that is stored for a peer of the router. -/
def peerSyncState (peer : ExistingPeer) (remote : RemoteWireGuardPeer) : SyncState :=
  if (peerConflict P peer remote).isSome then
    if SameFieldConflict (peerDifferences peer remote) then .conflict else .changedExternally
  else .synced

/-- The columns that are set for a peer of the router. -/
def syncedPeer (peer : ExistingPeer) (remote : RemoteWireGuardPeer) (p : PeerRow) : PeerRow :=
  let conflict := peerConflict P peer remote
  { p with
    remoteId := some remote.id
    presence := {
      lastHandshakeAt := latestHandshake remote.lastHandshakeParseValid
        p.presence.lastHandshakeAt remote.lastHandshakeAt
      lastSeenAt := latestHandshake remote.lastHandshakeParseValid p.presence.lastSeenAt
        remote.lastHandshakeAt
      lastOnlineAt := if consideredOnline remote listing.onlineSeconds listing.now
        then some listing.now else p.presence.lastOnlineAt
      lastStatisticsPollAt := some listing.now
      lastHandshakeRaw := remote.lastHandshakeRaw
      lastHandshakeParseValid := remote.lastHandshakeParseValid
      remoteDisabled := some remote.disabled }
    accounting := { p.accounting with rxBytes := remote.rxBytes, txBytes := remote.txBytes }
    conflictType := conflict
    lastRemoteState := some remote
    remoteFingerprint :=
      if conflict = none then some (remotePeerFingerprint P remote) else p.remoteFingerprint
    syncState := peerSyncState P peer remote
    desiredState := (applicationPeerState peer).jsonb
    lastAppliedState :=
      if conflict = none then (peerRouterState remote).jsonb else p.lastAppliedState }

/-- The drift of a peer that has changed. -/
def peerDrift (peer : ExistingPeer) (remote : RemoteWireGuardPeer) : DriftRow where
  id := fresh.drift peer.row.id
  routerId := routerId
  peerId := some peer.row.id
  objectType := .peer
  objectId := peer.row.id
  state := peerSyncState P peer remote
  applicationState := (applicationPeerState peer).jsonb
  synchronizedState := (synchronizedPeerState peer.row).jsonb
  routerState := (peerRouterState remote).jsonb
  differences := (Json.arr ((peerDifferences peer remote).map FieldDifference.toJson)).jsonb
  resolvedAt := none
  resolution := none

/-- The update of a row whose peer is on the router. -/
def syncFound (progress : SyncProgress) (peer : ExistingPeer) (remote : RemoteWireGuardPeer) :
    Tx SyncProgress := do
  Tx.updatePeer peer.row.id (syncedPeer P listing peer remote)
  if (peerConflict P peer remote).isSome then
    Tx.deduceParameter peerDriftIdTypes
    Tx.upsertDrift (peerDrift P routerId fresh peer remote)
    return { progress with
      summary := { progress.summary with conflicts := progress.summary.conflicts + 1 } }
  else
    Tx.dismissDrifts .peer peer.row.id listing.now
    return { progress with
      summary := { progress.summary with updated := progress.summary.updated + 1 } }

/-- The loop over the peers of the router. -/
def syncPeer (existing : List ExistingPeer) (progress : SyncProgress)
    (remote : RemoteWireGuardPeer) : Tx SyncProgress :=
  match progress.interfaceIds.lookup remote.interfaceName with
  | none => return progress
  | some interfaceId =>
    match existing.find? fun peer => peer.row.Matches remote with
    | none => do
      importPeer P routerId interfaceId remote (remotePeerFingerprint P remote)
        listing.onlineSeconds (fresh.peer remote) listing.now
      return { progress with
        summary := { progress.summary with imported := progress.summary.imported + 1 } }
    | some peer => syncFound P routerId fresh listing progress peer remote

/-! ## Peers that the router has not -/

/-- The conflict of a peer that is not found by its identifier, if it is one. -/
def missingConflict (remoteIds : List String) (peer : ExistingPeer) : Option ConflictType :=
  match filled peer.row.remoteId with
  | some remoteId => if remoteId ∈ remoteIds then none else some .deletedExternally
  | none => some .dbOnly

/-- The loop over the rows that were stored before. -/
def syncMissing (remoteIds : List String) (progress : SyncProgress) (peer : ExistingPeer) :
    Tx SyncProgress :=
  match missingConflict remoteIds peer with
  | none => return progress
  | some conflict => do
    Tx.updatePeer peer.row.id fun p =>
      { p with conflictType := some conflict, syncState := .changedExternally }
    return { progress with
      summary := { progress.summary with missing := progress.summary.missing + 1 } }

/-! ## The transaction -/

/-- The transaction of `syncRouter`. -/
def syncTransaction : Tx SyncSummary := do
  let before ← get
  let progress ← listing.interfaces.foldlM (syncInterface P routerId fresh listing
    (before.interfaces.rows.filter fun i => i.routerId = routerId)) {}
  let db ← get
  let existing := existingPeers routerId db
  let progress ← listing.peers.foldlM (syncPeer P routerId fresh listing existing) progress
  let progress ← existing.foldlM
    (syncMissing (listing.peers.map RemoteWireGuardPeer.id)) progress
  return progress.summary

/-! ## What a step does to a peer -/

variable {P routerId fresh listing} {db db' : Database} {id : String}

theorem Tx.insertPeer_apart {row : PeerRow} {u : Unit} (h : Tx.insertPeer row db = .ok (u, db'))
    {p : PeerRow} (hp : p ∈ db.peers.rows) : peerSchema.clash p row = false := by
  obtain ⟨peers, rfl, hrows⟩ := Tx.insertPeer_ok h
  have hapart := peers.apart
  rw [hrows, List.pairwise_append] at hapart
  exact hapart.2.2 p hp row (List.mem_singleton_self row)

theorem Tx.insertPeer_peer {row : PeerRow} {u : Unit} (h : Tx.insertPeer row db = .ok (u, db'))
    {p : PeerRow} (hp : db.peer id = some p) : db'.peer id = some p ∧ row.id ≠ id := by
  have hapart := Tx.insertPeer_apart h (Database.peer_spec hp).1
  obtain ⟨peers, rfl, hrows⟩ := Tx.insertPeer_ok h
  refine ⟨?_, fun hid => ?_⟩
  · change peers.rows.find? _ = _
    rw [hrows, List.find?_append]
    change (db.peer id).or _ = _
    rw [hp, Option.some_or]
  · simp [peerSchema, hid, (Database.peer_spec hp).2] at hapart

/-- What an import does: nothing if the public key is known, else it inserts the
    row of the peer and may give it the pool of its address. -/
theorem importPeer_ok {interfaceId fingerprint newId : String} {remote : RemoteWireGuardPeer}
    {onlineSeconds now : ℤ} {u : Unit}
    (h : importPeer P routerId interfaceId remote fingerprint onlineSeconds newId now db
      = .ok (u, db')) :
    ((∃ p ∈ db.peers.rows, p.routerId = routerId ∧ p.publicKey = remote.publicKey) ∧ db' = db) ∨
      ∃ db₁, Tx.insertPeer (importedRow routerId interfaceId remote fingerprint onlineSeconds newId
          now) db = .ok ((), db₁) ∧
        (db' = db₁ ∨ ∃ poolId db₂, Tx.updatePeer newId (fun p => { p with poolId := some poolId })
            db₁ = .ok ((), db₂) ∧ ∃ addresses, db' = { db₂ with addresses }) := by
  rw [importPeer, Tx.get_bind] at h
  split at h
  · rename_i hknown
    exact .inl ⟨hknown, (Tx.pure_eq_ok.1 h).2.symm⟩
  · obtain ⟨_, db₁, hinsert, hrest⟩ := Tx.bind_eq_ok.1 h
    refine .inr ⟨db₁, hinsert, ?_⟩
    cases hclient : importedClientIp remote.allowedAddress with
    | none =>
      simp only [hclient] at hrest
      exact .inl (Tx.pure_eq_ok.1 hrest).2.symm
    | some clientIp =>
      simp only [hclient] at hrest
      obtain ⟨ip, -, hplace⟩ := castInet_bind_ok.1 hrest
      rw [Tx.get_bind] at hplace
      cases hpool : importPool db₁ routerId interfaceId ip with
      | none =>
        simp only [hpool] at hplace
        exact .inl (Tx.pure_eq_ok.1 hplace).2.symm
      | some pool =>
        simp only [hpool] at hplace
        obtain ⟨_, db₂, hupdate, hfree⟩ := Tx.bind_eq_ok.1 hplace
        refine .inr ⟨pool.id, db₂, hupdate, ?_⟩
        rcases Tx.insertFreeAddress_ok hfree with ⟨rfl, -⟩ | ⟨addresses, rfl, -⟩
        · exact ⟨_, rfl⟩
        · exact ⟨_, rfl⟩

/-- The import of a peer leaves the rows of all others as they are. -/
theorem importPeer_peer {interfaceId fingerprint newId : String} {remote : RemoteWireGuardPeer}
    {onlineSeconds now : ℤ} {u : Unit} {p : PeerRow}
    (h : importPeer P routerId interfaceId remote fingerprint onlineSeconds newId now db
      = .ok (u, db')) (hp : db.peer id = some p) : db'.peer id = some p := by
  rcases importPeer_ok h with ⟨-, rfl⟩ | ⟨db₁, hinsert, hplace⟩
  · exact hp
  · obtain ⟨hp₁, hne⟩ := Tx.insertPeer_peer hinsert hp
    rcases hplace with rfl | ⟨poolId, db₂, hupdate, addresses, rfl⟩
    · exact hp₁
    · have hp₂ := (Tx.peer_updatePeer (f := fun p => { p with poolId := some poolId })
        (fun _ => rfl) hupdate id).trans (if_neg (Ne.symm hne))
      exact hp₂.trans hp₁

/-- The update of a row whose peer is on the router. It fails if the peer has changed: the drift
    cannot be inserted. -/
theorem syncFound_ok {progress progress' : SyncProgress} {peer : ExistingPeer}
    {remote : RemoteWireGuardPeer}
    (h : syncFound P routerId fresh listing progress peer remote db = .ok (progress', db')) :
    ∃ db₁ drifts, Tx.updatePeer peer.row.id (syncedPeer P listing peer remote) db = .ok ((), db₁) ∧
      db' = { db₁ with drifts } ∧ progress'.interfaceIds = progress.interfaceIds := by
  obtain ⟨_, db₁, hupdate, hrest⟩ := Tx.bind_eq_ok.1 h
  split at hrest
  · rw [Tx.deduceParameter_peerDriftIdTypes] at hrest
    exact absurd hrest Tx.throw_bind_ne_ok
  · obtain ⟨_, db₂, hdrift, hrest⟩ := Tx.bind_eq_ok.1 hrest
    obtain ⟨rfl, rfl⟩ := Tx.pure_eq_ok.1 hrest
    obtain ⟨drifts, rfl⟩ := Tx.dismissDrifts_ok hdrift
    exact ⟨db₁, drifts, hupdate, rfl, rfl⟩

/-- A step of the loop over the peers of the router: it skips a peer of an
    unknown interface, imports one that no row matches, and updates the first
    row that does. -/
inductive PeerStep (P : Platform) (routerId : String) (fresh : FreshIds) (listing : SyncListing)
    (existing : List ExistingPeer) (interfaceIds : List (String × String))
    (remote : RemoteWireGuardPeer) (db db' : Database) : Prop
  | skipped (hinterface : interfaceIds.lookup remote.interfaceName = none) (hsame : db' = db)
  | imported (interfaceId : String)
      (hinterface : interfaceIds.lookup remote.interfaceName = some interfaceId)
      (hfound : (existing.find? fun peer => peer.row.Matches remote) = none)
      (himport : importPeer P routerId interfaceId remote (remotePeerFingerprint P remote)
        listing.onlineSeconds (fresh.peer remote) listing.now db = .ok ((), db'))
  | updated (interfaceId : String) (peer : ExistingPeer)
      (hinterface : interfaceIds.lookup remote.interfaceName = some interfaceId)
      (hfound : (existing.find? fun peer => peer.row.Matches remote) = some peer)
      (hupdate : ∃ db₁ drifts, Tx.updatePeer peer.row.id (syncedPeer P listing peer remote) db
        = .ok ((), db₁) ∧ db' = { db₁ with drifts })

theorem syncPeer_ok {existing : List ExistingPeer} {progress progress' : SyncProgress}
    {remote : RemoteWireGuardPeer}
    (h : syncPeer P routerId fresh listing existing progress remote db = .ok (progress', db')) :
    PeerStep P routerId fresh listing existing progress.interfaceIds remote db db' ∧
      progress'.interfaceIds = progress.interfaceIds := by
  unfold syncPeer at h
  cases hinterface : progress.interfaceIds.lookup remote.interfaceName with
  | none =>
    simp only [hinterface] at h
    obtain ⟨rfl, rfl⟩ := Tx.pure_eq_ok.1 h
    exact ⟨.skipped hinterface rfl, rfl⟩
  | some interfaceId =>
    simp only [hinterface] at h
    cases hfound : existing.find? fun peer => peer.row.Matches remote with
    | none =>
      simp only [hfound] at h
      obtain ⟨_, db₁, himport, hrest⟩ := Tx.bind_eq_ok.1 h
      obtain ⟨rfl, rfl⟩ := Tx.pure_eq_ok.1 hrest
      exact ⟨.imported interfaceId hinterface hfound himport, rfl⟩
    | some peer =>
      simp only [hfound] at h
      obtain ⟨db₁, drifts, hupdate, rfl, hids⟩ := syncFound_ok h
      exact ⟨.updated interfaceId peer hinterface hfound ⟨db₁, drifts, hupdate, rfl⟩, hids⟩

section Steps

variable {existing : List ExistingPeer} {interfaceIds : List (String × String)}
  {remote : RemoteWireGuardPeer}

/-- A step leaves the rows that it does not find as they are. -/
theorem PeerStep.peer_other
    (h : PeerStep P routerId fresh listing existing interfaceIds remote db db')
    {p : PeerRow} (hp : db.peer id = some p)
    (hother : ∀ peer, (existing.find? fun peer => peer.row.Matches remote) = some peer →
      peer.row.id ≠ id) : db'.peer id = some p := by
  cases h with
  | skipped _ hsame => rwa [hsame]
  | imported _ _ _ himport => exact importPeer_peer himport hp
  | updated _ peer _ hfound hupdate =>
    obtain ⟨db₁, drifts, hupdate, rfl⟩ := hupdate
    exact ((Tx.peer_updatePeer (f := syncedPeer P listing peer remote) (fun _ => rfl) hupdate
      id).trans (if_neg (Ne.symm (hother peer hfound)))).trans hp

/-- A step updates the row that it finds. -/
theorem PeerStep.peer_found
    (h : PeerStep P routerId fresh listing existing interfaceIds remote db db')
    {peer : ExistingPeer} {p : PeerRow} (hp : db.peer peer.row.id = some p)
    (hfound : (existing.find? fun peer => peer.row.Matches remote) = some peer)
    (hknown : interfaceIds.lookup remote.interfaceName ≠ none) :
    db'.peer peer.row.id = some (syncedPeer P listing peer remote p) := by
  cases h with
  | skipped hinterface _ => exact absurd hinterface hknown
  | imported _ _ hnone _ => exact absurd (hnone.symm.trans hfound) nofun
  | updated _ peer' _ hfound' hupdate =>
    cases hfound'.symm.trans hfound
    obtain ⟨db₁, drifts, hupdate, rfl⟩ := hupdate
    refine (Tx.peer_updatePeer (f := syncedPeer P listing peer remote) (fun _ => rfl) hupdate
      peer.row.id).trans ?_
    rw [if_pos rfl, hp, Option.map_some]

end Steps

/-! ## The loops -/

theorem Tx.foldlM_cons_ok {α β : Type} {f : β → α → Tx β} {a : α} {l : List α} {b b' : β}
    (h : (a :: l).foldlM f b db = .ok (b', db')) :
    ∃ b₁ db₁, f b a db = .ok (b₁, db₁) ∧ l.foldlM f b₁ db₁ = .ok (b', db') := by
  rw [List.foldlM_cons] at h
  exact Tx.bind_eq_ok.1 h

theorem Tx.foldlM_append_ok {α β : Type} {f : β → α → Tx β} {l l' : List α} {b b' : β}
    (h : (l ++ l').foldlM f b db = .ok (b', db')) :
    ∃ b₁ db₁, l.foldlM f b db = .ok (b₁, db₁) ∧ l'.foldlM f b₁ db₁ = .ok (b', db') := by
  rw [List.foldlM_append] at h
  exact Tx.bind_eq_ok.1 h

/-- What every step of a loop preserves is true after the loop. -/
theorem Tx.foldlM_invariant {α β : Type} {f : β → α → Tx β} {I : β → Database → Prop}
    {l : List α} {b b' : β} (h : l.foldlM f b db = .ok (b', db')) (hI : I b db)
    (hstep : ∀ a ∈ l, ∀ b db b' db', I b db → f b a db = .ok (b', db') → I b' db') : I b' db' := by
  induction l generalizing b db with
  | nil =>
    obtain ⟨rfl, rfl⟩ := Tx.pure_eq_ok.1 h
    exact hI
  | cons a l ih =>
    obtain ⟨b₁, db₁, ha, hl⟩ := Tx.foldlM_cons_ok h
    exact ih hl (hstep a List.mem_cons_self b db b₁ db₁ hI ha) fun a' ha' =>
      hstep a' (List.mem_cons_of_mem a ha')

/-- What the loop over the stored rows does to one. -/
def markMissing (remoteIds : List String) (peer : ExistingPeer) (p : PeerRow) : PeerRow :=
  match missingConflict remoteIds peer with
  | none => p
  | some conflict => { p with conflictType := some conflict, syncState := .changedExternally }

theorem syncMissing_peer {remoteIds : List String} {progress progress' : SyncProgress}
    {peer : ExistingPeer}
    (h : syncMissing remoteIds progress peer db = .ok (progress', db')) (id : String) :
    db'.peer id =
      if id = peer.row.id then (db.peer id).map (markMissing remoteIds peer) else db.peer id := by
  unfold syncMissing at h
  unfold markMissing
  cases hconflict : missingConflict remoteIds peer with
  | none =>
    simp only [hconflict] at h
    obtain ⟨-, rfl⟩ := Tx.pure_eq_ok.1 h
    simp
  | some conflict =>
    simp only [hconflict] at h
    obtain ⟨_, db₁, hupdate, hrest⟩ := Tx.bind_eq_ok.1 h
    obtain ⟨-, rfl⟩ := Tx.pure_eq_ok.1 hrest
    exact Tx.peer_updatePeer (f := fun p =>
      { p with conflictType := some conflict, syncState := .changedExternally }) (fun _ => rfl)
      hupdate id

section Loops

variable {existing : List ExistingPeer} {remotes : List RemoteWireGuardPeer}
  {progress progress' : SyncProgress}

/-- The loop over the peers of the router leaves the rows that it does not find
    as they are. -/
theorem syncPeers_other {p : PeerRow}
    (h : remotes.foldlM (syncPeer P routerId fresh listing existing) progress db
      = .ok (progress', db')) (hp : db.peer id = some p)
    (hother : ∀ remote ∈ remotes, ∀ peer,
      (existing.find? fun peer => peer.row.Matches remote) = some peer → peer.row.id ≠ id) :
    db'.peer id = some p ∧ progress'.interfaceIds = progress.interfaceIds := by
  refine Tx.foldlM_invariant (I := fun q db => db.peer id = some p ∧
    q.interfaceIds = progress.interfaceIds) h ⟨hp, rfl⟩ ?_
  intro remote hremote b db b' db' ⟨hp, hids⟩ hstep
  obtain ⟨hstep, hids'⟩ := syncPeer_ok hstep
  exact ⟨hstep.peer_other hp (hother remote hremote), hids'.trans hids⟩

/-- If just one peer of the router finds a row, the loop updates it for this one. -/
theorem syncPeers_found {peer : ExistingPeer} {p : PeerRow} {remote : RemoteWireGuardPeer}
    (h : remotes.foldlM (syncPeer P routerId fresh listing existing) progress db
      = .ok (progress', db')) (hp : db.peer peer.row.id = some p) (hnodup : remotes.Nodup)
    (hremote : remote ∈ remotes)
    (hfound : (existing.find? fun peer => peer.row.Matches remote) = some peer)
    (hknown : progress.interfaceIds.lookup remote.interfaceName ≠ none)
    (honly : ∀ remote' ∈ remotes, remote' ≠ remote → ∀ peer',
      (existing.find? fun peer => peer.row.Matches remote') = some peer' →
        peer'.row.id ≠ peer.row.id) :
    db'.peer peer.row.id = some (syncedPeer P listing peer remote p) := by
  obtain ⟨front, rest, rfl⟩ := List.append_of_mem hremote
  obtain ⟨hfront, hrest⟩ : remote ∉ front ∧ remote ∉ rest := by
    rw [List.nodup_append, List.nodup_cons] at hnodup
    exact ⟨fun hmem => hnodup.2.2 remote hmem remote List.mem_cons_self rfl, hnodup.2.1.1⟩
  obtain ⟨progress₁, db₁, h₁, h⟩ := Tx.foldlM_append_ok h
  obtain ⟨progress₂, db₂, h₂, h₃⟩ := Tx.foldlM_cons_ok h
  obtain ⟨hp₁, hids₁⟩ := syncPeers_other h₁ hp fun remote' hmem =>
    honly remote' (List.mem_append_left _ hmem) fun heq => hfront (heq ▸ hmem)
  have hp₂ := (syncPeer_ok h₂).1.peer_found hp₁ hfound (hids₁ ▸ hknown)
  refine (syncPeers_other h₃ hp₂ fun remote' hmem => ?_).1
  exact honly remote' (List.mem_append_right _ (List.mem_cons_of_mem _ hmem)) fun heq =>
    hrest (heq ▸ hmem)

/-- The loop over the stored rows marks each of them. -/
theorem syncMissing_loop {remoteIds : List String} {peer : ExistingPeer}
    (h : existing.foldlM (syncMissing remoteIds) progress db = .ok (progress', db'))
    (hnodup : (existing.map fun e => e.row.id).Nodup) (hpeer : peer ∈ existing) :
    db'.peer peer.row.id = (db.peer peer.row.id).map (markMissing remoteIds peer) := by
  induction existing generalizing progress db with
  | nil => cases hpeer
  | cons e existing ih =>
    obtain ⟨progress₁, db₁, hstep, hrest⟩ := Tx.foldlM_cons_ok h
    rw [List.map_cons, List.nodup_cons] at hnodup
    have hfirst := syncMissing_peer hstep peer.row.id
    rcases List.mem_cons.1 hpeer with rfl | hpeer
    · -- The other rows leave this one as it is.
      rw [if_pos rfl] at hfirst
      refine (Tx.foldlM_invariant (I := fun _ db' => db'.peer peer.row.id = db₁.peer peer.row.id)
        hrest rfl fun e he b db₂ b' db₃ hsame hother => ?_).trans hfirst
      rw [syncMissing_peer hother, if_neg, hsame]
      exact fun hid => hnodup.1 (hid ▸ List.mem_map_of_mem he)
    · have hne : peer.row.id ≠ e.row.id := fun hid =>
        hnodup.1 (hid ▸ List.mem_map_of_mem (f := fun e => e.row.id) hpeer)
      rw [if_neg hne] at hfirst
      rw [ih hrest hnodup.2 hpeer, hfirst]

end Loops

/-! ## Interfaces -/

/-- A step of the loop over the interfaces: it inserts a row, updates one or
    records that it has changed, and notes the identifier under the name. -/
theorem syncInterface_ok {existing : List InterfaceRow} {progress progress' : SyncProgress}
    {item : RemoteWireGuardInterface}
    (h : syncInterface P routerId fresh listing existing progress item db = .ok (progress', db')) :
    ∃ interfaces drifts interfaceId, db' = { db with interfaces, drifts } ∧
      progress'.interfaceIds = (item.name, interfaceId) :: progress.interfaceIds ∧
      ∀ i ∈ db.interfaces.rows, ∃ j ∈ interfaces.rows, j.id = i.id := by
  have hupdated : ∀ {id : String} {f : InterfaceRow → InterfaceRow} {db₁ : Database},
      Tx.updateInterface id f db = .ok ((), db₁) → (∀ i, (f i).id = i.id) →
      ∃ interfaces, db₁ = { db with interfaces } ∧
        ∀ i ∈ db.interfaces.rows, ∃ j ∈ interfaces.rows, j.id = i.id := by
    intro id f db₁ hupdate hf
    obtain ⟨interfaces, rfl, hrows⟩ := Tx.updateInterface_ok hupdate
    refine ⟨interfaces, rfl, fun i hi => ⟨_, hrows ▸ List.mem_map_of_mem hi, ?_⟩⟩
    split_ifs
    · exact hf i
    · rfl
  unfold syncInterface at h
  cases hfound : existing.find? fun i => i.remoteId = item.id with
  | none =>
    simp only [hfound] at h
    obtain ⟨_, db₁, hinsert, hrest⟩ := Tx.bind_eq_ok.1 h
    obtain ⟨rfl, rfl⟩ := Tx.pure_eq_ok.1 hrest
    obtain ⟨interfaces, rfl, hrows⟩ := Tx.insertInterface_ok hinsert
    exact ⟨interfaces, db.drifts, _, rfl, rfl, fun i hi =>
      ⟨i, hrows ▸ List.mem_append_left _ hi, rfl⟩⟩
  | some found =>
    simp only [hfound] at h
    split at h
    · obtain ⟨_, db₁, hupdate, hrest⟩ := Tx.bind_eq_ok.1 h
      obtain ⟨_, db₂, hdrift, hrest⟩ := Tx.bind_eq_ok.1 hrest
      obtain ⟨rfl, rfl⟩ := Tx.pure_eq_ok.1 hrest
      obtain ⟨interfaces, rfl, hids⟩ := hupdated hupdate fun _ => rfl
      obtain ⟨drifts, rfl⟩ := Tx.upsertDrift_ok hdrift
      exact ⟨interfaces, drifts, _, rfl, rfl, hids⟩
    · obtain ⟨_, db₁, hupdate, hrest⟩ := Tx.bind_eq_ok.1 h
      obtain ⟨_, db₂, hdrift, hrest⟩ := Tx.bind_eq_ok.1 hrest
      obtain ⟨rfl, rfl⟩ := Tx.pure_eq_ok.1 hrest
      obtain ⟨interfaces, rfl, hids⟩ := hupdated hupdate fun _ => rfl
      obtain ⟨drifts, rfl⟩ := Tx.dismissDrifts_ok hdrift
      exact ⟨interfaces, drifts, _, rfl, rfl, hids⟩

/-- After the loop over the interfaces every listed name has an identifier, and
    nothing but interfaces and drifts has changed. -/
theorem syncInterfaces_ok {existing : List InterfaceRow} {items : List RemoteWireGuardInterface}
    {progress progress' : SyncProgress}
    (h : items.foldlM (syncInterface P routerId fresh listing existing) progress db
      = .ok (progress', db')) :
    (∃ interfaces drifts, db' = { db with interfaces, drifts }) ∧
      (∀ i ∈ db.interfaces.rows, ∃ j ∈ db'.interfaces.rows, j.id = i.id) ∧
      ∀ name, (progress'.interfaceIds.lookup name).isSome = true ↔
        (∃ item ∈ items, item.name = name) ∨ (progress.interfaceIds.lookup name).isSome = true := by
  induction items generalizing progress db with
  | nil =>
    obtain ⟨rfl, rfl⟩ := Tx.pure_eq_ok.1 h
    exact ⟨⟨_, _, rfl⟩, fun i hi => ⟨i, hi, rfl⟩, by simp⟩
  | cons item items ih =>
    obtain ⟨progress₁, db₁, hstep, hrest⟩ := Tx.foldlM_cons_ok h
    obtain ⟨interfaces₁, drifts₁, interfaceId, rfl, hids, hkept⟩ := syncInterface_ok hstep
    obtain ⟨⟨interfaces, drifts, rfl⟩, hkept', hnames⟩ := ih hrest
    refine ⟨⟨_, _, rfl⟩, fun i hi => ?_, fun name => ?_⟩
    · obtain ⟨j, hj, hij⟩ := hkept i hi
      obtain ⟨k, hk, hjk⟩ := hkept' j hj
      exact ⟨k, hk, hjk.trans hij⟩
    · rw [hnames, hids, List.lookup_cons]
      by_cases hname : name = item.name
      · simp [hname]
      · have hbeq : (name == item.name) = false := by simpa using hname
        simp [hbeq, Ne.symm hname]

/-! ## The transaction -/

/-- The parts of a synchronisation that commits. -/
theorem syncTransaction_ok {summary : SyncSummary}
    (h : syncTransaction P routerId fresh listing db = .ok (summary, db')) :
    ∃ progress₁ db₁ progress₂ db₂ progress₃,
      listing.interfaces.foldlM (syncInterface P routerId fresh listing
        (db.interfaces.rows.filter fun i => i.routerId = routerId)) {} db = .ok (progress₁, db₁) ∧
      listing.peers.foldlM
        (syncPeer P routerId fresh listing (existingPeers routerId db₁)) progress₁
        db₁ = .ok (progress₂, db₂) ∧
      (existingPeers routerId db₁).foldlM
        (syncMissing (listing.peers.map RemoteWireGuardPeer.id)) progress₂ db₂
        = .ok (progress₃, db') ∧ summary = progress₃.summary := by
  rw [syncTransaction, Tx.get_bind] at h
  obtain ⟨progress₁, db₁, h₁, h⟩ := Tx.bind_eq_ok.1 h
  rw [Tx.get_bind] at h
  obtain ⟨progress₂, db₂, h₂, h⟩ := Tx.bind_eq_ok.1 h
  obtain ⟨progress₃, db₃, h₃, h⟩ := Tx.bind_eq_ok.1 h
  obtain ⟨rfl, rfl⟩ := Tx.pure_eq_ok.1 h
  exact ⟨progress₁, db₁, progress₂, db₂, progress₃, h₁, h₂, h₃, rfl⟩

/-- A row that the second loop works on is a row of the router. -/
theorem mem_existingPeers {peer : ExistingPeer} (h : peer ∈ existingPeers routerId db) :
    peer.row ∈ db.peers.rows ∧ peer.row.routerId = routerId := by
  obtain ⟨p, hp, hpeer⟩ := List.mem_filterMap.1 h
  obtain ⟨i, -, rfl⟩ := Option.map_eq_some_iff.1 hpeer
  rw [List.mem_filter, decide_eq_true_eq] at hp
  exact hp

/-- Every row of the router whose interface is there is worked on. -/
theorem exists_existingPeer {p : PeerRow} (hp : p ∈ db.peers.rows) (hrouter : p.routerId = routerId)
    (hinterface : (db.interface p.interfaceId).isSome = true) :
    ∃ peer ∈ existingPeers routerId db, peer.row = p := by
  obtain ⟨i, hi⟩ := Option.isSome_iff_exists.1 hinterface
  refine ⟨⟨p, i.name⟩, List.mem_filterMap.2 ⟨p, ?_, by rw [hi]; rfl⟩, rfl⟩
  exact List.mem_filter.2 ⟨hp, decide_eq_true hrouter⟩

theorem existingPeers_nodup (routerId : String) (db : Database) :
    ((existingPeers routerId db).map fun e => e.row.id).Nodup := by
  have hapart : db.peers.rows.Pairwise fun p q => p.id ≠ q.id :=
    db.peers.apart.imp fun {p q} h hid => by simp [peerSchema, hid] at h
  rw [List.nodup_iff_pairwise_ne, List.pairwise_map]
  refine List.Pairwise.filterMap _ (fun p q hpq e he f hf => ?_) (hapart.filter _)
  obtain ⟨_, -, rfl⟩ := Option.map_eq_some_iff.1 he
  obtain ⟨_, -, rfl⟩ := Option.map_eq_some_iff.1 hf
  exact hpq

end Platform

end WireguardPanel
