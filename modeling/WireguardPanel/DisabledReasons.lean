import WireguardPanel.Foundation.System
import WireguardPanel.Conflicts
import WireguardPanel.DriftResolution
import WireguardPanel.OperationEnds
import WireguardPanel.Reconciler
import WireguardPanel.StoredDrifts

/-!
# Why a peer is disabled

A row says whether its peer is disabled, and why. The operations that enable or
disable a peer write both columns, except for the adoption of the state of a
router: it takes over the flag and leaves the reason. But it is made to resolve
the drift of a peer, and none is ever stored.

* `PeerRow.Paired`: the two columns agree.
* `Statement.Pairs`: which statements keep them in agreement.
* `PeerAction`: the operations on the peers of an installation.
* `paired_of_reaches`: the rows agree in every state of a run.
-/

namespace WireguardPanel

open Foundation

/-- A row has a reason just if its peer is disabled. -/
def PeerRow.Paired (p : PeerRow) : Prop := p.disabled = false ↔ p.disabledReason = none

instance (p : PeerRow) : Decidable p.Paired := inferInstanceAs (Decidable (_ ↔ _))

/-- Every row does so. -/
def Database.Paired (db : Database) : Prop := ∀ p ∈ db.peers.rows, p.Paired

instance (db : Database) : Decidable db.Paired :=
  inferInstanceAs (Decidable (∀ p ∈ db.peers.rows, _))

/-- The change of a database keeps the rows in agreement. -/
def KeepsPairs (db db' : Database) : Prop := db.Paired → db'.Paired

instance : IsPreorder Database KeepsPairs where
  refl _ := id
  trans _ _ _ h h' := h' ∘ h

/-! ## Statements -/

section Statements

theorem within_pairs_of_peers {α : Type} {tx : Tx α}
    (h : ∀ db a db', tx db = .ok (a, db') → db'.peers = db.peers) : Within KeepsPairs tx :=
  fun db a db' htx hpaired p hp => hpaired p (h db a db' htx ▸ hp)

/-- Rows that are left, or changed one by one. -/
theorem Database.Paired.map {db db' : Database} {f : PeerRow → PeerRow} (h : db.Paired)
    (hrows : db'.peers.rows = db.peers.rows.map f) (hf : ∀ p, p.Paired → (f p).Paired) :
    db'.Paired := fun p' hp' => by
  rw [hrows] at hp'
  obtain ⟨p, hp, rfl⟩ := List.mem_map.1 hp'
  exact hf p (h p hp)

theorem within_pairs_updatePeer {id : String} {f : PeerRow → PeerRow}
    (hf : ∀ p, p.Paired → (f p).Paired) : Within KeepsPairs (Tx.updatePeer id f) :=
  fun db u db' htx hpaired => by
    obtain ⟨peers, rfl, hrows⟩ := Tx.updatePeer_ok htx
    refine hpaired.map hrows fun p hp => ?_
    split_ifs
    · exact hf p hp
    · exact hp

theorem within_pairs_movePeer {id routerId interfaceId : String} {poolId : Option String}
    {f : PeerRow → PeerRow} (hf : ∀ p, p.Paired → (f p).Paired) :
    Within KeepsPairs (Tx.movePeer id routerId interfaceId poolId f) := fun db u db' htx =>
  within_pairs_updatePeer hf db u db' (Tx.movePeer_ok htx)

theorem within_pairs_insertPeer {row : PeerRow} (hrow : row.Paired) :
    Within KeepsPairs (Tx.insertPeer row) := fun db u db' htx hpaired p hp => by
  obtain ⟨peers, rfl, hrows⟩ := Tx.insertPeer_ok htx
  rcases List.mem_append.1 (hrows ▸ hp) with hp | hp
  · exact hpaired p hp
  · exact List.mem_singleton.1 hp ▸ hrow

theorem within_pairs_deletePeer {id : String} : Within KeepsPairs (Tx.deletePeer id) :=
  fun db u db' htx hpaired p hp => by
    rw [(Tx.deletePeer_ok htx).1] at hp
    exact hpaired p (List.mem_of_mem_filter hp)

theorem within_pairs_releasePeerPoolAddress {peerId : String} :
    Within KeepsPairs (releasePeerPoolAddress peerId) :=
  within_pairs_of_peers fun db u db' htx => by rw [Tx.deleteAddresses_ok htx]

theorem within_pairs_upsertDrift {row : DriftRow} : Within KeepsPairs (Tx.upsertDrift row) :=
  within_pairs_of_peers fun db u db' htx => by
    obtain ⟨drifts, rfl⟩ := Tx.upsertDrift_ok htx
    rfl

theorem within_pairs_dismissDrifts {objectType : DriftObjectType} {objectId : String} {now : ℤ} :
    Within KeepsPairs (Tx.dismissDrifts objectType objectId now) :=
  within_pairs_of_peers fun db u db' htx => by
    obtain ⟨drifts, rfl⟩ := Tx.dismissDrifts_ok htx
    rfl

theorem within_pairs_insertHistory {row : PeerRow} {startedAt endedAt : ℤ} {reason : ResetReason} :
    Within KeepsPairs (Tx.insertHistory row startedAt endedAt reason) :=
  within_pairs_of_peers fun db u db' htx => by
    obtain ⟨history, rfl⟩ := Tx.insertHistory_ok htx
    rfl

theorem within_pairs_insertAudit {action peerId : String} :
    Within KeepsPairs (Tx.insertAudit action peerId) :=
  within_pairs_of_peers fun db u db' htx => by rw [Tx.insertAudit_ok htx]

variable {P : Platform}

theorem within_pairs_claimPoolAddress {pool : WireGuardPool} {ip peerId name : String} :
    Within KeepsPairs (claimPoolAddress P pool ip peerId name) :=
  within_castInet.bind fun _ =>
    (within_pairs_of_peers fun db a db' htx => by rw [Tx.deleteAddresses_ok htx]).bind fun _ =>
    within_pairs_of_peers fun db a db' htx => by
      obtain ⟨addresses, rfl, -⟩ := Tx.insertAddress_ok htx
      rfl

/-- Whatever an update of a row sets, the two columns are set together or not at
    all. -/
theorem PeerUpdate.paired (update : PeerUpdate) (now : ℤ) {p : PeerRow} (hp : p.Paired) :
    (update.apply P now p).Paired := by
  cases update with
  | quotaState disabled => cases disabled <;> simp [PeerUpdate.apply, quotaColumns, PeerRow.Paired]
  | enabled enabled => cases enabled <;> simp [PeerUpdate.apply, enabledColumns, PeerRow.Paired]
  | reenabled => simp [PeerUpdate.apply, PeerRow.Paired]
  | _ => exact hp

/-! ### Transactions -/

theorem within_pairs_recordObservation {peerId : String} {remote : RemoteWireGuardPeer}
    {policy : QuotaPolicy} {onlineSeconds sampleSeconds now : ℤ} : Within KeepsPairs
      (recordObservation P peerId remote policy onlineSeconds sampleSeconds now) := by
  refine within_get.bind fun db => within_orThrow.bind fun peer => ?_
  refine Within.bind (within_pairs_of_peers fun db rolled db' htx => ?_) fun rolled => ?_
  · obtain ⟨history, audits, rfl, -⟩ := rollPeriod_ok htx
    rfl
  have hrecord : ∀ c : Counted, Within KeepsPairs (Tx.updatePeer peer.id c.record) := fun c =>
    within_pairs_updatePeer fun p hp => hp
  have hstamp : ∀ time,
      Within KeepsPairs (Tx.updatePeer peer.id (stampSnapshot time)) := fun time =>
    within_pairs_updatePeer fun p hp => hp
  refine (hrecord _).bind fun _ => Within.bind (fun db u db' htx => ?_) fun _ => within_pure
  rcases storeSnapshot_ok htx with ⟨-, rfl⟩ | ⟨-, hupdate⟩
  · exact id
  · exact fun hpaired => hstamp _ _ _ _ hupdate hpaired

/-- The reset of the usage enables the peers that were disabled for it. -/
theorem within_pairs_resetQuota {row : PeerRow} {windowEnd : Option ℤ}
    {observed : RemoteWireGuardPeer} {now : ℤ} :
    Within KeepsPairs (resetQuota P row windowEnd observed now) := by
  unfold resetQuota
  dsimp only
  split
  on_goal 1 => refine within_pairs_insertHistory.bind fun _ => ?_
  all_goals
    refine within_pairs_updatePeer fun p hp => ?_
    by_cases hquota : p.disabledReason = some .quota
    · simp [PeerRow.Paired, hquota]
    · simpa [PeerRow.Paired, hquota] using hp

theorem within_pairs_stagePeer {input : CreatePeerInput} {peerId operationId : String}
    {router : RouterRow} {interface : InterfaceRow} {keys : WireGuardKeys}
    {listing : Except AppError (List RemoteWireGuardPeer)} {now : ℤ} :
    Within KeepsPairs (stagePeer P input peerId operationId router interface keys listing now) := by
  refine within_lockPoolForPeer.bind fun pool => within_ofExcept.bind fun remotePeers => ?_
  refine within_choosePoolAddress.bind fun clientIp => within_get.bind fun db => ?_
  refine within_ofExcept.bind fun window => ?_
  refine (within_pairs_insertPeer ⟨fun _ => rfl, fun _ => rfl⟩).bind fun _ => ?_
  exact within_pairs_claimPoolAddress.bind fun _ => Within.bind
    (within_pairs_of_peers fun db u db' htx => by cases htx; rfl) fun _ => within_pure

theorem within_pairs_commitUpdate {c : PeerCommit} {now : ℤ}
    (hc : c.disabled = false ↔ c.disabledReason = none) :
    Within KeepsPairs (commitUpdate P c now) := by
  have hassign : ∀ confirmed p, (c.assign P confirmed p).Paired := fun _ _ => hc
  have hrest : ∀ pool confirmed, Within KeepsPairs (do
      Tx.movePeer c.row.id c.input.routerId c.input.interfaceId (some c.input.poolId)
        (c.assign P confirmed)
      releasePeerPoolAddress c.row.id
      claimPoolAddress P pool confirmed c.row.id c.input.name) := fun _ _ =>
    (within_pairs_movePeer fun p _ => hassign _ p).bind fun _ =>
      within_pairs_releasePeerPoolAddress.bind fun _ => within_pairs_claimPoolAddress
  refine within_lockPoolForPeer.bind fun pool => within_choosePoolAddress.bind fun confirmed => ?_
  dsimp only
  split
  · exact within_pairs_insertHistory.bind fun _ => hrest _ _
  · exact within_throw.bind fun _ => hrest _ _
  · exact hrest _ _

theorem within_pairs_archiveAndDelete {row : PeerRow} : Within KeepsPairs (archiveAndDelete row) :=
  (within_pairs_of_peers fun db a db' htx => by cases htx; rfl).bind fun _ =>
    within_pairs_releasePeerPoolAddress.bind fun _ =>
    (within_pairs_of_peers fun db a db' htx => by cases htx; rfl).bind fun _ =>
    within_pairs_deletePeer

theorem within_pairs_prepareGlobalBandwidth {input : GlobalBandwidthInput} :
    Within KeepsPairs (prepareGlobalBandwidth input) := by
  have hretain : ∀ ids current, Within KeepsPairs (retainPeers ids current) := fun ids current =>
    fun db u db' htx hpaired => by
      obtain ⟨peers, hupdate, hrest⟩ := Tx.statement_bind_ok.1 htx
      cases Tx.return_eq_ok.1 hrest
      refine hpaired.map (Table.rows_update hupdate) fun p hp => ?_
      split_ifs <;> exact hp
  refine within_get.bind fun db => within_require.bind fun _ => ?_
  dsimp only
  split
  · exact within_pure
  · refine (hretain _ _).bind fun _ => Within.bind (fun db u db' htx => ?_) fun _ => within_pure
    cases htx
    exact id

theorem within_pairs_adoptQueue {peer : PeerRow} {queue : DesiredSimpleQueue}
    {download upload : ℕ} :
    Within KeepsPairs (adoptQueue P peer queue download upload) := by
  refine (within_pairs_updatePeer fun p hp => ?_).bind fun _ => fun db u db' htx => ?_
  · exact hp
  · cases htx
    exact id

theorem within_pairs_adoptInterface {interface : InterfaceRow}
    {applied : RemoteWireGuardInterface} :
    Within KeepsPairs (adoptInterface P interface applied) := by
  refine Within.bind (within_pairs_of_peers fun db u db' htx => ?_) fun _ => ?_
  · obtain ⟨interfaces, rfl, -⟩ := Tx.updateInterface_ok htx
    rfl
  split
  · intro db u db' htx hpaired
    cases htx
    refine hpaired.map rfl fun p hp => ?_
    split_ifs <;> exact hp
  · exact within_pure

/-! ### Synchronisations -/

section Sync

variable {routerId : String} {fresh : FreshIds} {listing : SyncListing} {progress : SyncProgress}

theorem within_pairs_syncInterface {existing : List InterfaceRow}
    {item : RemoteWireGuardInterface} :
    Within KeepsPairs (syncInterface P routerId fresh listing existing progress item) := by
  have hupdate : ∀ id f, Within KeepsPairs (Tx.updateInterface id f) := fun id f =>
    within_pairs_of_peers fun db u db' htx => by
      obtain ⟨interfaces, rfl, -⟩ := Tx.updateInterface_ok htx
      rfl
  unfold syncInterface
  split
  · refine Within.bind (within_pairs_of_peers fun db u db' htx => ?_) fun _ => within_pure
    obtain ⟨interfaces, rfl, -⟩ := Tx.insertInterface_ok htx
    rfl
  · split_ifs
    · exact (hupdate _ _).bind fun _ => within_pairs_upsertDrift.bind fun _ => within_pure
    · exact (hupdate _ _).bind fun _ => within_pairs_dismissDrifts.bind fun _ => within_pure

/-- A peer that is imported is disabled by hand, if it is disabled. -/
theorem within_pairs_importPeer {interfaceId fingerprint newId : String}
    {remote : RemoteWireGuardPeer} {onlineSeconds now : ℤ} : Within KeepsPairs
      (importPeer P routerId interfaceId remote fingerprint onlineSeconds newId now) := by
  intro db u db' htx hpaired
  have himported : (importedRow routerId interfaceId remote fingerprint onlineSeconds newId
      now).Paired := by
    cases hdisabled : remote.disabled <;> simp [importedRow, PeerRow.Paired, hdisabled]
  rcases importPeer_ok htx with ⟨-, rfl⟩ | ⟨db₁, hinsert, hplace⟩
  · exact hpaired
  have hpaired₁ := within_pairs_insertPeer himported _ _ _ hinsert hpaired
  rcases hplace with rfl | ⟨poolId, db₂, hupdate, addresses, rfl⟩
  · exact hpaired₁
  · have hpool :
        Within KeepsPairs (Tx.updatePeer newId fun p => { p with poolId := some poolId }) :=
      within_pairs_updatePeer fun p hp => hp
    have hpaired₂ := hpool _ _ _ hupdate hpaired₁
    exact hpaired₂

theorem within_pairs_syncPeer {existing : List ExistingPeer} {remote : RemoteWireGuardPeer} :
    Within KeepsPairs (syncPeer P routerId fresh listing existing progress remote) := by
  unfold syncPeer
  split
  · exact within_pure
  · split
    · exact within_pairs_importPeer.bind fun _ => within_pure
    · intro db progress' db' htx
      obtain ⟨db₁, drifts, hupdate, rfl, -⟩ := syncFound_ok htx
      have hsynced : ∀ peer, Within KeepsPairs
          (Tx.updatePeer peer.row.id (syncedPeer P listing peer remote)) := fun peer =>
        within_pairs_updatePeer fun p hp => hp
      exact fun hpaired => have hpaired₁ := hsynced _ _ _ _ hupdate hpaired; hpaired₁

theorem within_pairs_syncMissing {remoteIds : List String} {peer : ExistingPeer} :
    Within KeepsPairs (syncMissing remoteIds progress peer) := by
  unfold syncMissing
  cases missingConflict remoteIds peer with
  | none => exact within_pure
  | some conflict =>
    have hupdate : Within KeepsPairs (Tx.updatePeer peer.row.id fun p =>
        { p with conflictType := some conflict, syncState := .changedExternally }) :=
      within_pairs_updatePeer fun p hp => hp
    exact hupdate.bind fun _ => within_pure

theorem within_pairs_syncTransaction :
    Within KeepsPairs (syncTransaction P routerId fresh listing) := by
  refine within_get.bind fun before => ?_
  refine (within_foldlM fun item _ progress => within_pairs_syncInterface).bind fun progress => ?_
  refine within_get.bind fun db => ?_
  refine (within_foldlM fun remote _ progress => within_pairs_syncPeer).bind fun progress => ?_
  exact (within_foldlM fun peer _ progress => within_pairs_syncMissing).bind fun _ => within_pure

end Sync

/-! ### All statements -/

/-- The statements that keep the rows in agreement whatever the database is: a
    commit is paired itself, and an adoption takes over a flag. -/
def Statement.Pairs : Statement → Prop
  | .commitUpdate c _ => c.disabled = false ↔ c.disabledReason = none
  | .adoptRouterState .. => False
  | _ => True

theorem Statement.Pairs.within {s : Statement} (h : s.Pairs) (now : ℤ) (id : String) :
    Within KeepsPairs (s.tx P now id) := by
  have hsame : ∀ {α : Type} {tx : Tx α}, (∀ db a db', tx db = .ok (a, db') → db'.peers = db.peers) →
      Within KeepsPairs tx := within_pairs_of_peers
  cases s with
  | updatePeer peerId update => exact within_pairs_updatePeer fun p => update.paired now
  | startOperation =>
    exact hsame fun db a db' htx => by rw [(Tx.insertOperation_ok htx).2.2]
  | operationStep | finishOperation | failOperation | finishReconciledFailure =>
    refine hsame fun db a db' htx => ?_
    cases htx
    rfl
  | systemAudit => exact within_pairs_insertAudit
  | recordObservation => exact within_pairs_recordObservation
  | resetQuota => exact within_pairs_resetQuota
  | stagePeer => exact within_pairs_stagePeer
  | releaseStagedPeer =>
    exact within_pairs_releasePeerPoolAddress.bind fun _ => within_pairs_deletePeer
  | confirmAddress => exact within_confirmAddress
  | commitUpdate c => exact within_pairs_commitUpdate h
  | recoverUpdate row input recovery =>
    exact within_lockPoolForPeer.bind fun _ => within_pairs_releasePeerPoolAddress.bind fun _ =>
      (within_pairs_movePeer fun p _ => by simp [PeerRow.Paired]).bind fun _ =>
      within_pairs_claimPoolAddress
  | archiveAndDelete => exact within_pairs_archiveAndDelete
  | removeStagedPeer =>
    refine within_pairs_releasePeerPoolAddress.bind fun _ =>
      Within.bind (hsame fun db a db' htx => ?_) fun _ => within_pairs_deletePeer
    cases htx
    rfl
  | deleteManagedQueue =>
    refine hsame fun db a db' htx => ?_
    cases htx
    rfl
  | storeManagedQueue row =>
    refine hsame fun db a db' htx => ?_
    change Tx.upsertManagedObject row db = _ at htx
    unfold Tx.upsertManagedObject at htx
    split at htx
    · exact absurd htx nofun
    · obtain ⟨managedObjects, -, hrest⟩ := Tx.statement_bind_ok.1 htx
      cases Tx.return_eq_ok.1 hrest
      rfl
  | sync => exact within_pairs_syncTransaction
  | startSyncRun routerId =>
    refine hsame fun db a db' htx => ?_
    change Tx.insertSyncRun routerId db = _ at htx
    unfold Tx.insertSyncRun at htx
    split_ifs at htx
    cases htx
    rfl
  | finishSyncRun | routerStatus => exact within_pure
  | unreachablePeers routerId =>
    intro db a db' htx hpaired
    cases htx
    refine hpaired.map rfl fun p hp => ?_
    split_ifs <;> exact hp
  | unreachableInterfaces =>
    refine hsame fun db a db' htx => ?_
    cases htx
    rfl
  | bandwidthDrift => exact within_get.bind fun _ => within_peerDriftIdTypes
  | dismissDrift => exact within_pairs_dismissDrifts
  | prepareGlobalBandwidth => exact within_pairs_prepareGlobalBandwidth
  | adoptRouterState => exact h.elim
  | adoptQueue => exact within_pairs_adoptQueue
  | adoptInterface => exact within_pairs_adoptInterface
  | resolveDrift =>
    refine hsame fun db a db' htx => ?_
    obtain ⟨drifts, rfl, -⟩ := Tx.updateDrifts_ok htx
    rfl

end Statements

/-! ## Services -/

section Services

variable {P : Platform} {ℓ α : Type}

/-- Every statement of a service keeps the rows in agreement. -/
abbrev ExecutesPairs (x : Service ℓ α) : Prop := Executes Statement.Pairs x

theorem Statement.pairs_operation {operationId : String} {s : Statement}
    (h : s.OfOperation operationId) : s.Pairs := by
  cases s <;> trivial

theorem Statement.pairs_bandwidth {peerId : String} {s : Statement} (h : s.OfBandwidth peerId) :
    s.Pairs := by
  cases s <;> trivial

/-- What a commit stores is paired if the row is. -/
theorem PeerRow.Paired.quotaOutcome {row : PeerRow} (hrow : row.Paired) {disabled : Bool}
    {reason : Option DisabledReason} (h : row.QuotaOutcome disabled reason) :
    disabled = false ↔ reason = none := by
  rcases h with ⟨rfl, rfl⟩ | ⟨rfl, rfl⟩ | ⟨rfl, rfl⟩
  · exact hrow
  · simp
  · simp

theorem executesPairs_createPeer {input : CreatePeerInput} {peerId : String} {keys : WireGuardKeys}
    {now : ℤ} : ExecutesPairs (createPeer P input peerId keys now : Service ℓ String) := by
  refine (executes_execute trivial).bind fun operationId => executes_getRouter.bind fun router => ?_
  refine executes_query.bind fun _ => executes_orThrow.bind fun interface => ?_
  refine executes_clientForRouter.bind fun _ =>
    Procedure.Makes.withLocals (Executes.tryCatch ?_ fun _ => ?_)
  · exact executes_createStagedPeer (fun _ => trivial) (fun s => Statement.pairs_operation)
      (fun _ _ _ _ _ _ => trivial) (fun _ => trivial) (fun s => Statement.pairs_bandwidth) trivial
  · exact makes_abandonCreation trivial (fun _ _ _ => trivial) fun s => Statement.pairs_operation

/-- The part of `updatePeer` after it has read the row. -/
theorem executesPairs_updatePeer {row : PeerRow} (hrow : row.Paired) {input : UpdatePeerInput}
    {sourceId targetId operationId : String} {interface : InterfaceRow} {now : ℤ} :
    ExecutesPairs (Procedure.withLocals {}
      (tryCatch (updateCurrentPeer P row input sourceId targetId operationId interface now)
        (abandonUpdate row input sourceId targetId operationId)) : Service ℓ Unit) := by
  refine Procedure.Makes.withLocals (Executes.tryCatch ?_ fun _ => ?_)
  · exact executes_updateCurrentPeer (fun _ _ _ _ _ _ => trivial)
      (fun _ hc => hrow.quotaOutcome hc.outcome) (fun s => Statement.pairs_operation)
      (fun s => Statement.pairs_bandwidth) fun _ => trivial
  · exact makes_abandonUpdate (fun _ _ => trivial) (fun _ _ _ => trivial)
      fun s => Statement.pairs_operation

theorem executesPairs_deletePeer {peerId : String} :
    ExecutesPairs (deletePeer P peerId : Service ℓ Unit) := by
  refine executes_mutablePeer.bind fun row => (executes_execute trivial).bind fun operationId => ?_
  refine executes_routerClient.bind fun router => ?_
  refine Procedure.Makes.withLocals (Executes.tryCatch ?_ fun _ => ?_)
  · exact executes_deleteCurrentPeer (fun _ _ _ => trivial) trivial fun s =>
      Statement.pairs_operation
  · exact executes_abandonDeletion (fun _ _ _ => trivial) fun s => Statement.pairs_operation

theorem executesPairs_regeneratePeerKeys {peerId : String} {keys : WireGuardKeys} :
    ExecutesPairs (regeneratePeerKeys P peerId keys : Service ℓ Unit) := by
  refine executes_mutablePeer.bind fun row => (executes_execute trivial).bind fun operationId => ?_
  refine executes_routerClient.bind fun router => ?_
  refine Procedure.Makes.withLocals (Executes.tryCatch ?_ fun _ => ?_)
  · exact executes_rotateKeys (fun _ _ _ _ => trivial) (fun s => Statement.pairs_operation)
      fun _ => trivial
  · exact executes_abandonRotation (fun _ _ _ => trivial) fun s => Statement.pairs_operation

theorem executesPairs_setPeerEnabled {peerId : String} {enabled : Bool} {reason : DisabledReason} :
    ExecutesPairs (setPeerEnabled P peerId enabled reason : Service ℓ Unit) :=
  executes_setPeerEnabled fun _ _ => trivial

theorem executesPairs_enforceExpirations {now : ℤ} :
    ExecutesPairs (enforceExpirations P now : Service ℓ ExpirationTotals) :=
  executes_enforceExpirations (fun _ => trivial) (fun _ _ _ => trivial) fun _ _ => trivial

theorem executesPairs_enforceObservation {routerId : String} {remote : RemoteWireGuardPeer}
    {observation : Observation} {now : ℤ} :
    ExecutesPairs (enforceObservation routerId remote observation now : Service ℓ _) :=
  executes_enforceObservation (fun _ _ _ => trivial) fun _ => trivial

theorem executesPairs_pollRouterTraffic {routerId : String} {observedAt enforcedAt : PeerRow → ℤ} :
    ExecutesPairs (pollRouterTraffic P routerId observedAt enforcedAt : Service ℓ PollTotals) := by
  refine Procedure.Makes.withLocals (Executes.tryCatch ?_ fun _ => ?_)
  · refine executes_routerClient.bind fun router => executes_settingOr.bind fun policy => ?_
    refine executes_settingOr.bind fun onlineSeconds => executes_settingOr.bind fun sample => ?_
    refine executes_request_bind trivial fun remotePeers => executes_query.bind fun localPeers => ?_
    refine Executes.bind (Procedure.makes_forM fun localPeer _ => ?_) fun _ =>
      (executes_execute trivial).bind fun _ => Procedure.makes_get
    unfold pollCounted
    split
    · exact executes_pure
    · exact Executes.tryCatch ((executes_execute trivial).bind fun _ =>
        Executes.bind Procedure.makes_modify fun _ => executesPairs_enforceObservation.bind fun _ =>
        Procedure.makes_modify) fun _ => Procedure.makes_modify
  · exact (executes_execute trivial).attempt.bind fun _ => executes_throw

theorem executesPairs_temporarilyReenablePeer {peerId : String} {minutes now : ℤ} :
    ExecutesPairs (temporarilyReenablePeer P peerId minutes now : Service ℓ Unit) :=
  executes_temporarilyReenablePeer fun _ _ => trivial

theorem executesPairs_resetPeerQuotaUsage {peerId : String} {now : ℤ} :
    ExecutesPairs (resetPeerQuotaUsage P peerId now : Service ℓ Unit) :=
  executes_resetPeerQuotaUsage fun _ _ _ => trivial

theorem executesPairs_syncRouter {routerId : String} {fresh : FreshIds} {now : ℤ} :
    ExecutesPairs (syncRouter P routerId fresh now : Service ℓ SyncSummary) :=
  executes_syncRouter (fun _ => trivial) trivial trivial trivial trivial trivial

theorem executesPairs_applyPeerBandwidth {peerId : String} {force : Bool} :
    ExecutesPairs (applyPeerBandwidth P peerId force : Service ℓ BandwidthApplyResult) := by
  refine executes_loadPeer.bind fun row => ?_
  split
  · exact executes_throw
  · refine executes_routerClient.bind fun router => Executes.tryCatch ?_ fun _ => ?_
    · exact executes_getEffectivePeerBandwidth.bind fun _ =>
        executes_applyPeerBandwidthRemote.bind fun _ =>
        (executes_persistBandwidthResult fun s => Statement.pairs_bandwidth).bind fun _ =>
        executes_pure
    · exact (executes_executeAnyway trivial).bind fun _ => executes_throw

theorem executes_validateBandwidthMutation {S : Statement → Prop}
    {input : BandwidthPolicyMutation} :
    Executes S (validateBandwidthMutation input : Service ℓ Unit) := by
  have hprofile : Executes S (if input.mode = .profile ∧ (filled input.profileId).isNone then
      throw (.error "Select a bandwidth profile.") else pure () : Service ℓ Unit) := by
    split
    · exact executes_throw
    · exact executes_pure
  unfold validateBandwidthMutation
  dsimp only
  split
  · exact executes_throw.bind fun _ => hprofile
  · exact hprofile

theorem executesPairs_setPeerBandwidthPolicy {peerId : String} {input : BandwidthPolicyMutation} :
    ExecutesPairs (setPeerBandwidthPolicy P peerId input : Service ℓ BandwidthApplyResult) := by
  have hset : ∀ row : PeerRow, ExecutesPairs (do
      let operationId ← Service.execute (.startOperation "bandwidth_update" (some row.routerId)
        (some peerId) (.obj [("mode", .str input.mode.text),
          ("profileId", input.profileId.elim .null .str)]))
      tryCatch (applyPolicy P peerId input operationId) fun e => do
        executeAnyway (.updatePeer peerId (.lifecycle .needsReconciliation none (some .error)))
        executeAnyway (.failOperation operationId .needsReconciliation none)
        throw e : Service ℓ BandwidthApplyResult) := fun row => by
    refine (executes_execute trivial).bind fun operationId => Executes.tryCatch ?_ fun _ => ?_
    · exact (executes_execute trivial).bind fun _ => (executes_execute trivial).bind fun _ =>
        executesPairs_applyPeerBandwidth.bind fun _ => (executes_execute trivial).bind fun _ =>
        (executes_execute trivial).bind fun _ => executes_pure
    · exact (executes_executeAnyway trivial).bind fun _ =>
        (executes_executeAnyway trivial).bind fun _ => executes_throw
  refine Executes.bind executes_validateBandwidthMutation fun _ => executes_query.bind fun _ =>
    executes_orThrow.bind fun row => ?_
  dsimp only
  split
  · exact executes_query.bind fun _ => executes_orThrow.bind fun _ => hset row
  · exact hset row

variable {same : Json → Json → Bool}

theorem executesPairs_resolveBandwidthDrift {drift : DriftRow} {peerId : String}
    {resolution : DriftResolution} : ExecutesPairs
      (resolveBandwidthDrift P same drift peerId resolution : Service ℓ Unit) := by
  unfold resolveBandwidthDrift
  split
  · exact executesPairs_applyPeerBandwidth.bind fun _ => executes_pure
  · refine executes_query.bind fun _ => executes_orThrow.bind fun peer => ?_
    refine executes_routerClient.bind fun router => executes_request_bind trivial fun queues => ?_
    split
    · split
      · split
        · exact executes_throw
        · split
          · split
            · exact executes_throw
            · exact executes_execute trivial
          · exact executes_throw
      · exact executes_throw
    · exact executes_throw

theorem executesPairs_resolveInterfaceDrift {drift : DriftRow} {resolution : DriftResolution} :
    ExecutesPairs (resolveInterfaceDrift P same drift resolution : Service ℓ Unit) := by
  refine executes_query.bind fun _ => executes_orThrow.bind fun interface => ?_
  refine executes_routerClient.bind fun router => executes_request_bind trivial fun interfaces => ?_
  split
  · exact executes_throw
  · split
    · split
      · refine Executes.bind ?_ fun applied => executes_execute trivial
        exact executes_ofExcept.bind fun _ => executes_request_bind trivial fun _ =>
          executes_request_bind trivial fun _ => executes_orThrow
      · exact executes_execute trivial
    · exact executes_throw

end Services

/-! ## Runs of a service -/

section Runs

variable {P : Platform} {ℓ α β : Type} {l : ℓ} {w : World} {same : Json → Json → Bool}

/-- Wherever a run of `x` ends, the rows agree. -/
abbrev EndsPaired (P : Platform) (x : Service ℓ α) (l : ℓ) (w : World) : Prop :=
  Procedure.wp (World.environment P fun _ _ => True) (fun _ _ => True) x
    (fun _ _ w' => w'.db.Paired) (fun _ _ w' => w'.db.Paired) l w

theorem endsPaired_of_executes {x : Service ℓ α} (hx : ExecutesPairs x) (hw : w.db.Paired) :
    EndsPaired P x l w :=
  hx.wp_keeps (I := Database.Paired)
    (fun _ hs now id _ _ _ hdb htx => hs.within now id _ _ _ htx hdb) hw

theorem endsPaired_bind {x : Service ℓ β} {f : β → Service ℓ α} (hx : EndsPaired P x l w)
    (hf : ∀ b l w, w.db.Paired → EndsPaired P (f b) l w) : EndsPaired P (x >>= f) l w :=
  Procedure.wp_bind.2 (Procedure.wp_mono hx (fun b l w => hf b l w) fun _ _ _ => id)

section Rules

variable {Q : β → ℓ → World → Prop}

/-- A query changes nothing, and may fail. -/
theorem wp_query_paired (hw : w.db.Paired) {read : Database → β} (hQ : Q (read w.db) l w) :
    Procedure.wp (World.environment P fun _ _ => True) (fun _ _ => True) (Service.query read) Q
      (fun _ _ w' => w'.db.Paired) l w := by
  refine Procedure.wp_call.2 fun r w' hcall => ⟨trivial, ?_⟩
  obtain ⟨rfl, hread⟩ := Service.environment_query hcall
  cases r with
  | error e => exact hw
  | ok b =>
    obtain rfl := hread b rfl
    exact hQ

theorem wp_orThrow_paired (hw : w.db.Paired) {value : Option β} {message : String}
    (hQ : ∀ b, value = some b → Q b l w) :
    Procedure.wp (World.environment P fun _ _ => True) (fun _ _ => True)
      (Service.orThrow value message) Q (fun _ _ w' => w'.db.Paired) l w := by
  cases value with
  | none => exact hw
  | some b => exact hQ b rfl

end Rules

theorem endsPaired_row (hw : w.db.Paired) {read : Database → Option β} {message : String}
    {f : β → Service ℓ α} (hf : ∀ b, read w.db = some b → EndsPaired P (f b) l w) :
    EndsPaired P (Service.query read >>= fun row => Service.orThrow row message >>= f) l w :=
  Procedure.wp_bind.2 (wp_query_paired hw (Procedure.wp_bind.2 (wp_orThrow_paired hw hf)))

theorem endsPaired_updatePeer (hw : w.db.Paired) {peerId : String} {input : UpdatePeerInput}
    {now : ℤ} : EndsPaired P (updatePeer P peerId input now : Service ℓ Unit) l w := by
  refine Procedure.wp_bind.2 (Procedure.wp_bind.2 (wp_query_paired hw (wp_orThrow_paired hw
    fun row hpeer => ?_)))
  have hrow : row.Paired := hw row (Database.peer_spec hpeer).1
  refine endsPaired_of_executes ?_ hw
  refine (executes_execute trivial).bind fun operationId => executes_query.bind fun _ => ?_
  refine executes_orThrow.bind fun interface => executes_routerClient.bind fun sourceRouter => ?_
  dsimp only
  split
  · exact executes_routerClient.bind fun _ => executesPairs_updatePeer hrow
  · exact executesPairs_updatePeer hrow

/-- The drift that is resolved is not one of a peer. -/
theorem endsPaired_resolveConfigurationDrift (hw : w.db.Paired) (hdrifts : w.db.Without .peer)
    {driftId : String} {resolution : DriftResolution} :
    EndsPaired P (resolveConfigurationDrift P same driftId resolution : Service ℓ Unit) l w := by
  refine endsPaired_row hw fun drift hdrift => endsPaired_bind ?_ fun _ _ _ hw' =>
    endsPaired_of_executes (executes_execute trivial) hw'
  obtain ⟨hfind, -⟩ := Option.filter_eq_some_iff.1 hdrift
  have htype : drift.objectType ≠ .peer := hdrifts drift (List.mem_of_find?_eq_some hfind)
  unfold resolveDriftObject
  split
  · exact absurd ‹_› htype
  · exact hw
  · exact endsPaired_of_executes executesPairs_resolveBandwidthDrift hw
  · exact hw
  · exact endsPaired_of_executes executesPairs_resolveInterfaceDrift hw

end Runs

/-! ## Runs of an installation -/

/-- The operations on the peers of an installation. -/
inductive PeerAction
  | operation (started : PeerOperation)
  | setEnabled (peerId : String) (enabled : Bool) (reason : DisabledReason)
  | enforceExpirations (now : ℤ)
  | pollTraffic (routerId : String) (observedAt enforcedAt : PeerRow → ℤ)
  | resetQuotaUsage (peerId : String) (now : ℤ)
  | temporarilyReenable (peerId : String) (minutes now : ℤ)
  | setBandwidthPolicy (peerId : String) (input : BandwidthPolicyMutation)
  /-- The synchronisation of a router, which imports its peers. -/
  | sync (routerId : String) (fresh : FreshIds) (now : ℤ)
  | resolveDrift (driftId : String) (resolution : DriftResolution)

/-- The service of an operation, without what it returns. The staleness test of
    a drift compares field by field. -/
def PeerAction.service (P : Platform) : PeerAction → Service Unit Unit
  | .operation started => started.service P
  | .setEnabled peerId enabled reason => setPeerEnabled P peerId enabled reason
  | .enforceExpirations now => do let _ ← WireguardPanel.enforceExpirations P now
  | .pollTraffic routerId observedAt enforcedAt => do
    let _ ← pollRouterTraffic P routerId observedAt enforcedAt
  | .resetQuotaUsage peerId now => resetPeerQuotaUsage P peerId now
  | .temporarilyReenable peerId minutes now => temporarilyReenablePeer P peerId minutes now
  | .setBandwidthPolicy peerId input => do let _ ← setPeerBandwidthPolicy P peerId input
  | .sync routerId fresh now => do let _ ← syncRouter P routerId fresh now
  | .resolveDrift driftId resolution => resolveConfigurationDrift P sameFields driftId resolution

/-- The complete operations, one after the other, whichever of their calls fail.
    A step without an operation is anything that leaves the rows of the peers
    alone and stores no drift of a peer, such as a change of a router. -/
def installation (P : Platform) : System World (Option PeerAction) where
  step
    | some action, w, w' =>
      ∃ r, ((action.service P).start ()).Ends (World.environment P fun _ _ => True) w r w'
    | none, w, w' => w'.db.peers = w.db.peers ∧ KeepsDrifts w.db w'.db

variable {P : Platform} {w w' : World}

theorem endsPaired_service {action : PeerAction} (hw : w.db.Paired)
    (hdrifts : w.db.Without .peer) : EndsPaired P (action.service P) () w := by
  cases action with
  | operation started =>
    cases started with
    | create =>
      exact endsPaired_of_executes (executesPairs_createPeer.bind fun _ => executes_pure) hw
    | update => exact endsPaired_updatePeer hw
    | delete => exact endsPaired_of_executes executesPairs_deletePeer hw
    | regenerateKeys => exact endsPaired_of_executes executesPairs_regeneratePeerKeys hw
  | setEnabled => exact endsPaired_of_executes executesPairs_setPeerEnabled hw
  | enforceExpirations =>
    exact endsPaired_of_executes (executesPairs_enforceExpirations.bind fun _ => executes_pure) hw
  | pollTraffic =>
    exact endsPaired_of_executes (executesPairs_pollRouterTraffic.bind fun _ => executes_pure) hw
  | resetQuotaUsage => exact endsPaired_of_executes executesPairs_resetPeerQuotaUsage hw
  | temporarilyReenable => exact endsPaired_of_executes executesPairs_temporarilyReenablePeer hw
  | setBandwidthPolicy =>
    exact endsPaired_of_executes
      (executesPairs_setPeerBandwidthPolicy.bind fun _ => executes_pure) hw
  | sync => exact endsPaired_of_executes (executesPairs_syncRouter.bind fun _ => executes_pure) hw
  | resolveDrift => exact endsPaired_resolveConfigurationDrift hw hdrifts

/-- One step keeps the rows in agreement, and stores no drift of a peer. -/
theorem paired_of_step {action : Option PeerAction} (hw : w.db.Paired)
    (hdrifts : w.db.Without .peer) (hstep : (installation P).step action w w') :
    w'.db.Paired ∧ w'.db.Without .peer := by
  cases action with
  | none =>
    obtain ⟨hpeers, hkeeps⟩ : w'.db.peers = w.db.peers ∧ KeepsDrifts w.db w'.db := hstep
    exact ⟨fun p hp => hw p (hpeers ▸ hp), hkeeps _ nofun hdrifts⟩
  | some action =>
    obtain ⟨r, t, hrun⟩ := hstep
    have halways : ((action.service P).start ()).Always (World.environment P fun _ _ => True)
        (fun _ _ => True) (fun _ w' => w'.db.Paired) w :=
      Procedure.always_start.2 (endsPaired_service hw hdrifts)
    exact ⟨halways.ends hrun, without_of_ends ⟨t, hrun⟩ nofun hdrifts⟩

/-- In every state that an installation reaches, every row has a reason just if its peer is
    disabled. A new installation has neither peers nor drifts. -/
theorem paired_of_reaches (P : Platform) {w w' : World}
    (h : (installation P).Reaches (fun _ _ => True) w w') (hw : w.db.Paired)
    (hdrifts : w.db.Without .peer) : w'.db.Paired :=
  (h.invariant (I := fun w => w.db.Paired ∧ w.db.Without .peer) ⟨hw, hdrifts⟩
    fun _ _ _ ht _ hstep => paired_of_step ht.1 ht.2 hstep).1

/-! ### A run -/

/-- A complete operation is a step. -/
theorem installation_step {action : PeerAction} {decisions : List Decision}
    {r : Except AppError Unit} (h : (action.service P).run P decisions w = some (r, w')) :
    (installation P).step (some action) w w' :=
  ⟨r, Program.ends_of_run (fun d _ _ _ => ⟨d, trivial, rfl⟩) h⟩

/-- The peer is disabled by hand. -/
theorem paired_of_reaches_setEnabled :
    ∃ w', (installation Platform.plain).Reaches (fun _ _ => True)
        (plainWorld plainPeer plainPeer_check plainRemote) w' ∧
      w'.db.peers.rows.map PeerRow.disabled = [true] ∧ w'.db.Paired := by
  have hrows : (((PeerAction.setEnabled "p1" false .manual).service Platform.plain).run
      Platform.plain (List.replicate 6 {}) (plainWorld plainPeer plainPeer_check plainRemote)).map
        (fun outcome => outcome.2.db.peers.rows.map PeerRow.disabled) = some [true] := by
    decide +kernel
  obtain ⟨⟨r, w'⟩, hrun, hdisabled⟩ := Option.map_eq_some_iff.1 hrows
  have hreach : (installation Platform.plain).Reaches (fun _ _ => True)
      (plainWorld plainPeer plainPeer_check plainRemote) w' :=
    .tail (a := some (.setEnabled "p1" false .manual)) .refl trivial (installation_step hrun)
  exact ⟨w', hreach, hdisabled,
    paired_of_reaches Platform.plain hreach (by decide) (by decide)⟩

end WireguardPanel
