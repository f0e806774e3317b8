import WireguardPanel.Calls
import WireguardPanel.TransactionRules

/-!
# The drifts that are stored

The statements that insert a drift of a peer, or of the queue of a peer, are
rejected by the database. So only drifts of interfaces are ever stored, whatever
the services do.

* `Database.Without`: there is no drift of a type.
* `KeepsDrifts`: no drift is new but those of interfaces.
* `Statement.within_drifts`: no statement adds another one.
* `without_of_ends`: nor does any program.
-/

namespace WireguardPanel

open Foundation

/-- There is no drift of an object of the type. -/
def Database.Without (db : Database) (objectType : DriftObjectType) : Prop :=
  ∀ d ∈ db.drifts.rows, d.objectType ≠ objectType

instance (db : Database) (objectType : DriftObjectType) : Decidable (db.Without objectType) :=
  inferInstanceAs (Decidable (∀ d ∈ db.drifts.rows, _))

/-- The change of a database adds no drift of another type than that of interfaces. -/
def KeepsDrifts (db db' : Database) : Prop :=
  ∀ objectType, objectType ≠ .interface → db.Without objectType → db'.Without objectType

instance : IsPreorder Database KeepsDrifts where
  refl _ := fun _ _ => id
  trans _ _ _ h h' := fun objectType hne => h' objectType hne ∘ h objectType hne

/-! ## Statements -/

theorem within_drifts_of_eq {α : Type} {tx : Tx α}
    (h : ∀ db a db', tx db = .ok (a, db') → db'.drifts = db.drifts) : Within KeepsDrifts tx :=
  fun db a db' htx _ _ hdb d hd => hdb d (h db a db' htx ▸ hd)

theorem within_drifts_updateDrifts {f : DriftRow → DriftRow}
    (hf : ∀ d, (f d).objectType = d.objectType) : Within KeepsDrifts (Tx.updateDrifts f) :=
  fun db u db' htx _ _ hdb d' hd' => by
    obtain ⟨drifts, rfl, hrows⟩ := Tx.updateDrifts_ok htx
    obtain ⟨d, hd, rfl⟩ := List.mem_map.1 (hrows ▸ hd')
    rw [hf]
    exact hdb d hd

theorem within_drifts_dismissDrifts {objectType : DriftObjectType} {objectId : String} {now : ℤ} :
    Within KeepsDrifts (Tx.dismissDrifts objectType objectId now) :=
  within_drifts_updateDrifts fun d => by split_ifs <;> rfl

/-- A drift of an interface may be inserted. -/
theorem within_drifts_upsertDrift {row : DriftRow} (hrow : row.objectType = .interface) :
    Within KeepsDrifts (Tx.upsertDrift row) := fun db u db' htx => by
  unfold Tx.upsertDrift at htx
  split at htx
  · exact within_drifts_updateDrifts (fun d => by split_ifs <;> rfl) db u db' htx
  -- Nothing is open for the object, and a row is inserted.
  · intro objectType hne hdb d hd
    obtain ⟨drifts, rfl, hrows⟩ := Tx.insertDrift_ok htx
    rcases List.mem_append.1 (hrows ▸ hd) with hd | hd
    · exact hdb d hd
    · rw [List.mem_singleton.1 hd, hrow]
      exact hne.symm

/-- The statement with which a drift of a peer is inserted is rejected before it does anything. -/
theorem within_peerDriftIdTypes {R : Database → Database → Prop} {α : Type} {f : Unit → Tx α} :
    Within R (Tx.deduceParameter peerDriftIdTypes >>= f) := fun db a db' htx => by
  rw [Tx.deduceParameter_peerDriftIdTypes] at htx
  exact absurd htx Tx.throw_bind_ne_ok

theorem within_drifts_updatePeer {id : String} {f : PeerRow → PeerRow} :
    Within KeepsDrifts (Tx.updatePeer id f) := within_drifts_of_eq fun db u db' htx => by
  obtain ⟨peers, rfl, -⟩ := Tx.updatePeer_ok htx
  rfl

theorem within_drifts_movePeer {id routerId interfaceId : String} {poolId : Option String}
    {f : PeerRow → PeerRow} : Within KeepsDrifts (Tx.movePeer id routerId interfaceId poolId f) :=
  fun db u db' htx => within_drifts_updatePeer db u db' (Tx.movePeer_ok htx)

theorem within_drifts_insertPeer {row : PeerRow} : Within KeepsDrifts (Tx.insertPeer row) :=
  within_drifts_of_eq fun db u db' htx => by
    obtain ⟨peers, rfl, -⟩ := Tx.insertPeer_ok htx
    rfl

/-- The drifts of a peer are deleted with it. -/
theorem within_drifts_deletePeer {id : String} : Within KeepsDrifts (Tx.deletePeer id) :=
  fun db u db' htx objectType _ hdb d hd => by
    obtain ⟨addresses, -, hrest⟩ := Tx.statement_bind_ok.1 htx
    cases Tx.return_eq_ok.1 hrest
    exact hdb d (List.mem_of_mem_filter hd)

theorem within_drifts_releasePeerPoolAddress {peerId : String} :
    Within KeepsDrifts (releasePeerPoolAddress peerId) :=
  within_drifts_of_eq fun db u db' htx => by rw [Tx.deleteAddresses_ok htx]

theorem within_drifts_insertHistory {row : PeerRow} {startedAt endedAt : ℤ} {reason : ResetReason} :
    Within KeepsDrifts (Tx.insertHistory row startedAt endedAt reason) :=
  within_drifts_of_eq fun db u db' htx => by
    obtain ⟨history, rfl⟩ := Tx.insertHistory_ok htx
    rfl

theorem within_drifts_updateInterface {id : String} {f : InterfaceRow → InterfaceRow} :
    Within KeepsDrifts (Tx.updateInterface id f) := within_drifts_of_eq fun db u db' htx => by
  obtain ⟨interfaces, rfl, -⟩ := Tx.updateInterface_ok htx
  rfl

variable {P : Platform}

theorem within_drifts_claimPoolAddress {pool : WireGuardPool} {ip peerId name : String} :
    Within KeepsDrifts (claimPoolAddress P pool ip peerId name) :=
  within_castInet.bind fun _ =>
    (within_drifts_of_eq fun db a db' htx => by rw [Tx.deleteAddresses_ok htx]).bind fun _ =>
    within_drifts_of_eq fun db a db' htx => by
      obtain ⟨addresses, rfl, -⟩ := Tx.insertAddress_ok htx
      rfl

/-! ## Transactions -/

theorem within_drifts_recordObservation {peerId : String} {remote : RemoteWireGuardPeer}
    {policy : QuotaPolicy} {onlineSeconds sampleSeconds now : ℤ} : Within KeepsDrifts
      (recordObservation P peerId remote policy onlineSeconds sampleSeconds now) := by
  refine within_get.bind fun db => within_orThrow.bind fun peer => ?_
  refine Within.bind (within_drifts_of_eq fun db rolled db' htx => ?_) fun rolled => ?_
  · obtain ⟨history, audits, rfl, -⟩ := rollPeriod_ok htx
    rfl
  refine within_drifts_updatePeer.bind fun _ => Within.bind (fun db u db' htx => ?_)
    fun _ => within_pure
  rcases storeSnapshot_ok htx with ⟨-, rfl⟩ | ⟨-, hupdate⟩
  · exact Std.Refl.refl _
  · exact fun objectType hne hdb => within_drifts_updatePeer _ _ _ hupdate objectType hne hdb

theorem within_drifts_resetQuota {row : PeerRow} {windowEnd : Option ℤ}
    {observed : RemoteWireGuardPeer} {now : ℤ} :
    Within KeepsDrifts (resetQuota P row windowEnd observed now) := by
  unfold resetQuota
  dsimp only
  split
  · exact within_drifts_insertHistory.bind fun _ => within_drifts_updatePeer
  · exact within_drifts_updatePeer

theorem within_drifts_stagePeer {input : CreatePeerInput} {peerId operationId : String}
    {router : RouterRow} {interface : InterfaceRow} {keys : WireGuardKeys}
    {listing : Except AppError (List RemoteWireGuardPeer)} {now : ℤ} :
    Within KeepsDrifts
      (stagePeer P input peerId operationId router interface keys listing now) := by
  refine within_lockPoolForPeer.bind fun pool => within_ofExcept.bind fun remotePeers => ?_
  refine within_choosePoolAddress.bind fun clientIp => within_get.bind fun db => ?_
  refine within_ofExcept.bind fun window => within_drifts_insertPeer.bind fun _ => ?_
  exact within_drifts_claimPoolAddress.bind fun _ => Within.bind
    (within_drifts_of_eq fun db u db' htx => by cases htx; rfl) fun _ => within_pure

theorem within_drifts_commitUpdate {c : PeerCommit} {now : ℤ} :
    Within KeepsDrifts (commitUpdate P c now) := by
  have hrest : ∀ pool confirmed, Within KeepsDrifts (do
      Tx.movePeer c.row.id c.input.routerId c.input.interfaceId (some c.input.poolId)
        (c.assign P confirmed)
      releasePeerPoolAddress c.row.id
      claimPoolAddress P pool confirmed c.row.id c.input.name) := fun _ _ =>
    within_drifts_movePeer.bind fun _ => within_drifts_releasePeerPoolAddress.bind fun _ =>
      within_drifts_claimPoolAddress
  refine within_lockPoolForPeer.bind fun pool => within_choosePoolAddress.bind fun confirmed => ?_
  dsimp only
  split
  · exact within_drifts_insertHistory.bind fun _ => hrest _ _
  · exact within_throw.bind fun _ => hrest _ _
  · exact hrest _ _

theorem within_drifts_archiveAndDelete {row : PeerRow} :
    Within KeepsDrifts (archiveAndDelete row) :=
  (within_drifts_of_eq fun db a db' htx => by cases htx; rfl).bind fun _ =>
    within_drifts_releasePeerPoolAddress.bind fun _ =>
    (within_drifts_of_eq fun db a db' htx => by cases htx; rfl).bind fun _ =>
    within_drifts_deletePeer

theorem within_drifts_prepareGlobalBandwidth {input : GlobalBandwidthInput} :
    Within KeepsDrifts (prepareGlobalBandwidth input) := by
  refine within_get.bind fun db => within_require.bind fun _ => ?_
  dsimp only
  split
  · exact within_pure
  · refine Within.bind (within_drifts_of_eq fun db u db' htx => ?_) fun _ =>
      (within_drifts_of_eq fun db u db' htx => by cases htx; rfl).bind fun _ => within_pure
    obtain ⟨peers, -, hrest⟩ := Tx.statement_bind_ok.1 htx
    cases Tx.return_eq_ok.1 hrest
    rfl

theorem within_drifts_adoptInterface {interface : InterfaceRow}
    {applied : RemoteWireGuardInterface} :
    Within KeepsDrifts (adoptInterface P interface applied) := by
  refine within_drifts_updateInterface.bind fun _ => ?_
  split
  · refine within_drifts_of_eq fun db u db' htx => ?_
    cases htx
    rfl
  · exact within_pure

/-! ### Synchronisations -/

section Sync

variable {routerId : String} {fresh : FreshIds} {listing : SyncListing} {progress : SyncProgress}

theorem within_drifts_syncInterface {existing : List InterfaceRow}
    {item : RemoteWireGuardInterface} :
    Within KeepsDrifts (syncInterface P routerId fresh listing existing progress item) := by
  unfold syncInterface
  split
  · refine Within.bind (within_drifts_of_eq fun db u db' htx => ?_) fun _ => within_pure
    obtain ⟨interfaces, rfl, -⟩ := Tx.insertInterface_ok htx
    rfl
  · split_ifs
    · exact within_drifts_updateInterface.bind fun _ =>
        (within_drifts_upsertDrift rfl).bind fun _ => within_pure
    · exact within_drifts_updateInterface.bind fun _ =>
        within_drifts_dismissDrifts.bind fun _ => within_pure

theorem within_drifts_importPeer {interfaceId fingerprint newId : String}
    {remote : RemoteWireGuardPeer} {onlineSeconds now : ℤ} : Within KeepsDrifts
      (importPeer P routerId interfaceId remote fingerprint onlineSeconds newId now) := by
  refine within_drifts_of_eq fun db u db' htx => ?_
  rcases importPeer_ok htx with ⟨-, rfl⟩ | ⟨db₁, hinsert, hplace⟩
  · rfl
  · obtain ⟨peers, rfl, -⟩ := Tx.insertPeer_ok hinsert
    rcases hplace with rfl | ⟨poolId, db₂, hupdate, addresses, rfl⟩
    · rfl
    · obtain ⟨peers', rfl, -⟩ := Tx.updatePeer_ok hupdate
      rfl

/-- A peer that has changed lets the synchronisation fail. -/
theorem within_drifts_syncPeer {existing : List ExistingPeer} {remote : RemoteWireGuardPeer} :
    Within KeepsDrifts (syncPeer P routerId fresh listing existing progress remote) := by
  unfold syncPeer
  split
  · exact within_pure
  · split
    · exact within_drifts_importPeer.bind fun _ => within_pure
    · refine within_drifts_updatePeer.bind fun _ => ?_
      split
      -- The peer has changed: its drift cannot be inserted.
      · exact within_peerDriftIdTypes
      · exact within_drifts_dismissDrifts.bind fun _ => within_pure

theorem within_drifts_syncMissing {remoteIds : List String} {peer : ExistingPeer} :
    Within KeepsDrifts (syncMissing remoteIds progress peer) := by
  unfold syncMissing
  split
  · exact within_pure
  · exact within_drifts_updatePeer.bind fun _ => within_pure

theorem within_drifts_syncTransaction :
    Within KeepsDrifts (syncTransaction P routerId fresh listing) := by
  refine within_get.bind fun before => ?_
  refine (within_foldlM fun _ _ _ => within_drifts_syncInterface).bind fun progress => ?_
  refine within_get.bind fun db => ?_
  refine (within_foldlM fun _ _ _ => within_drifts_syncPeer).bind fun progress => ?_
  exact (within_foldlM fun _ _ _ => within_drifts_syncMissing).bind fun _ => within_pure

end Sync

/-! ### All statements -/

theorem Statement.within_drifts (s : Statement) (now : ℤ) (id : String) :
    Within KeepsDrifts (s.tx P now id) := by
  cases s with
  | updatePeer => exact within_drifts_updatePeer
  | startOperation =>
    exact within_drifts_of_eq fun db a db' htx => by rw [(Tx.insertOperation_ok htx).2.2]
  | operationStep | finishOperation | failOperation | finishReconciledFailure | deleteManagedQueue
  | unreachablePeers | unreachableInterfaces =>
    refine within_drifts_of_eq fun db a db' htx => ?_
    cases htx
    rfl
  | systemAudit => exact within_drifts_of_eq fun db a db' htx => by rw [Tx.insertAudit_ok htx]
  | recordObservation => exact within_drifts_recordObservation
  | resetQuota => exact within_drifts_resetQuota
  | stagePeer => exact within_drifts_stagePeer
  | releaseStagedPeer =>
    exact within_drifts_releasePeerPoolAddress.bind fun _ => within_drifts_deletePeer
  | confirmAddress => exact within_confirmAddress
  | commitUpdate => exact within_drifts_commitUpdate
  | recoverUpdate =>
    exact within_lockPoolForPeer.bind fun _ => within_drifts_releasePeerPoolAddress.bind fun _ =>
      within_drifts_movePeer.bind fun _ => within_drifts_claimPoolAddress
  | archiveAndDelete => exact within_drifts_archiveAndDelete
  | removeStagedPeer =>
    refine within_drifts_releasePeerPoolAddress.bind fun _ =>
      Within.bind (within_drifts_of_eq fun db a db' htx => ?_) fun _ => within_drifts_deletePeer
    cases htx
    rfl
  | storeManagedQueue row =>
    refine within_drifts_of_eq fun db a db' htx => ?_
    change Tx.upsertManagedObject row db = _ at htx
    unfold Tx.upsertManagedObject at htx
    split at htx
    · exact absurd htx nofun
    · obtain ⟨managedObjects, -, hrest⟩ := Tx.statement_bind_ok.1 htx
      cases Tx.return_eq_ok.1 hrest
      rfl
  | sync => exact within_drifts_syncTransaction
  | startSyncRun routerId =>
    refine within_drifts_of_eq fun db a db' htx => ?_
    change Tx.insertSyncRun routerId db = _ at htx
    unfold Tx.insertSyncRun at htx
    split_ifs at htx
    cases htx
    rfl
  | finishSyncRun | routerStatus => exact within_pure
  | bandwidthDrift => exact within_get.bind fun _ => within_peerDriftIdTypes
  | dismissDrift => exact within_drifts_dismissDrifts
  | prepareGlobalBandwidth => exact within_drifts_prepareGlobalBandwidth
  | adoptRouterState =>
    exact within_lockPoolForPeer.bind fun _ => within_choosePoolAddress.bind fun _ =>
      within_drifts_releasePeerPoolAddress.bind fun _ => within_drifts_claimPoolAddress.bind
        fun _ => within_drifts_updatePeer
  | adoptQueue =>
    refine within_drifts_updatePeer.bind fun _ => within_drifts_of_eq fun db u db' htx => ?_
    cases htx
    rfl
  | adoptInterface => exact within_drifts_adoptInterface
  | resolveDrift => exact within_drifts_updateDrifts fun d => by split_ifs <;> rfl

/-! ## Programs -/

variable {faults : Call → Fault → Prop} {w w' : World} {objectType : DriftObjectType}

/-- No call of a service stores a drift of another type than that of interfaces. -/
theorem without_of_call {c : Call} {r : Except AppError c.Result}
    (h : World.environment P faults c w r w') (htype : objectType ≠ .interface)
    (hw : w.db.Without objectType) : w'.db.Without objectType := by
  cases c with
  | query read => rwa [(Service.environment_query h).1]
  | execute s =>
    rcases Service.environment_execute h with ⟨now, id, a, db, htx, -, rfl⟩ | ⟨rfl, -⟩
    · exact s.within_drifts now id _ _ _ htx objectType htype hw
    · exact hw
  | request routerId q =>
    rcases Service.environment_request h with ⟨id, a, content, -, -, rfl⟩ | ⟨rfl, -⟩
    · exact hw
    · exact hw

/-- Whatever program is run, no drift of a peer or a queue is stored. -/
theorem without_of_ends {α : Type} {p : Program Call (fun c => Except AppError c.Result) α} {a : α}
    (h : p.Ends (World.environment P faults) w a w') (htype : objectType ≠ .interface)
    (hw : w.db.Without objectType) : w'.db.Without objectType := by
  obtain ⟨t, hrun⟩ := h
  exact hrun.keeps (I := fun w => w.db.Without objectType)
    (fun _ _ _ _ hcall => without_of_call hcall htype) hw

end WireguardPanel
