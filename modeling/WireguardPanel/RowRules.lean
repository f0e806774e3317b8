import WireguardPanel.Accounting
import WireguardPanel.ServiceCalls
import WireguardPanel.TransactionRules

/-!
# What the transactions keep of every row

A property of the rows of `peers` that a transaction leaves true: it is true of
what it inserts, and of a row that it has updated if it was of the row before.

* `KeepsRows`: every row has the property, if every row had it.
* `within_rows_updatePeer`, `within_rows_insertPeer` and the others: the
  statements.
* `rows_stagePeer`, `rows_recordObservation`, `within_rows_commitUpdate` and the
  others: the transactions.
-/

namespace WireguardPanel

open Foundation

/-- The change of a database leaves every row with the property `K`, and the
    settings alone. -/
structure KeepsRows (K : PeerRow → Prop) (db db' : Database) : Prop where
  settings : db'.settings = db.settings
  rows : (∀ p ∈ db.peers.rows, K p) → ∀ p ∈ db'.peers.rows, K p

instance (K : PeerRow → Prop) : IsPreorder Database (KeepsRows K) where
  refl _ := ⟨rfl, id⟩
  trans _ _ _ h h' := ⟨h'.settings.trans h.settings, h'.rows ∘ h.rows⟩

section Rows

variable {K : PeerRow → Prop}

/-! ## Statements -/

theorem within_rows_of_peers {α : Type} {tx : Tx α}
    (h : ∀ db a db', tx db = .ok (a, db') → db'.peers = db.peers ∧ db'.settings = db.settings) :
    Within (KeepsRows K) tx := fun db a db' htx =>
  ⟨(h db a db' htx).2, fun hrows p hp => hrows p ((h db a db' htx).1 ▸ hp)⟩

/-- A row that has been updated satisfies the constraints of the table. -/
theorem within_rows_updatePeer {id : String} {f : PeerRow → PeerRow}
    (hf : ∀ p, peerSchema.check (f p) = true → K p → K (f p)) :
    Within (KeepsRows K) (Tx.updatePeer id f) := fun db u db' htx => by
  obtain ⟨peers, rfl, hmap⟩ := Tx.updatePeer_ok htx
  refine ⟨rfl, fun hrows p' hp' => ?_⟩
  have hcheck := peers.check p' hp'
  rw [hmap] at hp'
  obtain ⟨p, hp, rfl⟩ := List.mem_map.1 hp'
  split_ifs at hcheck ⊢
  · exact hf p hcheck (hrows p hp)
  · exact hrows p hp

theorem within_rows_movePeer {id routerId interfaceId : String} {poolId : Option String}
    {f : PeerRow → PeerRow} (hf : ∀ p, peerSchema.check (f p) = true → K p → K (f p)) :
    Within (KeepsRows K) (Tx.movePeer id routerId interfaceId poolId f) := fun db u db' htx =>
  within_rows_updatePeer hf db u db' (Tx.movePeer_ok htx)

theorem within_rows_insertPeer {row : PeerRow} (hrow : peerSchema.check row = true → K row) :
    Within (KeepsRows K) (Tx.insertPeer row) := fun db u db' htx => by
  obtain ⟨peers, rfl, happend⟩ := Tx.insertPeer_ok htx
  refine ⟨rfl, fun hrows p hp => ?_⟩
  have hcheck := peers.check p hp
  rcases List.mem_append.1 (happend ▸ hp) with hp | hp
  · exact hrows p hp
  · obtain rfl := List.mem_singleton.1 hp
    exact hrow hcheck

theorem within_rows_insertHistory {row : PeerRow} {startedAt endedAt : ℤ} {reason : ResetReason} :
    Within (KeepsRows K) (Tx.insertHistory row startedAt endedAt reason) :=
  within_rows_of_peers fun db u db' htx => by
    obtain ⟨history, rfl⟩ := Tx.insertHistory_ok htx
    exact ⟨rfl, rfl⟩

theorem within_rows_releasePeerPoolAddress {peerId : String} :
    Within (KeepsRows K) (releasePeerPoolAddress peerId) :=
  within_rows_of_peers fun db u db' htx => by
    rw [Tx.deleteAddresses_ok htx]
    exact ⟨rfl, rfl⟩

theorem within_rows_releaseStagedPeer {peerId : String} :
    Within (KeepsRows K) (releaseStagedPeer peerId) :=
  within_rows_releasePeerPoolAddress.bind fun _ db u db' htx => by
    have hpeers := (Tx.deletePeer_ok htx).1
    obtain ⟨addresses, -, hrest⟩ := Tx.statement_bind_ok.1 htx
    cases Tx.return_eq_ok.1 hrest
    exact ⟨rfl, fun hrows p hp => hrows p (List.mem_of_mem_filter (hpeers ▸ hp))⟩

variable {P : Platform}

theorem within_rows_claimPoolAddress {pool : WireGuardPool} {ip peerId name : String} :
    Within (KeepsRows K) (claimPoolAddress P pool ip peerId name) :=
  within_castInet.bind fun _ =>
    (within_rows_of_peers fun db a db' htx => by
      rw [Tx.deleteAddresses_ok htx]
      exact ⟨rfl, rfl⟩).bind fun _ =>
    within_rows_of_peers fun db a db' htx => by
      obtain ⟨addresses, rfl, -⟩ := Tx.insertAddress_ok htx
      exact ⟨rfl, rfl⟩

/-! ## Transactions -/

/-- The staging of a peer inserts a row with the window of its quota period,
    which is that of the policy that is stored. -/
theorem rows_stagePeer {input : CreatePeerInput} {peerId operationId : String}
    {router : RouterRow} {interface : InterfaceRow} {keys : WireGuardKeys}
    {listing : Except AppError (List RemoteWireGuardPeer)} {now : ℤ} {db db' : Database}
    {staged : StagedPeer}
    (hrow : ∀ window pool clientIp, stagedWindow P input db.settings.quotaPolicy now = .ok window →
      peerSchema.check
        (stagedRow P input peerId router interface pool keys clientIp window) = true →
        K (stagedRow P input peerId router interface pool keys clientIp window))
    (htx : stagePeer P input peerId operationId router interface keys listing now db =
      .ok (staged, db')) : KeepsRows K db db' := by
  obtain ⟨pool, db₁, hlock, htx⟩ := Tx.bind_eq_ok.1 htx
  obtain rfl := within_lockPoolForPeer (R := Eq) db _ db₁ hlock
  obtain ⟨remotePeers, -, htx⟩ := Tx.ofExcept_bind_ok.1 htx
  obtain ⟨clientIp, db₂, hchoose, htx⟩ := Tx.bind_eq_ok.1 htx
  obtain rfl := within_choosePoolAddress (R := Eq) db _ db₂ hchoose
  rw [stageChosen, Tx.get_bind] at htx
  obtain ⟨window, hwindow, htx⟩ := Tx.ofExcept_bind_ok.1 htx
  have hinsert : Within (KeepsRows K) (Tx.insertPeer
      (stagedRow P input peerId router interface pool keys clientIp window)) :=
    within_rows_insertPeer (hrow window pool clientIp hwindow)
  refine hinsert.bind (fun _ => within_rows_claimPoolAddress.bind fun _ => Within.bind
    (within_rows_of_peers fun db u db' htx => ?_) fun _ => within_pure) db staged db' htx
  cases htx
  exact ⟨rfl, rfl⟩

/-- A poll changes the row that it has locked. -/
theorem rows_recordObservation {peerId : String} {remote : RemoteWireGuardPeer}
    {policy : QuotaPolicy} {onlineSeconds sampleSeconds now : ℤ} {db db' : Database}
    {result : Observation}
    (hstored : ∀ c : Counted, c.remote = remote → c.now = now → db.peer peerId = some c.peer →
      (∃ db₁, rollPeriod P c.peer policy now db = .ok (c.rolled, db₁)) → K c.peer →
        K (c.stored sampleSeconds))
    (htx : recordObservation P peerId remote policy onlineSeconds sampleSeconds now db =
      .ok (result, db')) : KeepsRows K db db' := by
  obtain ⟨c, -, hremote, hnow, hpeer, hroll, hsettings, -, -, hafter⟩ := recordObservation_ok htx
  refine ⟨hsettings, fun hrows p hp => ?_⟩
  have hlookup : db'.peer p.id = some p := Database.peer_eq_some hp
  rw [hafter] at hlookup
  split_ifs at hlookup with hid
  · cases hlookup
    exact hstored c hremote hnow hpeer hroll (hrows c.peer (Database.peer_spec hpeer).1)
  · exact hrows p (Database.peer_spec hlookup).1

theorem within_rows_resetQuota {row : PeerRow} {windowEnd : Option ℤ}
    {observed : RemoteWireGuardPeer} {now : ℤ}
    (hreset : ∀ p q, peerSchema.check q = true → K p → q.accounting = { p.accounting with
      periodRxBytes := 0, periodTxBytes := 0, quotaPeriodStartedAt := some now
      quotaPeriodEndsAt := windowEnd, quotaReachedAt := none, quotaUsageWhenDisabled := none
      quotaBypassUntil := none } → K q) :
    Within (KeepsRows K) (resetQuota P row windowEnd observed now) := by
  unfold resetQuota
  dsimp only
  split
  on_goal 1 => refine within_rows_insertHistory.bind fun _ => ?_
  all_goals exact within_rows_updatePeer fun p hcheck hp => hreset p _ hcheck hp rfl

theorem within_rows_commitUpdate {c : PeerCommit} {now : ℤ}
    (hassign : ∀ confirmed p, peerSchema.check (c.assign P confirmed p) = true → K p →
      K (c.assign P confirmed p)) : Within (KeepsRows K) (commitUpdate P c now) := by
  have hrest : ∀ pool confirmed, Within (KeepsRows K) (do
      Tx.movePeer c.row.id c.input.routerId c.input.interfaceId (some c.input.poolId)
        (c.assign P confirmed)
      releasePeerPoolAddress c.row.id
      claimPoolAddress P pool confirmed c.row.id c.input.name) := fun _ confirmed =>
    (within_rows_movePeer (hassign confirmed)).bind fun _ =>
      within_rows_releasePeerPoolAddress.bind fun _ => within_rows_claimPoolAddress
  refine within_lockPoolForPeer.bind fun pool => within_choosePoolAddress.bind fun confirmed => ?_
  dsimp only
  split
  · exact within_rows_insertHistory.bind fun _ => hrest _ _
  · exact within_throw.bind fun _ => hrest _ _
  · exact hrest _ _

/-! ## Statements of the services -/

/-- A statement changes the database as `KeepsRows` says. -/
def Statement.KeepsRows (P : Platform) (K : PeerRow → Prop) (s : Statement) : Prop :=
  ∀ now id, Within (WireguardPanel.KeepsRows K) (s.tx P now id)

/-- A statement leaves `I` true of the database. -/
def Statement.Keeps (P : Platform) (I : Database → Prop) (s : Statement) : Prop :=
  ∀ now id db a db', I db → s.tx P now id db = .ok (a, db') → I db'

/-- Since a service has begun with the database `db`. -/
theorem Statement.KeepsRows.keeps {s : Statement} {db : Database} (h : s.KeepsRows P K) :
    s.Keeps P (WireguardPanel.KeepsRows K db) := fun now id db₁ a db₂ hdb htx =>
  IsTrans.trans _ _ _ hdb (h now id db₁ a db₂ htx)

theorem keepsRows_operation {operationId : String} {s : Statement}
    (h : s.OfOperation operationId) : s.KeepsRows P K := by
  cases s with
  | operationStep | finishOperation | failOperation =>
    refine fun now id => within_rows_of_peers fun db a db' htx => ?_
    cases htx
    exact ⟨rfl, rfl⟩
  | _ => exact h.elim

theorem keepsRows_startOperation {operationType : String} {routerId peerId : Option String}
    {context : Json} :
    (Statement.startOperation operationType routerId peerId context).KeepsRows P K :=
  fun now id => within_rows_of_peers fun db a db' htx => by
    rw [(Tx.insertOperation_ok htx).2.2]
    exact ⟨rfl, rfl⟩

theorem keepsRows_systemAudit {action peerId : String} :
    (Statement.systemAudit action peerId).KeepsRows P K :=
  fun now id => within_rows_of_peers fun db a db' htx => by
    rw [Tx.insertAudit_ok htx]
    exact ⟨rfl, rfl⟩

theorem keepsRows_confirmAddress {poolId routerId interfaceId clientIp excludePeerId : String}
    {remotePeers : List RemoteWireGuardPeer} : (Statement.confirmAddress poolId routerId interfaceId
      remotePeers clientIp excludePeerId).KeepsRows P K :=
  fun _ _ => within_confirmAddress

theorem keepsRows_releaseStagedPeer {peerId : String} :
    (Statement.releaseStagedPeer peerId).KeepsRows P K :=
  fun _ _ => within_rows_releaseStagedPeer

theorem keepsRows_recoverUpdate {row : PeerRow} {input : UpdatePeerInput}
    {recovery : RemoteWireGuardPeer} {recoveryIp : String}
    (hK : ∀ p q : PeerRow, K p → q.accounting = p.accounting → K q) :
    (Statement.recoverUpdate row input recovery recoveryIp).KeepsRows P K := fun now id =>
  within_lockPoolForPeer.bind fun _ => within_rows_releasePeerPoolAddress.bind fun _ =>
    (within_rows_movePeer fun p _ hp => by exact hK p _ hp rfl).bind fun _ =>
    within_rows_claimPoolAddress

theorem keepsRows_bandwidth {peerId : String} {s : Statement} (h : s.OfBandwidth peerId)
    (hK : ∀ p q : PeerRow, K p → q.accounting = p.accounting → K q) : s.KeepsRows P K := by
  cases s with
  | updatePeer _ update =>
    cases update with
    | bandwidth =>
      exact fun now id => within_rows_updatePeer fun p _ hp => hK p _ hp rfl
    | _ => exact h.elim
  | deleteManagedQueue =>
    refine fun now id => within_rows_of_peers fun db a db' htx => ?_
    cases htx
    exact ⟨rfl, rfl⟩
  | storeManagedQueue row =>
    refine fun now id => within_rows_of_peers fun db a db' htx => ?_
    change Tx.upsertManagedObject row db = _ at htx
    unfold Tx.upsertManagedObject at htx
    split at htx
    · exact absurd htx nofun
    · obtain ⟨managedObjects, -, hrest⟩ := Tx.statement_bind_ok.1 htx
      cases Tx.return_eq_ok.1 hrest
      exact ⟨rfl, rfl⟩
  | _ => exact h.elim

end Rows

end WireguardPanel
