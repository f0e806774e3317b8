import WireguardPanel.ServiceRules
import WireguardPanel.TransactionRules

/-!
# What transactions do to a peer

A peer has a row, pool addresses and archives. The transactions that other
peers, a synchronisation or the logs need leave all of them where they are; the
transaction of a deletion removes the row and the addresses, and archives them.

* `Kept`, `Archived`: the two.
* `within_syncTransaction`, `within_archiveAndDelete` and the others: the
  transactions that keep a peer.
* `archived_archiveAndDelete`: the transaction that does not.
-/

namespace WireguardPanel

open Foundation

/-! ## What is kept of a peer -/

/-- The pool addresses of a peer. -/
def Database.peerAddresses (db : Database) (id : String) : List PoolAddressRow :=
  db.addresses.rows.filter fun a => a.peerId = some id

/-- The archives of a peer. -/
def Database.peerArchives (db : Database) (id : String) : List PeerArchiveRow :=
  db.archives.filter fun a => a.peerId = id

/-- The row of a peer is where it was, with its addresses and its archives. -/
structure Untouched (id : String) (db db' : Database) : Prop where
  present : (db'.peer id).isSome = (db.peer id).isSome
  addresses : db'.peerAddresses id = db.peerAddresses id
  archives : db'.peerArchives id = db.peerArchives id

/-- The row of a peer and its addresses are removed, and it is archived once. -/
structure Archived (id : String) (db db' : Database) : Prop where
  present : (db.peer id).isSome = true
  absent : db'.peer id = none
  addresses : db'.peerAddresses id = []
  archives : ∃ archive, db'.peerArchives id = db.peerArchives id ++ [archive]

/-- The operations that created a peer have the identifiers `creations`, and
    none of them has stopped half-way. -/
structure Settled (id : String) (creations : List String) (db : Database) : Prop where
  known : ∀ c ∈ creations, ∃ o ∈ db.operations, o.id = c
  listed : ∀ o ∈ db.operations, o.operationType = "peer_create" → o.peerId = some id →
    o.id ∈ creations
  done : ∀ o ∈ db.operations, o.id ∈ creations → ¬o.status.Pending

/-- A transaction that leaves a peer where it is, and its creation settled. -/
structure Kept (id : String) (creations : List String) (db db' : Database) : Prop where
  untouched : Untouched id db db'
  settled : Settled id creations db → Settled id creations db'

section Kept

variable {id : String} {creations : List String} {db db' : Database}

instance : IsPreorder Database (Kept id creations) where
  refl _ := ⟨⟨rfl, rfl, rfl⟩, fun h => h⟩
  trans _ _ _ h h' :=
    ⟨⟨h'.untouched.present.trans h.untouched.present,
      h'.untouched.addresses.trans h.untouched.addresses,
      h'.untouched.archives.trans h.untouched.archives⟩, h'.settled ∘ h.settled⟩

/-- A transaction that changes no row of the peer and no operation. -/
theorem Kept.of_eq (hpeer : (db'.peer id).isSome = (db.peer id).isSome)
    (haddresses : db'.peerAddresses id = db.peerAddresses id)
    (harchives : db'.archives = db.archives) (hoperations : db'.operations = db.operations) :
    Kept id creations db db' where
  untouched := ⟨hpeer, haddresses, by rw [Database.peerArchives, harchives]; rfl⟩
  settled h := by
    obtain ⟨hknown, hlisted, hdone⟩ := h
    rw [← hoperations] at hknown hlisted hdone
    exact ⟨hknown, hlisted, hdone⟩

/-- A transaction that changes operations only. -/
theorem Kept.of_operations {operations : List OperationRow}
    (h : Settled id creations db → Settled id creations { db with operations }) :
    Kept id creations db { db with operations } :=
  ⟨⟨rfl, rfl, rfl⟩, h⟩

end Kept

/-! ## Statements -/

section Statements

variable {id : String} {creations : List String}

theorem within_updatePeer {peerId : String} {f : PeerRow → PeerRow} (hf : ∀ p, (f p).id = p.id) :
    Within (Kept id creations) (Tx.updatePeer peerId f) := fun db u db' h => by
  have hpeer := Tx.peer_updatePeer hf h id
  obtain ⟨peers, rfl, -⟩ := Tx.updatePeer_ok h
  refine .of_eq ?_ rfl rfl rfl
  rw [hpeer]
  split_ifs
  · exact Option.isSome_map
  · rfl

theorem within_insertPeer {row : PeerRow} (hrow : row.id ≠ id) :
    Within (Kept id creations) (Tx.insertPeer row) := fun db u db' h => by
  obtain ⟨peers, rfl, hrows⟩ := Tx.insertPeer_ok h
  refine .of_eq (congrArg Option.isSome ?_) rfl rfl rfl
  rw [Database.peer, hrows, List.find?_append, List.find?_singleton]
  simp [hrow, Database.peer]

theorem within_insertFreeAddress {row : PoolAddressRow} (hrow : row.peerId ≠ some id) :
    Within (Kept id creations) (Tx.insertFreeAddress row) := fun db u db' h => by
  rcases Tx.insertFreeAddress_ok h with ⟨rfl, -⟩ | ⟨addresses, rfl, hrows⟩
  · exact Std.Refl.refl _
  · refine .of_eq rfl ?_ rfl rfl
    simp [Database.peerAddresses, hrows, hrow]

theorem within_upsertDrift {row : DriftRow} :
    Within (Kept id creations) (Tx.upsertDrift row) := fun db u db' h => by
  obtain ⟨drifts, rfl⟩ := Tx.upsertDrift_ok h
  exact .of_eq rfl rfl rfl rfl

theorem within_dismissDrifts {objectType : DriftObjectType} {objectId : String} {now : ℤ} :
    Within (Kept id creations) (Tx.dismissDrifts objectType objectId now) := fun db u db' h => by
  obtain ⟨drifts, rfl⟩ := Tx.dismissDrifts_ok h
  exact .of_eq rfl rfl rfl rfl

theorem within_insertInterface {row : InterfaceRow} :
    Within (Kept id creations) (Tx.insertInterface row) := fun db u db' h => by
  obtain ⟨interfaces, rfl, -⟩ := Tx.insertInterface_ok h
  exact .of_eq rfl rfl rfl rfl

theorem within_updateInterface {interfaceId : String} {f : InterfaceRow → InterfaceRow} :
    Within (Kept id creations) (Tx.updateInterface interfaceId f) := fun db u db' h => by
  obtain ⟨interfaces, rfl, -⟩ := Tx.updateInterface_ok h
  exact .of_eq rfl rfl rfl rfl

theorem within_deleteManagedObjects {p : ManagedObjectRow → Bool} :
    Within (Kept id creations) (Tx.deleteManagedObjects p) := fun db u db' h => by
  cases h
  exact .of_eq rfl rfl rfl rfl

/-- An operation is started under an identifier that is not in use. -/
theorem within_insertOperation {row : OperationRow} (hrow : row.operationType ≠ "peer_create") :
    Within (Kept id creations) (Tx.insertOperation row) := fun db a db' h => by
  obtain ⟨-, hused, rfl⟩ := Tx.insertOperation_ok h
  refine .of_operations fun hsettled => ⟨fun c hc => ?_, fun o ho htype hpeer => ?_,
    fun o ho hmem => ?_⟩
  · obtain ⟨o, ho, hid⟩ := hsettled.known c hc
    exact ⟨o, List.mem_append_left _ ho, hid⟩
  · rcases List.mem_append.1 ho with ho | ho
    · exact hsettled.listed o ho htype hpeer
    · obtain rfl := List.mem_singleton.1 ho
      exact absurd htype hrow
  · rcases List.mem_append.1 ho with ho | ho
    · exact hsettled.done o ho hmem
    · obtain rfl := List.mem_singleton.1 ho
      obtain ⟨other, hother, hid⟩ := hsettled.known _ hmem
      exact absurd ⟨other, hother, hid⟩ hused

/-- A change of an operation keeps a creation settled if it does not make it
    stop half-way. -/
theorem within_updateOperation {operationId : String} {f : OperationRow → OperationRow}
    (hf : ∀ o, (f o).id = o.id ∧ (f o).operationType = o.operationType ∧ (f o).peerId = o.peerId)
    (hstatus : operationId ∈ creations → ∀ o, ¬o.status.Pending → ¬(f o).status.Pending) :
    Within (Kept id creations) (Tx.updateOperation operationId f) := fun db u db' h => by
  cases h
  refine .of_operations fun hsettled => ?_
  have hsame : ∀ o : OperationRow, let o' := if o.id = operationId then f o else o
      o'.id = o.id ∧ o'.operationType = o.operationType ∧ o'.peerId = o.peerId := fun o => by
    dsimp only
    split_ifs
    · exact hf o
    · exact ⟨rfl, rfl, rfl⟩
  refine ⟨fun c hc => ?_, fun o' ho' htype hpeer => ?_, fun o' ho' hmem => ?_⟩
  · obtain ⟨o, ho, hid⟩ := hsettled.known c hc
    exact ⟨_, List.mem_map_of_mem ho, (hsame o).1.trans hid⟩
  · obtain ⟨o, ho, rfl⟩ := List.mem_map.1 ho'
    obtain ⟨hid, htype', hpeer'⟩ := hsame o
    rw [hid]
    exact hsettled.listed o ho (htype'.symm.trans htype) (hpeer'.symm.trans hpeer)
  · obtain ⟨o, ho, rfl⟩ := List.mem_map.1 ho'
    rw [(hsame o).1] at hmem
    split_ifs with hid
    · exact hstatus (hid ▸ hmem) o (hsettled.done o ho hmem)
    · exact hsettled.done o ho hmem

/-! ## Transactions -/

variable {P : Platform}

theorem within_importPeer {routerId interfaceId fingerprint newId : String}
    {remote : RemoteWireGuardPeer} {onlineSeconds now : ℤ} (hnew : newId ≠ id) :
    Within (Kept id creations)
      (importPeer P routerId interfaceId remote fingerprint onlineSeconds newId now) := by
  refine within_get.bind fun db => ?_
  split_ifs
  · exact within_pure
  refine (within_insertPeer hnew).bind fun _ => ?_
  cases importedClientIp remote.allowedAddress with
  | none => exact within_pure
  | some clientIp =>
    refine within_castInet.bind fun ip => within_get.bind fun db => ?_
    cases importPool db routerId interfaceId ip with
    | none => exact within_pure
    | some pool =>
      have hupdate : Within (Kept id creations)
          (Tx.updatePeer newId fun p => { p with poolId := some pool.id }) :=
        within_updatePeer fun _ => rfl
      exact hupdate.bind fun _ => within_insertFreeAddress fun h => hnew (Option.some.inj h)

section Loops

variable {routerId : String} {fresh : FreshIds} {listing : SyncListing} {progress : SyncProgress}

theorem within_syncInterface {existing : List InterfaceRow} {item : RemoteWireGuardInterface} :
    Within (Kept id creations) (syncInterface P routerId fresh listing existing progress item) := by
  unfold syncInterface
  split
  · exact within_insertInterface.bind fun _ => within_pure
  · split_ifs
    · exact within_updateInterface.bind fun _ => within_upsertDrift.bind fun _ => within_pure
    · exact within_updateInterface.bind fun _ => within_dismissDrifts.bind fun _ => within_pure

theorem within_syncFound {peer : ExistingPeer} {remote : RemoteWireGuardPeer} :
    Within (Kept id creations) (syncFound P routerId fresh listing progress peer remote) := by
  have hupdate : Within (Kept id creations)
      (Tx.updatePeer peer.row.id (syncedPeer P listing peer remote)) :=
    within_updatePeer fun _ => rfl
  refine hupdate.bind fun _ => ?_
  split_ifs
  · exact within_deduceParameter.bind fun _ => within_upsertDrift.bind fun _ => within_pure
  · exact within_dismissDrifts.bind fun _ => within_pure

theorem within_syncPeer {existing : List ExistingPeer} {remote : RemoteWireGuardPeer}
    (hfresh : fresh.peer remote ≠ id) :
    Within (Kept id creations) (syncPeer P routerId fresh listing existing progress remote) := by
  unfold syncPeer
  split
  · exact within_pure
  · split
    · exact (within_importPeer hfresh).bind fun _ => within_pure
    · exact within_syncFound

theorem within_syncMissing {remoteIds : List String} {peer : ExistingPeer} :
    Within (Kept id creations) (syncMissing remoteIds progress peer) := by
  unfold syncMissing
  cases missingConflict remoteIds peer with
  | none => exact within_pure
  | some conflict =>
    have hupdate : Within (Kept id creations) (Tx.updatePeer peer.row.id fun p =>
        { p with conflictType := some conflict, syncState := .changedExternally }) :=
      within_updatePeer fun _ => rfl
    exact hupdate.bind fun _ => within_pure

/-- A synchronisation removes no peer. -/
theorem within_syncTransaction (hfresh : ∀ remote, fresh.peer remote ≠ id) :
    Within (Kept id creations) (syncTransaction P routerId fresh listing) := by
  refine within_get.bind fun before => ?_
  refine (within_foldlM fun item _ progress => within_syncInterface).bind fun progress => ?_
  refine within_get.bind fun db => ?_
  refine (within_foldlM fun remote _ progress => within_syncPeer (hfresh remote)).bind
    fun progress => ?_
  exact (within_foldlM fun peer _ progress => within_syncMissing).bind fun _ => within_pure

end Loops

theorem within_releasePeerPoolAddress {peerId : String} (hpeer : peerId ≠ id) :
    Within (Kept id creations) (releasePeerPoolAddress peerId) := fun db u db' h => by
  obtain rfl := Tx.deleteAddresses_ok h
  refine .of_eq rfl ?_ rfl rfl
  rw [Database.peerAddresses, Table.rows_delete, List.filter_filter]
  refine List.filter_congr fun a _ => ?_
  by_cases ha : a.peerId = some id
  · simp [ha, Ne.symm hpeer]
  · simp [ha]

/-- The operations of a peer that is deleted lose it. -/
theorem settled_deletePeer {peerId : String} {db db' : Database} {u : Unit}
    (h : Tx.deletePeer peerId db = .ok (u, db')) (hsettled : Settled id creations db) :
    Settled id creations db' := by
  obtain ⟨addresses, -, hdelete⟩ := Tx.statement_bind_ok.1 h
  cases Tx.return_eq_ok.1 hdelete
  refine ⟨fun c hc => ?_, fun o' ho' htype hid => ?_, fun o' ho' hmem => ?_⟩
  · obtain ⟨o, ho, hid⟩ := hsettled.known c hc
    refine ⟨_, List.mem_map_of_mem ho, ?_⟩
    split_ifs <;> exact hid
  · obtain ⟨o, ho, rfl⟩ := List.mem_map.1 ho'
    by_cases hother : o.peerId = some peerId
    · simp [hother] at hid
    · rw [if_neg hother] at htype hid ⊢
      exact hsettled.listed o ho htype hid
  · obtain ⟨o, ho, rfl⟩ := List.mem_map.1 ho'
    by_cases hother : o.peerId = some peerId
    · rw [if_pos hother] at hmem ⊢
      exact hsettled.done o ho hmem
    · rw [if_neg hother] at hmem ⊢
      exact hsettled.done o ho hmem

/-- The deletion of another peer. -/
theorem within_deletePeer {peerId : String} (hpeer : peerId ≠ id) :
    Within (Kept id creations) (Tx.deletePeer peerId) := fun db u db' h => by
  obtain ⟨hpeers, -, -, -, haddresses⟩ := Tx.deletePeer_ok h
  refine ⟨⟨congrArg Option.isSome ?_, ?_, ?_⟩, settled_deletePeer h⟩
  · rw [Database.peer, hpeers, List.find?_filter]
    refine List.find?_congr fun p _ => ?_
    by_cases hp : p.id = id
    · simp [hp, Ne.symm hpeer]
    · simp [hp]
  · rw [Database.peerAddresses, haddresses, List.filter_map, Database.peerAddresses]
    have hfilter : ((fun a : PoolAddressRow => decide (a.peerId = some id)) ∘ fun a =>
        if a.peerId = some peerId then { a with peerId := none } else a) =
        fun a => decide (a.peerId = some id) := funext fun a => by
      by_cases ha : a.peerId = some peerId
      · simp [ha, hpeer]
      · simp [ha]
    rw [hfilter]
    refine (List.map_congr_left fun a ha => if_neg fun hother => ?_).trans (List.map_id _)
    have hmem := (List.mem_filter.1 ha).2
    simp [hother, hpeer] at hmem
  · obtain ⟨addresses, -, hdelete⟩ := Tx.statement_bind_ok.1 h
    cases Tx.return_eq_ok.1 hdelete
    rfl

theorem within_archiveAndDelete {row : PeerRow} (hrow : row.id ≠ id) :
    Within (Kept id creations) (archiveAndDelete row) := by
  refine Within.bind (fun db u db' h => ?_) fun _ =>
    (within_releasePeerPoolAddress hrow).bind fun _ => Within.bind (fun db u db' h => ?_)
      fun _ => within_deletePeer hrow
  · cases h
    refine ⟨⟨rfl, rfl, ?_⟩, fun hsettled => ⟨hsettled.known, hsettled.listed, hsettled.done⟩⟩
    simp [Database.peerArchives, hrow]
  · cases h
    exact .of_eq rfl rfl rfl rfl

theorem within_removeStagedPeer {peerId newId : String} {now : ℤ} (hpeer : peerId ≠ id) :
    Within (Kept id creations) ((Statement.removeStagedPeer peerId).tx P now newId) :=
  (within_releasePeerPoolAddress hpeer).bind fun _ => within_deleteManagedObjects.bind fun _ =>
    within_deletePeer hpeer

/-- The transaction of a deletion removes the row of the peer and its addresses,
    and archives it once. -/
theorem archived_archiveAndDelete {row : PeerRow} {db db' : Database} {u : Unit}
    (h : archiveAndDelete row db = .ok (u, db')) (hrow : row.id = id)
    (hpresent : (db.peer id).isSome = true) :
    Archived id db db' ∧ (Settled id creations db → Settled id creations db') := by
  subst hrow
  obtain ⟨_, db₁, hlog, h⟩ := Tx.bind_eq_ok.1 h
  obtain ⟨_, db₂, hrelease, h⟩ := Tx.bind_eq_ok.1 h
  obtain ⟨_, db₃, hobjects, hdelete⟩ := Tx.bind_eq_ok.1 h
  cases hlog
  obtain rfl := Tx.deleteAddresses_ok hrelease
  cases hobjects
  obtain ⟨hpeers, -, -, -, haddresses⟩ := Tx.deletePeer_ok hdelete
  refine ⟨⟨hpresent, ?_, ?_, ?_⟩, fun hsettled =>
    settled_deletePeer hdelete ⟨hsettled.known, hsettled.listed, hsettled.done⟩⟩
  · rw [Database.peer, hpeers, List.find?_eq_none]
    intro p hp
    simpa using (List.mem_filter.1 hp).2
  · rw [Database.peerAddresses, haddresses, List.filter_eq_nil_iff]
    intro a' ha'
    obtain ⟨a, -, rfl⟩ := List.mem_map.1 ha'
    split_ifs with hother
    · simp
    · simpa using hother
  · obtain ⟨addresses, -, hrest⟩ := Tx.statement_bind_ok.1 hdelete
    cases Tx.return_eq_ok.1 hrest
    exact ⟨_, by simp [Database.peerArchives]; rfl⟩

theorem within_unreachablePeers {routerId : String} :
    Within (Kept id creations) (Tx.unreachablePeers routerId) := fun db u db' h => by
  cases h
  refine .of_eq ?_ rfl rfl rfl
  have hid : ((fun p : PeerRow => decide (p.id = id)) ∘ fun p =>
      if p.routerId = routerId then unreachableColumns p else p) = fun p => decide (p.id = id) :=
    funext fun p => by
      simp only [Function.comp_apply]
      split_ifs <;> rfl
  rw [Database.peer, Table.rows_relabel, List.find?_map, hid, Option.isSome_map]
  rfl

theorem within_unreachableInterfaces {routerId : String} :
    Within (Kept id creations) (Tx.unreachableInterfaces routerId) := fun db u db' h => by
  cases h
  exact .of_eq rfl rfl rfl rfl

theorem within_insertSyncRun {routerId : String} :
    Within (Kept id creations) (Tx.insertSyncRun routerId) := fun db u db' h => by
  unfold Tx.insertSyncRun at h
  split_ifs at h
  cases h
  exact Std.Refl.refl _

/-- The end of an operation is no stop half-way. -/
theorem within_endOperation {operationId newId : String} {now : ℤ} {s : Statement}
    (hs : s = .operationStep operationId ∨
      (∃ context, s = .finishOperation operationId .completed context)
      ∨ ∃ context, s = .finishReconciledFailure operationId context) :
    Within (Kept id creations) (s.tx P now newId) := by
  rcases hs with rfl | ⟨context, rfl⟩ | ⟨context, rfl⟩
  · refine within_updateOperation (fun _ => ⟨rfl, rfl, rfl⟩) fun _ o ho => ?_
    dsimp only
    split_ifs
    · simp [OperationStatus.Pending]
    · exact ho
  · exact within_updateOperation (fun _ => ⟨rfl, rfl, rfl⟩) fun _ _ _ => by
      simp [OperationStatus.Pending]
  · exact within_updateOperation (fun _ => ⟨rfl, rfl, rfl⟩) fun _ _ _ => by
      simp [OperationStatus.Pending]

/-- An operation other than those that created the peer may fail. -/
theorem within_failOperation {operationId newId : String} {now : ℤ} {status : OperationStatus}
    {context : Option Json} (hoperation : operationId ∉ creations) :
    Within (Kept id creations)
      ((Statement.failOperation operationId status context).tx P now newId) :=
  within_updateOperation (fun _ => ⟨rfl, rfl, rfl⟩) fun h => absurd h hoperation

end Statements

end WireguardPanel
