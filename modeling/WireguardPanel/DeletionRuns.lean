import WireguardPanel.Deletion

/-!
# The deletion of a peer

A deletion can stop half-way and is then taken up by the reconciler, which may
stop half-way as well.

* `DeletionStep`: what a call of either may do to the peer.
* `keeps_reconcilePendingOperations`, `wp_deletePeer`: every call does no more.
* `deletion_disposed`: the runs of a deletion and of passes after it.
-/

namespace WireguardPanel

open Foundation

/-! ## Steps -/

/-- What identifies a peer on its router. -/
def PeerRow.remoteKey (p : PeerRow) : String × Option String × String :=
  (p.routerId, p.remoteId, p.publicKey)

theorem PeerRow.gone_congr {p q : PeerRow} (h : p.remoteKey = q.remoteKey)
    (remotePeers : List RemoteWireGuardPeer) : p.Gone remotePeers ↔ q.Gone remotePeers := by
  simp only [remoteKey, Prod.mk.injEq] at h
  simp only [Gone, Matches, h.2.1, h.2.2]

/-- A transaction that keeps the peer and what identifies it on its router. -/
structure Held (id : String) (creations : List String) (db db' : Database) : Prop extends
    Kept id creations db db' where
  remoteKey : (db'.peer id).map PeerRow.remoteKey = (db.peer id).map PeerRow.remoteKey

instance {id : String} {creations : List String} : IsPreorder Database (Held id creations) where
  refl _ := ⟨Std.Refl.refl _, rfl⟩
  trans _ _ _ h h' := ⟨IsTrans.trans _ _ _ h.toKept h'.toKept, h'.remoteKey.trans h.remoteKey⟩

/-- A step of a deletion leaves the peer where it is, or removes and archives it
    after its router has shown that it is gone. -/
def DeletionStep (id : String) (s s' : TracedWorld) : Prop :=
  Untouched id s.1.db s'.1.db ∨
    ∃ row, s.1.db.peer id = some row ∧
      (∃ remotePeers, Seen row.routerId remotePeers s.2 ∧ row.Gone remotePeers) ∧
      Archived id s.1.db s'.1.db

/-- The creation of a peer is settled in a world. -/
def SettledWorld (id : String) (creations : List String) (s : TracedWorld) : Prop :=
  Settled id creations s.1.db

/-- The row of a peer still identifies it on its router as it did when it was
    read as `row`. -/
structure Standing (id : String) (creations : List String) (row : PeerRow) (s : TracedWorld) :
    Prop where
  settled : SettledWorld id creations s
  stored : (s.1.db.peer id).map PeerRow.remoteKey = some row.remoteKey

/-- The row may be removed: its router has shown that the peer is gone. -/
structure Removable (id : String) (creations : List String) (row : PeerRow) (s : TracedWorld) : Prop
    extends Standing id creations row s where
  shown : ∃ remotePeers, Seen row.routerId remotePeers s.2 ∧ row.Gone remotePeers

section Services

variable {P : Platform} {faults : Call → Fault → Prop} {id : String} {creations : List String}
  {row : PeerRow} {ℓ : Type} {operation : OperationRow}

theorem stable_settledWorld :
    Stable (Kept id creations) (DeletionStep id) (SettledWorld id creations) where
  keep _ _ _ _ h hkept := hkept.settled h
  guarantee _ _ hkept := .inl hkept.untouched

theorem stable_standing :
    Stable (Held id creations) (DeletionStep id) (Standing id creations row) where
  keep _ _ _ _ h hheld := ⟨hheld.settled h.settled, hheld.remoteKey.trans h.stored⟩
  guarantee _ _ hheld := .inl hheld.untouched

theorem stable_removable :
    Stable (Held id creations) (DeletionStep id) (Removable id creations row) where
  keep w w' t t' h hheld := ⟨stable_standing.keep w w' t t' h.toStanding hheld,
    h.shown.imp fun _ hshown => ⟨hshown.1.append, hshown.2⟩⟩
  guarantee _ _ hheld := .inl hheld.untouched

/-- The transaction that ends a deletion, once the peer may be removed. -/
theorem wp_archiveAndDelete (hrow : row.id = id) {l : ℓ} {s : TracedWorld}
    (hs : Removable id creations row s) :
    Procedure.wp (World.traced P faults) (DeletionStep id)
      (Service.execute (.archiveAndDelete row) : Service ℓ Unit)
      (fun _ _ => SettledWorld id creations) (fun _ _ => SettledWorld id creations) l s := by
  obtain ⟨w, t⟩ := s
  obtain ⟨stored, hstored, hkey⟩ := Option.map_eq_some_iff.1 hs.stored
  refine wp_execute (fun now newId a db t' htx => ?_) fun e t' => ⟨.inl ⟨rfl, rfl, rfl⟩, hs.settled⟩
  have hpresent : (w.db.peer id).isSome = true := by rw [hstored]; rfl
  obtain ⟨harchived, hsettled⟩ :
      Archived id w.db db ∧ (Settled id creations w.db → Settled id creations db) :=
    archived_archiveAndDelete htx hrow hpresent
  obtain ⟨remotePeers, hseen, hgone⟩ := hs.shown
  have hrouter : stored.routerId = row.routerId := congrArg Prod.fst hkey
  exact ⟨.inr ⟨stored, hstored, ⟨remotePeers, hrouter ▸ hseen,
    (PeerRow.gone_congr hkey remotePeers).2 hgone⟩, harchived⟩, hsettled hs.settled⟩

/-! ## The reconciler -/

theorem within_operationStep {operationId newId : String} {now : ℤ} :
    Within (Held id creations) ((Statement.operationStep operationId).tx P now newId) :=
  fun db u db' h => by
    refine ⟨within_endOperation (.inl rfl) db u db' h, ?_⟩
    cases h
    rfl

theorem keeps_endOperation {operationId : String} {s : Statement}
    (hs : s = .operationStep operationId ∨
      (∃ context, s = .finishOperation operationId .completed context)
      ∨ ∃ context, s = .finishReconciledFailure operationId context) :
    Procedure.Keeps (World.traced P faults) (DeletionStep id) (SettledWorld id creations)
      (Service.execute s : Service ℓ s.Result) :=
  keeps_execute stable_settledWorld fun _ _ => within_endOperation hs

theorem keeps_reconcileUpdate {fresh : FreshIds} {time : ℤ}
    (hfresh : ∀ remote, fresh.peer remote ≠ id) :
    Procedure.Keeps (World.traced P faults) (DeletionStep id) (SettledWorld id creations)
      (reconcileUpdate P operation fresh time : Service ℓ Unit) := by
  have hK : Stable (Kept id creations) (DeletionStep id) (SettledWorld id creations) :=
    stable_settledWorld
  have hupdate : ∀ peerId update now newId, Within (Kept id creations)
      ((Statement.updatePeer peerId update).tx P now newId) := fun peerId update now newId =>
    within_updatePeer (update.apply_id now)
  unfold reconcileUpdate
  split
  next routerId peerId _ _ =>
    refine (keeps_syncRouter hK (fun _ _ _ => within_syncTransaction hfresh)
      (fun _ _ => within_insertSyncRun) (fun _ _ => within_unreachablePeers)
      (fun _ _ => within_unreachableInterfaces)).bind fun _ => ?_
    refine (keeps_observePeerBandwidth hK (fun _ _ _ => hupdate _ _)
      (fun _ _ _ _ _ _ _ _ => within_get.bind fun _ => within_deduceParameter.bind fun _ =>
        within_upsertDrift)
      (fun _ _ _ => within_dismissDrifts)).bind fun _ => ?_
    refine (keeps_query hK).bind fun _ => keeps_orThrow.bind fun peer => ?_
    have hfinish : Procedure.Keeps (World.traced P faults) (DeletionStep id)
        (SettledWorld id creations) (do
          Service.execute (.updatePeer peerId (.lifecycle .active none none))
          Service.execute (.operationStep operation.id)
          Service.execute (.finishOperation operation.id .completed
            (some (.obj [("reconciled", .bool true)]))) : Service ℓ Unit) :=
      (keeps_execute hK (hupdate _ _)).bind fun _ => (keeps_endOperation (.inl rfl)).bind fun _ =>
        keeps_endOperation (.inr (.inl ⟨_, rfl⟩))
    dsimp only
    split_ifs
    · exact Procedure.keeps_throw.bind fun _ => hfinish
    · exact hfinish
  next => exact Procedure.keeps_throw

/-- The cleanup of the creation of another peer. -/
theorem keeps_reconcileCreateCleanup (hoperation : operation.peerId ≠ some id) :
    Procedure.Keeps (World.traced P faults) (DeletionStep id) (SettledWorld id creations)
      (reconcileCreateCleanup P operation : Service ℓ Unit) := by
  have hK : Stable (Kept id creations) (DeletionStep id) (SettledWorld id creations) :=
    stable_settledWorld
  unfold reconcileCreateCleanup
  cases hpeer : filled operation.peerId with
  | none => exact keeps_endOperation (.inr (.inr ⟨_, rfl⟩))
  | some peerId =>
    rintro l ⟨w, t⟩ hs
    refine Procedure.wp_bind.2 (wp_query (fun _ => .inl ⟨rfl, rfl, rfl⟩) (fun t' => ?_)
      fun e t' => hK.keep w w t t' hs (Std.Refl.refl _))
    have hs' := hK.keep w w t t' hs (Std.Refl.refl _)
    cases hrow : w.db.peer peerId with
    | none => exact keeps_endOperation (.inr (.inr ⟨_, rfl⟩)) l _ hs'
    | some peer =>
      have hother : peer.id ≠ id := fun hid => hoperation <| by
        rw [filled_eq_some hpeer, ← (Database.peer_spec hrow).2, hid]
      refine Procedure.Keeps.bind (keeps_routerClient hK) (fun router => ?_) l _ hs'
      refine (keeps_deleteOwnedPeerQueueRemote hK).bind fun _ => ?_
      refine (keeps_removeRemotePeer hK).bind fun _ => ?_
      refine (keeps_execute hK fun _ _ => within_removeStagedPeer hother).bind fun _ => ?_
      exact (keeps_endOperation (.inl rfl)).bind fun _ => keeps_endOperation (.inr (.inr ⟨_, rfl⟩))

/-- The cleanup of a deletion, of this peer or another. -/
theorem keeps_reconcileDeleteCleanup :
    Procedure.Keeps (World.traced P faults) (DeletionStep id) (SettledWorld id creations)
      (reconcileDeleteCleanup P operation : Service ℓ Unit) := by
  have hK : Stable (Kept id creations) (DeletionStep id) (SettledWorld id creations) :=
    stable_settledWorld
  unfold reconcileDeleteCleanup
  cases hpeer : filled operation.peerId with
  | none => exact keeps_endOperation (.inr (.inl ⟨_, rfl⟩))
  | some peerId =>
    rintro l ⟨w, t⟩ hs
    refine Procedure.wp_bind.2 (wp_query (fun _ => .inl ⟨rfl, rfl, rfl⟩) (fun t' => ?_)
      fun e t' => hK.keep w w t t' hs (Std.Refl.refl _))
    have hs' := hK.keep w w t t' hs (Std.Refl.refl _)
    cases hrow : w.db.peer peerId with
    | none => exact keeps_endOperation (.inr (.inl ⟨_, rfl⟩)) l _ hs'
    | some peer =>
      by_cases hid : peer.id = id
      · have hstanding : Standing id creations peer (w, t ++ t') :=
          ⟨hs', by rw [← hid, (Database.peer_spec hrow).2, hrow]; rfl⟩
        refine Procedure.wp_bind.2 (Procedure.wp_mono (wp_routerClient stable_standing hstanding)
          ?_ fun _ _ _ h => h.settled)
        rintro router l s ⟨hs, -, hrouter⟩
        refine Procedure.wp_bind.2 (Procedure.wp_mono (wp_removeRemotePeer stable_standing hs)
          ?_ fun _ _ _ h => h.settled)
        rintro _ l s ⟨hs, hshown⟩
        have hremovable : Removable id creations peer s := ⟨hs, hrouter ▸ hshown⟩
        refine Procedure.wp_bind.2 (Procedure.wp_mono (keeps_deleteOwnedPeerQueueRemote
          stable_removable l s hremovable)
            (fun queuesRemoved l s hs => ?_) fun _ _ _ h => h.settled)
        refine Procedure.wp_bind.2 (Procedure.wp_mono (wp_archiveAndDelete hid hs)
          (fun _ l s hs => ?_) fun _ _ _ h => h)
        exact (keeps_endOperation (.inl rfl)).bind
          (fun _ => keeps_endOperation (.inr (.inl ⟨_, rfl⟩)))
          l s hs
      · refine Procedure.Keeps.bind (keeps_routerClient hK) (fun router => ?_) l _ hs'
        refine (keeps_removeRemotePeer hK).bind fun _ => ?_
        refine (keeps_deleteOwnedPeerQueueRemote hK).bind fun _ => ?_
        refine (keeps_execute hK fun _ _ => within_archiveAndDelete hid).bind fun _ => ?_
        exact (keeps_endOperation (.inl rfl)).bind fun _ =>
          keeps_endOperation (.inr (.inl ⟨_, rfl⟩))

theorem keeps_reconcileOperation {fresh : FreshIds} {time : ℤ}
    (hfresh : ∀ remote, fresh.peer remote ≠ id)
    (hoperation : operation.operationType = "peer_create" → operation.peerId ≠ some id) :
    Procedure.Keeps (World.traced P faults) (DeletionStep id) (SettledWorld id creations)
      (reconcileOperation P operation fresh time : Service ℓ Unit) := by
  unfold reconcileOperation
  split_ifs with hcreate
  · exact keeps_reconcileCreateCleanup (hoperation hcreate)
  · exact keeps_reconcileDeleteCleanup
  · exact keeps_reconcileUpdate hfresh
  · exact Procedure.keeps_throw

/-- A pass takes up no operation that created the peer. -/
theorem keeps_reconcilePendingOperations {limit : ℕ} {fresh : OperationRow → FreshIds} {time : ℤ}
    (hfresh : ∀ operation remote, (fresh operation).peer remote ≠ id) :
    Procedure.Keeps (World.traced P faults) (DeletionStep id) (SettledWorld id creations)
      (reconcilePendingOperations P limit fresh time : Service ℓ ReconcileTotals) := by
  have hK : Stable (Kept id creations) (DeletionStep id) (SettledWorld id creations) :=
    stable_settledWorld
  rintro l ⟨w, t⟩ hs
  have hs' := fun t' => hK.keep w w t t' hs (Std.Refl.refl _)
  refine Procedure.wp_bind.2 (wp_query (fun _ => .inl ⟨rfl, rfl, rfl⟩) (fun t' => ?_)
    fun e t' => hs' t')
  refine Procedure.Keeps.withLocals ?_ l _ (hs' t')
  refine (Procedure.keeps_forM fun operation hoperation => ?_).bind fun _ => Procedure.keeps_get
  have hmem := List.mem_of_mem_take hoperation
  rw [List.mem_insertionSort, List.mem_filter, decide_eq_true_eq] at hmem
  obtain ⟨hmem, hpending, -⟩ := hmem
  -- It has stopped half-way, as none of the operations that created the peer has.
  have hcreation : operation.id ∉ creations := fun h => hs.done operation hmem h hpending
  refine Procedure.keeps_modify.bind fun _ => Procedure.Keeps.tryCatch ?_ fun e => ?_
  · exact (keeps_reconcileOperation (hfresh operation) fun htype hpeer =>
      hcreation (hs.listed operation hmem htype hpeer)).bind fun _ => Procedure.keeps_modify
  · exact (keeps_executeAnyway hK fun _ _ => within_failOperation hcreation).bind
      fun _ => Procedure.keeps_modify

/-! ## The deletion -/

/-- No peer but the one that is found for a row has the identifier of the row. -/
def RouterContent.Unambiguous (r : RouterContent) (row : PeerRow) : Prop :=
  ∀ p ∈ r.peerOf row, ∀ q ∈ r.peers, row.remoteId = some q.id → q.id = p.id

/-- The peer that a change begins with is the one that is found on the router. -/
theorem wp_assertCurrentRemote {R : Database → Database → Prop} [IsPreorder Database R]
    {G : TracedWorld → TracedWorld → Prop} {K : TracedWorld → Prop} (hK : Stable R G K)
    {routerId : String} {l : ℓ} {w : World} {t : History} (hs : K (w, t)) :
    Procedure.wp (World.traced P faults) G
      (assertCurrentRemote P routerId row : Service ℓ RemoteWireGuardPeer)
      (fun remote _ s => K s ∧ s.1 = w ∧ ∃ p ∈ (w.routers routerId).peerOf row,
        p.toRemoteWireGuardPeer = remote) (fun _ _ => K) l (w, t) := by
  refine Procedure.wp_bind.2 (wp_getPeers hK hs (fun t' hs _ => ?_) fun _ _ hs => hs)
  rw [RouterContent.find_remotePeers]
  cases hpeer : (w.routers routerId).peerOf row with
  | none => exact Procedure.wp_throw.2 hs
  | some p =>
    simp only [Option.map_some]
    split_ifs
    · exact Procedure.wp_throw.2 hs
    · exact Procedure.wp_pure.2 ⟨hs, rfl, p, rfl, rfl⟩

theorem within_held_updatePeer {peerId newId : String} {update : PeerUpdate} {now : ℤ}
    (hkey : ∀ p, (update.apply P now p).remoteKey = p.remoteKey) :
    Within (Held id creations) ((Statement.updatePeer peerId update).tx P now newId) :=
  fun db u db' h => by
    refine ⟨within_updatePeer (update.apply_id now) db u db' h, ?_⟩
    rw [Tx.peer_updatePeer (update.apply_id now) h id]
    split_ifs
    · rw [Option.map_map]
      exact Option.map_congr fun p _ => hkey p
    · rfl

/-- An operation that is started keeps what identifies a peer, and is none of
    those that created it. -/
theorem startOperation_ok {routerId peerId : Option String}
    {operationType newId operationId : String}
    {context : Json} {now : ℤ} {db db' : Database} (htype : operationType ≠ "peer_create")
    (h : (Statement.startOperation operationType routerId peerId context).tx P now newId db
      = .ok (operationId, db')) :
    Held id creations db db' ∧ (Settled id creations db → operationId ∉ creations) := by
  have hkept : Kept id creations db db' := within_insertOperation htype db _ db' h
  obtain ⟨rfl, hused, rfl⟩ := Tx.insertOperation_ok h
  refine ⟨⟨hkept, rfl⟩, fun hsettled hmem => ?_⟩
  obtain ⟨o, ho, hid⟩ := hsettled.known _ hmem
  exact hused ⟨o, ho, hid⟩

theorem keeps_abandonDeletion {operationId peerId : String} {e : AppError}
    (hoperation : operationId ∉ creations) :
    Procedure.Keeps (World.traced P faults) (DeletionStep id) (SettledWorld id creations)
      (abandonDeletion peerId operationId e) := by
  have hK : Stable (Kept id creations) (DeletionStep id) (SettledWorld id creations) :=
    stable_settledWorld
  have hupdate : ∀ update, Procedure.Keeps (World.traced P faults) (DeletionStep id)
      (SettledWorld id creations) (executeAnyway (.updatePeer peerId update) : Service Bool Unit) :=
    fun update => keeps_executeAnyway hK fun _ _ => within_updatePeer (update.apply_id _)
  refine Procedure.keeps_get.bind fun remoteDeleted => ?_
  cases remoteDeleted
  · exact (hupdate _).bind fun _ =>
      (keeps_executeAnyway hK fun _ _ => within_failOperation hoperation).bind
        fun _ => Procedure.keeps_throw
  · exact (hupdate _).bind fun _ =>
      (keeps_executeAnyway hK fun _ _ => within_failOperation hoperation).bind
        fun _ => Procedure.keeps_throw

/-- The deletion of a peer that the router identifies without ambiguity. -/
theorem wp_deleteCurrentPeer (hrow : row.id = id) {operationId : String} {l : Bool} {w : World}
    {t : History} (hs : Standing id creations row (w, t))
    (hrouter : (w.routers row.routerId).Unambiguous row) :
    Procedure.wp (World.traced P faults) (DeletionStep id)
      (deleteCurrentPeer P row row.routerId operationId) (fun _ _ => SettledWorld id creations)
      (fun _ _ => SettledWorld id creations) l (w, t) := by
  have hK : Stable (Held id creations) (DeletionStep id) (Standing id creations row) :=
    stable_standing
  refine Procedure.wp_bind.2 (Procedure.wp_mono (wp_assertCurrentRemote hK hs) ?_
    fun _ _ _ h => h.settled)
  rintro _ l ⟨w', t₀⟩ ⟨hs₀, hsame, p, hp, rfl⟩
  change w' = w at hsame
  subst hsame
  refine Procedure.wp_bind.2 (wp_execute (fun now newId u db t' htx => ?_) fun e t' =>
    ⟨.inl ⟨rfl, rfl, rfl⟩, hs₀.settled⟩)
  have hheld : Held id creations w'.db db := within_held_updatePeer (fun _ => rfl) _ _ _ htx
  refine ⟨.inl hheld.untouched, ?_⟩
  have hs₁ := hK.keep w' { w' with db } t₀ t' hs₀ hheld
  generalize t₀ ++ t' = t₁ at hs₁ ⊢
  refine Procedure.wp_bind.2 (wp_request (fun newId u content t' hperform => ?_) fun e t' =>
    ⟨.inl ⟨rfl, rfl, rfl⟩, hs₁.settled⟩)
  have hs₂ := hK.keep { w' with db } (World.setRouter { w' with db } row.routerId content) t₁ t' hs₁
    (Std.Refl.refl _)
  generalize t₁ ++ t' = t₂ at hs₂ ⊢
  refine ⟨.inl ⟨rfl, rfl, rfl⟩, ?_, fun _ => hs₂.settled⟩
  refine Procedure.wp_bind.2 (Procedure.wp_modify.2 ?_)
  refine Procedure.wp_bind.2 (wp_getPeers hK hs₂ (fun t' hs₃ hseen => ?_) fun _ _ hs => hs.settled)
  rw [World.routers_setRouter] at hseen ⊢
  split_ifs with hexists
  · exact Procedure.wp_bind.2 (Procedure.wp_throw.2 hs₃.settled)
  -- The peers that are left are some of those that were there.
  have hleft : ∀ q ∈ content.peers, q ∈ (w'.routers row.routerId).peers := by
    change (w'.routers row.routerId).deletePeer p.id = some (u, content) at hperform
    unfold RouterContent.deletePeer at hperform
    split_ifs at hperform
    cases hperform
    exact fun q hq => List.mem_of_mem_filter hq
  have hgone : row.Gone content.remotePeers := by
    intro remote hremote hmatches
    obtain ⟨q, hq, rfl⟩ := List.mem_map.1 hremote
    refine hexists ⟨_, hremote, ?_⟩
    rcases hmatches with hid | hkey
    · exact .inl (hrouter p hp q (hleft q hq) hid)
    · exact .inr hkey.symm
  have hremovable : Removable id creations row _ := ⟨hs₃, _, hseen, hgone⟩
  have hR : Stable (Held id creations) (DeletionStep id) (Removable id creations row) :=
    stable_removable
  refine Procedure.wp_bind.2 (Procedure.wp_mono (keeps_execute hR (fun _ _ => within_operationStep)
    _ _ hremovable) (fun _ l s hs => ?_) fun _ _ _ h => h.settled)
  refine Procedure.wp_bind.2 (Procedure.wp_mono (keeps_deleteOwnedPeerQueueRemote hR _ _ hs)
    (fun queuesRemoved l s hs => ?_) fun _ _ _ h => h.settled)
  refine Procedure.wp_bind.2 (Procedure.wp_mono (keeps_execute hR (fun _ _ => within_operationStep)
    _ _ hs) (fun _ l s hs => ?_) fun _ _ _ h => h.settled)
  refine Procedure.wp_bind.2 (Procedure.wp_mono (wp_archiveAndDelete hrow hs)
    (fun _ l s hs => ?_) fun _ _ _ h => h)
  exact keeps_endOperation (.inr (.inl ⟨_, rfl⟩)) l s hs

/-- `deletePeer`, whichever of its calls fail. -/
theorem wp_deletePeer {l : ℓ} {w : World} {t : History} (hs : SettledWorld id creations (w, t))
    (hrouter : ∀ row, w.db.peer id = some row → (w.routers row.routerId).Unambiguous row) :
    Procedure.wp (World.traced P faults) (DeletionStep id) (deletePeer P id : Service ℓ Unit)
      (fun _ _ => SettledWorld id creations) (fun _ _ => SettledWorld id creations) l (w, t) := by
  have hsame : ∀ s, DeletionStep id s s := fun s => .inl ⟨rfl, rfl, rfl⟩
  refine Procedure.wp_bind.2 (Procedure.wp_bind.2 (wp_query (fun _ => hsame _) (fun t' => ?_)
    fun e t' => hs))
  cases hrow : w.db.peer id with
  | none => exact Procedure.wp_throw.2 hs
  | some row =>
    obtain ⟨-, hid⟩ := Database.peer_spec hrow
    have hK : Stable (Held id creations) (DeletionStep id) (Standing id creations row) :=
      stable_standing
    have hstanding : ∀ t, Standing id creations row (w, t) := fun t => ⟨hs, by rw [hrow]; rfl⟩
    refine Procedure.wp_pure.2
        (Procedure.wp_bind.2 (wp_execute (fun now newId operationId db t₁ htx =>
      ?_) fun e t₁ => ⟨hsame _, hs⟩))
    obtain ⟨hheld, hoperation⟩ :
        Held id creations w.db db ∧ (Settled id creations w.db → operationId ∉ creations) :=
      startOperation_ok (by decide) htx
    have hs₁ := hK.keep w { w with db } _ t₁ (hstanding (t ++ t')) hheld
    refine ⟨.inl hheld.untouched, ?_⟩
    refine Procedure.wp_bind.2
      (Procedure.wp_mono (wp_routerClient hK hs₁) ?_ fun _ _ _ h => h.settled)
    rintro router l ⟨w₂, t₂⟩ ⟨hs₂, hsame₂, hfound⟩
    change w₂ = _ at hsame₂
    subst hsame₂
    refine Procedure.wp_withLocals.2 (Procedure.wp_tryCatch.2 ?_)
    rw [hfound]
    refine Procedure.wp_mono (wp_deleteCurrentPeer hid hs₂ (hrouter row hrow)) (fun _ _ _ h => h)
      fun e l s h => ?_
    exact keeps_abandonDeletion (hoperation hs) l s h

end Services

/-! ## Runs -/

/-- A pass of the reconciler. -/
structure ReconcilePass where
  limit : ℕ
  fresh : OperationRow → FreshIds
  time : ℤ

/-- A deletion that is followed by passes of the reconciler. -/
def deletion (P : Platform) (peerId : String) (passes : List ReconcilePass) :
    Service Unit Unit := do
  let _ ← Procedure.attempt (deletePeer P peerId)
  passes.forM fun pass => do
    let _ ← Procedure.attempt (reconcilePendingOperations P pass.limit pass.fresh pass.time)

/-- The creation of a peer has completed. -/
structure CreationCompleted (id : String) (db : Database) : Prop where
  /-- The primary key of `management_operations`. -/
  keys : (db.operations.map OperationRow.id).Nodup
  completed : ∀ o ∈ db.operations, o.operationType = "peer_create" → o.peerId = some id →
    o.status = .completed

/-- The identifiers of the operations that created a peer. -/
def Database.creations (db : Database) (id : String) : List String :=
  (db.operations.filter fun o => o.operationType = "peer_create" ∧ o.peerId = some id).map
    OperationRow.id

theorem CreationCompleted.settled {id : String} {db : Database} (h : CreationCompleted id db) :
    Settled id (db.creations id) db where
  known c hc := by
    obtain ⟨o, ho, rfl⟩ := List.mem_map.1 hc
    exact ⟨o, List.mem_of_mem_filter ho, rfl⟩
  listed o ho htype hpeer :=
    List.mem_map_of_mem (List.mem_filter.2 ⟨ho, decide_eq_true ⟨htype, hpeer⟩⟩)
  done o ho hmem hpending := by
    obtain ⟨o', ho', hid⟩ := List.mem_map.1 hmem
    obtain ⟨hmem', hcreated⟩ := List.mem_filter.1 ho'
    obtain ⟨htype, hpeer⟩ := of_decide_eq_true hcreated
    obtain rfl := List.inj_on_of_nodup_map h.keys hmem' ho hid
    rw [h.completed o' hmem' htype hpeer] at hpending
    revert hpending
    decide

/-- What has become of a peer: it is where it was and nothing is archived, or it
    is removed and archived once. -/
def Disposed (id : String) (db db' : Database) : Prop := Untouched id db db' ∨ Archived id db db'

theorem Disposed.step {id : String} {db : Database} {s s' : TracedWorld}
    (h : Disposed id db s.1.db) (hstep : DeletionStep id s s') : Disposed id db s'.1.db := by
  rcases h with h | h
  · rcases hstep with hsame | ⟨row, -, -, hremoved⟩
    · exact .inl ⟨hsame.present.trans h.present, hsame.addresses.trans h.addresses,
        hsame.archives.trans h.archives⟩
    · obtain ⟨archive, harchive⟩ := hremoved.archives
      exact .inr ⟨h.present ▸ hremoved.present, hremoved.absent, hremoved.addresses, archive,
        h.archives ▸ harchive⟩
  · rcases hstep with hsame | ⟨row, hrow, -⟩
    · refine .inr ⟨h.present, ?_, hsame.addresses.trans h.addresses, ?_⟩
      · rw [← Option.not_isSome_iff_eq_none, hsame.present, h.absent]
        exact nofun
      · rw [hsame.archives]
        exact h.archives
    · exact absurd (h.absent.symm.trans hrow) nofun

/-- Every call of a deletion and of the passes after it is a step of a deletion. -/
theorem always_deletion {P : Platform} {faults : Call → Fault → Prop} {id : String}
    {passes : List ReconcilePass} {w : World} (hcreated : CreationCompleted id w.db)
    (hrouter : ∀ row, w.db.peer id = some row → (w.routers row.routerId).Unambiguous row)
    (hfresh : ∀ pass ∈ passes, ∀ operation remote, (pass.fresh operation).peer remote ≠ id) :
    ((deletion P id passes).start ()).Always (World.traced P faults) (DeletionStep id)
      (fun _ _ => True) (w, []) := by
  refine Procedure.always_start.2 (Procedure.wp_bind.2 (Procedure.wp_attempt.2 ?_))
  refine Procedure.wp_mono (wp_deletePeer hcreated.settled hrouter) ?_ ?_
  all_goals
    intro _ l s hs
    refine Procedure.wp_mono (Procedure.keeps_forM (fun pass hpass => ?_) l s hs)
      (fun _ _ _ _ => trivial) fun _ _ _ _ => trivial
    exact (keeps_reconcilePendingOperations (hfresh pass hpass)).attempt.bind
      fun _ => Procedure.keeps_pure

/-- In every run of a deletion and of passes of the reconciler after it, the
    peer is removed, with its addresses, only after its router has shown neither
    its identifier nor its key; until then nothing is archived; and it is
    archived once when it is removed. -/
theorem deletion_disposed (P : Platform) (faults : Call → Fault → Prop) {id : String}
    {passes : List ReconcilePass} {w w' : World} {row : PeerRow} {t : History}
    {p : Program Call (fun c => Except AppError c.Result) (Except AppError Unit)}
    (hcreated : CreationCompleted id w.db) (hrow : w.db.peer id = some row)
    (hrouter : (w.routers row.routerId).Unambiguous row)
    (hfresh : ∀ pass ∈ passes, ∀ operation remote, (pass.fresh operation).peer remote ≠ id)
    (hrun : ((deletion P id passes).start ()).Runs (World.environment P faults) w t p w') :
    Disposed id w.db w'.db ∧
      ∀ call p' w'', p.Runs (World.environment P faults) w' [call] p' w'' →
        ¬Untouched id w'.db w''.db →
          ∃ stored, w'.db.peer id = some stored ∧
            ∃ remotePeers, Seen stored.routerId remotePeers t ∧ stored.Gone remotePeers := by
  have halways : ((deletion P id passes).start ()).Always (World.traced P faults) (DeletionStep id)
      (fun _ _ => True) (w, []) :=
    always_deletion hcreated
      (fun row' hrow' => by cases hrow.symm.trans hrow'; exact hrouter) hfresh
  have htraced := hrun.traced []
  refine ⟨halways.invariant (I := fun s => Disposed id w.db s.1.db) htraced
    (.inl ⟨rfl, rfl, rfl⟩) fun s s' => Disposed.step, fun call p' w'' hcall hremoved => ?_⟩
  rcases (halways.runs htraced).step (hcall.traced _) with hsame | ⟨stored, hstored, hshown, -⟩
  · exact absurd hsame hremoved
  · exact ⟨stored, hstored, hshown⟩

/-- The installation, whose router has the peer under a new identifier, and a
    peer with another key under the old one. -/
def renumberedWorld : World where
  db := plainDatabase plainPeer plainPeer_check
  routers _ := { plainContent plainRemote with
    peers := [{ plainRemote with id := "*2", presharedKey := "" },
      { plainRemote with publicKey := "other key", presharedKey := "" }] }

/-- What a deletion of the peer leaves: whether it has returned, whether the row
    is there, and the peers that the router has shown. -/
def plainDeletion (w : World) : Option (Bool × Bool × List (List RemoteWireGuardPeer)) :=
  ((deletion Platform.plain "p1" []).history
      Platform.plain (List.replicate 13 {}) w).map fun result =>
    (result.1.toOption.isSome, (result.2.1.db.peer "p1").isSome,
      History.listings "r1" result.2.2)

theorem runs_of_plainDeletion {w : World} {present : Bool}
    {listings : List (List RemoteWireGuardPeer)}
    (h : plainDeletion w = some (true, present, listings)) :
    ∃ t w', ((deletion Platform.plain "p1" []).start ()).Runs
        (World.environment Platform.plain fun _ _ => True) w t (.done (.ok ())) w' ∧
      (w'.db.peer "p1").isSome = present ∧
      ∀ remotePeers, Seen "r1" remotePeers t → remotePeers ∈ listings := by
  obtain ⟨⟨r, w', t⟩, hrun, houtcome⟩ := Option.map_eq_some_iff.1 h
  obtain ⟨hr, rfl, rfl⟩ := by simpa only [Prod.mk.injEq] using houtcome
  cases r with
  | error e => cases hr
  | ok u => exact ⟨t, w', Service.runs_of_history hrun, rfl, fun _ hseen => hseen.mem_listings⟩

/-- The peer of the installation is deleted after its router has shown that it
    is gone. -/
theorem deletion_disposed_plain :
    ∃ t w', ((deletion Platform.plain "p1" []).start ()).Runs
        (World.environment Platform.plain fun _ _ => True)
        (plainWorld plainPeer (by decide) plainRemote) t (.done (.ok ())) w' ∧
      Archived "p1" (plainDatabase plainPeer plainPeer_check) w'.db := by
  have hrun : plainDeletion (plainWorld plainPeer (by decide) plainRemote)
      = some (true, false, [[plainRemote], []]) := by decide +kernel
  obtain ⟨t, w', hrun, habsent, -⟩ := runs_of_plainDeletion hrun
  have hrow : (plainWorld plainPeer (by decide) plainRemote).db.peer "p1" = some plainPeer :=
    plainWorld_peer plainPeer (by decide) plainRemote
  have hcreated : CreationCompleted "p1" (plainWorld plainPeer (by decide) plainRemote).db :=
    ⟨.nil, nofun⟩
  have hdisposed := (deletion_disposed Platform.plain _ hcreated hrow
    (fun p hp q hq _ => by
      obtain rfl := List.mem_singleton.1 hq
      rw [List.mem_singleton.1 (List.mem_of_find?_eq_some hp)])
    (fun _ hpass => absurd hpass List.not_mem_nil) hrun).1
  rcases hdisposed with hsame | harchived
  · have hpresent := hsame.present
    rw [habsent, hrow] at hpresent
    cases hpresent
  · exact ⟨t, w', hrun, harchived⟩

/-- The peer is deleted although its router has never been without a peer of its
    identifier. -/
theorem exists_deletion_shown :
    CreationCompleted "p1" renumberedWorld.db ∧
    renumberedWorld.db.peer "p1" = some plainPeer ∧
    ∃ t w', ((deletion Platform.plain "p1" []).start ()).Runs
        (World.environment Platform.plain fun _ _ => True) renumberedWorld t (.done (.ok ())) w' ∧
      w'.db.peer "p1" = none ∧
      ∀ remotePeers, Seen "r1" remotePeers t → ∃ remote ∈ remotePeers,
        plainPeer.remoteId = some remote.id := by
  refine ⟨⟨.nil, nofun⟩, plainWorld_peer plainPeer (by decide) plainRemote, ?_⟩
  have hrun : plainDeletion renumberedWorld = some (true, false,
      [[{ plainRemote with id := "*2" }, { plainRemote with publicKey := "other key" }],
        [{ plainRemote with publicKey := "other key" }]]) := by decide +kernel
  obtain ⟨t, w', hrun, habsent, hlistings⟩ := runs_of_plainDeletion hrun
  refine ⟨t, w', hrun, by simpa using habsent, fun remotePeers hseen => ?_⟩
  have hmem := hlistings remotePeers hseen
  simp only [List.mem_cons, List.not_mem_nil, or_false] at hmem
  rcases hmem with rfl | rfl
  · exact ⟨_, List.mem_cons_of_mem _ (List.mem_singleton_self _), rfl⟩
  · exact ⟨_, List.mem_singleton_self _, rfl⟩

end WireguardPanel
