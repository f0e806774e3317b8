import WireguardPanel.Conflicts
import WireguardPanel.GlobalBandwidth
import WireguardPanel.OperationEnds
import WireguardPanel.ServiceCalls
import WireguardPanel.StoredDrifts

/-!
# What a pass of the reconciler makes of an operation

A pass takes up the operations that have stopped half-way. The cleanups of a
creation and of a deletion come to an end whenever the router and the database
answer and there is a client for the router. The observation of an update asks
for `host` of a text, which the database rejects, and for the other types of
operation there is no reconciler.

* `World.flawless`: no call fails.
* `World.Undrifted`: the router shows the peer of an operation as it is stored.
* `OperationRow.Reconcilable`: the operations that a pass ends.
* `finished_iff_reconcilable`: and no others.
-/

namespace WireguardPanel

open Foundation

/-- The environment in which no call fails: the routers and the database answer,
    and none of them rejects what it is asked. -/
def World.flawless (P : Platform) : Environment Call (fun c => Except AppError c.Result) World :=
  fun c w r w' => World.environment P (fun _ fault => fault = .none) c w r w' ∧ ∃ a, r = .ok a

section Rules

variable {P : Platform} {ℓ α β : Type} {l : ℓ} {w : World} {E : AppError → ℓ → World → Prop}

theorem wp_query_flawless {read : Database → α} {Q : α → ℓ → World → Prop}
    (hQ : Q (read w.db) l w) :
    Procedure.wp (World.flawless P) (fun _ _ => True) (Service.query read) Q E l w := by
  refine Procedure.wp_call.2 fun r w' ⟨hcall, a, hr⟩ => ⟨trivial, ?_⟩
  subst hr
  obtain ⟨rfl, hread⟩ := Service.environment_query hcall
  rw [hread a rfl]
  exact hQ

theorem wp_execute_flawless {s : Statement} {Q : s.Result → ℓ → World → Prop}
    (hQ : ∀ now id a db, s.tx P now id w.db = .ok (a, db) → Q a l { w with db }) :
    Procedure.wp (World.flawless P) (fun _ _ => True) (Service.execute s) Q E l w := by
  refine Procedure.wp_call.2 fun r w' ⟨hcall, a, hr⟩ => ⟨trivial, ?_⟩
  subst hr
  rcases Service.environment_execute hcall with ⟨now, id, b, db, htx, hb, rfl⟩ | ⟨-, e, he⟩
  · cases hb
    exact hQ now id a db htx
  · cases he

/-- A request does what the router does, which `G` has to allow. -/
theorem wp_request_guarded {G : World → World → Prop} {routerId : String} {request : RouterRequest}
    {Q : request.Result → ℓ → World → Prop}
    (hQ : ∀ id a r, request.perform id (w.routers routerId) = some (a, r) →
      G w (w.setRouter routerId r) ∧ Q a l (w.setRouter routerId r)) :
    Procedure.wp (World.flawless P) G (Service.request routerId request) Q E l w := by
  refine Procedure.wp_call.2 fun r w' ⟨hcall, a, hr⟩ => ?_
  subst hr
  rcases Service.environment_request hcall with ⟨id, b, content, hperform, hb, rfl⟩ | ⟨-, e, he⟩
  · rw [hb a rfl]
    exact hQ id b content hperform
  · cases he

/-- A request that lists leaves the router as it is. -/
theorem wp_listing_guarded {G : World → World → Prop} (hG : G w w) {routerId : String}
    {request : RouterRequest} {a : request.Result}
    (hlists : ∀ id, request.perform id (w.routers routerId) = some (a, w.routers routerId))
    {Q : request.Result → ℓ → World → Prop} (hQ : Q a l w) :
    Procedure.wp (World.flawless P) G (Service.request routerId request) Q E l w :=
  wp_request_guarded fun id b r hperform => by
    cases (hlists id).symm.trans hperform
    rw [World.setRouter_self]
    exact ⟨hG, hQ⟩

theorem wp_request_flawless {routerId : String} {request : RouterRequest}
    {Q : request.Result → ℓ → World → Prop}
    (hQ : ∀ id a r, request.perform id (w.routers routerId) = some (a, r) →
      Q a l (w.setRouter routerId r)) :
    Procedure.wp (World.flawless P) (fun _ _ => True) (Service.request routerId request) Q E l w :=
  wp_request_guarded fun id a r hperform => ⟨trivial, hQ id a r hperform⟩

theorem wp_listing_flawless {routerId : String} {request : RouterRequest} {a : request.Result}
    (hlists : ∀ id, request.perform id (w.routers routerId) = some (a, w.routers routerId))
    {Q : request.Result → ℓ → World → Prop} (hQ : Q a l w) :
    Procedure.wp (World.flawless P) (fun _ _ => True) (Service.request routerId request) Q E l w :=
  wp_listing_guarded trivial hlists hQ

theorem wp_orThrow_flawless {value : Option β} {message : String} {Q : β → ℓ → World → Prop}
    (hnone : value = none → E (.error message) l w) (hsome : ∀ b, value = some b → Q b l w) :
    Procedure.wp (World.flawless P) (fun _ _ => True) (Service.orThrow value message) Q E l w := by
  cases value with
  | none => exact hnone rfl
  | some b => exact hsome b rfl

/-- There is a client for the router, or the service throws where it is. -/
theorem wp_routerClient_flawless {id : String} {Q : RouterRow → ℓ → World → Prop}
    (hok : w.db.Connects P id → ∀ router, router.id = id → Q router l w)
    (herror : ¬w.db.Connects P id → ∀ e, E e l w) :
    Procedure.wp (World.flawless P) (fun _ _ => True) (routerClient P id) Q E l w := by
  refine Procedure.wp_bind.2 (Procedure.wp_bind.2 (wp_query_flawless (wp_orThrow_flawless
    (fun hnone => herror ?_ _) fun router hrouter => Procedure.wp_bind.2 (Procedure.wp_bind.2 ?_))))
  · rintro ⟨router, hrouter, -⟩
    cases hnone.symm.trans hrouter
  · cases hcredentials : router.credentials P with
    | error e =>
      refine herror ?_ e
      rintro ⟨router', hrouter', credentials, hok'⟩
      cases hrouter.symm.trans hrouter'
      cases hcredentials.symm.trans hok'
    | ok credentials =>
      exact hok ⟨router, hrouter, credentials, hcredentials⟩ router
        (by simpa using List.find?_some hrouter)

end Rules

/-! ## The status of an operation -/

/-- An operation is completed, or has failed for good. -/
def OperationStatus.Finished (status : OperationStatus) : Prop :=
  status = .completed ∨ status = .failed

/-- An operation is left for a later pass. -/
def OperationStatus.Retried (status : OperationStatus) : Prop :=
  status = .needsReconciliation ∨ status = .pendingCleanup

/-- The status of an operation is one of `K`. -/
def World.StatusOf (w : World) (operationId : String) (K : OperationStatus → Prop) : Prop :=
  ∀ o ∈ w.db.operations, o.id = operationId → K o.status

section Statuses

variable {P : Platform} {ℓ : Type} {l : ℓ} {w : World} {E : AppError → ℓ → World → Prop}
  {operationId : String}

/-- A statement that gives an operation a status. -/
theorem wp_updateOperation_flawless {s : Statement} {f : ℤ → OperationRow → OperationRow}
    {K : OperationStatus → Prop}
    (hs : ∀ now id, ∃ a : s.Result, ∀ db, s.tx P now id db = .ok (a, { db with
      operations := db.operations.map fun o => if o.id = operationId then f now o else o }))
    (hf : ∀ now o, K (f now o).status) :
    Procedure.wp (World.flawless P) (fun _ _ => True) (Service.execute s : Service ℓ s.Result)
      (fun _ _ w' => w'.StatusOf operationId K) E l w :=
  wp_execute_flawless fun now id a db htx o' ho' hop => by
    obtain ⟨b, hsets⟩ := hs now id
    cases (hsets w.db).symm.trans htx
    obtain ⟨o, -, rfl⟩ := List.mem_map.1 ho'
    by_cases ho : o.id = operationId
    · rw [if_pos ho]
      exact hf now o
    · rw [if_neg ho] at hop
      exact absurd hop ho

theorem wp_finishOperation_flawless {context : Option Json} :
    Procedure.wp (World.flawless P) (fun _ _ => True)
      (Service.execute (.finishOperation operationId .completed context) : Service ℓ Unit)
      (fun _ _ w' => w'.StatusOf operationId OperationStatus.Finished) E l w :=
  wp_updateOperation_flawless (s := .finishOperation operationId .completed context)
    (fun _ _ => ⟨(), fun _ => rfl⟩) fun _ _ => .inl rfl

theorem wp_finishReconciledFailure_flawless {context : Json} :
    Procedure.wp (World.flawless P) (fun _ _ => True)
      (Service.execute (.finishReconciledFailure operationId context) : Service ℓ Unit)
      (fun _ _ w' => w'.StatusOf operationId OperationStatus.Finished) E l w :=
  wp_updateOperation_flawless (s := .finishReconciledFailure operationId context)
    (fun _ _ => ⟨(), fun _ => rfl⟩) fun _ _ => .inr rfl

end Statuses

/-! ## Cleanups -/

theorem RouterContent.deletePeer_ok {id : String} {r r' : RouterContent} {u : Unit}
    (h : r.deletePeer id = some (u, r')) :
    (∃ p ∈ r.peers, p.id = id) ∧ r' = { r with peers := r.peers.filter fun p => p.id ≠ id } := by
  unfold RouterContent.deletePeer at h
  split_ifs at h with hfound
  cases h
  exact ⟨hfound, rfl⟩

theorem RouterContent.deleteSimpleQueue_ok {id : String} {r r' : RouterContent} {u : Unit}
    (h : r.deleteSimpleQueue id = some (u, r')) :
    r'.queues = (r.queues.filter fun q => q.id ≠ id) ∧ r'.peers = r.peers := by
  unfold RouterContent.deleteSimpleQueue at h
  split_ifs at h
  cases h
  exact ⟨rfl, rfl⟩

/-- At most one peer of its router answers to a row. -/
def World.Answers (w : World) (row : PeerRow) : Prop :=
  ∀ remote ∈ (w.routers row.routerId).remotePeers, ∀ remote' ∈ (w.routers row.routerId).remotePeers,
    row.Matches remote → row.Matches remote' → remote = remote'

section Cleanups

variable {P : Platform} {ℓ : Type} {l : ℓ} {w : World} {E : AppError → ℓ → World → Prop}

/-- The only peer that answers to a row is removed. -/
theorem wp_removeRemotePeer_flawless {row : PeerRow} {message : String} (hanswers : w.Answers row) :
    Procedure.wp (World.flawless P) (fun _ _ => True) (removeRemotePeer row.routerId row message)
      (fun _ _ w' => w'.db = w.db) E l w := by
  refine Procedure.wp_bind.2 (wp_listing_flawless (fun _ => rfl) ?_)
  have hend : ∀ r : RouterContent, row.Gone r.remotePeers →
      Procedure.wp (World.flawless P) (fun _ _ => True) (do
        let remotePeers ← Service.request row.routerId .getPeers
        if ¬row.Gone remotePeers then throw (.error message))
      (fun _ _ w' => w'.db = w.db) E l (w.setRouter row.routerId r) := fun r hgone => by
    refine Procedure.wp_bind.2 (wp_listing_flawless (fun _ => rfl) ?_)
    rw [World.routers_setRouter, if_neg (not_not.2 hgone)]
    rfl
  cases hfound : (w.routers row.routerId).remotePeers.find? fun remote => row.Matches remote with
  | none =>
    have hgone := hend (w.routers row.routerId) fun remote hremote => by
      simpa using List.find?_eq_none.1 hfound remote hremote
    rw [World.setRouter_self] at hgone
    exact hgone
  | some remote =>
    refine Procedure.wp_bind.2 (wp_request_flawless fun id a r hperform => hend r ?_)
    obtain ⟨-, rfl⟩ := RouterContent.deletePeer_ok hperform
    -- A peer that is left and answers to the row would be the one that was removed.
    intro remote' hremote' hmatches'
    obtain ⟨peer', hpeer', rfl⟩ := List.mem_map.1 hremote'
    obtain ⟨hpeer', hne⟩ := List.mem_filter.1 hpeer'
    have hsame := hanswers _ (List.mem_of_find?_eq_some hfound) _ (List.mem_map_of_mem hpeer')
      (by simpa using List.find?_some hfound) hmatches'
    exact absurd (congrArg RemoteWireGuardPeer.id hsame).symm (of_decide_eq_true hne)

/-- The queues of a peer are removed. -/
theorem wp_deleteOwnedPeerQueueRemote_flawless {routerId peerId : String} :
    Procedure.wp (World.flawless P) (fun _ _ => True) (deleteOwnedPeerQueueRemote routerId peerId)
      (fun _ _ w' => w'.db = w.db ∧ (w'.routers routerId).peers = (w.routers routerId).peers)
        E l w := by
  refine Procedure.wp_bind.2 (wp_listing_flawless (fun _ => rfl) ?_)
  -- Of the queues of the peer, those are left that are still to be deleted.
  have hloop : Procedure.wp (World.flawless P) (fun _ _ => True)
      ((ownedQueues peerId (w.routers routerId).queues).forM fun queue =>
        Service.request routerId (.deleteSimpleQueue queue.id))
      (fun _ _ w' => w'.db = w.db ∧ (w'.routers routerId).peers = (w.routers routerId).peers ∧
        ∀ queue ∈ ownedQueues peerId (w'.routers routerId).queues,
          queue ∈ ([] : List RemoteSimpleQueue)) E l w := by
    refine Procedure.wp_forM (J := fun rest _ (w' : World) => w'.db = w.db ∧
      (w'.routers routerId).peers = (w.routers routerId).peers ∧
      ∀ queue ∈ ownedQueues peerId (w'.routers routerId).queues, queue ∈ rest)
      ⟨rfl, rfl, fun _ => id⟩ ?_
    intro queue rest l w' ⟨hdb, hpeers, hleft⟩
    refine wp_request_flawless fun id a r hperform => ?_
    obtain ⟨hqueues, hsame⟩ := RouterContent.deleteSimpleQueue_ok hperform
    rw [World.routers_setRouter, hsame, hqueues]
    refine ⟨hdb, hpeers, fun queue' hqueue' => ?_⟩
    obtain ⟨hqueue', howned⟩ := List.mem_filter.1 hqueue'
    obtain ⟨hqueue', hne⟩ := List.mem_filter.1 hqueue'
    rcases List.mem_cons.1 (hleft queue' (List.mem_filter.2 ⟨hqueue', howned⟩)) with rfl | hrest
    · exact absurd rfl (of_decide_eq_true hne)
    · exact hrest
  refine Procedure.wp_bind.2 (Procedure.wp_mono hloop ?_ fun _ _ _ => id)
  intro _ l w' ⟨hdb, hpeers, hleft⟩
  refine Procedure.wp_bind.2 (wp_listing_flawless (fun _ => rfl) ?_)
  have hnone := List.eq_nil_iff_forall_not_mem.2 fun queue hqueue =>
    List.not_mem_nil (hleft queue hqueue)
  dsimp only
  rw [if_neg (not_not.2 hnone)]
  exact ⟨hdb, hpeers⟩

section Operations

variable {operation : OperationRow}

/-- The row of the peer of an operation, if there is one. -/
def World.peerOf (w : World) (operation : OperationRow) : Option PeerRow :=
  (filled operation.peerId).bind w.db.peer

theorem World.peerOf_eq {peerId : String} (hid : filled operation.peerId = some peerId) :
    w.peerOf operation = w.db.peer peerId := by
  rw [peerOf, hid, Option.bind_some]

/-- There is a client for the router of the peer of the operation, if there is a peer. -/
def OperationRow.Connects (P : Platform) (operation : OperationRow) (w : World) : Prop :=
  ∀ row ∈ w.peerOf operation, w.db.Connects P row.routerId

/-- The operation is finished, and there was a client. -/
def OperationRow.Cleaned (P : Platform) (operation : OperationRow) (w w' : World) : Prop :=
  operation.Connects P w ∧ w'.StatusOf operation.id OperationStatus.Finished

/-- Without a peer, no client is asked for. -/
theorem wp_cleaned_of_none {x : Service ℓ Unit} (hnone : w.peerOf operation = none)
    (hx : Procedure.wp (World.flawless P) (fun _ _ => True) x
      (fun _ _ w' => w'.StatusOf operation.id OperationStatus.Finished) E l w) :
    Procedure.wp (World.flawless P) (fun _ _ => True) x
      (fun _ _ w' => operation.Cleaned P w w') E l w := by
  refine Procedure.wp_mono hx (fun _ _ _ h => ⟨fun row hrow => ?_, h⟩) fun _ _ _ => id
  rw [hnone] at hrow
  cases hrow

/-- A cleanup that comes to an end with a client needs no more than the client. -/
theorem wp_cleaned_of_client {row : PeerRow} {f : RouterRow → Service ℓ Unit}
    (hrow : w.peerOf operation = some row)
    (hf : ∀ router, router.id = row.routerId →
      Procedure.wp (World.flawless P) (fun _ _ => True) (f router)
        (fun _ _ w' => w'.StatusOf operation.id OperationStatus.Finished)
          (fun _ _ _ => False) l w) :
    Procedure.wp (World.flawless P) (fun _ _ => True) (routerClient P row.routerId >>= f)
      (fun _ _ w' => operation.Cleaned P w w') (fun _ _ _ => ¬operation.Connects P w) l w := by
  have hconnects : operation.Connects P w ↔ w.db.Connects P row.routerId := by
    rw [OperationRow.Connects, hrow]
    exact ⟨fun h => h row rfl, fun h row' hrow' => Option.some.inj hrow' ▸ h⟩
  refine Procedure.wp_bind.2 (wp_routerClient_flawless (fun hok router hrouter =>
    Procedure.wp_mono (hf router hrouter)
      (fun _ _ _ h => ⟨hconnects.2 hok, h⟩) fun _ _ _ h => h.elim)
    fun hnot _ h => hnot (hconnects.1 h))

/-- The cleanup of a creation comes to an end just when there is a client. -/
theorem wp_reconcileCreateCleanup_flawless
    (hanswers : ∀ row ∈ w.peerOf operation, w.Answers row) :
    Procedure.wp (World.flawless P) (fun _ _ => True) (reconcileCreateCleanup P operation)
      (fun _ _ w' => operation.Cleaned P w w') (fun _ _ _ => ¬operation.Connects P w) l w := by
  unfold reconcileCreateCleanup
  cases hid : filled operation.peerId with
  | none =>
    exact wp_cleaned_of_none (by rw [World.peerOf, hid]; rfl) wp_finishReconciledFailure_flawless
  | some peerId =>
    have hpeer := World.peerOf_eq (w := w) hid
    refine Procedure.wp_bind.2 (wp_query_flawless ?_)
    cases hrow : w.db.peer peerId with
    | none => exact wp_cleaned_of_none (hpeer.trans hrow) wp_finishReconciledFailure_flawless
    | some row =>
      refine wp_cleaned_of_client (hpeer.trans hrow) fun router hrouter => ?_
      rw [hrouter]
      -- The queues go first, which leaves the peers of the router as they are.
      refine Procedure.wp_bind.2 (Procedure.wp_mono wp_deleteOwnedPeerQueueRemote_flawless ?_
        fun _ _ _ => id)
      rintro _ l w₁ ⟨-, hpeers⟩
      have hanswers₁ : w₁.Answers row := by
        have hlisted : (w₁.routers row.routerId).remotePeers =
            (w.routers row.routerId).remotePeers := congrArg (List.map _) hpeers
        unfold World.Answers
        rw [hlisted]
        exact hanswers row (hpeer.trans hrow)
      refine Procedure.wp_bind.2 (Procedure.wp_mono (wp_removeRemotePeer_flawless hanswers₁)
        (fun _ l w₂ _ => ?_) fun _ _ _ => id)
      refine Procedure.wp_bind.2 (wp_execute_flawless fun _ _ _ _ _ => ?_)
      refine Procedure.wp_bind.2 (wp_execute_flawless fun _ _ _ _ _ => ?_)
      exact wp_finishReconciledFailure_flawless

/-- So does that of a deletion. -/
theorem wp_reconcileDeleteCleanup_flawless
    (hanswers : ∀ row ∈ w.peerOf operation, w.Answers row) :
    Procedure.wp (World.flawless P) (fun _ _ => True) (reconcileDeleteCleanup P operation)
      (fun _ _ w' => operation.Cleaned P w w') (fun _ _ _ => ¬operation.Connects P w) l w := by
  unfold reconcileDeleteCleanup
  cases hid : filled operation.peerId with
  | none => exact wp_cleaned_of_none (by rw [World.peerOf, hid]; rfl) wp_finishOperation_flawless
  | some peerId =>
    have hpeer := World.peerOf_eq (w := w) hid
    refine Procedure.wp_bind.2 (wp_query_flawless ?_)
    cases hrow : w.db.peer peerId with
    | none => exact wp_cleaned_of_none (hpeer.trans hrow) wp_finishOperation_flawless
    | some row =>
      refine wp_cleaned_of_client (hpeer.trans hrow) fun router hrouter => ?_
      rw [hrouter]
      -- Here the peer goes first, and its queues after it.
      refine Procedure.wp_bind.2 (Procedure.wp_mono
        (wp_removeRemotePeer_flawless (hanswers row (hpeer.trans hrow))) (fun _ l w₁ _ => ?_)
        fun _ _ _ => id)
      refine Procedure.wp_bind.2 (Procedure.wp_mono wp_deleteOwnedPeerQueueRemote_flawless
        (fun queuesRemoved l w₂ _ => ?_) fun _ _ _ => id)
      refine Procedure.wp_bind.2 (wp_execute_flawless fun _ _ _ _ _ => ?_)
      refine Procedure.wp_bind.2 (wp_execute_flawless fun _ _ _ _ _ => ?_)
      exact wp_finishOperation_flawless

end Operations

end Cleanups

/-! ## Updates -/

section Updates

variable {P : Platform} {ℓ : Type} {l : ℓ} {w : World}

/-- The row of the peer is not loaded, so its bandwidth is never observed. -/
theorem wp_observePeerBandwidth_flawless {peerId : String} :
    Procedure.wp (World.flawless P) (fun _ _ => True) (observePeerBandwidth P peerId)
      (fun _ _ _ => False) (fun _ _ _ => True) l w := by
  refine Procedure.wp_bind.2 (Procedure.wp_bind.2 (wp_query_flawless ?_))
  rw [if_pos (by decide)]
  exact Procedure.wp_throw.2 trivial

/-- An update does not come to an end. -/
theorem wp_reconcileUpdate_flawless {operation : OperationRow} {fresh : FreshIds} {now : ℤ} :
    Procedure.wp (World.flawless P) (fun _ _ => True) (reconcileUpdate P operation fresh now)
      (fun _ _ _ => False) (fun _ _ _ => True) l w := by
  unfold reconcileUpdate
  split
  -- Whatever the synchronisation comes to, the observation after it throws.
  · refine Procedure.wp_bind.2 (Procedure.wp_mono (Procedure.leaves_true l w) (fun _ l w₁ _ => ?_)
      fun _ _ _ => id)
    exact Procedure.wp_bind.2 (Procedure.wp_mono wp_observePeerBandwidth_flawless
      (fun _ _ _ h => h.elim) fun _ _ _ => id)
  · exact Procedure.wp_throw.2 trivial

end Updates

/-! ## Synchronisations -/

/-- A synchronisation changes four tables. -/
def Synchronised (db db' : Database) : Prop :=
  ∃ interfaces drifts peers addresses, db' = { db with interfaces, drifts, peers, addresses }

instance : IsPreorder Database Synchronised where
  refl db := ⟨_, _, _, _, rfl⟩
  trans db₁ db₂ db₃ := by
    rintro ⟨_, _, _, _, rfl⟩ ⟨_, _, _, _, rfl⟩
    exact ⟨_, _, _, _, rfl⟩

section Sync

variable {P : Platform} {routerId : String} {fresh : FreshIds} {listing : SyncListing}
  {db db' : Database}

theorem synchronised_importPeer {interfaceId fingerprint newId : String}
    {remote : RemoteWireGuardPeer} {onlineSeconds now : ℤ} : Within Synchronised
      (importPeer P routerId interfaceId remote fingerprint onlineSeconds newId now) := by
  intro db u db' htx
  rcases importPeer_ok htx with ⟨-, rfl⟩ | ⟨db₁, hinsert, hplace⟩
  · exact Std.Refl.refl _
  obtain ⟨peers, rfl, -⟩ := Tx.insertPeer_ok hinsert
  rcases hplace with rfl | ⟨poolId, db₂, hupdate, addresses, rfl⟩
  · exact ⟨_, _, _, _, rfl⟩
  · obtain ⟨peers', rfl, -⟩ := Tx.updatePeer_ok hupdate
    exact ⟨_, _, _, _, rfl⟩

theorem synchronised_syncTransaction :
    Within Synchronised (syncTransaction P routerId fresh listing) := by
  refine within_get.bind fun before => ?_
  refine (within_foldlM fun item _ progress => ?_).bind fun progress => within_get.bind fun db => ?_
  · intro db progress' db' htx
    obtain ⟨interfaces, drifts, interfaceId, rfl, -⟩ := syncInterface_ok htx
    exact ⟨_, _, _, _, rfl⟩
  refine (within_foldlM fun remote _ progress => ?_).bind fun progress => ?_
  · intro db progress' db' htx
    cases (syncPeer_ok htx).1 with
    | skipped _ hsame => exact hsame ▸ Std.Refl.refl _
    | imported _ _ _ himport => exact synchronised_importPeer _ _ _ himport
    | updated _ _ _ _ hupdate =>
      obtain ⟨db₁, drifts, hupdate, rfl⟩ := hupdate
      obtain ⟨peers, rfl, -⟩ := Tx.updatePeer_ok hupdate
      exact ⟨_, _, _, _, rfl⟩
  refine Within.bind (within_foldlM fun peer _ progress => ?_) fun _ => within_pure
  unfold syncMissing
  cases missingConflict _ peer with
  | none => exact within_pure
  | some conflict =>
    refine Within.bind (fun db u db' htx => ?_) fun _ => within_pure
    obtain ⟨peers, rfl, -⟩ := Tx.updatePeer_ok htx
    exact ⟨_, _, _, _, rfl⟩

end Sync

/-! ## A pass -/

/-- What is watched of an operation: its identifier, and its status if it is the
    one. -/
def OperationRow.watched (watched : Option String) (o : OperationRow) :
    String × Option OperationStatus :=
  (o.id, if watched = some o.id then some o.status else none)

/-- The operations stay, and the one that is watched keeps its status. -/
structure SameStatus (watched : Option String) (db db' : Database) : Prop where
  rows : db'.operations.map (OperationRow.watched watched) =
    db.operations.map (OperationRow.watched watched)

instance (watched : Option String) : IsPreorder Database (SameStatus watched) where
  refl _ := ⟨rfl⟩
  trans _ _ _ h h' := ⟨h'.rows.trans h.rows⟩

section Watched

variable {P : Platform} {watched : Option String} {db db' : Database}

theorem SameStatus.exists_operation (h : SameStatus watched db db') {id : String}
    (hid : ∃ o ∈ db.operations, o.id = id) : ∃ o ∈ db'.operations, o.id = id := by
  obtain ⟨o, ho, rfl⟩ := hid
  obtain ⟨o', ho', hsame⟩ := List.mem_map.1
    (h.rows.symm ▸ List.mem_map_of_mem (f := OperationRow.watched watched) ho)
  exact ⟨o', ho', congrArg Prod.fst hsame⟩

theorem SameStatus.status {id : String} (h : SameStatus (some id) db db')
    {K : OperationStatus → Prop} (hK : ∀ o ∈ db.operations, o.id = id → K o.status) :
    ∀ o ∈ db'.operations, o.id = id → K o.status := fun o' ho' hid => by
  obtain ⟨o, ho, hsame⟩ := List.mem_map.1
    (h.rows ▸ List.mem_map_of_mem (f := OperationRow.watched (some id)) ho')
  have hid' : o.id = id := (congrArg Prod.fst hsame).trans hid
  have hstatus := congrArg Prod.snd hsame
  simp only [OperationRow.watched, hid, hid', if_pos, Option.some.injEq] at hstatus
  exact hstatus ▸ hK o ho hid'

theorem sameStatus_of_eq {α : Type} {tx : Tx α}
    (h : ∀ db a db', tx db = .ok (a, db') → db'.operations = db.operations) :
    Within (SameStatus watched) tx := fun db a db' htx => ⟨by rw [h db a db' htx]⟩

theorem sameStatus_updateOperation {operationId : String} {f : OperationRow → OperationRow}
    (hf : ∀ o, (f o).id = o.id) (hne : watched ≠ some operationId) :
    Within (SameStatus watched) (Tx.updateOperation operationId f) := fun db u db' htx => by
  cases htx
  refine ⟨(List.map_map ..).trans (List.map_congr_left fun o _ => ?_)⟩
  simp only [Function.comp_apply]
  split_ifs with hid
  · simp [OperationRow.watched, hf, hid, hne]
  · rfl

theorem sameStatus_deletePeer {id : String} : Within (SameStatus watched) (Tx.deletePeer id) :=
  fun db u db' htx => by
    obtain ⟨addresses, -, hrest⟩ := Tx.statement_bind_ok.1 htx
    cases Tx.return_eq_ok.1 hrest
    refine ⟨(List.map_map ..).trans (List.map_congr_left fun o _ => ?_)⟩
    simp only [Function.comp_apply]
    split_ifs <;> rfl

/-- The statements for one operation leave the status of another. -/
theorem sameStatus_ofReconciler {operationId : String} {s : Statement}
    (hs : s.OfReconciler operationId) (hne : watched ≠ some operationId) (now : ℤ) (id : String) :
    Within (SameStatus watched) (s.tx P now id) := by
  have hrelease : ∀ peerId, Within (SameStatus watched) (releasePeerPoolAddress peerId) := fun _ =>
    sameStatus_of_eq fun db a db' htx => by rw [Tx.deleteAddresses_ok htx]
  cases s <;> try exact False.elim hs
  case operationStep | finishOperation | failOperation | finishReconciledFailure =>
    cases hs
    exact sameStatus_updateOperation (fun _ => rfl) hne
  case updatePeer =>
    exact sameStatus_of_eq fun db a db' htx => by
      obtain ⟨peers, rfl, -⟩ := Tx.updatePeer_ok htx
      rfl
  case sync =>
    exact sameStatus_of_eq fun db a db' htx => by
      obtain ⟨_, _, _, _, rfl⟩ := synchronised_syncTransaction _ _ _ htx
      rfl
  case startSyncRun routerId =>
    refine sameStatus_of_eq fun db a db' htx => ?_
    change Tx.insertSyncRun routerId db = _ at htx
    unfold Tx.insertSyncRun at htx
    split_ifs at htx
    cases htx
    rfl
  case finishSyncRun | routerStatus => exact within_pure
  case unreachablePeers | unreachableInterfaces =>
    exact sameStatus_of_eq fun db a db' htx => by
      cases htx
      rfl
  case bandwidthDrift => exact within_get.bind fun _ => within_peerDriftIdTypes
  case dismissDrift =>
    exact sameStatus_of_eq fun db a db' htx => by
      obtain ⟨drifts, rfl⟩ := Tx.dismissDrifts_ok htx
      rfl
  case removeStagedPeer =>
    exact (hrelease _).bind fun _ => (sameStatus_of_eq fun db a db' htx => by
      cases htx
      rfl).bind fun _ => sameStatus_deletePeer
  case archiveAndDelete =>
    exact (sameStatus_of_eq fun db a db' htx => by
      cases htx
      rfl).bind fun _ => (hrelease _).bind fun _ => (sameStatus_of_eq fun db a db' htx => by
      cases htx
      rfl).bind fun _ => sameStatus_deletePeer

end Watched

/-- The operations that a pass brings to an end: a creation and a deletion, unless there is no
    client for the router of the peer. -/
def OperationRow.Reconcilable (P : Platform) (operation : OperationRow) (w : World) : Prop :=
  (operation.operationType = "peer_create" ∨ operation.operationType = "peer_delete") ∧
    operation.Connects P w

/-- A pass from `w` to `w'` takes up an operation in the world `w₁`. -/
def TakesUp (P : Platform) (limit : ℕ) (fresh : OperationRow → FreshIds) (now : ℤ)
    (operation : OperationRow) (w w₁ w' : World) : Prop :=
  ∃ front rest l₁ l₂, w.db.pendingOperations limit now = front ++ operation :: rest ∧
    Procedure.Returns (World.flawless P)
      (front.forM fun o => reconcileCounted P o (fresh o) now) {} w () l₁ w₁ ∧
    Procedure.Returns (World.flawless P)
      ((operation :: rest).forM fun o => reconcileCounted P o (fresh o) now) l₁ w₁ () l₂ w'

section Pass

variable {P : Platform} {limit : ℕ} {now : ℤ} {operation : OperationRow} {w w₁ w' : World}

theorem wp_reconcileOperation_flawless {ℓ : Type} {l : ℓ} {fresh : FreshIds}
    (hanswers : ∀ row ∈ w.peerOf operation, w.Answers row) :
    Procedure.wp (World.flawless P) (fun _ _ => True) (reconcileOperation P operation fresh now)
      (fun _ _ w' => operation.Reconcilable P w ∧
        w'.StatusOf operation.id OperationStatus.Finished)
      (fun _ _ _ => ¬operation.Reconcilable P w) l w := by
  unfold reconcileOperation OperationRow.Reconcilable
  split_ifs with hcreate hdelete hupdate
  · exact Procedure.wp_mono (wp_reconcileCreateCleanup_flawless hanswers)
      (fun _ _ _ h => ⟨⟨.inl hcreate, h.1⟩, h.2⟩) fun _ _ _ hnot h => hnot h.2
  · exact Procedure.wp_mono (wp_reconcileDeleteCleanup_flawless hanswers)
      (fun _ _ _ h => ⟨⟨.inr hdelete, h.1⟩, h.2⟩) fun _ _ _ hnot h => hnot h.2
  · exact Procedure.wp_mono wp_reconcileUpdate_flawless (fun _ _ _ h => h.elim)
      fun _ _ _ _ h => h.1.elim hcreate hdelete
  · exact Procedure.wp_throw.2 fun h => h.1.elim hcreate hdelete

/-- What a pass makes of one operation. -/
theorem wp_reconcileCounted_flawless {l : ReconcileTotals} {fresh : FreshIds}
    (hanswers : ∀ row ∈ w.peerOf operation, w.Answers row) :
    Procedure.wp (World.flawless P) (fun _ _ => True) (reconcileCounted P operation fresh now)
      (fun _ _ w' =>
        operation.Reconcilable P w ∧ w'.StatusOf operation.id OperationStatus.Finished ∨
          ¬operation.Reconcilable P w ∧ w'.StatusOf operation.id OperationStatus.Retried)
      (fun _ _ _ => True) l w := by
  refine Procedure.wp_bind.2 (Procedure.wp_modify.2 (Procedure.wp_tryCatch.2
    (Procedure.wp_bind.2 (Procedure.wp_mono (wp_reconcileOperation_flawless hanswers)
      (fun _ _ _ h => Procedure.wp_modify.2 (.inl h)) ?_))))
  intro e l w₁ hstays
  -- What is thrown is counted, and the operation is put back for another pass.
  have hretried : ∀ status : OperationStatus, status.Retried → ∀ context,
      Procedure.wp (World.flawless P) (fun _ _ => True)
        (Service.execute (.failOperation operation.id status context) : Service _ Unit)
        (fun _ _ w' => w'.StatusOf operation.id OperationStatus.Retried)
          (fun _ _ _ => False) l w₁ :=
    fun status hstatus context =>
      wp_updateOperation_flawless (s := .failOperation operation.id status context)
        (fun _ _ => ⟨(), fun _ => rfl⟩) fun _ _ => hstatus
  refine Procedure.wp_bind.2 (Procedure.wp_bind.2 (Procedure.wp_attempt.2 (Procedure.wp_mono
    (hretried _ ?_ _) (fun _ _ _ h => Procedure.wp_modify.2 (.inr ⟨hstays, h⟩))
    fun _ _ _ h => h.elim)))
  split_ifs
  · exact .inr rfl
  · exact .inl rfl

/-- The operations stay while others are taken up, and the one that is watched
    keeps its status. -/
theorem sameStatus_reconcileCounted {watched : Option String} {fresh : FreshIds}
    {l l' : ReconcileTotals} (hne : watched ≠ some operation.id)
    (h : (reconcileCounted P operation fresh now).Returns (World.flawless P) l w () l' w') :
    SameStatus watched w.db w'.db :=
  (Procedure.Makes.returns (K := fun w' => SameStatus watched w.db w'.db)
    executes_reconcileCounted (fun c w₁ r w₂ hc hw hcall =>
      Call.Executing.within (fun _ hs => sameStatus_ofReconciler hs hne) c w₁ r w₂ hc hw hcall.1)
    (Std.Refl.refl _) h).2

theorem sameStatus_forM {watched : Option String} {fresh : OperationRow → FreshIds}
    {operations : List OperationRow} (hne : ∀ o ∈ operations, watched ≠ some o.id)
    {l l' : ReconcileTotals}
    (h : Procedure.Returns (World.flawless P)
      (operations.forM fun o => reconcileCounted P o (fresh o) now) l w () l' w') :
    SameStatus watched w.db w'.db := by
  induction operations generalizing l w with
  | nil =>
    obtain ⟨-, -, rfl⟩ := Procedure.returns_pure.1 h
    exact Std.Refl.refl _
  | cons o rest ih =>
    obtain ⟨_, l₁, w₁, hfirst, hrest⟩ := Procedure.returns_bind.1 h
    exact IsTrans.trans _ _ _ (sameStatus_reconcileCounted (hne o List.mem_cons_self) hfirst)
      (ih (fun o' ho' => hne o' (List.mem_cons_of_mem _ ho')) hrest)

/-- Every pass takes up the operations that it selects. -/
theorem exists_takesUp {fresh : OperationRow → FreshIds} {totals : ReconcileTotals}
    (h : ((reconcilePendingOperations P limit fresh now : Service Unit _).start ()).Ends
      (World.flawless P) w (.ok totals) w')
    (hselected : operation ∈ w.db.pendingOperations limit now) :
    ∃ w₁, TakesUp P limit fresh now operation w w₁ w' := by
  obtain ⟨_, hreturns⟩ := Procedure.ends_start.1 h
  obtain ⟨operations, _, w₂, ⟨t, hquery⟩, hreturns⟩ := Procedure.returns_bind.1 hreturns
  have hread : operations = w.db.pendingOperations limit now ∧ w₂ = w := by
    have hwp : Procedure.wp (World.flawless P) (fun _ _ => True)
        (Service.query fun db => db.pendingOperations limit now : Service Unit _)
        (fun operations _ w₂ => operations = w.db.pendingOperations limit now ∧ w₂ = w)
        (fun _ _ _ => True) () w := wp_query_flawless ⟨rfl, rfl⟩
    exact hwp.ends hquery
  obtain ⟨rfl, rfl⟩ := hread
  obtain ⟨l, hpass, -⟩ := Procedure.returns_withLocals hreturns
  obtain ⟨_, l₂, w₃, hloop, hget⟩ := Procedure.returns_bind.1 hpass
  obtain ⟨-, -, rfl⟩ := Procedure.returns_get.1 hget
  obtain ⟨front, rest, hsplit⟩ := List.append_of_mem hselected
  rw [hsplit] at hloop
  obtain ⟨l₁, w₁, hfront, hrest⟩ := Procedure.returns_forM_append.1 hloop
  exact ⟨w₁, front, rest, l₁, l₂, hsplit, hfront, hrest⟩

/-- A pass selects each operation once. -/
theorem pendingOperations_nodup {db : Database} (hids : (db.operations.map OperationRow.id).Nodup)
    (limit : ℕ) (now : ℤ) : ((db.pendingOperations limit now).map OperationRow.id).Nodup := by
  refine List.Nodup.sublist ((List.take_sublist _ _).map _) ?_
  refine (((List.perm_insertionSort _ _).map _).nodup_iff).2 ?_
  exact hids.sublist (List.filter_sublist.map _)

/-- A pass in which no call fails completes or fails an operation for good just
    when the operation is the creation or the deletion of a peer, and there is a
    client for its router: an update is never observed, and no other operation
    has a reconciler. -/
theorem finished_iff_reconcilable {fresh : OperationRow → FreshIds}
    (h : TakesUp P limit fresh now operation w w₁ w')
    (hids : (w.db.operations.map OperationRow.id).Nodup)
    (hanswers : ∀ row ∈ w₁.peerOf operation, w₁.Answers row) :
    (∃ o ∈ w'.db.operations, o.id = operation.id ∧ o.status.Finished) ↔
      operation.Reconcilable P w₁ := by
  obtain ⟨front, rest, l₁, l₂, hpending, hfront, hrest⟩ := h
  obtain ⟨_, l, w₂, hcounted, hrest⟩ := Procedure.returns_bind.1 hrest
  have hpending' : operation ∈ w.db.pendingOperations limit now := by simp [hpending]
  have hselected : operation ∈ w.db.operations :=
    List.mem_of_mem_filter ((List.mem_insertionSort _).1 (List.mem_of_mem_take hpending'))
  have hother : ∀ o ∈ rest, some operation.id ≠ some o.id := by
    have hnodup := pendingOperations_nodup hids limit now
    rw [hpending, List.map_append, List.map_cons, List.nodup_append, List.nodup_cons] at hnodup
    exact fun o ho hid => hnodup.2.1.1 (Option.some.inj hid ▸ List.mem_map_of_mem ho)
  have hstays : ∃ o ∈ w'.db.operations, o.id = operation.id := by
    have hnone : ∀ o : OperationRow, (none : Option String) ≠ some o.id := fun _ => nofun
    exact (sameStatus_forM (fun o _ => hnone o) hrest).exists_operation
      ((sameStatus_reconcileCounted (hnone operation) hcounted).exists_operation
        ((sameStatus_forM (fun o _ => hnone o) hfront).exists_operation
          ⟨operation, hselected, rfl⟩))
  have hends : operation.Reconcilable P w₁ ∧ w₂.StatusOf operation.id OperationStatus.Finished ∨
      ¬operation.Reconcilable P w₁ ∧ w₂.StatusOf operation.id OperationStatus.Retried := by
    obtain ⟨t, hrun⟩ := hcounted
    exact (wp_reconcileCounted_flawless hanswers).ends hrun
  -- The operations that come after it in the pass leave its status alone.
  have hsame := sameStatus_forM hother hrest
  rcases hends with ⟨hreconcilable, hstatus⟩ | ⟨hnot, hstatus⟩
  · obtain ⟨o, ho, hid⟩ := hstays
    exact iff_of_true ⟨o, ho, hid, hsame.status hstatus o ho hid⟩ hreconcilable
  · refine iff_of_false ?_ hnot
    rintro ⟨o, ho, hid, hfinished⟩
    have hretried := hsame.status hstatus o ho hid
    rcases hfinished with hfinished | hfinished <;> rw [hfinished] at hretried <;>
      rcases hretried with hretried | hretried <;> cases hretried

end Pass

/-! ### Two passes -/

/-- The installation, with an operation. -/
def pendingWorld (operation : OperationRow) : World where
  db := { plainDatabase plainPeer plainPeer_check with operations := [operation] }
  routers _ := plainContent plainRemote

/-- An operation on its peer that has stopped half-way. -/
def pendingOperation (operationType : String) (status : OperationStatus) : OperationRow where
  id := "o1"
  operationType := operationType
  status := status
  routerId := some "r1"
  peerId := some "p1"
  context := .obj []
  retryCount := 1
  nextRetryAt := none
  updatedAt := 0

/-- The statuses after a pass in which no call fails. -/
def pendingOutcome (operation : OperationRow) (calls : ℕ) : Option (List OperationStatus) :=
  (Program.runWhile (fun _ r => r.toBool) (World.answer Platform.plain)
    (Procedure.start
      ([operation].forM fun o => reconcileCounted Platform.plain o plainFreshIds 0) {})
    (List.replicate calls {}) (pendingWorld operation)).bind fun outcome =>
      if outcome.1.toBool then some (outcome.2.db.operations.map OperationRow.status) else none

theorem exists_takesUp_pending (operation : OperationRow) (calls : ℕ)
    (statuses : List OperationStatus) (hpending : operation.status.Pending)
    (hretry : operation.nextRetryAt = none)
    (h : pendingOutcome operation calls = some statuses) :
    ∃ w', TakesUp Platform.plain 1 (fun _ => plainFreshIds) 0 operation (pendingWorld operation)
        (pendingWorld operation) w' ∧ w'.db.operations.map OperationRow.status = statuses := by
  obtain ⟨⟨r, w'⟩, hrun, hstatuses⟩ := Option.bind_eq_some_iff.1 h
  cases r with
  | error e => cases hstatuses
  | ok u =>
    cases hstatuses
    have hflawless : ∀ d ∈ List.replicate calls ({} : Decision), ∀ w c,
        (World.answer Platform.plain d w c).1.toBool = true →
        World.flawless Platform.plain c w (World.answer Platform.plain d w c).1
          (World.answer Platform.plain d w c).2 := fun d hd w c hgood => by
      refine ⟨⟨d, List.eq_of_mem_replicate hd ▸ rfl, rfl⟩, ?_⟩
      cases hresult : (World.answer Platform.plain d w c).1 with
      | error e =>
        rw [hresult] at hgood
        cases hgood
      | ok a => exact ⟨a, rfl⟩
    obtain ⟨l, hloop⟩ := Procedure.ends_start.1 (Program.ends_of_runWhile hflawless hrun)
    refine ⟨w', ⟨[], [], {}, l, ?_, Procedure.returns_pure.2 ⟨rfl, rfl, rfl⟩, hloop⟩, rfl⟩
    simp [Database.pendingOperations, pendingWorld, hpending, hretry]

/-- Its router shows one peer. -/
theorem answers_pendingWorld {operation : OperationRow} {row : PeerRow} :
    (pendingWorld operation).Answers row := fun _ hremote _ hremote' _ _ =>
  (List.mem_singleton.1 hremote).trans (List.mem_singleton.1 hremote').symm

/-- The deletion of the peer is completed. -/
theorem finished_iff_reconcilable_delete :
    ∃ w', TakesUp Platform.plain 1 (fun _ => plainFreshIds) 0
        (pendingOperation "peer_delete" .pendingCleanup)
        (pendingWorld (pendingOperation "peer_delete" .pendingCleanup))
        (pendingWorld (pendingOperation "peer_delete" .pendingCleanup)) w' ∧
      ∃ o ∈ w'.db.operations, o.id = "o1" ∧ o.status.Finished := by
  obtain ⟨w', htakes, -⟩ := exists_takesUp_pending (pendingOperation "peer_delete" .pendingCleanup)
    10 [.completed] (.inr (.inr rfl)) rfl (by decide +kernel)
  refine ⟨w', htakes, (finished_iff_reconcilable htakes (by decide)
    fun row _ => answers_pendingWorld).2 ⟨.inr rfl, fun row hrow => ?_⟩⟩
  cases hrow
  exact ⟨plainRouter, rfl, _, rfl⟩

/-- The listings that tell of the bandwidth of the peers of a router. -/
def World.queueListing (w : World) (routerId : String) : QueueListing where
  queues := (w.routers routerId).queues
  queueTrees := (w.routers routerId).queueTrees
  mangleRules := (w.routers routerId).mangleRules
  filterRules := (w.routers routerId).filterRules

/-- The router shows the peer of an operation as the row has it, with the queue
    that the row is to have, and no drift of it is left to be resolved. -/
structure World.Undrifted (P : Platform) (w : World) (row : PeerRow) : Prop where
  answers : w.Answers row
  found : ∃ remote ∈ (w.routers row.routerId).remotePeers, row.Matches remote ∧
    classifyPeerSync P (some row.local) (some remote) = .inSync
  queue : ∀ clientIp ∈ filled row.clientIp, ∀ policyPeer ∈ w.db.policyPeer row.id,
    let peer : QueuePeer := { id := row.id, name := row.name, clientIp }
    bandwidthState P (w.queueListing row.routerId) peer
      (desiredSimpleQueue peer (w.db.rowPolicy policyPeer)) = .synced
  resolved : ∀ d ∈ w.db.drifts.rows, d.objectId = row.id → d.resolvedAt ≠ none

/-- The rotation of its keys is not, although nothing about the peer has drifted. -/
theorem exists_not_finished :
    ¬∀ (P : Platform) (limit : ℕ) (fresh : OperationRow → FreshIds) (now : ℤ)
      (operation : OperationRow) (w w₁ w' : World), TakesUp P limit fresh now operation w w₁ w' →
      operation.operationType ∈ ["peer_create", "peer_delete", "peer_update", "peer_key_rotation",
        "bandwidth_update"] → operation.status.Retried →
      (∀ row ∈ w₁.peerOf operation, w₁.Undrifted P row) →
      ∃ o ∈ w'.db.operations, o.id = operation.id ∧ o.status.Finished := by
  intro h
  obtain ⟨w', htakes, hstatuses⟩ := exists_takesUp_pending
    (pendingOperation "peer_key_rotation" .needsReconciliation) 1 [.needsReconciliation]
    (.inr (.inl rfl)) rfl (by decide +kernel)
  have hundrifted : (pendingWorld (pendingOperation "peer_key_rotation"
      .needsReconciliation)).Undrifted Platform.plain plainPeer :=
    { answers := answers_pendingWorld
      found := ⟨plainRemote, List.mem_singleton_self _, by decide, by decide⟩
      queue := by decide
      resolved := by decide }
  obtain ⟨o, ho, -, hfinished⟩ := h _ _ _ _ _ _ _ _ htakes (by decide) (.inl rfl)
    fun row hrow => Option.some.inj hrow ▸ hundrifted
  have hstatus : o.status ∈ [OperationStatus.needsReconciliation] :=
    hstatuses ▸ List.mem_map_of_mem ho
  rw [List.mem_singleton.1 hstatus] at hfinished
  rcases hfinished with hfinished | hfinished <;> cases hfinished

end WireguardPanel
