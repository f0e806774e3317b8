import WireguardPanel.QueueSpellings
import WireguardPanel.ReconciledOperations

/-!
# What a change of a queue does to a router

`applyPeerBandwidthRemote` where the router answers and does what it is asked.

* `Unconflicted`: what it checks before it changes anything.
* `KeepsOthers`: the queues that are not marked as those of the peer stay.
* `wp_removeQueue`, `wp_installQueue`: the two kinds of changes.
* `applyPeerBandwidthRemote_spec`: the whole.
* `observePeerWithQueues_synced_iff`: the observation calls a peer synced just
  when a change would have nothing to do.
-/

namespace WireguardPanel

open Foundation

/-! ## Queues -/

theorem RouterContent.createSimpleQueue_ok {input : DesiredSimpleQueue} {id a : String}
    {r r' : RouterContent} (h : r.createSimpleQueue input id = some (a, r')) :
    (∀ q ∈ r.queues, q.id ≠ a) ∧ a = id ∧ r'.queues = r.queues ++ [input.toQueue a] := by
  unfold RouterContent.createSimpleQueue at h
  split_ifs at h with hused
  cases h
  exact ⟨fun q hq heq => hused (.inr ⟨q, hq, heq⟩), rfl, rfl⟩

theorem RouterContent.updateSimpleQueue_ok {input : DesiredSimpleQueue} {id : String}
    {r r' : RouterContent} {u : Unit} (h : r.updateSimpleQueue id input = some (u, r')) :
    r'.queues = r.queues.map fun q => if q.id = id then input.apply q else q := by
  unfold RouterContent.updateSimpleQueue at h
  split_ifs at h
  cases h
  rfl

/-- The queues that are not marked as those of a peer. -/
def othersQueues (peerId : String) (queues : List RemoteSimpleQueue) : List RemoteSimpleQueue :=
  queues.filter fun queue => Text.trim queue.comment ≠ queueOwnershipComment peerId

/-- A step that leaves the queues of others on a router as they are. -/
def KeepsOthers (routerId peerId : String) (w w' : World) : Prop :=
  othersQueues peerId (w'.routers routerId).queues = othersQueues peerId (w.routers routerId).queues

theorem KeepsOthers.refl (routerId peerId : String) (w : World) : KeepsOthers routerId peerId w w :=
  rfl

/-- Text in which a search finds no white space has none. -/
theorem not_isSpace_of_all {text : String}
    (h : (text.toList.all fun c => !Text.isSpace c) = true) :
    ∀ c ∈ text.toList, Text.isSpace c = false := fun c hc => by
  simpa using List.all_eq_true.1 h c hc

/-- The ownership comment of a peer whose identifier has no white space, such as
    a UUID, is not trimmed. -/
theorem trim_queueOwnershipComment {peerId : String}
    (h : ∀ c ∈ peerId.toList, Text.isSpace c = false) :
    Text.trim (queueOwnershipComment peerId) = queueOwnershipComment peerId := by
  have hliteral : ∀ c ∈ "wireguard-control:peer:".toList, Text.isSpace c = false :=
    not_isSpace_of_all (by decide +kernel)
  refine Text.trim_eq_self fun c hc => ?_
  have hmem : c ∈ ("wireguard-control:peer:" ++ peerId).toList := hc
  rw [String.toList_append, List.mem_append] at hmem
  rcases hmem with hmem | hmem
  · exact hliteral c hmem
  · exact h c hmem

theorem desiredSimpleQueue_comment {peer : QueuePeer} {policy : EffectiveBandwidthPolicy}
    {desired : DesiredSimpleQueue} (h : desiredSimpleQueue peer policy = some desired) :
    desired.comment = queueOwnershipComment peer.id := by
  unfold desiredSimpleQueue at h
  split_ifs at h
  cases h
  rfl

section Queues

variable {peerId : String} {desired : DesiredSimpleQueue} {queues : List RemoteSimpleQueue}

theorem ownedQueues_eq_nil_iff : ownedQueues peerId queues = [] ↔
    ∀ queue ∈ queues, Text.trim queue.comment ≠ queueOwnershipComment peerId := by
  simp [ownedQueues, List.filter_eq_nil_iff]

/-- A queue that is added for the peer is the only one of it. -/
theorem ownedQueues_append (hcomment : Text.trim desired.comment = queueOwnershipComment peerId)
    (hnone : ownedQueues peerId queues = []) (id : String) :
    ownedQueues peerId (queues ++ [desired.toQueue id]) = [desired.toQueue id] ∧
      othersQueues peerId (queues ++ [desired.toQueue id]) = othersQueues peerId queues := by
  have howned : Text.trim (desired.toQueue id).comment = queueOwnershipComment peerId := hcomment
  constructor
  · rw [ownedQueues, List.filter_append, ← ownedQueues, hnone]
    simp [howned]
  · rw [othersQueues, List.filter_append, ← othersQueues]
    simp [howned]

variable {current : RemoteSimpleQueue}

/-- The queues that have the identifier of the only queue of the peer. -/
theorem eq_of_id_eq (hids : (queues.map RemoteSimpleQueue.id).Nodup)
    (hone : ownedQueues peerId queues = [current]) {queue : RemoteSimpleQueue}
    (hqueue : queue ∈ queues) (hid : queue.id = current.id) : queue = current := by
  have hcurrent : current ∈ queues :=
    (List.mem_filter.1 (show current ∈ ownedQueues peerId queues by simp [hone])).1
  exact List.inj_on_of_nodup_map hids hqueue hcurrent hid

/-- The only queue of the peer stays the only one of it when it is changed. -/
theorem ownedQueues_map (hcomment : Text.trim desired.comment = queueOwnershipComment peerId)
    (hids : (queues.map RemoteSimpleQueue.id).Nodup)
    (hone : ownedQueues peerId queues = [current]) :
    ownedQueues peerId (queues.map fun q => if q.id = current.id then desired.apply q else q) =
        [desired.apply current] ∧
      othersQueues peerId (queues.map fun q => if q.id = current.id then desired.apply q else q) =
        othersQueues peerId queues := by
  have hsame : ∀ queue ∈ queues, queue.id = current.id → queue = current := fun queue hqueue =>
    eq_of_id_eq hids hone hqueue
  have hcurrent : Text.trim current.comment = queueOwnershipComment peerId := by
    have hmem : current ∈ ownedQueues peerId queues := by simp [hone]
    simpa using (List.mem_filter.1 hmem).2
  -- The change does not alter which queues are marked as those of the peer.
  have hmark : ∀ queue ∈ queues,
      (Text.trim (if queue.id = current.id then desired.apply queue else queue).comment =
        queueOwnershipComment peerId ↔ Text.trim queue.comment = queueOwnershipComment peerId) := by
    intro queue hqueue
    split_ifs with hid
    · rw [hsame queue hqueue hid]
      exact iff_of_true hcomment hcurrent
    · rfl
  constructor
  · rw [ownedQueues, List.filter_map]
    have hfilter : queues.filter ((fun queue : RemoteSimpleQueue =>
        decide (Text.trim queue.comment = queueOwnershipComment peerId)) ∘
          fun q => if q.id = current.id then desired.apply q else q) = [current] := by
      rw [← hone, ownedQueues]
      refine List.filter_congr fun queue hqueue => ?_
      simpa using hmark queue hqueue
    rw [hfilter]
    simp
  · rw [othersQueues, List.filter_map]
    have hfilter : queues.filter ((fun queue : RemoteSimpleQueue =>
        decide (Text.trim queue.comment ≠ queueOwnershipComment peerId)) ∘
          fun q => if q.id = current.id then desired.apply q else q) =
        othersQueues peerId queues := by
      refine List.filter_congr fun queue hqueue => ?_
      simpa using hmark queue hqueue
    rw [hfilter]
    refine (List.map_congr_left fun queue hqueue => ?_).trans (List.map_id _)
    obtain ⟨hqueue, hother⟩ := List.mem_filter.1 hqueue
    refine if_neg fun hid => of_decide_eq_true hother ?_
    rw [hsame queue hqueue hid]
    exact hcurrent

/-- The changed queue is the one that is found by its identifier or its mark. -/
theorem find_changed (hids : (queues.map RemoteSimpleQueue.id).Nodup)
    (hone : ownedQueues peerId queues = [current])
    (hone' : ownedQueues peerId (queues.map fun q =>
      if q.id = current.id then desired.apply q else q) = [desired.apply current]) :
    (queues.map fun q => if q.id = current.id then desired.apply q else q).find? (fun q =>
      q.id = current.id ∨ Text.trim q.comment = queueOwnershipComment peerId) =
        some (desired.apply current) := by
  generalize hchanged : (queues.map fun q => if q.id = current.id then desired.apply q else q) =
    changed at *
  have hmem : desired.apply current ∈ ownedQueues peerId changed := by simp [hone']
  obtain ⟨hmem, hmark⟩ := List.mem_filter.1 hmem
  -- Every queue with the identifier or the mark is the changed one.
  have honly : ∀ queue ∈ changed, (queue.id = current.id ∨
      Text.trim queue.comment = queueOwnershipComment peerId) → queue = desired.apply current := by
    rintro queue hqueue (hid | howned)
    · rw [← hchanged] at hqueue
      obtain ⟨q, hq, rfl⟩ := List.mem_map.1 hqueue
      split_ifs at hid ⊢ with hsame
      · rw [eq_of_id_eq hids hone hq hsame]
      · exact absurd hid hsame
    · have howned : queue ∈ ownedQueues peerId changed :=
        List.mem_filter.2 ⟨hqueue, decide_eq_true howned⟩
      rwa [hone', List.mem_singleton] at howned
  rcases hfind : changed.find? (fun q => q.id = current.id ∨
      Text.trim q.comment = queueOwnershipComment peerId) with _ | found
  · have hnone := List.find?_eq_none.1 hfind _ hmem
    exact absurd (decide_eq_true (.inr (of_decide_eq_true hmark))) hnone
  · have hsame := honly found (List.mem_of_find?_eq_some hfind)
      (by simpa using List.find?_some hfind)
    rw [← hsame]
    exact hfind

/-- The only queue of the peer is removed. -/
theorem ownedQueues_remove (hids : (queues.map RemoteSimpleQueue.id).Nodup)
    (hone : ownedQueues peerId queues = [current]) :
    ownedQueues peerId (queues.filter fun q => q.id ≠ current.id) = [] ∧
      othersQueues peerId (queues.filter fun q => q.id ≠ current.id) =
        othersQueues peerId queues := by
  have hsame : ∀ queue ∈ queues, queue.id = current.id → queue = current := fun queue hqueue =>
    eq_of_id_eq hids hone hqueue
  have hcurrent : Text.trim current.comment = queueOwnershipComment peerId := by
    have hmem : current ∈ ownedQueues peerId queues := by simp [hone]
    simpa using (List.mem_filter.1 hmem).2
  constructor
  · rw [ownedQueues_eq_nil_iff]
    intro queue hqueue hmark
    obtain ⟨hqueue, hid⟩ := List.mem_filter.1 hqueue
    have howned : queue ∈ ownedQueues peerId queues :=
      List.mem_filter.2 ⟨hqueue, decide_eq_true hmark⟩
    rw [hone, List.mem_singleton] at howned
    exact of_decide_eq_true hid (congrArg RemoteSimpleQueue.id howned)
  · rw [othersQueues, othersQueues, List.filter_filter]
    refine List.filter_congr fun queue hqueue => ?_
    simp only [Bool.and_eq_left_iff_imp, decide_eq_true_eq]
    intro hother hid
    exact hother (hsame queue hqueue hid ▸ hcurrent)

end Queues

/-! ## The checks -/

/-- Nothing stands in the way of a change of the queue of a peer. -/
structure Unconflicted (listing : QueueListing) (peer : QueuePeer)
    (desired : Option DesiredSimpleQueue) : Prop where
  owned : (ownedQueues peer.id listing.queues).length ≤ 1
  targets : targetConflicts listing peer = []
  shaping : desired.isSome = true → shapingConflicts listing peer = []
  fastTrack : desired.isSome = true → enabledFastTrackRules listing.filterRules = []

section Checks

variable {P : Platform} {ℓ : Type} {l : ℓ} {w : World} {G : World → World → Prop}
  {E : AppError → ℓ → World → Prop} {listing : QueueListing} {peer : QueuePeer}
  {desired : Option DesiredSimpleQueue}

theorem wp_rejectConflicts {env : Environment Call (fun c => Except AppError c.Result) World}
    {message : String} {conflicts : List ConflictSummary} {Q : Unit → ℓ → World → Prop}
    (hok : conflicts = [] → Q () l w)
    (hconflict : conflicts ≠ [] → E (.bandwidthConflict message conflicts) l w) :
    Procedure.wp env G (rejectConflicts message conflicts) Q E l w := by
  unfold rejectConflicts
  split_ifs with h
  · exact hok h
  · exact hconflict h

/-- The checks end in the state in which they begin. -/
theorem wp_checkConflicts {env : Environment Call (fun c => Except AppError c.Result) World}
    {Q : Unit → ℓ → World → Prop} (hok : Unconflicted listing peer desired → Q () l w)
    (hconflict : ∀ message conflicts, ¬Unconflicted listing peer desired →
      E (.bandwidthConflict message conflicts) l w) :
    Procedure.wp env G (checkConflicts listing peer desired) Q E l w := by
  unfold checkConflicts
  by_cases hmany : 1 < (ownedQueues peer.id listing.queues).length
  · simp only [hmany, if_true]
    exact Procedure.wp_bind.2 (hconflict _ _ fun h => absurd h.owned (by omega))
  simp only [hmany, if_false]
  refine Procedure.wp_bind.2 (wp_rejectConflicts (fun htargets => ?_) fun htargets =>
    hconflict _ _ fun h => htargets (by rw [h.targets, List.map_nil]))
  have htargets := List.map_eq_nil_iff.1 htargets
  by_cases hlimits : desired.isSome = true
  · rw [if_pos hlimits]
    refine Procedure.wp_bind.2 (wp_rejectConflicts (fun hshaping => ?_) fun hshaping =>
      hconflict _ _ fun h => hshaping (h.shaping hlimits))
    refine wp_rejectConflicts (fun hfastTrack => ?_) fun hfastTrack =>
      hconflict _ _ fun h => hfastTrack (h.fastTrack hlimits)
    exact hok ⟨not_lt.1 hmany, htargets, fun _ => hshaping, fun _ => hfastTrack⟩
  · rw [if_neg hlimits]
    exact hok ⟨not_lt.1 hmany, htargets, fun h => absurd h hlimits, fun h => absurd h hlimits⟩

end Checks

/-! ## The changes -/

/-- A change that fails leaves the queues of others, and leaves everything if
    what it throws is a conflict. -/
def QueueFailed (routerId peerId : String) (w : World) (e : AppError) (w' : World) : Prop :=
  KeepsOthers routerId peerId w w' ∧
    ∀ message conflicts, e = .bandwidthConflict message conflicts → w' = w

/-- The router holds one queue of the peer, the one that it is to have. -/
def QueueInstalled (P : Platform) (routerId peerId : String) (desired : DesiredSimpleQueue)
    (w : World) : Prop :=
  ∃ queue, ownedQueues peerId (w.routers routerId).queues = [queue] ∧
    queueMatchesDesired P queue desired = true

section Changes

variable {P : Platform} {ℓ : Type} {l : ℓ} {w : World} {routerId : String} {peer : QueuePeer}

theorem queueFailed_error {w' : World} {message : String}
    (h : KeepsOthers routerId peer.id w w') : QueueFailed routerId peer.id w (.error message) w' :=
  ⟨h, fun _ _ heq => by cases heq⟩

/-- A peer that is to have no queue has none afterwards. -/
theorem wp_removeQueue (hids : ((w.routers routerId).queues.map RemoteSimpleQueue.id).Nodup)
    (howned : (ownedQueues peer.id (w.routers routerId).queues).length ≤ 1) :
    Procedure.wp (World.flawless P) (KeepsOthers routerId peer.id)
      (removeQueue routerId peer (ownedQueues peer.id (w.routers routerId).queues).head?)
      (fun _ _ w' => KeepsOthers routerId peer.id w w' ∧
        ownedQueues peer.id (w'.routers routerId).queues = [])
      (fun e (_ : ℓ) => QueueFailed routerId peer.id w e) l w := by
  rcases hone : ownedQueues peer.id (w.routers routerId).queues with _ | ⟨current, rest⟩
  · exact ⟨rfl, hone⟩
  · obtain rfl : rest = [] := by
      rw [hone, List.length_cons] at howned
      exact List.eq_nil_of_length_eq_zero (by omega)
    obtain ⟨hnone, hothers⟩ := ownedQueues_remove hids hone
    refine Procedure.wp_bind.2 (wp_request_guarded fun id a r hperform => ?_)
    obtain ⟨hqueues, -⟩ := RouterContent.deleteSimpleQueue_ok hperform
    have hkeeps : KeepsOthers routerId peer.id w (w.setRouter routerId r) := by
      rw [KeepsOthers, World.routers_setRouter, hqueues, hothers]
    refine ⟨hkeeps,
      Procedure.wp_bind.2 (wp_listing_guarded (KeepsOthers.refl ..) (fun _ => rfl) ?_)⟩
    have hleft : ownedQueues peer.id ((w.setRouter routerId r).routers routerId).queues = [] := by
      rw [World.routers_setRouter, hqueues, hnone]
    dsimp only
    rw [if_neg (not_not.2 hleft)]
    exact ⟨hkeeps, hleft⟩

variable {desired : DesiredSimpleQueue}

/-- The queue that is read back after a change is the only one of the peer. -/
theorem wp_verifyQueue {remoteId : String} {queue : RemoteSimpleQueue} {action : BandwidthAction}
    {w' : World} (hkeeps : KeepsOthers routerId peer.id w w')
    (hone : ownedQueues peer.id (w'.routers routerId).queues = [queue])
    (hfind : (w'.routers routerId).queues.find? (fun q => q.id = remoteId ∨
      Text.trim q.comment = queueOwnershipComment peer.id) = some queue) :
    Procedure.wp (World.flawless P) (KeepsOthers routerId peer.id) (do
        let queues ← Service.request routerId .getSimpleQueues
        match queues.find? fun queue => queue.id = remoteId ∨
            Text.trim queue.comment = queueOwnershipComment peer.id with
        | some verified =>
          if queueMatchesDesired P verified desired then
            return ({
              state := .synced
              desired := some desired
              remote := some verified
              action } : BandwidthApplyResult)
          else throw (.error "RouterOS queue verification failed after the bandwidth change.")
        | none => throw (.error "RouterOS queue verification failed after the bandwidth change."))
      (fun _ _ w' => KeepsOthers routerId peer.id w w' ∧
        QueueInstalled P routerId peer.id desired w')
      (fun e (_ : ℓ) => QueueFailed routerId peer.id w e) l w' := by
  refine Procedure.wp_bind.2 (wp_listing_guarded (KeepsOthers.refl ..) (fun _ => rfl) ?_)
  rw [hfind]
  dsimp only
  split_ifs with hmatches
  · exact ⟨hkeeps, queue, hone, hmatches⟩
  · exact queueFailed_error hkeeps

/-- A peer that is to have a queue has this one and no other afterwards. -/
theorem wp_installQueue {force : Bool}
    (hcomment : Text.trim desired.comment = queueOwnershipComment peer.id)
    (hids : ((w.routers routerId).queues.map RemoteSimpleQueue.id).Nodup)
    (howned : (ownedQueues peer.id (w.routers routerId).queues).length ≤ 1) :
    Procedure.wp (World.flawless P) (KeepsOthers routerId peer.id)
      (installQueue P routerId peer (ownedQueues peer.id (w.routers routerId).queues).head? desired
        force)
      (fun _ _ w' => KeepsOthers routerId peer.id w w' ∧
        QueueInstalled P routerId peer.id desired w')
      (fun e (_ : ℓ) => QueueFailed routerId peer.id w e) l w := by
  unfold installQueue
  rcases hone : ownedQueues peer.id (w.routers routerId).queues with _ | ⟨current, rest⟩
  · -- the queue is added
    refine Procedure.wp_bind.2 (wp_request_guarded fun id a r hperform => ?_)
    obtain ⟨hfresh, rfl, hqueues⟩ := RouterContent.createSimpleQueue_ok hperform
    obtain ⟨hone', hothers⟩ := ownedQueues_append hcomment hone a
    have hkeeps : KeepsOthers routerId peer.id w (w.setRouter routerId r) := by
      rw [KeepsOthers, World.routers_setRouter, hqueues, hothers]
    have howned' : ownedQueues peer.id ((w.setRouter routerId r).routers routerId).queues =
        [desired.toQueue a] := by
      rw [World.routers_setRouter, hqueues, hone']
    refine ⟨hkeeps, wp_verifyQueue hkeeps howned' ?_⟩
    have hold : (w.routers routerId).queues.find? (fun q => q.id = a ∨
        Text.trim q.comment = queueOwnershipComment peer.id) = none := by
      refine List.find?_eq_none.2 fun q hq => ?_
      simpa using ⟨hfresh q hq, ownedQueues_eq_nil_iff.1 hone q hq⟩
    have hid : (desired.toQueue a).id = a := rfl
    rw [World.routers_setRouter, hqueues, List.find?_append, hold]
    simp [hid]
  · obtain rfl : rest = [] := by
      rw [hone, List.length_cons] at howned
      exact List.eq_nil_of_length_eq_zero (by omega)
    dsimp only [List.head?_cons]
    split_ifs with hmatches hforce
    · exact ⟨rfl, current, hone, hmatches⟩
    · exact ⟨rfl, fun _ _ _ => rfl⟩
    · -- the queue is changed
      refine Procedure.wp_bind.2 (wp_request_guarded fun id a r hperform => ?_)
      have hqueues := RouterContent.updateSimpleQueue_ok hperform
      obtain ⟨hone', hothers⟩ := ownedQueues_map hcomment hids hone
      have hkeeps : KeepsOthers routerId peer.id w (w.setRouter routerId r) := by
        rw [KeepsOthers, World.routers_setRouter, hqueues, hothers]
      have howned' : ownedQueues peer.id ((w.setRouter routerId r).routers routerId).queues =
          [desired.apply current] := by
        rw [World.routers_setRouter, hqueues, hone']
      refine ⟨hkeeps, wp_verifyQueue hkeeps howned' ?_⟩
      rw [World.routers_setRouter, hqueues]
      exact find_changed hids hone hone'

end Changes

/-! ## The whole change -/

/-- The router holds the queue that the peer is to have, or none if it is to
    have none. -/
def QueueOutcome (P : Platform) (routerId peerId : String) (w : World) :
    Option DesiredSimpleQueue → Prop
  | some desired => QueueInstalled P routerId peerId desired w
  | none => ownedQueues peerId (w.routers routerId).queues = []

theorem wp_listQueues_guarded {P : Platform} {ℓ : Type} {l : ℓ} {w : World}
    {G : World → World → Prop} {E : AppError → ℓ → World → Prop} (hG : G w w) {routerId : String}
    {Q : QueueListing → ℓ → World → Prop} (hQ : Q (w.queueListing routerId) l w) :
    Procedure.wp (World.flawless P) G (listQueues routerId) Q E l w := by
  refine Procedure.wp_bind.2 (wp_listing_guarded hG (fun _ => rfl) ?_)
  refine Procedure.wp_bind.2 (wp_listing_guarded hG (fun _ => rfl) ?_)
  refine Procedure.wp_bind.2 (wp_listing_guarded hG (fun _ => rfl) ?_)
  exact Procedure.wp_bind.2 (wp_listing_guarded hG (fun _ => rfl) hQ)

/-- Whatever a change of the queue of a peer does, it leaves the queues of others
    alone. A conflict changes nothing. If it returns, the peer has exactly the
    queue that it is to have, or none if it is to have none. -/
theorem applyPeerBandwidthRemote_spec (P : Platform) (routerId : String) (peer : QueuePeer)
    (policy : EffectiveBandwidthPolicy) (force : Bool) (w : World)
    (hpeer : ∀ c ∈ peer.id.toList, Text.isSpace c = false)
    (hids : ((w.routers routerId).queues.map RemoteSimpleQueue.id).Nodup) :
    Procedure.wp (World.flawless P) (KeepsOthers routerId peer.id)
      (applyPeerBandwidthRemote P routerId peer policy force : Service Unit BandwidthApplyResult)
      (fun _ _ w' => KeepsOthers routerId peer.id w w' ∧
        QueueOutcome P routerId peer.id w' (desiredSimpleQueue peer policy))
      (fun e _ w' => KeepsOthers routerId peer.id w w' ∧
        ∀ message conflicts, e = .bandwidthConflict message conflicts → w' = w) () w := by
  refine Procedure.wp_bind.2 (wp_listQueues_guarded (KeepsOthers.refl ..) ?_)
  refine Procedure.wp_bind.2 (wp_checkConflicts (fun hfree => ?_)
    fun _ _ _ => ⟨KeepsOthers.refl .., fun _ _ _ => rfl⟩)
  cases hdesired : desiredSimpleQueue peer policy with
  | none => exact wp_removeQueue hids hfree.owned
  | some desired =>
    have hcomment : Text.trim desired.comment = queueOwnershipComment peer.id := by
      rw [desiredSimpleQueue_comment hdesired, trim_queueOwnershipComment hpeer]
    exact wp_installQueue hcomment hids hfree.owned

/-- The installation, whose router has the queue of its peer and one for another
    address. -/
def shapedWorld : World :=
  limitedWorld.setRouter "r1" { plainContent heavyRemote with
    queues := [shownQueue "90s/90s", { shownQueue "0s/0s" with
      id := "*2", name := "guest", target := "10.0.0.9/32", comment := "guest" }] }

/-- The change of the queue of the installation. -/
theorem applyPeerBandwidthRemote_spec_shaped :
    Procedure.wp (World.flawless Platform.plain) (KeepsOthers "r1" "p1")
      (applyPeerBandwidthRemote Platform.plain "r1" ⟨"p1", "laptop", "10.0.0.2"⟩ burstPolicy true :
        Service Unit BandwidthApplyResult)
      (fun _ _ w' => KeepsOthers "r1" "p1" shapedWorld w' ∧
        QueueOutcome Platform.plain "r1" "p1" w'
          (desiredSimpleQueue ⟨"p1", "laptop", "10.0.0.2"⟩ burstPolicy))
      (fun e _ w' => KeepsOthers "r1" "p1" shapedWorld w' ∧
        ∀ message conflicts, e = .bandwidthConflict message conflicts → w' = shapedWorld)
      () shapedWorld :=
  applyPeerBandwidthRemote_spec Platform.plain "r1" ⟨"p1", "laptop", "10.0.0.2"⟩ burstPolicy true
    shapedWorld (not_isSpace_of_all (by decide +kernel)) (by decide +kernel)

/-! ## The observation -/

/-- The router holds the queue that is wanted, or none if none is wanted. -/
def QueueSettled (P : Platform) (desired : Option DesiredSimpleQueue)
    (current : Option RemoteSimpleQueue) : Prop :=
  desired.isSome = current.isSome ∧
    ∀ d ∈ desired, ∀ queue ∈ current, queueMatchesDesired P queue d = true

/-- What the observation of a peer calls synced: nothing stands in the way of a
    change, and there is nothing to change. -/
theorem bandwidthState_synced_iff {P : Platform} {listing : QueueListing} {peer : QueuePeer}
    {desired : Option DesiredSimpleQueue} :
    bandwidthState P listing peer desired = .synced ↔ Unconflicted listing peer desired ∧
      QueueSettled P desired (ownedQueues peer.id listing.queues).head? := by
  unfold bandwidthState
  dsimp only
  constructor
  · intro h
    split_ifs at h with hconflict hmany
    rw [not_or, not_and_or, not_not, not_or, not_not, not_not] at hconflict
    obtain ⟨htargets, hrules⟩ := hconflict
    refine ⟨⟨not_lt.1 hmany, htargets, fun hlimits => ?_, fun hlimits => ?_⟩, ?_⟩
    · exact (hrules.resolve_left (not_not.2 hlimits)).1
    · exact (hrules.resolve_left (not_not.2 hlimits)).2
    · rcases desired with _ | d <;>
        rcases hhead : (ownedQueues peer.id listing.queues).head? with _ | queue <;>
        simp only [hhead] at h
      · exact ⟨rfl, fun _ h => by cases h⟩
      · cases h
      · cases h
      · split_ifs at h with hmatches
        refine ⟨rfl, fun d' hd queue' hqueue => ?_⟩
        cases hd
        cases hqueue
        exact hmatches
  · rintro ⟨hfree, hsame, hmatches⟩
    have hconflict : ¬(targetConflicts listing peer ≠ [] ∨ desired.isSome = true ∧
        (shapingConflicts listing peer ≠ [] ∨ enabledFastTrackRules listing.filterRules ≠ [])) := by
      rintro (htargets | ⟨hlimits, hshaping | hfastTrack⟩)
      · exact htargets hfree.targets
      · exact hshaping (hfree.shaping hlimits)
      · exact hfastTrack (hfree.fastTrack hlimits)
    rw [if_neg hconflict, if_neg (not_lt.2 hfree.owned)]
    rcases desired with _ | d <;>
      rcases hhead : (ownedQueues peer.id listing.queues).head? with _ | queue <;>
      simp only [hhead, Option.isSome_none, Option.isSome_some, Bool.true_eq_false,
        Bool.false_eq_true] at hsame hmatches ⊢
    rw [if_pos (hmatches d rfl queue rfl)]

/-- The calls that list the queues and rules of a router. -/
def Call.Lists : Call → Prop
  | .request _ .getSimpleQueues => True
  | .request _ .getQueueTrees => True
  | .request _ .getMangleRules => True
  | .request _ .getFilterRules => True
  | _ => False

/-- The environment in which no call fails and only listings are called. -/
def World.listing (P : Platform) : Environment Call (fun c => Except AppError c.Result) World :=
  fun c w r w' => c.Lists ∧ World.flawless P c w r w'

section Listing

variable {P : Platform} {ℓ : Type} {l l' : ℓ} {w w' : World} {routerId : String}

theorem returns_listing_iff {request : RouterRequest} {a b : request.Result}
    (hlists : (Call.request routerId request).Lists)
    (ha : ∀ id, request.perform id (w.routers routerId) = some (a, w.routers routerId)) :
    (Service.request routerId request : Service ℓ request.Result).Returns (World.listing P)
      l w b l' w' ↔ b = a ∧ l' = l ∧ w' = w := by
  refine Procedure.returns_call.trans ⟨?_, ?_⟩
  · rintro ⟨⟨-, hcall, -⟩, rfl⟩
    rcases Service.environment_request hcall with ⟨id, a', r, hperform, hb, rfl⟩ | ⟨-, e, he⟩
    · cases (ha id).symm.trans hperform
      exact ⟨hb b rfl, rfl, World.setRouter_self ..⟩
    · cases he
  · rintro ⟨rfl, rfl, rfl⟩
    refine ⟨⟨hlists, ⟨{}, rfl, ?_⟩, b, rfl⟩, rfl⟩
    simp only [World.answer, ha, World.setRouter_self]

theorem returns_listQueues_iff {listing : QueueListing} :
    (listQueues routerId : Service ℓ QueueListing).Returns (World.listing P) l w listing l' w' ↔
      listing = w.queueListing routerId ∧ l' = l ∧ w' = w := by
  unfold listQueues
  constructor
  · intro h
    obtain ⟨queues, _, _, hqueues, htail₁⟩ := Procedure.returns_bind.1 h
    obtain ⟨rfl, rfl, rfl⟩ := (returns_listing_iff (by trivial) fun _ => rfl).1 hqueues
    obtain ⟨trees, _, _, htrees, htail₂⟩ := Procedure.returns_bind.1 htail₁
    obtain ⟨rfl, rfl, rfl⟩ := (returns_listing_iff (by trivial) fun _ => rfl).1 htrees
    obtain ⟨mangle, _, _, hmangle, htail₃⟩ := Procedure.returns_bind.1 htail₂
    obtain ⟨rfl, rfl, rfl⟩ := (returns_listing_iff (by trivial) fun _ => rfl).1 hmangle
    obtain ⟨filters, _, _, hfilters, htail₄⟩ := Procedure.returns_bind.1 htail₃
    obtain ⟨rfl, rfl, rfl⟩ := (returns_listing_iff (by trivial) fun _ => rfl).1 hfilters
    obtain ⟨rfl, rfl, rfl⟩ := Procedure.returns_pure.1 htail₄
    exact ⟨rfl, rfl, rfl⟩
  · rintro ⟨rfl, rfl, rfl⟩
    refine Procedure.returns_bind.2 ⟨_, _, _, (returns_listing_iff (by trivial) fun _ => rfl).2
      ⟨rfl, rfl, rfl⟩, ?_⟩
    refine Procedure.returns_bind.2 ⟨_, _, _, (returns_listing_iff (by trivial) fun _ => rfl).2
      ⟨rfl, rfl, rfl⟩, ?_⟩
    refine Procedure.returns_bind.2 ⟨_, _, _, (returns_listing_iff (by trivial) fun _ => rfl).2
      ⟨rfl, rfl, rfl⟩, ?_⟩
    refine Procedure.returns_bind.2 ⟨_, _, _, (returns_listing_iff (by trivial) fun _ => rfl).2
      ⟨rfl, rfl, rfl⟩, ?_⟩
    exact Procedure.returns_pure.2 ⟨rfl, rfl, rfl⟩

/-- Nothing but listings is called in this environment. -/
theorem not_returns_request {α : Type} {request : RouterRequest} {a : α}
    {f : request.Result → Service ℓ α} (h : ¬(Call.request routerId request).Lists) :
    ¬(Service.request routerId request >>= f).Returns (World.listing P) l w a l' w' := by
  intro hreturns
  obtain ⟨_, _, _, hrequest, -⟩ := Procedure.returns_bind.1 hreturns
  exact h (Procedure.returns_call.1 hrequest).1.1

end Listing

section Settled

variable {P : Platform} {ℓ : Type} {l : ℓ} {w : World} {listing : QueueListing} {peer : QueuePeer}
  {desired : Option DesiredSimpleQueue}

/-- Checks that find nothing do nothing. -/
theorem checkConflicts_eq_pure (h : Unconflicted listing peer desired) :
    (checkConflicts listing peer desired : Service ℓ Unit) = pure () := by
  have hreject : ∀ message : String, (rejectConflicts message [] : Service ℓ Unit) = pure () :=
    fun message => if_pos rfl
  unfold checkConflicts
  simp only [not_lt.2 h.owned, if_false, h.targets, List.map_nil, hreject]
  split_ifs with hlimits
  · simp only [h.shaping hlimits, h.fastTrack hlimits, hreject]
    rfl
  · rfl

/-- Checks that return have found nothing. -/
theorem unconflicted_of_returns
    {env : Environment Call (fun c => Except AppError c.Result) World} {u : Unit}
    {l' : ℓ} {w' : World}
    (h : (checkConflicts listing peer desired : Service ℓ Unit).Returns env l w u l' w') :
    Unconflicted listing peer desired ∧ w' = w := by
  obtain ⟨t, hrun⟩ := h
  have halways : Procedure.wp env (fun _ _ => True)
      (checkConflicts listing peer desired : Service ℓ Unit)
      (fun _ _ w' => Unconflicted listing peer desired ∧ w' = w) (fun _ _ _ => True) l w :=
    wp_checkConflicts (fun hfree => ⟨hfree, rfl⟩) fun _ _ _ => trivial
  have hends := Program.Always.ends halways hrun
  exact hends

variable {routerId : String} {current : Option RemoteSimpleQueue}

/-- There is nothing to remove or to install. -/
theorem removeQueue_eq_pure (h : QueueSettled P none current) :
    (removeQueue routerId peer current : Service ℓ BandwidthApplyResult) =
      pure { state := .notConfigured } := by
  rcases current with _ | queue
  · rfl
  · cases h.1

theorem installQueue_eq_pure {d : DesiredSimpleQueue} (h : QueueSettled P (some d) current) :
    (installQueue P routerId peer current d false : Service ℓ BandwidthApplyResult) =
      pure { state := .synced, desired := some d, remote := current } := by
  rcases current with _ | queue
  · cases h.1
  · have hmatches := h.2 d rfl queue rfl
    unfold installQueue
    simp only [hmatches, if_true]

/-- What returns without a call other than a listing had nothing to do. -/
theorem settled_of_removeQueue {result : BandwidthApplyResult} {l' : ℓ} {w' : World}
    (h : (removeQueue routerId peer current : Service ℓ BandwidthApplyResult).Returns
      (World.listing P) l w result l' w') : QueueSettled P none current := by
  rcases current with _ | queue
  · exact ⟨rfl, fun _ hd => by cases hd⟩
  · exact absurd h (not_returns_request fun hlists => hlists)

theorem settled_of_installQueue {d : DesiredSimpleQueue} {result : BandwidthApplyResult} {l' : ℓ}
    {w' : World} (h : (installQueue P routerId peer current d false :
      Service ℓ BandwidthApplyResult).Returns (World.listing P) l w result l' w') :
    QueueSettled P (some d) current := by
  unfold installQueue at h
  rcases current with _ | queue
  · exact absurd h (not_returns_request fun hlists => hlists)
  · dsimp only at h
    split_ifs at h with hmatches hforce
    · refine ⟨rfl, fun d' hd queue' hqueue => ?_⟩
      cases hd
      cases hqueue
      exact hmatches
    · exact absurd h Procedure.not_returns_throw_bind
    · exact absurd rfl hforce

end Settled

/-- What `applyPeerBandwidthRemote` does after the listings. -/
def afterListing {ℓ : Type} (P : Platform) (routerId : String) (peer : QueuePeer)
    (policy : EffectiveBandwidthPolicy) (force : Bool) (listing : QueueListing) :
    Service ℓ BandwidthApplyResult := do
  checkConflicts listing peer (desiredSimpleQueue peer policy)
  let current := (ownedQueues peer.id listing.queues).head?
  match desiredSimpleQueue peer policy with
  | none => removeQueue routerId peer current
  | some desired => installQueue P routerId peer current desired force

theorem applyPeerBandwidthRemote_eq {ℓ : Type} {P : Platform} {routerId : String} {peer : QueuePeer}
    {policy : EffectiveBandwidthPolicy} {force : Bool} :
    (applyPeerBandwidthRemote P routerId peer policy force : Service ℓ BandwidthApplyResult) =
      listQueues routerId >>= afterListing P routerId peer policy force :=
  rfl

/-- An observation begins with the statement that stores the state of the peer. -/
theorem observePeerWithQueues_start (P : Platform) (routerId : String) (peer : QueuePeer)
    (policy : EffectiveBandwidthPolicy) (listing : QueueListing) :
    ∃ next, (observePeerWithQueues P routerId peer policy listing :
        Service Unit BandwidthSyncState).start () =
      .call (.execute (.updatePeer peer.id (.bandwidth (some policy.source)
        (bandwidthState P listing peer (desiredSimpleQueue peer policy))))) next :=
  ⟨_, rfl⟩

/-- An observation that begins in `w` gives the row of the peer the state `state`. This
    is the first that it does with the listings, and it may fail after that. -/
def Classifies (P : Platform) (faults : Call → Fault → Prop) (routerId : String) (peer : QueuePeer)
    (policy : EffectiveBandwidthPolicy) (listing : QueueListing) (w : World)
    (state : BandwidthSyncState) : Prop :=
  ∃ source rest w', ((observePeerWithQueues P routerId peer policy listing :
    Service Unit BandwidthSyncState).start ()).Runs (World.environment P faults) w
      [⟨.execute (.updatePeer peer.id (.bandwidth source state)), .ok ()⟩] rest w'

section Classified

variable {P : Platform} {faults : Call → Fault → Prop} {routerId : String} {peer : QueuePeer}
  {policy : EffectiveBandwidthPolicy} {listing : QueueListing} {w w' : World}
  {state : BandwidthSyncState}

theorem Classifies.state_eq (h : Classifies P faults routerId peer policy listing w state) :
    state = bandwidthState P listing peer (desiredSimpleQueue peer policy) := by
  obtain ⟨source, rest, w', hrun⟩ := h
  obtain ⟨next, hfirst⟩ := observePeerWithQueues_start P routerId peer policy listing
  rw [hfirst] at hrun
  cases hrun with
  | head hcall hrest => rfl

/-- What an observation returns it has given to the row. -/
theorem Classifies.of_returns
    (h : (observePeerWithQueues P routerId peer policy listing :
      Service Unit BandwidthSyncState).Returns (World.environment P faults) () w state () w') :
    Classifies P faults routerId peer policy listing w state := by
  unfold observePeerWithQueues at h
  obtain ⟨u, l₁, w₁, hstore, hrest⟩ := Procedure.returns_bind.1 h
  have hstate : bandwidthState P listing peer (desiredSimpleQueue peer policy) = state := by
    dsimp only at hrest
    split_ifs at hrest
    all_goals
      obtain ⟨_, _, _, -, hdone⟩ := Procedure.returns_bind.1 hrest
      exact (Procedure.returns_pure.1 hdone).1
  obtain ⟨hcall, -⟩ := Procedure.returns_call.1 hstore
  subst hstate
  obtain ⟨next, hfirst⟩ := observePeerWithQueues_start P routerId peer policy listing
  exact ⟨some policy.source, _, w₁, hfirst ▸ Program.Runs.head hcall .refl⟩

end Classified

/-- The observation of a peer calls it synced if and only if a change without
    force, on the same router, has nothing to do: it only lists, and returns. -/
theorem observePeerWithQueues_synced_iff (P : Platform) (faults : Call → Fault → Prop)
    (routerId : String) (peer : QueuePeer) (policy : EffectiveBandwidthPolicy) (w w₀ : World)
    (state : BandwidthSyncState)
    (hclassifies : Classifies P faults routerId peer policy (w.queueListing routerId) w₀ state) :
    state = .synced ↔
      (∃ result, (applyPeerBandwidthRemote P routerId peer policy false :
          Service Unit BandwidthApplyResult).Returns (World.listing P) () w result () w ∧
        result.action = .none) ∧
      Procedure.wp (World.flawless P) Eq
        (applyPeerBandwidthRemote P routerId peer policy false : Service Unit BandwidthApplyResult)
        (fun result _ w' => result.action = .none ∧ w' = w) (fun _ _ _ => False) () w := by
  rw [hclassifies.state_eq, bandwidthState_synced_iff]
  constructor
  · rintro ⟨hfree, hsettled⟩
    -- after the listings nothing is left to do
    obtain ⟨result, haction, hrest⟩ : ∃ result : BandwidthApplyResult, result.action = .none ∧
        afterListing P routerId peer policy false (w.queueListing routerId) =
          (pure result : Service Unit BandwidthApplyResult) := by
      rw [afterListing, checkConflicts_eq_pure hfree]
      cases hdesired : desiredSimpleQueue peer policy with
      | none =>
        rw [hdesired] at hsettled
        exact ⟨_, rfl, removeQueue_eq_pure hsettled⟩
      | some desired =>
        rw [hdesired] at hsettled
        exact ⟨_, rfl, installQueue_eq_pure hsettled⟩
    rw [applyPeerBandwidthRemote_eq]
    refine ⟨⟨result, ?_, haction⟩, ?_⟩
    · refine Procedure.returns_bind.2 ⟨_, _, _, returns_listQueues_iff.2 ⟨rfl, rfl, rfl⟩, ?_⟩
      rw [hrest]
      exact Procedure.returns_pure.2 ⟨rfl, rfl, rfl⟩
    · refine Procedure.wp_bind.2 (wp_listQueues_guarded rfl ?_)
      rw [hrest]
      exact ⟨haction, rfl⟩
  · rintro ⟨⟨result, hreturns, -⟩, -⟩
    rw [applyPeerBandwidthRemote_eq] at hreturns
    obtain ⟨_, _, _, hlisting, hrest⟩ := Procedure.returns_bind.1 hreturns
    obtain ⟨rfl, rfl, rfl⟩ := returns_listQueues_iff.1 hlisting
    obtain ⟨_, _, _, hchecks, hchange⟩ := Procedure.returns_bind.1 hrest
    obtain ⟨hfree, rfl⟩ := unconflicted_of_returns hchecks
    refine ⟨hfree, ?_⟩
    cases hdesired : desiredSimpleQueue peer policy with
    | none =>
      rw [hdesired] at hchange
      exact settled_of_removeQueue hchange
    | some desired =>
      rw [hdesired] at hchange
      exact settled_of_installQueue hchange

/-- What the observation of the peer of the installation finds. -/
def shapedOutcome : Option BandwidthSyncState :=
  ((observePeerWithQueues Platform.plain "r1" ⟨"p1", "laptop", "10.0.0.2"⟩ burstPolicy
    (shapedWorld.queueListing "r1")).run Platform.plain (List.replicate 2 {}) shapedWorld).bind
      fun result => result.1.toOption

theorem returns_of_shapedOutcome {state : BandwidthSyncState} (h : shapedOutcome = some state) :
    ∃ w', (observePeerWithQueues Platform.plain "r1" ⟨"p1", "laptop", "10.0.0.2"⟩ burstPolicy
      (shapedWorld.queueListing "r1") : Service Unit BandwidthSyncState).Returns
        (World.environment Platform.plain fun _ _ => True) () shapedWorld state () w' := by
  obtain ⟨⟨r, w'⟩, hrun, hr⟩ := Option.bind_eq_some_iff.1 h
  cases r with
  | error e => cases hr
  | ok found =>
    cases hr
    exact ⟨w', Service.returns_of_run hrun⟩

/-- The installation is in sync. -/
theorem observePeerWithQueues_synced_iff_shaped :
    BandwidthSyncState.synced = .synced ↔
      (∃ result, (applyPeerBandwidthRemote Platform.plain "r1" ⟨"p1", "laptop", "10.0.0.2"⟩
          burstPolicy false : Service Unit BandwidthApplyResult).Returns
            (World.listing Platform.plain) () shapedWorld result () shapedWorld ∧
        result.action = .none) ∧
      Procedure.wp (World.flawless Platform.plain) Eq
        (applyPeerBandwidthRemote Platform.plain "r1" ⟨"p1", "laptop", "10.0.0.2"⟩
          burstPolicy false :
          Service Unit BandwidthApplyResult)
        (fun result _ w' => result.action = .none ∧ w' = shapedWorld) (fun _ _ _ => False) ()
        shapedWorld := by
  have houtcome : shapedOutcome = some .synced := by decide +kernel
  obtain ⟨w', hobserved⟩ := returns_of_shapedOutcome houtcome
  exact observePeerWithQueues_synced_iff Platform.plain (fun _ _ => True) "r1"
    ⟨"p1", "laptop", "10.0.0.2"⟩ burstPolicy shapedWorld shapedWorld .synced (.of_returns hobserved)

end WireguardPanel
