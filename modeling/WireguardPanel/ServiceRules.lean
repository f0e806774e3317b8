import WireguardPanel.Foundation.Transaction
import WireguardPanel.Reconciler

/-!
# What the services keep

A service whose transactions stay within a relation keeps every assertion about
the world and its history that the relation leaves true, whichever of its calls
fail.

* `Stable`: the assertions that a relation on databases leaves true.
* `keeps_query`, `keeps_execute`, `keeps_request`: the calls.
* `keeps_routerClient`, `keeps_listQueues` and the others: the services.
-/

namespace WireguardPanel

open Foundation

/-! ## Histories -/

/-- The calls of a run with their answers. -/
abbrev History := List (Answered fun c : Call => Except AppError c.Result)

/-- A world with the calls that have led to it. -/
abbrev TracedWorld := World × History

/-- The environment of the services that remembers their calls. -/
abbrev World.traced (P : Platform) (faults : Call → Fault → Prop) :
    Environment Call (fun c => Except AppError c.Result) TracedWorld :=
  (World.environment P faults).traced

/-- A router has shown these peers. -/
def Seen (routerId : String) (remotePeers : List RemoteWireGuardPeer) (t : History) : Prop :=
  ⟨.request routerId .getPeers, .ok remotePeers⟩ ∈ t

theorem Seen.append {routerId : String} {remotePeers : List RemoteWireGuardPeer} {t t' : History}
    (h : Seen routerId remotePeers t) : Seen routerId remotePeers (t ++ t') :=
  List.mem_append_left _ h

/-- The peers that a router has shown, one listing after the other. -/
def History.listings (routerId : String) (t : History) : List (List RemoteWireGuardPeer) :=
  t.filterMap fun
    | ⟨.request id .getPeers, .ok remotePeers⟩ => if id = routerId then some remotePeers else none
    | _ => none

theorem Seen.mem_listings {routerId : String} {remotePeers : List RemoteWireGuardPeer} {t : History}
    (h : Seen routerId remotePeers t) : remotePeers ∈ History.listings routerId t :=
  List.mem_filterMap.2 ⟨_, h, if_pos rfl⟩

/-- The outcome of a service, the world after it and its calls, when the
    environment takes the given decisions. -/
def Service.history {α : Type} (P : Platform) (x : Service Unit α) (decisions : List Decision)
    (w : World) : Option (Except AppError α × TracedWorld) :=
  (x.start ()).run (fun d s c =>
    let (r, w') := World.answer P d s.1 c
    (r, (w', s.2 ++ [⟨c, r⟩]))) decisions (w, [])

theorem Service.runs_of_history {α : Type} {P : Platform} {x : Service Unit α}
    {decisions : List Decision} {w w' : World} {r : Except AppError α} {t : History}
    (h : x.history P decisions w = some (r, (w', t))) :
    (x.start ()).Runs (World.environment P fun _ _ => True) w t (.done r) w' := by
  obtain ⟨t', hrun⟩ : (x.start ()).Ends (World.traced P fun _ _ => True) (w, []) r (w', t) :=
    Program.ends_of_run (fun d _ _ _ => ⟨⟨d, trivial, rfl⟩, rfl⟩) h
  obtain ⟨hrun, htrace⟩ := hrun.of_traced
  change t = [] ++ t' at htrace
  rwa [htrace, List.nil_append]

/-- Calls that change the database as `R` allows leave `K` true, and are such
    that `G` allows them. -/
structure Stable (R : Database → Database → Prop) (G : TracedWorld → TracedWorld → Prop)
    (K : TracedWorld → Prop) : Prop where
  keep : ∀ (w w' : World) (t t' : History), K (w, t) → R w.db w'.db → K (w', t ++ t')
  guarantee : ∀ s s' : TracedWorld, R s.1.db s'.1.db → G s s'

section Rules

variable {P : Platform} {faults : Call → Fault → Prop} {R : Database → Database → Prop}
  {G : TracedWorld → TracedWorld → Prop} {K : TracedWorld → Prop} {ℓ α β : Type}
  [IsPreorder Database R]

/-! ## Calls -/

omit [IsPreorder Database R] in
/-- A call that changes the database as `R` allows. -/
theorem Stable.call (hK : Stable R G K) {c : Call} {w : World} {t : History} {s' : TracedWorld}
    {r : Except AppError c.Result} (hw : K (w, t)) (hcall : World.traced P faults c (w, t) r s')
    (hR : R w.db s'.1.db) : G (w, t) s' ∧ K s' := by
  obtain ⟨w', t'⟩ := s'
  obtain ⟨-, rfl⟩ := hcall
  exact ⟨hK.guarantee _ _ hR, hK.keep w w' t _ hw hR⟩

theorem keeps_query (hK : Stable R G K) {read : Database → α} :
    Procedure.Keeps (World.traced P faults) G K (Service.query read : Service ℓ α) :=
  Procedure.keeps_call fun ⟨w, t⟩ r s' hw hcall => hK.call hw hcall <| by
    rw [(Service.environment_query hcall.1).1]
    exact Std.Refl.refl _

theorem keeps_execute (hK : Stable R G K) {s : Statement}
    (hs : ∀ now id, Within R (s.tx P now id)) :
    Procedure.Keeps (World.traced P faults) G K (Service.execute s : Service ℓ s.Result) :=
  Procedure.keeps_call fun ⟨w, t⟩ r s' hw hcall => hK.call hw hcall <| by
    rcases Service.environment_execute hcall.1 with ⟨now, id, a, db, htx, -, hw'⟩ | ⟨hw', -⟩
    · rw [hw']
      exact hs now id _ _ _ htx
    · rw [hw']
      exact Std.Refl.refl _

theorem keeps_request (hK : Stable R G K) {routerId : String} {request : RouterRequest} :
    Procedure.Keeps (World.traced P faults) G K
      (Service.request routerId request : Service ℓ request.Result) :=
  Procedure.keeps_call fun ⟨w, t⟩ r s' hw hcall => hK.call hw hcall <| by
    rcases Service.environment_request hcall.1 with ⟨id, a, content, -, -, hw'⟩ | ⟨hw', -⟩ <;>
      rw [hw'] <;> exact Std.Refl.refl _

theorem keeps_executeAnyway (hK : Stable R G K) {s : Statement}
    (hs : ∀ now id, Within R (s.tx P now id)) :
    Procedure.Keeps (World.traced P faults) G K (executeAnyway s : Service ℓ Unit) :=
  (keeps_execute hK hs).attempt.bind fun _ => Procedure.keeps_pure

omit [IsPreorder Database R] in
theorem keeps_orThrow {value : Option α} {message : String} :
    Procedure.Keeps (World.traced P faults) G K (Service.orThrow value message : Service ℓ α) := by
  cases value with
  | none => exact Procedure.keeps_throw
  | some a => exact Procedure.keeps_pure

section Weakest

variable {Q : α → ℓ → TracedWorld → Prop} {E : AppError → ℓ → TracedWorld → Prop}
  {l : ℓ} {w : World}
  {t : History}

omit [IsPreorder Database R] in
theorem wp_query {read : Database → α} (hG : ∀ t', G (w, t) (w, t ++ t'))
    (hQ : ∀ t', Q (read w.db) l (w, t ++ t')) (hE : ∀ e t', E e l (w, t ++ t')) :
    Procedure.wp (World.traced P faults) G (Service.query read) Q E l (w, t) :=
  Procedure.wp_call.2 fun r ⟨w', t'⟩ ⟨henv, ht⟩ => by
    obtain ⟨hw, hread⟩ := Service.environment_query henv
    change w' = w at hw
    change t' = _ at ht
    subst hw ht
    refine ⟨hG _, ?_⟩
    cases r with
    | error e => exact hE e _
    | ok a =>
      rw [hread a rfl]
      exact hQ _

omit [IsPreorder Database R] in
theorem wp_execute {s : Statement} {Q : s.Result → ℓ → TracedWorld → Prop}
    (hok : ∀ now id a db t', s.tx P now id w.db = .ok (a, db) →
      G (w, t) ({ w with db }, t ++ t') ∧ Q a l ({ w with db }, t ++ t'))
    (herr : ∀ e t', G (w, t) (w, t ++ t') ∧ E e l (w, t ++ t')) :
    Procedure.wp (World.traced P faults) G (Service.execute s) Q E l (w, t) :=
  Procedure.wp_call.2 fun r ⟨w', t'⟩ ⟨henv, ht⟩ => by
    change t' = _ at ht
    subst ht
    rcases Service.environment_execute henv with ⟨now, id, a, db, htx, rfl, hw⟩ | ⟨hw, e, rfl⟩
    · change w' = _ at hw
      subst hw
      exact hok now id a db _ htx
    · change w' = w at hw
      subst hw
      exact herr e _

omit [IsPreorder Database R] in
theorem wp_request {routerId : String} {request : RouterRequest}
    {Q : request.Result → ℓ → TracedWorld → Prop}
    (hok : ∀ id a content t', request.perform id (w.routers routerId) = some (a, content) →
      G (w, t) (w.setRouter routerId content, t ++ t') ∧
        Q a l (w.setRouter routerId content, t ++ t') ∧
        ∀ e, E e l (w.setRouter routerId content, t ++ t'))
    (herr : ∀ e t', G (w, t) (w, t ++ t') ∧ E e l (w, t ++ t')) :
    Procedure.wp (World.traced P faults) G (Service.request routerId request) Q E l (w, t) :=
  Procedure.wp_call.2 fun r ⟨w', t'⟩ ⟨henv, ht⟩ => by
    change t' = _ at ht
    subst ht
    rcases Service.environment_request henv with ⟨id, a, content, hperform, ha, hw⟩ | ⟨hw, e, rfl⟩
    · change w' = _ at hw
      subst hw
      refine ⟨(hok id a content _ hperform).1, ?_⟩
      cases r with
      | error e => exact (hok id a content _ hperform).2.2 e
      | ok b =>
        rw [ha b rfl]
        exact (hok id a content _ hperform).2.1
    · change w' = w at hw
      subst hw
      exact herr e _

/-- The peers that a router lists are those that it has, and the history tells
    that it has shown them. -/
theorem wp_getPeers (hK : Stable R G K) {routerId : String}
    {Q : List RemoteWireGuardPeer → ℓ → TracedWorld → Prop} (hw : K (w, t))
    (hQ : ∀ t', K (w, t ++ t') → Seen routerId (w.routers routerId).remotePeers (t ++ t') →
      Q (w.routers routerId).remotePeers l (w, t ++ t'))
    (hE : ∀ e t', K (w, t ++ t') → E e l (w, t ++ t')) :
    Procedure.wp (World.traced P faults) G
      (Service.request routerId .getPeers : Service ℓ (List RemoteWireGuardPeer)) Q E l (w, t) :=
  Procedure.wp_call.2 fun r ⟨w', t'⟩ hcall => by
    have hsame : w' = w := by
      rcases Service.environment_request hcall.1 with ⟨id, a, content, hperform, -, hw'⟩ | ⟨hw', -⟩
      · cases hperform
        exact hw'.trans (World.setRouter_self w routerId)
      · exact hw'
    subst hsame
    have hkept := hK.call hw hcall (Std.Refl.refl _)
    obtain ⟨henv, ht⟩ := hcall
    change t' = _ at ht
    subst ht
    refine ⟨hkept.1, ?_⟩
    cases r with
    | error e => exact hE e _ hkept.2
    | ok remotePeers =>
      rcases Service.environment_request henv with ⟨id, a, content, hperform, ha, -⟩ | ⟨-, e, hr⟩
      · cases hperform
        obtain rfl : remotePeers = _ := ha remotePeers rfl
        exact hQ _ hkept.2 (List.mem_append_right _ (List.mem_singleton_self _))
      · cases hr

end Weakest

/-! ## Services that read -/

theorem keeps_getRouter (hK : Stable R G K) {id : String} :
    Procedure.Keeps (World.traced P faults) G K (getRouter id : Service ℓ RouterRow) :=
  (keeps_query hK).bind fun _ => keeps_orThrow

/-- The router that is found has the identifier that it was looked up by. -/
theorem wp_getRouter (hK : Stable R G K) {id : String} {l : ℓ} {w : World} {t : History}
    (hs : K (w, t)) :
    Procedure.wp (World.traced P faults) G (getRouter id : Service ℓ RouterRow)
      (fun router _ s => K s ∧ s.1 = w ∧ router.id = id) (fun _ _ => K) l (w, t) := by
  have hkeep : ∀ t', K (w, t ++ t') := fun t' => hK.keep w w t t' hs (Std.Refl.refl _)
  refine Procedure.wp_bind.2 (wp_query (fun _ => hK.guarantee _ _ (Std.Refl.refl _))
    (fun t' => ?_) fun _ => hkeep)
  cases hrouter : w.db.router id with
  | none => exact Procedure.wp_throw.2 (hkeep t')
  | some router => exact Procedure.wp_pure.2 ⟨hkeep t', rfl, by simpa using List.find?_some hrouter⟩

theorem keeps_clientForRouter {router : RouterRow} :
    Procedure.Keeps (World.traced P faults) G K (clientForRouter P router : Service ℓ Unit) :=
  Service.keeps_ofExcept.bind fun _ => Procedure.keeps_pure

theorem keeps_routerClient (hK : Stable R G K) {id : String} :
    Procedure.Keeps (World.traced P faults) G K (routerClient P id : Service ℓ RouterRow) :=
  (keeps_getRouter hK).bind fun _ => keeps_clientForRouter.bind fun _ => Procedure.keeps_pure

/-- The router that a client is for has the identifier that it was looked up by. -/
theorem wp_routerClient (hK : Stable R G K) {id : String} {l : ℓ} {w : World} {t : History}
    (hs : K (w, t)) :
    Procedure.wp (World.traced P faults) G (routerClient P id : Service ℓ RouterRow)
      (fun router _ s => K s ∧ s.1 = w ∧ router.id = id) (fun _ _ => K) l (w, t) := by
  refine Procedure.wp_bind.2 (Procedure.wp_mono (wp_getRouter hK hs) ?_ fun _ _ _ h => h)
  rintro router l ⟨w', t'⟩ ⟨hs', rfl, hid⟩
  refine Procedure.wp_bind.2 (Procedure.wp_bind.2 ?_)
  cases router.credentials P with
  | error e => exact Procedure.wp_throw.2 hs'
  | ok credentials => exact Procedure.wp_pure.2 ⟨hs', rfl, hid⟩

theorem keeps_loadPeer (hK : Stable R G K) {peerId : String} :
    Procedure.Keeps (World.traced P faults) G K (loadPeer peerId : Service ℓ PeerRow) := by
  refine (keeps_query hK).bind fun row => ?_
  dsimp only
  split
  · exact Procedure.keeps_throw.bind fun _ => keeps_orThrow
  · exact keeps_orThrow

theorem keeps_settingOr (hK : Stable R G K) {read : Settings → α} :
    Procedure.Keeps (World.traced P faults) G K (settingOr read : Service ℓ α) :=
  (keeps_query hK).tryCatch fun _ => Procedure.keeps_pure

theorem keeps_listQueues (hK : Stable R G K) {routerId : String} :
    Procedure.Keeps (World.traced P faults) G K (listQueues routerId : Service ℓ QueueListing) :=
  (keeps_request hK).bind fun _ => (keeps_request hK).bind fun _ =>
    (keeps_request hK).bind fun _ => (keeps_request hK).bind fun _ => Procedure.keeps_pure

theorem keeps_defaultPolicy (hK : Stable R G K) {router : RouterRow} :
    Procedure.Keeps (World.traced P faults) G K
      (defaultPolicy router : Service ℓ EffectiveBandwidthPolicy) := by
  unfold defaultPolicy
  cases router.defaultBandwidthMode with
  | unlimited => exact Procedure.keeps_pure
  | custom => exact Procedure.keeps_pure
  | global =>
    refine (keeps_query hK).bind fun defaults => ?_
    cases defaults <;> exact Procedure.keeps_pure

theorem keeps_getEffectivePeerBandwidth (hK : Stable R G K) {peerId : String} :
    Procedure.Keeps (World.traced P faults) G K
      (getEffectivePeerBandwidth peerId : Service ℓ EffectiveBandwidthPolicy) := by
  refine (keeps_query hK).bind fun _ => keeps_orThrow.bind fun row => ?_
  cases row.peer.bandwidth.bandwidthMode with
  | unlimited => exact Procedure.keeps_pure
  | custom => exact Procedure.keeps_pure
  | default | profile =>
    cases row.bandwidthProfile with
    | none => exact keeps_defaultPolicy hK
    | some profileId =>
      refine (keeps_query hK).bind fun profile => ?_
      cases profile with
      | none => exact keeps_defaultPolicy hK
      | some profile => exact Procedure.keeps_pure

/-! ## Services that write -/

theorem keeps_deleteOwnedPeerQueueRemote (hK : Stable R G K) {routerId peerId : String} :
    Procedure.Keeps (World.traced P faults) G K
      (deleteOwnedPeerQueueRemote routerId peerId : Service ℓ ℕ) := by
  refine (keeps_request hK).bind fun queues => ?_
  refine (Procedure.keeps_forM fun _ _ => keeps_request hK).bind fun _ => ?_
  refine (keeps_request hK).bind fun remaining => ?_
  split_ifs
  · exact Procedure.keeps_throw.bind fun _ => Procedure.keeps_pure
  · exact Procedure.keeps_pure

theorem keeps_observePeerWithQueues (hK : Stable R G K) {routerId : String} {peer : QueuePeer}
    {policy : EffectiveBandwidthPolicy} {listing : QueueListing}
    (hupdate : ∀ source state now id,
      Within R ((Statement.updatePeer peer.id (.bandwidth source state)).tx P now id))
    (hdrift : ∀ state application current differences now id, Within R
      ((Statement.bandwidthDrift routerId peer.id state application current differences).tx
        P now id))
    (hdismiss : ∀ now id, Within R ((Statement.dismissDrift .bandwidth peer.id).tx P now id)) :
    Procedure.Keeps (World.traced P faults) G K
      (observePeerWithQueues P routerId peer policy listing : Service ℓ BandwidthSyncState) := by
  refine (keeps_execute hK (hupdate _ _)).bind fun _ => ?_
  split
  · exact (keeps_execute hK hdismiss).bind fun _ => Procedure.keeps_pure
  · exact (keeps_execute hK (hdrift _ _ _ _)).bind fun _ => Procedure.keeps_pure

theorem keeps_observePeerBandwidth (hK : Stable R G K) {peerId : String}
    (hupdate : ∀ peerId source state now id,
      Within R ((Statement.updatePeer peerId (.bandwidth source state)).tx P now id))
    (hdrift : ∀ routerId peerId state application current differences now id, Within R
      ((Statement.bandwidthDrift routerId peerId state application current differences).tx
        P now id))
    (hdismiss : ∀ peerId now id,
      Within R ((Statement.dismissDrift .bandwidth peerId).tx P now id)) :
    Procedure.Keeps (World.traced P faults) G K
      (observePeerBandwidth P peerId : Service ℓ BandwidthSyncState) := by
  refine (keeps_loadPeer hK).bind fun row => ?_
  cases filled row.clientIp with
  | none => exact Procedure.keeps_pure
  | some clientIp =>
    refine Procedure.Keeps.bind (Procedure.Keeps.tryCatch ?_ fun e => ?_) fun result =>
      keeps_observePeerWithQueues hK (hupdate _) (hdrift _ _) (hdismiss _)
    · exact (keeps_routerClient hK).bind fun _ => (keeps_getEffectivePeerBandwidth hK).bind fun _ =>
        (keeps_listQueues hK).bind fun _ => Procedure.keeps_pure
    · exact (keeps_execute hK (hupdate _ _ _)).attempt.bind fun _ => Procedure.keeps_throw

/-- A synchronisation, whose transaction may be of any kind. -/
theorem keeps_syncRouter (hK : Stable R G K) {routerId : String} {fresh : FreshIds} {time : ℤ}
    (hsync : ∀ listing now id, Within R ((Statement.sync routerId fresh listing).tx P now id))
    (hstart : ∀ now id, Within R ((Statement.startSyncRun routerId).tx P now id))
    (hpeers : ∀ now id, Within R ((Statement.unreachablePeers routerId).tx P now id))
    (hinterfaces : ∀ now id, Within R ((Statement.unreachableInterfaces routerId).tx P now id)) :
    Procedure.Keeps (World.traced P faults) G K
      (syncRouter P routerId fresh time : Service ℓ SyncSummary) := by
  refine (keeps_execute hK hstart).bind fun _ => Procedure.Keeps.tryCatch ?_ fun e => ?_
  · exact (keeps_routerClient hK).bind fun _ => (keeps_request hK).bind fun _ =>
      (keeps_settingOr hK).bind fun _ => (keeps_request hK).bind fun _ =>
      (keeps_request hK).bind fun _ => (keeps_request hK).bind fun _ =>
      (keeps_request hK).bind fun _ => (keeps_request hK).bind fun _ =>
      keeps_execute hK fun now id => hsync _ now id
  · exact (keeps_execute hK fun _ _ => within_pure).bind fun _ =>
      (keeps_executeAnyway hK hpeers).bind fun _ =>
        (keeps_executeAnyway hK hinterfaces).bind fun _ =>
      (keeps_execute hK fun _ _ => within_pure).bind fun _ => Procedure.keeps_throw

theorem keeps_removeRemotePeer (hK : Stable R G K) {routerId message : String} {peer : PeerRow} :
    Procedure.Keeps (World.traced P faults) G K
      (removeRemotePeer routerId peer message : Service ℓ Unit) := by
  refine (keeps_request hK).bind fun remotePeers => ?_
  have hverify : Procedure.Keeps (World.traced P faults) G K (do
      let remotePeers ← Service.request routerId .getPeers
      if ¬peer.Gone remotePeers then throw (.error message) : Service ℓ Unit) := by
    refine (keeps_request hK).bind fun remotePeers => ?_
    split_ifs
    · exact Procedure.keeps_pure
    · exact Procedure.keeps_throw
  dsimp only
  split
  · exact (keeps_request hK).bind fun _ => hverify
  · exact hverify

/-- If the deletion of a peer from its router returns, the router has shown that
    the peer is gone. -/
theorem wp_removeRemotePeer (hK : Stable R G K) {routerId message : String} {peer : PeerRow} {l : ℓ}
    {s : TracedWorld} (hs : K s) :
    Procedure.wp (World.traced P faults) G (removeRemotePeer routerId peer message : Service ℓ Unit)
      (fun _ _ s => K s ∧ ∃ remotePeers, Seen routerId remotePeers s.2 ∧ peer.Gone remotePeers)
      (fun _ _ => K) l s := by
  refine Procedure.wp_bind.2 (Procedure.wp_mono (keeps_request hK l s hs)
    (fun remotePeers l s hs => ?_) fun _ _ _ => id)
  have hverify : ∀ (l : ℓ) s, K s → Procedure.wp (World.traced P faults) G (do
      let remotePeers ← Service.request routerId .getPeers
      if ¬peer.Gone remotePeers then throw (.error message) : Service ℓ Unit)
      (fun _ _ s => K s ∧ ∃ remotePeers, Seen routerId remotePeers s.2 ∧ peer.Gone remotePeers)
      (fun _ _ => K) l s := by
    rintro l ⟨w, t⟩ hs
    refine Procedure.wp_bind.2 (wp_getPeers hK hs (fun t' hs hseen => ?_) fun _ _ => id)
    split_ifs with hgone
    · exact Procedure.wp_pure.2 ⟨hs, _, hseen, hgone⟩
    · exact Procedure.wp_throw.2 hs
  dsimp only
  split
  · exact Procedure.wp_bind.2 (Procedure.wp_mono (keeps_request hK l s hs)
      (fun _ l s hs => hverify l s hs) fun _ _ _ => id)
  · exact hverify l s hs

end Rules

end WireguardPanel
