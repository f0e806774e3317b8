import WireguardPanel.Conflicts
import WireguardPanel.Enforcement
import WireguardPanel.Reconciler
import WireguardPanel.SyncRouter

/-!
# The routers are apart

A round of the worker contacts one router after the other. Whatever happens at a router, and
whatever the panel writes about it, the other ones and what is stored about them do not change,
and they have their turn.

* `World.SameAt`: nothing has changed about a router.
* `isolated_pollRouterTraffic`, `isolated_syncRouter`: no call of a poll or a synchronisation of
  a router changes anything about another one, whichever of them fail.
* `pollAllRouterTraffic`, `syncCycle`: the rounds.
* `returns_eachRouter_at`: a round is, as far as a router is concerned, one visit to it.
-/

namespace WireguardPanel

open Foundation

/-! ## What is about a router -/

/-- What is stored about a router, and what all of them share, is as before. -/
structure Database.SameAt (routerId : String) (db db' : Database) : Prop where
  peers : ∀ p : PeerRow, p.routerId = routerId → (p ∈ db'.peers.rows ↔ p ∈ db.peers.rows)
  interfaces : ∀ i : InterfaceRow, i.routerId = routerId →
    (i ∈ db'.interfaces.rows ↔ i ∈ db.interfaces.rows)
  routers : db'.routers = db.routers
  pools : db'.pools = db.pools
  settings : db'.settings = db.settings

/-- Nothing has changed about a router, on it and in the database. -/
structure World.SameAt (routerId : String) (w w' : World) : Prop where
  db : w.db.SameAt routerId w'.db
  content : w'.routers routerId = w.routers routerId

instance (routerId : String) : IsPreorder Database (Database.SameAt routerId) where
  refl _ := ⟨fun _ _ => Iff.rfl, fun _ _ => Iff.rfl, rfl, rfl, rfl⟩
  trans _ _ _ h h' :=
    { peers := fun p hp => (h'.peers p hp).trans (h.peers p hp)
      interfaces := fun i hi => (h'.interfaces i hi).trans (h.interfaces i hi)
      routers := h'.routers.trans h.routers
      pools := h'.pools.trans h.pools
      settings := h'.settings.trans h.settings }

instance (routerId : String) : IsPreorder World (World.SameAt routerId) where
  refl _ := ⟨Std.Refl.refl _, rfl⟩
  trans _ _ _ h h' := ⟨IsTrans.trans _ _ _ h.db h'.db, h'.content.trans h.content⟩

namespace Database

variable {other : String} {db db' : Database}

/-- A change of other tables. -/
theorem SameAt.of_eq (hpeers : db'.peers = db.peers) (hinterfaces : db'.interfaces = db.interfaces)
    (hshared : db'.routers = db.routers ∧ db'.pools = db.pools ∧ db'.settings = db.settings) :
    db.SameAt other db' where
  peers p _ := by rw [hpeers]
  interfaces i _ := by rw [hinterfaces]
  routers := hshared.1
  pools := hshared.2.1
  settings := hshared.2.2

/-- The peer with an id, if there is one, is not of the router. -/
def PeerApart (other : String) (db : Database) (id : String) : Prop :=
  ∀ p ∈ db.peers.rows, p.id = id → p.routerId ≠ other

/-- The interface with an id, if there is one, is not of the router. -/
def InterfaceApart (other : String) (db : Database) (id : String) : Prop :=
  ∀ i ∈ db.interfaces.rows, i.id = id → i.routerId ≠ other

theorem PeerApart.of_sameAt {id : String} (hid : db.PeerApart other id) (h : db.SameAt other db') :
    db'.PeerApart other id :=
  fun p hp heq hrouter => hid p ((h.peers p hrouter).1 hp) heq hrouter

theorem InterfaceApart.of_sameAt {id : String} (hid : db.InterfaceApart other id)
    (h : db.SameAt other db') : db'.InterfaceApart other id :=
  fun i hi heq hrouter => hid i ((h.interfaces i hrouter).1 hi) heq hrouter

/-- A row is the only one with its id. -/
theorem peerApart_of_mem {p : PeerRow} (hp : p ∈ db.peers.rows) (hrouter : p.routerId ≠ other) :
    db.PeerApart other p.id := fun q hq heq => by
  rwa [db.peer_unique hq hp heq]

theorem interfaceApart_of_mem {i : InterfaceRow} (hi : i ∈ db.interfaces.rows)
    (hrouter : i.routerId ≠ other) : db.InterfaceApart other i.id := fun j hj heq => by
  rwa [db.interface_unique hj hi heq]

/-- The rows that are not changed, if the changed ones keep their router. -/
theorem mem_map_iff_of_apart {α : Type} {routerOf : α → String} {rows : List α} {change : α → α}
    (hrouter : ∀ a ∈ rows, routerOf (change a) = routerOf a)
    (hsame : ∀ a ∈ rows, routerOf a = other → change a = a) {a : α} (ha : routerOf a = other) :
    a ∈ rows.map change ↔ a ∈ rows := by
  rw [List.mem_map]
  constructor
  · rintro ⟨b, hb, rfl⟩
    rw [hsame b hb ((hrouter b hb).symm.trans ha)]
    exact hb
  · exact fun hmem => ⟨a, hmem, hsame a hmem ha⟩

theorem sameAt_updatePeer {id : String} {f : PeerRow → PeerRow} {u : Unit}
    (hid : db.PeerApart other id) (h : Tx.updatePeer id f db = .ok (u, db'))
    (hf : ∀ p, (f p).routerId = p.routerId) : db.SameAt other db' := by
  obtain ⟨peers, rfl, hrows⟩ := Tx.updatePeer_ok h
  refine ⟨fun p hp => ?_, fun _ _ => Iff.rfl, rfl, rfl, rfl⟩
  rw [hrows]
  refine mem_map_iff_of_apart (fun q _ => by split_ifs <;> simp [hf]) (fun q hq hrouter => ?_) hp
  exact if_neg fun heq => hid q hq heq hrouter

theorem sameAt_updateInterface {id : String} {f : InterfaceRow → InterfaceRow} {u : Unit}
    (hid : db.InterfaceApart other id) (h : Tx.updateInterface id f db = .ok (u, db'))
    (hf : ∀ i, (f i).routerId = i.routerId) : db.SameAt other db' := by
  obtain ⟨interfaces, rfl, hrows⟩ := Tx.updateInterface_ok h
  refine ⟨fun _ _ => Iff.rfl, fun i hi => ?_, rfl, rfl, rfl⟩
  rw [hrows]
  refine mem_map_iff_of_apart (fun j _ => by split_ifs <;> simp [hf]) (fun j hj hrouter => ?_) hi
  exact if_neg fun heq => hid j hj heq hrouter

theorem sameAt_insertPeer {row : PeerRow} {u : Unit} (hrow : row.routerId ≠ other)
    (h : Tx.insertPeer row db = .ok (u, db')) : db.SameAt other db' := by
  obtain ⟨peers, rfl, hrows⟩ := Tx.insertPeer_ok h
  refine ⟨fun p hp => ?_, fun _ _ => Iff.rfl, rfl, rfl, rfl⟩
  rw [hrows, List.mem_append, List.mem_singleton]
  exact or_iff_left fun heq => hrow (heq ▸ hp)

theorem sameAt_insertInterface {row : InterfaceRow} {u : Unit} (hrow : row.routerId ≠ other)
    (h : Tx.insertInterface row db = .ok (u, db')) : db.SameAt other db' := by
  obtain ⟨interfaces, rfl, hrows⟩ := Tx.insertInterface_ok h
  refine ⟨fun _ _ => Iff.rfl, fun i hi => ?_, rfl, rfl, rfl⟩
  rw [hrows, List.mem_append, List.mem_singleton]
  exact or_iff_left fun heq => hrow (heq ▸ hi)

end Database

/-! ## Calls -/

section Calls

variable {P : Platform} {faults : Call → Fault → Prop} {other : String} {ℓ α : Type}
  {Q : α → ℓ → World → Prop} {E : AppError → ℓ → World → Prop} {l : ℓ} {w : World}

theorem wp_query_at {read : Database → α} (hQ : Q (read w.db) l w) (hE : ∀ e, E e l w) :
    Procedure.wp (World.environment P faults) (World.SameAt other) (Service.query read) Q E l w :=
  Procedure.wp_call.2 fun r w' hcall => by
    obtain ⟨rfl, hread⟩ := Service.environment_query hcall
    refine ⟨Std.Refl.refl _, ?_⟩
    cases r with
    | error e => exact hE e
    | ok a => exact (hread a rfl) ▸ hQ

theorem wp_execute_at {s : Statement} {Q : s.Result → ℓ → World → Prop}
    (hs : ∀ now id a db, s.tx P now id w.db = .ok (a, db) →
      w.db.SameAt other db ∧ Q a l { w with db })
    (hE : ∀ e, E e l w) :
    Procedure.wp (World.environment P faults) (World.SameAt other) (Service.execute s) Q E l w :=
  Procedure.wp_call.2 fun r w' hcall => by
    rcases Service.environment_execute hcall with ⟨now, id, a, db, htx, rfl, rfl⟩ | ⟨rfl, e, rfl⟩
    · obtain ⟨hsame, hQ⟩ := hs now id a db htx
      exact ⟨⟨hsame, rfl⟩, hQ⟩
    · exact ⟨Std.Refl.refl _, hE e⟩

/-- A request to a router reaches no other one. -/
theorem wp_request_at {routerId : String} (hne : other ≠ routerId) {q : RouterRequest}
    {Q : q.Result → ℓ → World → Prop} (hQ : ∀ a w', w'.db = w.db → Q a l w')
    (hE : ∀ e w', w'.db = w.db → E e l w') :
    Procedure.wp (World.environment P faults) (World.SameAt other) (Service.request routerId q) Q E
      l w :=
  Procedure.wp_call.2 fun r w' hcall => by
    have hends : w'.db = w.db → Procedure.ends Q E r l w' := fun hdb => by
      cases r with
      | error e => exact hE e w' hdb
      | ok a => exact hQ a w' hdb
    rcases Service.environment_request hcall with ⟨id, a, content, -, -, rfl⟩ | ⟨rfl, -⟩
    · exact ⟨⟨Std.Refl.refl _, if_neg hne⟩, hends rfl⟩
    · exact ⟨Std.Refl.refl _, hends rfl⟩

theorem wp_orThrow_at {value : Option α} {message : String} (hQ : ∀ a ∈ value, Q a l w)
    (hE : ∀ e, E e l w) :
    Procedure.wp (World.environment P faults) (World.SameAt other)
      (Service.orThrow value message) Q E l w := by
  cases value with
  | none => exact hE _
  | some a => exact hQ a rfl

theorem wp_getRouter_at {id : String} {Q : RouterRow → ℓ → World → Prop}
    (hQ : ∀ router, router.id = id → Q router l w) (hE : ∀ e, E e l w) :
    Procedure.wp (World.environment P faults) (World.SameAt other) (getRouter id) Q E l w :=
  Procedure.wp_bind.2 <| wp_query_at (wp_orThrow_at (fun router hrouter =>
    hQ router (by simpa using List.find?_some hrouter)) hE) hE

theorem wp_ofExcept_at {r : Except AppError α} (hQ : ∀ a, r = .ok a → Q a l w)
    (hE : ∀ e, E e l w) :
    Procedure.wp (World.environment P faults) (World.SameAt other)
      (Service.ofExcept r) Q E l w := by
  cases r with
  | error e => exact hE e
  | ok a => exact hQ a rfl

theorem wp_routerClient_at {id : String} {Q : RouterRow → ℓ → World → Prop}
    (hQ : ∀ router, router.id = id → Q router l w) (hE : ∀ e, E e l w) :
    Procedure.wp (World.environment P faults) (World.SameAt other) (routerClient P id) Q E l w :=
  Procedure.wp_bind.2 <| wp_getRouter_at (fun router hrouter =>
    Procedure.wp_bind.2 <| Procedure.wp_bind.2 <|
      wp_ofExcept_at (fun _ _ => Procedure.wp_pure.2 (hQ router hrouter)) hE) hE

theorem wp_settingOr_at {read : Settings → α} (hQ : ∀ a, Q a l w) :
    Procedure.wp (World.environment P faults) (World.SameAt other) (settingOr read) Q E l w :=
  Procedure.wp_tryCatch.2 <| wp_query_at (hQ _) fun _ => hQ _

/-- What is known of the database and stays true while nothing changes about the router. -/
abbrev KeepsApart (P : Platform) (faults : Call → Fault → Prop) (other : String)
    (K : Database → Prop) (x : Service ℓ α) : Prop :=
  Procedure.Keeps (World.environment P faults) (World.SameAt other) (fun w => K w.db) x

variable {K : Database → Prop}

theorem keepsApart_execute (hK : ∀ db db', db.SameAt other db' → K db → K db') {s : Statement}
    (hs : ∀ now id db a db', K db → s.tx P now id db = .ok (a, db') → db.SameAt other db') :
    KeepsApart P faults other K (Service.execute s : Service ℓ s.Result) := fun _ w hw =>
  wp_execute_at (fun now id a db htx =>
    have hsame := hs now id w.db a db hw htx
    ⟨hsame, hK _ _ hsame hw⟩) fun _ => hw

theorem keepsApart_request {routerId : String} (hne : other ≠ routerId) {q : RouterRequest} :
    KeepsApart P faults other K (Service.request routerId q : Service ℓ q.Result) := fun _ w hw =>
  wp_request_at hne (fun _ w' hdb => by rwa [hdb]) fun _ w' hdb => by rwa [hdb]

theorem keepsApart_routerStatus {routerId : String}
    (hK : ∀ db db', db.SameAt other db' → K db → K db') :
    KeepsApart P faults other K (Service.execute (.routerStatus routerId) : Service ℓ Unit) :=
  keepsApart_execute hK fun _ _ _ _ _ _ htx => by
    obtain ⟨-, rfl⟩ := Tx.pure_eq_ok.1 htx
    exact Std.Refl.refl _

/-- No call changes anything about the router. -/
abbrev Isolated (P : Platform) (faults : Call → Fault → Prop) (other : String)
    (x : Service ℓ α) : Prop :=
  Procedure.Keeps (World.environment P faults) (World.SameAt other) (fun _ => True) x

theorem isolated_execute {s : Statement}
    (hs : ∀ now id db a db', s.tx P now id db = .ok (a, db') → db.SameAt other db') :
    Isolated P faults other (Service.execute s : Service ℓ s.Result) :=
  keepsApart_execute (K := fun _ => True) (fun _ _ _ => id) fun now id db a db' _ =>
    hs now id db a db'

theorem isolated_request {routerId : String} (hne : other ≠ routerId) {q : RouterRequest} :
    Isolated P faults other (Service.request routerId q : Service ℓ q.Result) :=
  keepsApart_request (K := fun _ => True) hne

theorem isolated_routerStatus {routerId : String} :
    Isolated P faults other (Service.execute (.routerStatus routerId) : Service ℓ Unit) :=
  keepsApart_routerStatus (K := fun _ => True) fun _ _ _ => id

theorem isolated_settingOr {read : Settings → α} :
    Isolated P faults other (settingOr read : Service ℓ α) := fun _ _ _ =>
  wp_settingOr_at fun _ => trivial

/-- What follows on the row of a router needs to be looked at for that router only. -/
theorem isolated_routerClient_bind {id : String} {f : RouterRow → Service ℓ α}
    (hf : ∀ router, router.id = id → Isolated P faults other (f router)) :
    Isolated P faults other (routerClient P id >>= f) := fun l w _ =>
  Procedure.wp_bind.2 (wp_routerClient_at (fun router hrouter => hf router hrouter l w trivial)
    fun _ => trivial)

theorem isolated_executeAnyway {s : Statement}
    (h : Isolated P faults other (Service.execute s : Service ℓ s.Result)) :
    Isolated P faults other (executeAnyway s : Service ℓ Unit) :=
  h.attempt.bind fun _ => Procedure.keeps_pure

end Calls

/-! ## A poll -/

section Poll

variable {P : Platform} {faults : Call → Fault → Prop} {other routerId : String} {ℓ : Type}

/-- An observation is of the peer that was asked for, whose row is all that it changes of
    peers and interfaces. -/
theorem sameAt_recordObservation {peerId : String} {remote : RemoteWireGuardPeer}
    {policy : QuotaPolicy} {onlineSeconds sampleSeconds now : ℤ} {db db' : Database}
    {result : Observation} (hid : db.PeerApart other peerId)
    (h : recordObservation P peerId remote policy onlineSeconds sampleSeconds now db =
      .ok (result, db')) : db.SameAt other db' ∧ result.peer.id = peerId := by
  rw [recordObservation, Tx.get_bind] at h
  obtain ⟨peer, hpeer, h⟩ := Tx.orThrow_bind_ok.1 h
  obtain ⟨rolled, db₁, hroll, h⟩ := Tx.bind_eq_ok.1 h
  obtain ⟨history, audits, rfl, -⟩ := rollPeriod_ok hroll
  obtain ⟨_, db₂, hupdate, h⟩ := Tx.bind_eq_ok.1 h
  obtain ⟨_, db₃, hstore, h⟩ := Tx.bind_eq_ok.1 h
  obtain ⟨rfl, rfl⟩ := Tx.pure_eq_ok.1 h
  obtain rfl : peer.id = peerId := (Database.peer_spec hpeer).2
  have hrolled : db.SameAt other { db with history, audits } := .of_eq rfl rfl ⟨rfl, rfl, rfl⟩
  have hupdated : db.SameAt other db₂ := IsTrans.trans _ _ _ hrolled
    (Database.sameAt_updatePeer (hid.of_sameAt hrolled) hupdate fun _ => rfl)
  refine ⟨IsTrans.trans _ _ _ hupdated ?_, rfl⟩
  rcases storeSnapshot_ok hstore with ⟨-, rfl⟩ | ⟨-, hstamp⟩
  · exact Std.Refl.refl _
  · have hsampled : ∀ snapshots, db₂.SameAt other { db₂ with snapshots } := fun _ =>
      .of_eq rfl rfl ⟨rfl, rfl, rfl⟩
    exact IsTrans.trans _ _ _ (hsampled _)
      (Database.sameAt_updatePeer ((hid.of_sameAt hupdated).of_sameAt (hsampled _)) hstamp
        fun _ => rfl)

variable {K : Database → Prop} (hK : ∀ db db', db.SameAt other db' → K db → K db')
  (hne : other ≠ routerId)

include hK hne in
theorem keepsApart_setRemoteQuotaState {remote : RemoteWireGuardPeer} {peer : PeerRow}
    (hpeer : ∀ db, K db → db.PeerApart other peer.id) {disabled : Bool} {used : Option ℤ} :
    KeepsApart P faults other K
      (setRemoteQuotaState routerId remote peer disabled used : Service ℓ Unit) :=
  (keepsApart_request hne).bind fun _ => keepsApart_execute hK fun _ _ db _ _ hdb htx =>
    Database.sameAt_updatePeer (hpeer db hdb) htx fun _ => rfl

include hK in
theorem keepsApart_systemAudit {action peerId : String} :
    KeepsApart P faults other K (Service.execute (.systemAudit action peerId) : Service ℓ Unit) :=
  keepsApart_execute hK fun _ _ _ _ _ _ htx => by
    rw [Tx.insertAudit_ok htx]
    exact .of_eq rfl rfl ⟨rfl, rfl, rfl⟩

include hK hne in
theorem keepsApart_enforceLimit {remote : RemoteWireGuardPeer} {peer : PeerRow}
    (hpeer : ∀ db, K db → db.PeerApart other peer.id) {used now : ℤ} {limit : Option ℤ}
    {didReenable : Bool} : KeepsApart P faults other K
      (enforceLimit routerId remote peer used limit didReenable now :
        Service ℓ EnforcementAction) := by
  unfold enforceLimit
  split_ifs
  on_goal 1 =>
    exact (keepsApart_setRemoteQuotaState hK hne hpeer).bind fun _ =>
      (keepsApart_systemAudit hK).bind fun _ => Procedure.keeps_pure
  on_goal 6 =>
    exact (keepsApart_setRemoteQuotaState hK hne hpeer).bind fun _ =>
      (keepsApart_systemAudit hK).bind fun _ => Procedure.keeps_pure
  all_goals exact Procedure.keeps_pure

include hK hne in
theorem keepsApart_enforceObservation {remote : RemoteWireGuardPeer} {observation : Observation}
    (hpeer : ∀ db, K db → db.PeerApart other observation.peer.id) {now : ℤ} :
    KeepsApart P faults other K
      (enforceObservation routerId remote observation now : Service ℓ EnforcementAction) := by
  unfold enforceObservation
  dsimp only
  split_ifs
  · refine (keepsApart_setRemoteQuotaState hK hne hpeer).bind fun _ =>
      (keepsApart_systemAudit hK).bind fun _ => keepsApart_enforceLimit hK hne ?_
    exact hpeer
  · exact keepsApart_enforceLimit hK hne hpeer

include hK hne in
theorem keepsApart_pollCounted {localPeer : PeerRow}
    (hpeer : ∀ db, K db → db.PeerApart other localPeer.id) {policy : QuotaPolicy}
    {onlineSeconds sampleSeconds observedAt enforcedAt : ℤ}
    {remotePeers : List RemoteWireGuardPeer} : KeepsApart P faults other K
      (pollCounted routerId policy onlineSeconds sampleSeconds remotePeers observedAt enforcedAt
        localPeer) := by
  unfold pollCounted
  cases remotePeers.find? fun remote => localPeer.Matches remote with
  | none => exact Procedure.keeps_pure
  | some remote =>
    refine Procedure.Keeps.tryCatch (fun l w hw => ?_) fun _ => Procedure.keeps_modify
    refine Procedure.wp_bind.2 (wp_execute_at (fun now id observation db htx => ?_) fun _ => hw)
    obtain ⟨hsame, hid⟩ := sameAt_recordObservation (hpeer w.db hw) htx
    refine ⟨hsame, ?_⟩
    have hrest : KeepsApart P faults other K (do
        modify fun totals : PollTotals => { totals with observed := totals.observed + 1 }
        let action ← enforceObservation routerId remote observation enforcedAt
        modify fun totals => totals.count action) :=
      Procedure.keeps_modify.bind fun _ => Procedure.Keeps.bind
        (keepsApart_enforceObservation hK hne (hid ▸ hpeer)) fun _ => Procedure.keeps_modify
    exact hrest l _ (hK _ _ hsame hw)

omit hK in
include hne in
/-- A poll of a router changes nothing about another one, whichever of its calls fail. -/
theorem isolated_pollRouterTraffic {observedAt enforcedAt : PeerRow → ℤ} :
    Isolated P faults other
      (pollRouterTraffic P routerId observedAt enforcedAt : Service ℓ PollTotals) := by
  refine Procedure.Keeps.withLocals (Procedure.Keeps.tryCatch (fun l w _ => ?_) fun e => ?_)
  · refine Procedure.wp_bind.2 (wp_routerClient_at (fun router hrouter => ?_) fun _ => trivial)
    refine Procedure.wp_bind.2 (wp_settingOr_at fun policy => ?_)
    refine Procedure.wp_bind.2 (wp_settingOr_at fun onlineSeconds => ?_)
    refine Procedure.wp_bind.2 (wp_settingOr_at fun sampleSeconds => ?_)
    refine Procedure.wp_bind.2 (wp_request_at (hrouter ▸ hne) (fun remotePeers w' _ => ?_)
      fun _ _ _ => trivial)
    refine Procedure.wp_bind.2 (wp_query_at ?_ fun _ => trivial)
    -- The peers that are read are not of the other router, and none of them moves to it.
    have hloop : KeepsApart P faults other (fun db => w'.db.SameAt other db) (do
        ((w'.db.peers.rows.filter fun p => p.routerId = routerId).insertionSort
          fun p q => p.id ≤ q.id).forM fun localPeer => pollCounted router.id policy onlineSeconds
            sampleSeconds remotePeers (observedAt localPeer) (enforcedAt localPeer) localPeer
        Service.execute (.routerStatus routerId)
        get) := by
      refine Procedure.Keeps.bind (Procedure.keeps_forM fun localPeer hlocal => ?_) fun _ =>
        Procedure.Keeps.bind ?_ fun _ => Procedure.keeps_get
      · obtain ⟨hmem, hlocal⟩ := List.mem_filter.1 ((List.perm_insertionSort ..).mem_iff.1 hlocal)
        have hapart : w'.db.PeerApart other localPeer.id :=
          Database.peerApart_of_mem hmem fun heq => hne (heq.symm.trans (of_decide_eq_true hlocal))
        exact keepsApart_pollCounted (fun _ _ h h' => IsTrans.trans _ _ _ h' h) (hrouter ▸ hne)
          fun _ hdb => hapart.of_sameAt hdb
      · exact keepsApart_routerStatus fun _ _ h h' => IsTrans.trans _ _ _ h' h
    exact Procedure.wp_mono (hloop l w' (Std.Refl.refl _)) (fun _ _ _ _ => trivial)
      fun _ _ _ _ => trivial
  · refine Procedure.Keeps.bind (Procedure.Keeps.attempt ?_) fun _ => Procedure.keeps_throw
    exact isolated_routerStatus

end Poll

/-! ## A synchronisation -/

section Synchronisation

variable {P : Platform} {faults : Call → Fault → Prop} {other routerId : String} {ℓ : Type}
  {fresh : FreshIds} {listing : SyncListing} {db db' : Database} {u : Unit}

/-- The rows of a router that cannot be reached are its own. -/
theorem sameAt_unreachablePeers (hne : other ≠ routerId)
    (h : Tx.unreachablePeers routerId db = .ok (u, db')) : db.SameAt other db' := by
  cases h
  refine ⟨fun p hp => ?_, fun _ _ => Iff.rfl, rfl, rfl, rfl⟩
  refine Database.mem_map_iff_of_apart (fun q _ => by split_ifs <;> rfl) (fun q _ hrouter => ?_) hp
  exact if_neg fun heq => hne (hrouter.symm.trans heq)

theorem sameAt_unreachableInterfaces (hne : other ≠ routerId)
    (h : Tx.unreachableInterfaces routerId db = .ok (u, db')) : db.SameAt other db' := by
  cases h
  refine ⟨fun _ _ => Iff.rfl, fun i hi => ?_, rfl, rfl, rfl⟩
  refine Database.mem_map_iff_of_apart (fun j _ => by split_ifs <;> rfl) (fun j _ hrouter => ?_) hi
  exact if_neg fun heq => hne (hrouter.symm.trans heq)

theorem sameAt_upsertDrift {row : DriftRow} (h : Tx.upsertDrift row db = .ok (u, db')) :
    db.SameAt other db' := by
  obtain ⟨drifts, rfl⟩ := Tx.upsertDrift_ok h
  exact .of_eq rfl rfl ⟨rfl, rfl, rfl⟩

theorem sameAt_dismissDrifts {objectType : DriftObjectType} {objectId : String} {now : ℤ}
    (h : Tx.dismissDrifts objectType objectId now db = .ok (u, db')) : db.SameAt other db' := by
  obtain ⟨drifts, rfl⟩ := Tx.dismissDrifts_ok h
  exact .of_eq rfl rfl ⟨rfl, rfl, rfl⟩

/-- An interface that is found is one of those that were read. -/
theorem sameAt_syncInterface {existing : List InterfaceRow} {progress progress' : SyncProgress}
    {item : RemoteWireGuardInterface} (hne : other ≠ routerId)
    (hexisting : ∀ i ∈ existing, db.InterfaceApart other i.id)
    (h : syncInterface P routerId fresh listing existing progress item db = .ok (progress', db')) :
    db.SameAt other db' := by
  unfold syncInterface at h
  cases hfound : existing.find? fun i => i.remoteId = item.id with
  | none =>
    simp only [hfound] at h
    obtain ⟨_, db₁, hinsert, h⟩ := Tx.bind_eq_ok.1 h
    obtain ⟨-, rfl⟩ := Tx.pure_eq_ok.1 h
    exact Database.sameAt_insertInterface hne.symm hinsert
  | some found =>
    have hid := hexisting found (List.mem_of_find?_eq_some hfound)
    simp only [hfound] at h
    split at h
    · obtain ⟨_, db₁, hupdate, h⟩ := Tx.bind_eq_ok.1 h
      obtain ⟨_, db₂, hdrift, h⟩ := Tx.bind_eq_ok.1 h
      obtain ⟨-, rfl⟩ := Tx.pure_eq_ok.1 h
      exact IsTrans.trans _ _ _ (Database.sameAt_updateInterface hid hupdate fun _ => rfl)
        (sameAt_upsertDrift hdrift)
    · obtain ⟨_, db₁, hupdate, h⟩ := Tx.bind_eq_ok.1 h
      obtain ⟨_, db₂, hdrift, h⟩ := Tx.bind_eq_ok.1 h
      obtain ⟨-, rfl⟩ := Tx.pure_eq_ok.1 h
      exact IsTrans.trans _ _ _ (Database.sameAt_updateInterface hid hupdate fun _ => rfl)
        (sameAt_dismissDrifts hdrift)

/-- An import inserts a row of its router. -/
theorem sameAt_importPeer {interfaceId fingerprint newId : String} {remote : RemoteWireGuardPeer}
    {onlineSeconds now : ℤ} (hne : other ≠ routerId)
    (h : importPeer P routerId interfaceId remote fingerprint onlineSeconds newId now db =
      .ok (u, db')) : db.SameAt other db' := by
  rcases importPeer_ok h with ⟨-, rfl⟩ | ⟨db₁, hinsert, hplace⟩
  · exact Std.Refl.refl _
  · have hinserted : db.SameAt other db₁ := Database.sameAt_insertPeer hne.symm hinsert
    rcases hplace with rfl | ⟨poolId, db₂, hupdate, addresses, rfl⟩
    · exact hinserted
    · -- The row that the pool is given to is the one that was inserted.
      have hmem : importedRow routerId interfaceId remote fingerprint onlineSeconds newId now ∈
          db₁.peers.rows := by
        obtain ⟨peers, rfl, hrows⟩ := Tx.insertPeer_ok hinsert
        rw [hrows]
        exact List.mem_append_right _ (List.mem_singleton_self _)
      have hplaced : db₁.SameAt other db₂ :=
        Database.sameAt_updatePeer (Database.peerApart_of_mem hmem hne.symm) hupdate fun _ => rfl
      have hgiven : db₂.SameAt other { db₂ with addresses } := .of_eq rfl rfl ⟨rfl, rfl, rfl⟩
      exact IsTrans.trans _ _ _ hinserted (IsTrans.trans _ _ _ hplaced hgiven)

theorem sameAt_syncPeer {existing : List ExistingPeer} {progress progress' : SyncProgress}
    {remote : RemoteWireGuardPeer} (hne : other ≠ routerId)
    (hexisting : ∀ peer ∈ existing, db.PeerApart other peer.row.id)
    (h : syncPeer P routerId fresh listing existing progress remote db = .ok (progress', db')) :
    db.SameAt other db' := by
  cases (syncPeer_ok h).1 with
  | skipped _ hsame => exact hsame ▸ Std.Refl.refl _
  | imported _ _ _ himport => exact sameAt_importPeer hne himport
  | updated _ peer _ hfound hupdate =>
    obtain ⟨db₁, drifts, hupdate, rfl⟩ := hupdate
    have hid := hexisting peer (List.mem_of_find?_eq_some hfound)
    exact IsTrans.trans _ _ _ (Database.sameAt_updatePeer hid hupdate fun _ => rfl)
      (.of_eq rfl rfl ⟨rfl, rfl, rfl⟩)

theorem sameAt_syncMissing {remoteIds : List String} {progress progress' : SyncProgress}
    {peer : ExistingPeer} (hid : db.PeerApart other peer.row.id)
    (h : syncMissing remoteIds progress peer db = .ok (progress', db')) : db.SameAt other db' := by
  unfold syncMissing at h
  cases hconflict : missingConflict remoteIds peer with
  | none =>
    simp only [hconflict] at h
    obtain ⟨-, rfl⟩ := Tx.pure_eq_ok.1 h
    exact Std.Refl.refl _
  | some conflict =>
    simp only [hconflict] at h
    obtain ⟨_, db₁, hupdate, h⟩ := Tx.bind_eq_ok.1 h
    obtain ⟨-, rfl⟩ := Tx.pure_eq_ok.1 h
    exact Database.sameAt_updatePeer hid hupdate fun _ => rfl

/-- The rows that a synchronisation reads are of its router. -/
theorem peerApart_of_existingPeers (hne : other ≠ routerId) {peer : ExistingPeer}
    (h : peer ∈ existingPeers routerId db) : db.PeerApart other peer.row.id := by
  obtain ⟨p, hp, hpeer⟩ := List.mem_filterMap.1 h
  obtain ⟨i, -, rfl⟩ := Option.map_eq_some_iff.1 hpeer
  obtain ⟨hmem, hrouter⟩ := List.mem_filter.1 hp
  exact Database.peerApart_of_mem hmem fun heq => hne (heq.symm.trans (of_decide_eq_true hrouter))

/-- The transaction of a synchronisation changes nothing about another router. -/
theorem sameAt_syncTransaction (hne : other ≠ routerId) {summary : SyncSummary}
    (h : syncTransaction P routerId fresh listing db = .ok (summary, db')) :
    db.SameAt other db' := by
  rw [syncTransaction, Tx.get_bind] at h
  obtain ⟨progress, db₁, hinterfaces, h⟩ := Tx.bind_eq_ok.1 h
  rw [Tx.get_bind] at h
  obtain ⟨progress', db₂, hpeers, h⟩ := Tx.bind_eq_ok.1 h
  obtain ⟨_, db₃, hmissing, h⟩ := Tx.bind_eq_ok.1 h
  obtain ⟨-, rfl⟩ := Tx.pure_eq_ok.1 h
  have hsame₁ : db.SameAt other db₁ := by
    refine Tx.foldlM_invariant (I := fun _ db' => db.SameAt other db') hinterfaces
      (Std.Refl.refl _) fun item _ _ db' _ _ hdb hstep => IsTrans.trans _ _ _ hdb ?_
    refine sameAt_syncInterface hne (fun i hi => ?_) hstep
    obtain ⟨hmem, hrouter⟩ := List.mem_filter.1 hi
    exact (Database.interfaceApart_of_mem hmem fun heq =>
      hne (heq.symm.trans (of_decide_eq_true hrouter))).of_sameAt hdb
  have hsame₂ : db₁.SameAt other db₂ :=
    Tx.foldlM_invariant (I := fun _ db' => db₁.SameAt other db') hpeers (Std.Refl.refl _)
      fun _ _ _ _ _ _ hdb hstep => IsTrans.trans _ _ _ hdb (sameAt_syncPeer hne
        (fun _ hpeer => (peerApart_of_existingPeers hne hpeer).of_sameAt hdb) hstep)
  have hsame₃ : db₂.SameAt other db₃ := by
    have hapart : ∀ peer ∈ existingPeers routerId db₁, db₂.PeerApart other peer.row.id :=
      fun _ hpeer => (peerApart_of_existingPeers hne hpeer).of_sameAt hsame₂
    exact Tx.foldlM_invariant (I := fun _ db' => db₂.SameAt other db') hmissing (Std.Refl.refl _)
      fun _ hpeer _ _ _ _ hdb hstep => IsTrans.trans _ _ _ hdb
        (sameAt_syncMissing ((hapart _ hpeer).of_sameAt hdb) hstep)
  exact IsTrans.trans _ _ _ hsame₁ (IsTrans.trans _ _ _ hsame₂ hsame₃)

/-- A synchronisation of a router changes nothing about another one, whichever of its calls
    fail. -/
theorem isolated_syncRouter (hne : other ≠ routerId) {now : ℤ} :
    Isolated P faults other
      (syncRouter P routerId fresh now : Service ℓ SyncSummary) := by
  have hstart : Isolated P faults other
      (Service.execute (.startSyncRun routerId) : Service ℓ Unit) := by
    refine isolated_execute fun _ _ db _ _ htx => ?_
    change Tx.insertSyncRun routerId db = _ at htx
    unfold Tx.insertSyncRun at htx
    split_ifs at htx
    cases htx
    exact Std.Refl.refl _
  have hpeers : Isolated P faults other
      (Service.execute (.unreachablePeers routerId) : Service ℓ Unit) :=
    isolated_execute fun _ _ _ _ _ => sameAt_unreachablePeers hne
  have hinterfaces : Isolated P faults other
      (Service.execute (.unreachableInterfaces routerId) : Service ℓ Unit) :=
    isolated_execute fun _ _ _ _ _ => sameAt_unreachableInterfaces hne
  have hfinish : Isolated P faults other
      (Service.execute .finishSyncRun : Service ℓ Unit) :=
    isolated_execute fun _ _ _ _ _ htx => by
      obtain ⟨-, rfl⟩ := Tx.pure_eq_ok.1 htx
      exact Std.Refl.refl _
  have hsync : ∀ listing, Isolated P faults other
      (Service.execute (.sync routerId fresh listing) : Service ℓ SyncSummary) := fun _ =>
    isolated_execute fun _ _ _ _ _ => sameAt_syncTransaction hne
  refine hstart.bind fun _ => Procedure.Keeps.tryCatch ?_ fun e => ?_
  · refine isolated_routerClient_bind fun router hrouter => ?_
    subst hrouter
    refine (isolated_request hne).bind fun _ => isolated_settingOr.bind fun _ =>
      (isolated_request hne).bind fun _ => (isolated_request hne).bind fun _ =>
      (isolated_request hne).bind fun _ => (isolated_request hne).bind fun _ =>
      (isolated_request hne).bind fun _ => ?_
    exact hsync _
  · exact isolated_routerStatus.bind fun _ =>
      (isolated_executeAnyway hpeers).bind fun _ =>
      (isolated_executeAnyway hinterfaces).bind fun _ => hfinish.bind fun _ => Procedure.keeps_throw

end Synchronisation

/-! ## The rounds -/

/-- The totals of a round of polls. -/
structure RoundTotals extends PollTotals where
  routers : ℕ := 0

/-- What a round of synchronisations has come to. -/
structure CycleTotals where
  routers : ℕ := 0
  succeeded : ℕ := 0
  failed : ℕ := 0

/-- The totals with those of a poll. -/
def RoundTotals.add (totals : RoundTotals) (result : PollTotals) : RoundTotals where
  routers := totals.routers
  observed := totals.observed + result.observed
  disabled := totals.disabled + result.disabled
  reenabled := totals.reenabled + result.reenabled
  failed := totals.failed + result.failed

/-- `SELECT id,name FROM routers … ORDER BY name`, of the routers that are due. -/
def Database.dueRouters (db : Database) (due : RouterRow → Bool) : List RouterRow :=
  (db.routers.filter fun r => due r).insertionSort fun r q => r.name ≤ q.name

/-- Those of them that have peers. -/
def Database.dueForTraffic (db : Database) (due : RouterRow → Bool) : List RouterRow :=
  db.dueRouters fun r => due r && db.peers.rows.any fun p => p.routerId = r.id

theorem Database.mem_dueRouters {db : Database} {due : RouterRow → Bool} {r : RouterRow} :
    r ∈ db.dueRouters due ↔ r ∈ db.routers ∧ due r = true := by
  rw [dueRouters, (List.perm_insertionSort ..).mem_iff, List.mem_filter]

theorem Database.nodup_dueRouters {db : Database} {due : RouterRow → Bool}
    (h : (db.routers.map RouterRow.id).Nodup) : ((db.dueRouters due).map RouterRow.id).Nodup := by
  have hperm : (db.dueRouters due).Perm (db.routers.filter fun r => due r) :=
    List.perm_insertionSort ..
  rw [(hperm.map RouterRow.id).nodup_iff]
  exact h.sublist (List.filter_sublist.map _)

section Rounds

variable {ℓ α : Type}

/-- The loop over the routers of a round: what a visit returns is counted, and so is one that
    throws. -/
def eachRouter (routers : List RouterRow) (visit : RouterRow → Service ℓ α) (returned : α → ℓ → ℓ)
    (thrown : ℓ → ℓ) : Service ℓ PUnit :=
  routers.forM fun router => tryCatch (do
      let result ← visit router
      modify (returned result))
    fun _ => modify thrown

/-- `pollAllRouterTraffic`. The columns that tell whether a router is due are not those of
    `RouterRow`. -/
def pollAllRouterTraffic (P : Platform) (due : RouterRow → Bool)
    (observedAt enforcedAt : PeerRow → ℤ) :
    Service ℓ RoundTotals := do
  let routers ← Service.query fun db => db.dueForTraffic due
  Procedure.withLocals { routers := routers.length : RoundTotals } do
    eachRouter routers (fun router => pollRouterTraffic P router.id observedAt enforcedAt)
      (fun result totals => totals.add result)
      fun totals => { totals with failed := totals.failed + 1 }
    get

/-- `syncCycle`. -/
def syncCycle (P : Platform) (due : RouterRow → Bool) (fresh : RouterRow → FreshIds)
    (now : RouterRow → ℤ) :
    Service ℓ CycleTotals := do
  let routers ← Service.query fun db => db.dueRouters due
  Procedure.withLocals { routers := routers.length : CycleTotals } do
    eachRouter routers (fun router => syncRouter P router.id (fresh router) (now router))
      (fun _ totals => { totals with succeeded := totals.succeeded + 1 })
      fun totals => { totals with failed := totals.failed + 1 }
    get

variable {P : Platform} {faults : Call → Fault → Prop} {w w' : World} {l l' : ℓ} {u : PUnit}

/-- A run of a service leads from one world to the other, in whichever way it ends. -/
def Visited (P : Platform) (faults : Call → Fault → Prop) (x : Service ℓ α) (w w' : World) : Prop :=
  ∃ l result, (x.start l).Ends (World.environment P faults) w result w'

theorem visited_of_ends {x : Service ℓ α} {result : Except AppError α}
    (h : ((ExceptT.run x).run l).Ends (World.environment P faults) w (result, l') w') :
    Visited P faults x w w' :=
  ⟨l, result, Program.ends_bind.2 ⟨_, w', h, Program.ends_done.2 ⟨rfl, rfl⟩⟩⟩

/-- A visit of the loop is one to its router. -/
theorem visited_of_returns {x : Service ℓ α} {returned : α → ℓ → ℓ} {thrown : ℓ → ℓ}
    (h : (tryCatch (do
        let result ← x
        modify (returned result))
      fun _ => modify thrown : Service ℓ PUnit).Returns (World.environment P faults) l w u l' w') :
    Visited P faults x w w' := by
  rcases Procedure.returns_tryCatch.1 h with hreturns | ⟨e, l₁, w₁, hthrows, hcaught⟩
  · obtain ⟨a, l₂, w₂, hx, hmodify⟩ := Procedure.returns_bind.1 hreturns
    obtain ⟨-, rfl⟩ := Procedure.returns_modify.1 hmodify
    exact visited_of_ends hx
  · obtain ⟨-, rfl⟩ := Procedure.returns_modify.1 hcaught
    rcases Procedure.throws_bind.1 hthrows with hx | ⟨a, l₂, w₂, -, hmodify⟩
    · exact visited_of_ends hx
    · cases (Program.ends_done.1 hmodify).1

section Loop

variable {routers : List RouterRow} {visit : RouterRow → Service ℓ α} {returned : α → ℓ → ℓ}
  {thrown : ℓ → ℓ} {other : String}

/-- The loop does not throw. -/
theorem wp_eachRouter : Procedure.wp (World.environment P faults) (fun _ _ => True)
    (eachRouter routers visit returned thrown) (fun _ _ _ => True) (fun _ _ _ => False) l w := by
  refine Procedure.wp_forM (J := fun _ _ _ => True) trivial fun router rest l w _ => ?_
  refine Procedure.wp_tryCatch.2 (Procedure.wp_mono (Procedure.leaves_true l w) ?_ ?_)
  · exact fun _ _ _ _ => trivial
  · exact fun _ _ _ _ => Procedure.wp_modify.2 trivial

/-- The visits to other routers. -/
theorem isolated_eachRouter (hvisit : ∀ router ∈ routers,
      Isolated P faults other (visit router)) :
    Isolated P faults other (eachRouter routers visit returned thrown) :=
  Procedure.keeps_forM fun router hrouter => Procedure.Keeps.tryCatch
    ((hvisit router hrouter).bind fun _ => Procedure.keeps_modify) fun _ => Procedure.keeps_modify

/-- As far as a router is concerned, the loop is the visit to it: before it and after it only
    others are visited. -/
theorem returns_eachRouter_at {router : RouterRow} (hrouter : router ∈ routers)
    (hids : (routers.map RouterRow.id).Nodup)
    (hvisit : ∀ r : RouterRow, router.id ≠ r.id →
      Isolated P faults router.id (visit r))
    (h : (eachRouter routers visit returned thrown).Returns (World.environment P faults) l w u
      l' w') :
    ∃ w₁ w₂, w.SameAt router.id w₁ ∧ Visited P faults (visit router) w₁ w₂ ∧
      w₂.SameAt router.id w' := by
  obtain ⟨before, after, rfl⟩ := List.append_of_mem hrouter
  rw [List.map_append, List.map_cons, List.nodup_middle, List.nodup_cons, List.mem_append] at hids
  have hapart : ∀ r, r ∈ before ∨ r ∈ after → router.id ≠ r.id := fun r hr heq =>
    hids.1 (hr.imp (fun hr => heq ▸ List.mem_map_of_mem hr) fun hr => heq ▸ List.mem_map_of_mem hr)
  obtain ⟨l₁, w₁, hbefore, hrest⟩ := Procedure.returns_forM_append.1 h
  obtain ⟨_, l₂, w₂, hvisited, hafter⟩ := Procedure.returns_bind.1 hrest
  have hsame₁ : w.SameAt router.id w₁ := Procedure.Keeps.returns
    (isolated_eachRouter fun r hr => hvisit r (hapart r (.inl hr))) hbefore
  have hsame₂ : w₂.SameAt router.id w' := Procedure.Keeps.returns
    (isolated_eachRouter fun r hr => hvisit r (hapart r (.inr hr))) hafter
  exact ⟨w₁, w₂, hsame₁, visited_of_returns hvisited, hsame₂⟩

end Loop

/-- What a round does about a router: it visits it once, from a world and to a world that the
    rest of the round does not tell from its ends, or leaves it as it is. -/
def VisitedOnce (P : Platform) (faults : Call → Fault → Prop) (routers : List RouterRow)
    (visit : RouterRow → Service ℓ α) (w w' : World) : Prop :=
  ∀ router ∈ w.db.routers, if router ∈ routers then
      ∃ w₁ w₂, w.SameAt router.id w₁ ∧ Visited P faults (visit router) w₁ w₂ ∧
        w₂.SameAt router.id w'
    else w.SameAt router.id w'

theorem visitedOnce_of_returns {due : RouterRow → Bool} {visit : RouterRow → Service ℓ α}
    {returned : α → ℓ → ℓ} {thrown : ℓ → ℓ} (hids : (w.db.routers.map RouterRow.id).Nodup)
    (hvisit : ∀ other (router : RouterRow), other ≠ router.id →
      Isolated P faults other (visit router))
    (h : (eachRouter (w.db.dueRouters due) visit returned thrown).Returns
      (World.environment P faults) l w u l' w') :
    VisitedOnce P faults (w.db.dueRouters due) visit w w' := by
  intro router hrouter
  split_ifs with hdue
  · exact returns_eachRouter_at hdue (Database.nodup_dueRouters hids) (hvisit router.id) h
  · refine Procedure.Keeps.returns (isolated_eachRouter fun r hr => hvisit router.id r ?_) h
    -- A row with the id of the router is the router.
    rintro heq
    have hsame := List.inj_on_of_nodup_map hids hrouter (Database.mem_dueRouters.1 hr).1 heq
    exact hdue (hsame ▸ hr)

/-- A round selects its routers and visits them. It throws only if the selection does. -/
theorem ends_round {κ : Type} {select : Database → List RouterRow} {first : List RouterRow → κ}
    {visit : RouterRow → Service κ α} {returned : α → κ → κ} {thrown : κ → κ}
    {result : Except AppError κ} (h : (Procedure.start (do
        let routers ← Service.query select
        Procedure.withLocals (first routers) do
          eachRouter routers visit returned thrown
          get : Service ℓ κ) l).Ends (World.environment P faults) w result w') :
    ((∃ e, result = .error e) ∧ w' = w) ∨ (∃ totals, result = .ok totals) ∧
      ∃ k k', (eachRouter (select w.db) visit returned thrown).Returns
        (World.environment P faults) k w ⟨⟩ k' w' := by
  obtain ⟨⟨e | totals, l₁⟩, w₁, hrun, hdone⟩ := Program.ends_bind.1 h
  · obtain ⟨rfl, rfl⟩ := Program.ends_done.1 hdone
    refine .inl ⟨⟨e, rfl⟩, Procedure.wp_throws (Q := fun _ _ _ => True)
      (E := fun _ _ w' => w' = w) (G := fun _ _ => True) ?_ hrun⟩
    refine Procedure.wp_bind.2 (Procedure.wp_call.2 fun r w₂ hcall => ⟨trivial, ?_⟩)
    obtain ⟨rfl, -⟩ := Service.environment_query hcall
    cases r with
    | error e => rfl
    | ok routers =>
      refine Procedure.wp_withLocals.2 (Procedure.wp_bind.2 (Procedure.wp_mono wp_eachRouter ?_ ?_))
      · exact fun _ _ _ _ => trivial
      · exact fun _ _ _ hfalse => hfalse.elim
  · obtain ⟨rfl, rfl⟩ := Program.ends_done.1 hdone
    refine .inr ⟨⟨totals, rfl⟩, ?_⟩
    obtain ⟨routers, l₂, w₂, hquery, hrest⟩ := Procedure.returns_bind.1 hrun
    obtain ⟨hcall, rfl⟩ := Procedure.returns_call.1 hquery
    obtain ⟨rfl, hread⟩ := Service.environment_query hcall
    obtain rfl : routers = select w₂.db := hread routers rfl
    obtain ⟨k', hvisits, -⟩ := Procedure.returns_withLocals hrest
    obtain ⟨_, k₁, w₃, hloop, hget⟩ := Procedure.returns_bind.1 hvisits
    obtain ⟨-, -, rfl⟩ := Procedure.returns_get.1 hget
    exact ⟨_, k₁, hloop⟩

/-- A round of polls visits each router that is due and has peers once, and whatever happens at
    one router, and whichever of its calls fail, changes nothing about the others. Only if it
    cannot select the routers does it end with an error, and then it has visited none. -/
theorem pollAllRouterTraffic_apart {due : RouterRow → Bool} {observedAt enforcedAt : PeerRow → ℤ}
    {result : Except AppError RoundTotals} (hids : (w.db.routers.map RouterRow.id).Nodup)
    (h : ((pollAllRouterTraffic P due observedAt enforcedAt : Service ℓ RoundTotals).start l).Ends
      (World.environment P faults) w result w') :
    ((∃ e, result = .error e) ∧ w' = w) ∨ (∃ totals, result = .ok totals) ∧
      VisitedOnce P faults (w.db.dueForTraffic due) (fun router =>
        (pollRouterTraffic P router.id observedAt enforcedAt : Service RoundTotals PollTotals))
        w w' := by
  refine (ends_round h).imp_right fun ⟨htotals, _, _, hloop⟩ => ⟨htotals, ?_⟩
  exact visitedOnce_of_returns hids (fun _ _ hne => isolated_pollRouterTraffic hne) hloop

/-- The installation with a second router. -/
def twoRouters : World where
  db := { plainDatabase plainPeer plainPeer_check with
    routers := [plainRouter, { plainRouter with id := "r2", name := "Second" }] }
  routers _ := plainContent plainRemote

/-- The router with the peer does not show it. -/
theorem pollAllRouterTraffic_apart_unreachable :
    ∃ totals w', totals.failed = 1 ∧
      ((pollAllRouterTraffic Platform.plain (fun _ => true) (fun _ => 0) fun _ => 0 :
        Service Unit RoundTotals).start ()).Ends (World.environment Platform.plain fun _ _ => True)
          twoRouters (.ok totals) w' ∧
      VisitedOnce Platform.plain (fun _ _ => True) (twoRouters.db.dueForTraffic fun _ => true)
        (fun router => (pollRouterTraffic Platform.plain router.id (fun _ => 0) fun _ => 0 :
          Service RoundTotals PollTotals)) twoRouters w' := by
  have hfailed : ((pollAllRouterTraffic Platform.plain (fun _ => true) (fun _ => 0) fun _ => 0 :
      Service Unit RoundTotals).run Platform.plain
        [{}, {}, {}, {}, {}, { fault := .before routerError }, {}] twoRouters).map
      (fun outcome => outcome.1.toOption.map fun totals => totals.failed) = some (some 1) := by
    decide +kernel
  obtain ⟨⟨result, w'⟩, hrun, htotals⟩ := Option.map_eq_some_iff.1 hfailed
  cases result with
  | error e => cases htotals
  | ok totals =>
    have hends : Program.Ends (World.environment Platform.plain fun _ _ => True) _ twoRouters _
        w' := Program.ends_of_run (fun d _ _ _ => ⟨d, trivial, rfl⟩) hrun
    exact ⟨totals, w', Option.some.inj htotals, hends,
      ((pollAllRouterTraffic_apart (by decide) hends).resolve_left nofun).2⟩

/-- Likewise a round of synchronisations, of all routers that are due. -/
theorem syncCycle_apart {due : RouterRow → Bool} {fresh : RouterRow → FreshIds}
    {now : RouterRow → ℤ} {result : Except AppError CycleTotals}
    (hids : (w.db.routers.map RouterRow.id).Nodup)
    (h : ((syncCycle P due fresh now : Service ℓ CycleTotals).start l).Ends
      (World.environment P faults) w result w') :
    ((∃ e, result = .error e) ∧ w' = w) ∨ (∃ totals, result = .ok totals) ∧
      VisitedOnce P faults (w.db.dueRouters due) (fun router =>
        (syncRouter P router.id (fresh router) (now router) : Service CycleTotals SyncSummary))
        w w' := by
  refine (ends_round h).imp_right fun ⟨htotals, _, _, hloop⟩ => ⟨htotals, ?_⟩
  exact visitedOnce_of_returns hids (fun _ _ hne => isolated_syncRouter hne) hloop

end Rounds

/-- The first router fails, and the second one has its turn. -/
theorem syncCycle_apart_second :
    ∃ totals w', (totals.succeeded, totals.failed) = (1, 1) ∧
      ((syncCycle Platform.plain (fun _ => true) (fun _ => plainFreshIds) fun _ => 0 :
        Service Unit CycleTotals).start ()).Ends (World.environment Platform.plain fun _ _ => True)
          twoRouters (.ok totals) w' ∧
      VisitedOnce Platform.plain (fun _ _ => True) (twoRouters.db.dueRouters fun _ => true)
        (fun router => (syncRouter Platform.plain router.id plainFreshIds 0 :
          Service CycleTotals SyncSummary))
        twoRouters w' := by
  have hcycle : ((syncCycle Platform.plain (fun _ => true) (fun _ => plainFreshIds) fun _ => 0 :
      Service Unit CycleTotals).run Platform.plain
        ({} :: { fault := .before routerError } :: List.replicate 20 {}) twoRouters).map
      (fun outcome => outcome.1.toOption.map fun totals => (totals.succeeded, totals.failed)) =
        some (some (1, 1)) := by
    decide +kernel
  obtain ⟨⟨result, w'⟩, hrun, htotals⟩ := Option.map_eq_some_iff.1 hcycle
  cases result with
  | error e => cases htotals
  | ok totals =>
    have hends : Program.Ends (World.environment Platform.plain fun _ _ => True) _ twoRouters _
        w' := Program.ends_of_run (fun d _ _ _ => ⟨d, trivial, rfl⟩) hrun
    exact ⟨totals, w', Option.some.inj htotals, hends,
      ((syncCycle_apart (by decide) hends).resolve_left nofun).2⟩

end WireguardPanel
