import WireguardPanel.Foundation.System
import WireguardPanel.Enforcement
import WireguardPanel.ServiceCalls

/-!
# Expirations

A cycle marks a peer as expired before it disables the peer on its router, and
the next cycle only selects peers that are not marked.

* `DisablingFailed`: a cycle has marked a peer, and could not disable it.
* `Marked`: the peer is marked.
* `marked_of_reaches`: no cycle takes the mark away.
* `not_expiring_of_disablingFailed`: no later cycle selects such a peer.
-/

namespace WireguardPanel

open Foundation

/-! ## Cycles -/

/-- The cycles of an installation, one after the other, in which calls fail as
    `faults` allows. -/
def expirationCycles (P : Platform) (faults : Call → Fault → Prop) : System World ℤ where
  step now w w' := ∃ r, ((enforceExpirations P now : Service Unit ExpirationTotals).start ()).Ends
    (World.environment P faults) w r w'

/-- In a cycle from `w` to `w'` at the time `now`, `setPeerEnabled` throws for a
    selected peer, and the next peer's turn comes. -/
def DisablingFailed (P : Platform) (faults : Call → Fault → Prop) (now : ℤ) (peer : PeerRow)
    (w w' : World) : Prop :=
  ∃ front rest totals totals' w₀ w₁ w₂ w₃ w₄ e,
    (Service.query fun db => db.expiringPeers now).Returns (World.environment P faults)
      () w (front ++ peer :: rest) () w₀ ∧
    (front.forM fun p => expirePeer P p).Returns (World.environment P faults)
      { checked := (front ++ peer :: rest).length } w₀ () totals w₁ ∧
    (Service.execute (.updatePeer peer.id .expired)).Returns (World.environment P faults)
      totals w₁ () totals w₂ ∧
    (setPeerEnabled P peer.id false .expired).Throws (World.environment P faults)
      totals w₂ e totals w₃ ∧
    (Service.execute (.systemAudit "peer_expiration_failed" peer.id)).Returns
      (World.environment P faults) totals w₃ () totals w₄ ∧
    (rest.forM fun p => expirePeer P p).Returns (World.environment P faults)
      { totals with failed := totals.failed + 1 } w₄ () totals' w'

section Marks

variable {P : Platform} {faults : Call → Fault → Prop} {id : String} {db db' : Database}
  {w w' : World} {now : ℤ} {peer : PeerRow}

/-! ## Marks -/

/-- The peer is marked as expired, if it exists. -/
def Marked (id : String) (db : Database) : Prop :=
  ∀ p ∈ db.peers.rows, p.id = id → p.expired = true

/-- A marked peer is not selected. -/
theorem Marked.not_expiring (h : Marked id db) : ∀ p ∈ db.expiringPeers now, p.id ≠ id := by
  intro p hp hid
  obtain ⟨hmem, hselected⟩ := List.mem_filter.1 hp
  rw [h p hmem hid] at hselected
  simp at hselected

/-- The statements of a cycle. -/
def Statement.OfCycle : Statement → Prop
  | .updatePeer _ .expired | .updatePeer _ (.enabled false ..) | .systemAudit .. => True
  | _ => False

/-- An update of a cycle leaves every mark in place. -/
theorem PeerUpdate.expired_apply {peerId : String} {update : PeerUpdate}
    (hs : (Statement.updatePeer peerId update).OfCycle) {p : PeerRow} (hp : p.expired = true) :
    (update.apply P now p).expired = true := by
  cases update with
  | expired => rfl
  | enabled enabled =>
    cases enabled
    · exact hp
    · exact hs.elim
  | _ => exact hs.elim

theorem Statement.OfCycle.keeps {s : Statement} (hs : s.OfCycle) (newId : String)
    {a : s.Result} (hmarked : Marked id db) (htx : s.tx P now newId db = .ok (a, db')) :
    Marked id db' := by
  cases s with
  | updatePeer peerId update =>
    obtain ⟨peers, rfl, hrows⟩ := Tx.updatePeer_ok htx
    intro p' hp' hid
    rw [hrows] at hp'
    obtain ⟨p, hp, rfl⟩ := List.mem_map.1 hp'
    split_ifs at hid ⊢
    · exact PeerUpdate.expired_apply hs (hmarked p hp (by rwa [PeerUpdate.apply_id] at hid))
    · exact hmarked p hp hid
  | systemAudit =>
    rw [Tx.insertAudit_ok htx]
    exact hmarked
  | _ => exact hs.elim

theorem Statement.OfCycle.keeps_all :
    ∀ s, Statement.OfCycle s → ∀ now newId db a db', Marked id db →
      s.tx P now newId db = .ok (a, db') → Marked id db' :=
  fun _ hs _ newId _ _ _ hmarked htx => hs.keeps newId hmarked htx

theorem executes_ofCycle_setPeerEnabled {ℓ : Type} {peerId : String} :
    Executes Statement.OfCycle (setPeerEnabled P peerId false .expired : Service ℓ Unit) :=
  executes_setPeerEnabled fun _ _ => trivial

theorem executes_ofCycle_expirePeer : Executes Statement.OfCycle (expirePeer P peer) :=
  executes_expirePeer trivial (fun _ _ => trivial) fun _ => trivial

/-- The statement that marks a peer does so. -/
theorem marked_of_returns {ℓ : Type} {l l' : ℓ} {u : Unit}
    (h : (Service.execute (.updatePeer id .expired) : Service ℓ Unit).Returns
      (World.environment P faults) l w u l' w') : Marked id w'.db := by
  obtain ⟨now, newId, db, htx, -, rfl⟩ := Service.returns_execute h
  obtain ⟨peers, rfl, hrows⟩ := Tx.updatePeer_ok htx
  intro p' hp' hid
  rw [hrows] at hp'
  obtain ⟨p, -, rfl⟩ := List.mem_map.1 hp'
  split_ifs at hid ⊢ with hrow
  · rfl
  · exact absurd hid hrow

/-! ## Later cycles -/

/-- One cycle takes no mark away, however it ends. -/
theorem marked_of_step (hmarked : Marked id w.db)
    (hstep : (expirationCycles P faults).step now w w') : Marked id w'.db := by
  obtain ⟨r, hends⟩ := hstep
  have hexecutes : Executes Statement.OfCycle (enforceExpirations P now : Service Unit _) :=
    executes_enforceExpirations (fun _ => trivial) (fun _ _ _ => trivial) fun _ _ => trivial
  exact hexecutes.ends Statement.OfCycle.keeps_all hmarked hends

/-- Nor do many. -/
theorem marked_of_reaches (h : (expirationCycles P faults).Reaches (fun _ _ => True) w w')
    (hmarked : Marked id w.db) : Marked id w'.db :=
  h.invariant (I := fun w => Marked id w.db) hmarked fun _ _ _ ht _ hstep => marked_of_step ht hstep

/-! ## Failures -/

/-- A cycle in which the disabling of a peer fails is a cycle. -/
theorem DisablingFailed.returns (h : DisablingFailed P faults now peer w w') :
    ∃ totals, (enforceExpirations P now).Returns
      (World.environment P faults) () w totals () w' := by
  obtain ⟨front, rest, totals, totals', w₀, w₁, w₂, w₃, w₄, e, hselect, hfront, hmark,
    hfailed, haudit,
    hrest⟩ := h
  have hbody : (do
      Service.execute (.updatePeer peer.id .expired)
      setPeerEnabled P peer.id false .expired
      Service.execute (.systemAudit "peer_expired" peer.id)
      modify fun totals => { totals with disabled := totals.disabled + 1 } :
      Service ExpirationTotals Unit).Throws (World.environment P faults) totals w₁ e totals w₃ :=
    Procedure.throws_bind.2 (.inr ⟨(), totals, w₂, hmark, Procedure.throws_bind.2 (.inl hfailed)⟩)
  have hpeer : (expirePeer P peer).Returns (World.environment P faults) totals w₁ ()
      { totals with failed := totals.failed + 1 } w₄ :=
    Procedure.returns_tryCatch.2 (.inr ⟨e, totals, w₃, hbody, Procedure.returns_bind.2
      ⟨(), totals, w₄, haudit, Procedure.returns_modify.2 ⟨rfl, rfl⟩⟩⟩)
  have hloop : ((front ++ peer :: rest).forM fun p => expirePeer P p).Returns
      (World.environment P faults) { checked := (front ++ peer :: rest).length } w₀ () totals' w' :=
    Procedure.returns_forM_append.2
      ⟨totals, w₁, hfront, Procedure.returns_bind.2 ⟨(), _, w₄, hpeer, hrest⟩⟩
  exact ⟨totals', Procedure.returns_bind.2 ⟨_, (), w₀, hselect, Procedure.Returns.withLocals
    (Procedure.returns_bind.2 ⟨(), totals', w', hloop, Procedure.returns_get.2 ⟨rfl, rfl, rfl⟩⟩)⟩⟩

/-- A peer whose disabling fails is marked when the cycle is over. -/
theorem DisablingFailed.marked (h : DisablingFailed P faults now peer w w') :
    Marked peer.id w'.db := by
  obtain ⟨front, rest, totals, totals', w₀, w₁, w₂, w₃, w₄, e, -, -, hmark, hfailed, haudit,
    hrest⟩ := h
  have hthrown : Marked peer.id w₃.db :=
    executes_ofCycle_setPeerEnabled.throws Statement.OfCycle.keeps_all (marked_of_returns hmark)
      hfailed
  have haudited : Marked peer.id w₄.db :=
    Executes.returns (executes_execute (s := .systemAudit "peer_expiration_failed" peer.id) trivial)
      Statement.OfCycle.keeps_all hthrown haudit
  have hexecutes : Executes Statement.OfCycle (rest.forM fun p => expirePeer P p) :=
    Procedure.makes_forM fun _ _ => executes_ofCycle_expirePeer
  exact hexecutes.returns Statement.OfCycle.keeps_all haudited hrest

/-- A peer whose disabling has failed in one cycle is selected in no later one,
    at whatever time. -/
theorem not_expiring_of_disablingFailed {w'' : World}
    (h : DisablingFailed P faults now peer w w')
    (hlater : (expirationCycles P faults).Reaches (fun _ _ => True) w' w'') (later : ℤ) :
    ∀ p ∈ w''.db.expiringPeers later, p.id ≠ peer.id :=
  (marked_of_reaches hlater h.marked).not_expiring

end Marks

/-! ### A router that does not answer -/

/-- Requests to the routers may fail without effect. -/
def RequestsFail : Call → Fault → Prop
  | .request .., .before _ => True
  | _, fault => fault = .none

/-- The peer of the installation, expired at the time 0. -/
def expiredPeer : PeerRow := { plainPeer with expiresAt := some 0 }

def expiredWorld : World := plainWorld expiredPeer (by decide) plainRemote

/-- The world in which the peer is marked. -/
def markedWorld : World :=
  (World.answer Platform.plain {} expiredWorld (.execute (.updatePeer "p1" .expired))).2

/-- And the world in which its failure is noted. -/
def auditedWorld : World :=
  (World.answer Platform.plain {} markedWorld
    (.execute (.systemAudit "peer_expiration_failed" "p1"))).2

/-- A call that returns, or a request. -/
def returnsOrRequests : (c : Call) → Except AppError c.Result → Bool
  | .request .., _ => true
  | _, r => r.toBool

theorem environment_of_returnsOrRequests {P : Platform} {d : Decision} {w : World} {c : Call}
    (hd : d = {} ∨ d = { fault := .before routerError })
    (h : returnsOrRequests c (World.answer P d w c).1 = true) :
    World.environment P RequestsFail c w (World.answer P d w c).1 (World.answer P d w c).2 := by
  refine ⟨d, ?_, rfl⟩
  rcases hd with rfl | rfl
  · cases c <;> rfl
  · cases c with
    | request => trivial
    | query => cases h
    | execute => cases h

/-- The router does not answer the cycle that is to disable the peer. -/
theorem disablingFailed_expiredWorld :
    DisablingFailed Platform.plain RequestsFail 0 expiredPeer expiredWorld auditedWorld := by
  have hmark : (World.answer Platform.plain {} expiredWorld
      (.execute (.updatePeer "p1" .expired))).1 = .ok () := by rfl
  have haudit : (World.answer Platform.plain {} markedWorld
      (.execute (.systemAudit "peer_expiration_failed" "p1"))).1 = .ok () := by rfl
  have hfailed : Program.runWhile returnsOrRequests (World.answer Platform.plain)
      (StateT.run (ExceptT.run (setPeerEnabled Platform.plain "p1" false .expired))
        ({ checked := 1 } : ExpirationTotals))
      [{}, {}, { fault := .before routerError }] markedWorld =
      some ((Except.error routerError, { checked := 1 }), markedWorld) := by rfl
  refine ⟨[], [], { checked := 1 }, { checked := 1, failed := 1 }, expiredWorld, expiredWorld,
    markedWorld, markedWorld, auditedWorld, routerError,
    Procedure.returns_call.2 ⟨⟨{}, rfl, rfl⟩, rfl⟩, Procedure.returns_pure.2 ⟨rfl, rfl, rfl⟩,
    Procedure.returns_call.2 ⟨⟨{}, rfl, Prod.ext hmark rfl⟩, rfl⟩,
    Program.ends_of_runWhile (fun d hd w c => ?_) hfailed,
    Procedure.returns_call.2 ⟨⟨{}, rfl, Prod.ext haudit rfl⟩, rfl⟩,
    Procedure.returns_pure.2 ⟨rfl, rfl, rfl⟩⟩
  exact environment_of_returnsOrRequests (by simpa using hd)

/-- The peer is not selected by the next cycle. -/
theorem not_expiring_expiredWorld :
    DisablingFailed Platform.plain RequestsFail 0 expiredPeer expiredWorld auditedWorld ∧
      ∀ p ∈ auditedWorld.db.expiringPeers 60000, p.id ≠ "p1" :=
  ⟨disablingFailed_expiredWorld,
    not_expiring_of_disablingFailed disablingFailed_expiredWorld .refl 60000⟩

/-- Not every peer whose disabling has failed is selected again. -/
theorem exists_not_retried :
    ¬∀ (P : Platform) (now later : ℤ) (peer : PeerRow) (w w' : World),
      DisablingFailed P RequestsFail now peer w w' → now ≤ later →
        ∃ p ∈ w'.db.expiringPeers later, p.id = peer.id := by
  intro h
  obtain ⟨p, hp, hid⟩ := h Platform.plain 0 60000 expiredPeer expiredWorld auditedWorld
    disablingFailed_expiredWorld (by decide)
  exact disablingFailed_expiredWorld.marked.not_expiring p hp hid

end WireguardPanel
