import WireguardPanel.Bypass
import WireguardPanel.KeyRotation

/-!
# Updates that are compensated

An update of a peer on its router makes up to two changes there before it
commits. If it fails in between, a third one gives the peer back what it had.

* `updateUntilCommitted`: the part of an update up to its commit.
* `UpdateCompensated`: an update that fails there, and whose compensation
  succeeds.
* `updateUndone_of_compensated`: nothing is left of it, and its operation needs
  reconciliation just if the failure is recorded.
-/

namespace WireguardPanel

open Foundation

/-- The attributes that the compensation of an update sets. -/
def RemoteWireGuardPeer.compensation (remote : RemoteWireGuardPeer) : UpdateRemotePeer where
  interfaceName := some remote.interfaceName
  allowedAddress := some remote.allowedAddress
  comment := some remote.comment
  persistentKeepalive := some remote.persistentKeepalive
  disabled := some remote.disabled

/-- What is noted of an update that has failed before it has committed. -/
def uncommittedContext (input : UpdatePeerInput) : Json :=
  .obj [("databaseCommitted", .bool false), ("sourceDeleted", .bool false),
    ("createdTargetId", .null), ("targetRouterId", .str input.routerId)]

section Parts

variable (P : Platform) (row : PeerRow) (input : UpdatePeerInput)
  (sourceId targetId operationId : String) (targetInterface : InterfaceRow) (now : ℤ)

/-- `updateCurrentPeer` until its commit: the address that it has chosen. -/
def updateUntilCommitted : Service UpdateLocals String := do
  let changingRouter := decide (row.routerId ≠ input.routerId)
  let remote ← assertCurrentRemote P sourceId row
  modify fun l => { l with originalRemote := some remote }
  let targetPeers ← Service.request targetId .getPeers
  let clientIp ← Service.execute (.confirmAddress input.poolId input.routerId input.interfaceId
    (targetPeers.filter fun peer => peer.publicKey ≠ row.publicKey) input.clientIp row.id)
  let allowedAddress := replaceClientAddress input.allowedAddress clientIp
  let updated ←
    if changingRouter then
      moveRemotePeer P row input sourceId targetId operationId targetInterface remote clientIp
        allowedAddress
    else updateRemotePeer input sourceId targetInterface remote allowedAddress
  let policy ← getQuotaPolicy
  let quota ← Service.ofExcept (quotaConfiguration P row input policy now)
  let (updated, disabled, disabledReason) ←
    updateQuotaState targetId row quota changingRouter updated
  let finalRemotePeers ← Service.request targetId .getPeers
  Service.execute (.commitUpdate {
    row, input, clientIp, allowedAddress, quota, updated, disabled, disabledReason
    usageWhenDisabled := if disabledReason = some .quota then some quota.used
      else quota.usageWhenDisabled
    changingRouter
    finalRemotePeers := finalRemotePeers.filter fun peer => peer.publicKey ≠ row.publicKey } now)
  return clientIp

/-- `updateCurrentPeer` from then on. -/
def updateOnceCommitted (clientIp : String) : Service UpdateLocals Unit := do
  modify fun l => { l with databaseCommitted := true }
  finishUpdate P row input sourceId targetId operationId (decide (row.routerId ≠ input.routerId))
    clientIp

theorem updateCurrentPeer_eq :
    updateCurrentPeer P row input sourceId targetId operationId targetInterface now =
      updateUntilCommitted P row input sourceId targetId operationId targetInterface now >>=
        updateOnceCommitted P row input sourceId targetId operationId := by
  unfold updateCurrentPeer updateUntilCommitted updateOnceCommitted
  dsimp only
  split <;> simp only [bind_assoc, pure_bind]

end Parts

/-- An update of `row`, which stays on its router, from `w` to `w'`: it throws
    after its first change of the router and before it has committed, the
    compensation succeeds, and `r` tells whether the failure is recorded. -/
def UpdateCompensated (P : Platform) (faults : Call → Fault → Prop) (peerId : String)
    (input : UpdatePeerInput) (now : ℤ) (row : PeerRow) (operationId : String)
    (r : Except AppError Unit) (w w' : World) : Prop :=
  row.routerId = input.routerId ∧
  ∃ targetInterface source remote l e w₁ w₂ w₃ w₄ w₅ w₆,
    (mutablePeer peerId).Returns (World.environment P faults) () w row () w₁ ∧
    (Service.execute (.startOperation "peer_update" (some row.routerId) (some peerId)
      (.obj [("targetRouterId", .str input.routerId),
        ("targetInterfaceId", .str input.interfaceId)]))).Returns
      (World.environment P faults) () w₁ operationId () w₂ ∧
    (Service.query fun db => (db.interface input.interfaceId).filter fun i =>
      i.routerId = input.routerId).Returns
      (World.environment P faults) () w₂ (some targetInterface) () w₃ ∧
    (routerClient P row.routerId).Returns (World.environment P faults) () w₃ source () w₄ ∧
    (updateUntilCommitted P row input source.id source.id operationId targetInterface now).Throws
      (World.environment P faults) {} w₄ e l w₅ ∧
    l.sameRouterMutated = true ∧ l.originalRemote = some remote ∧
    (Service.request source.id (.updatePeer remote.id remote.compensation)).Returns
      (World.environment P faults) l w₅ () l w₆ ∧
    (Procedure.attempt (Service.execute (.failOperation operationId .needsReconciliation
      (some (uncommittedContext input))))).Returns (World.environment P faults) l w₆ r l w'

/-- The peer of a row is on its router as before, but for its name, and the row
    and its address are unchanged. -/
structure UpdateUndone (row : PeerRow) (w w' : World) : Prop where
  router : ∃ p ∈ (w.routers row.routerId).peerOf row, ∃ q ∈ (w'.routers row.routerId).peerOf row,
    q = { p with name := q.name }
  peers : w'.db.peers = w.db.peers
  addresses : w'.db.addresses = w.db.addresses

section Updates

variable {P : Platform} {faults : Call → Fault → Prop} {row : PeerRow} {input : UpdatePeerInput}
  {routerId operationId peerId : String} {targetInterface : InterfaceRow} {now : ℤ}
  {w w' : World}

/-! ## The changes of the router -/

/-- A peer without the attributes that an update sets. -/
def RouterPeer.identity (p : RouterPeer) : RouterPeer :=
  { p with
    interfaceName := ""
    name := ""
    allowedAddress := ""
    comment := ""
    persistentKeepalive := 0
    disabled := false }

/-- The peer of a row is on the router, with other attributes at most. -/
def Touched (row : PeerRow) (p : RouterPeer) (r : RouterContent) : Prop :=
  ∃ q ∈ r.peerOf row, q.identity = p.identity

/-- A change of the attributes of a peer leaves it touched at most. -/
theorem Touched.updatePeer {p : RouterPeer} {r r' : RouterContent} {id : String}
    {change : UpdateRemotePeer} (h : Touched row p r)
    (hupdate : r.updatePeer id change = some ((), r')) (hkey : change.publicKey = none)
    (hchange : ∀ q : RouterPeer, (change.apply q).identity = q.identity) : Touched row p r' := by
  obtain ⟨q, hq, hidentity⟩ := h
  refine ⟨_, by rw [RouterContent.peerOf_updatePeer hupdate hkey, hq]; rfl, ?_⟩
  dsimp only
  split_ifs
  · exact (hchange q).trans hidentity
  · exact hidentity

/-- The compensation gives a peer that has been touched what it had. -/
theorem RouterPeer.apply_compensation {p q : RouterPeer} (h : q.identity = p.identity) :
    p.compensation.apply q = { p with name := p.comment } := by
  obtain ⟨⟨⟩, _⟩ := p
  obtain ⟨⟨⟩, _⟩ := q
  simp only [RouterPeer.identity, RouterPeer.mk.injEq, RemoteWireGuardPeer.mk.injEq] at h
  simp [UpdateRemotePeer.apply, RemoteWireGuardPeer.compensation, h]

/-- What an update leaves where it fails before it has committed: what it has
    changed on the router can be compensated. -/
structure Compensable (row : PeerRow) (w : World) (l : UpdateLocals) (w' : World) : Prop where
  uncommitted : l.databaseCommitted = false
  kept : l.sourceDeleted = false
  created : l.createdTargetId = none
  recovery : l.recoveryTarget = none
  changed : l.sameRouterMutated = true → ∃ p ∈ (w.routers row.routerId).peerOf row,
    l.originalRemote = some p.toRemoteWireGuardPeer ∧ w'.db = w.db ∧
      Touched row p (w'.routers row.routerId)

/-- What is true before the flag of a peer is set, and after, is true of its
    quota state. -/
theorem wp_updateQuotaState_failing {ℓ : Type} {l : ℓ} {quota : QuotaConfiguration}
    {changingRouter : Bool} {updated : RemoteWireGuardPeer} {K : World → Prop} (hw : K w)
    (hflag : ∀ d r, (w.routers routerId).updatePeer updated.id { disabled := some d } =
      some ((), r) → K (w.setRouter routerId r)) :
    Procedure.wp (World.environment P faults) (fun _ _ => True)
      (updateQuotaState routerId row quota changingRouter updated) (fun _ l' w' => l' = l ∧ K w')
      (fun _ l' w' => l' = l ∧ K w') l w := by
  have hrequest : ∀ (d : Bool) (a : RemoteWireGuardPeer × Bool × Option DisabledReason),
      Procedure.wp (World.environment P faults) (fun _ _ => True) (do
        Service.request routerId (.updatePeer updated.id { disabled := some d })
        return a : Service ℓ _) (fun _ l' w' => l' = l ∧ K w') (fun _ l' w' => l' = l ∧ K w') l w :=
    fun d a => Procedure.wp_bind.2 (wp_request_failing
      (fun _ _ r hupdate => ⟨⟨rfl, hflag d r hupdate⟩, fun _ => ⟨rfl, hflag d r hupdate⟩⟩)
      fun _ => ⟨rfl, hw⟩)
  unfold updateQuotaState
  split_ifs
  · exact hrequest false _
  · exact hrequest true _
  · exact hrequest false _
  · exact ⟨rfl, hw⟩

/-- The world after an update has changed the peer `p` on its router. -/
def Changed (row : PeerRow) (p : RouterPeer) (w w' : World) : Prop :=
  w'.db = w.db ∧ Touched row p (w'.routers row.routerId)

theorem Changed.setRouter {p : RouterPeer} {w₁ : World} {r : RouterContent} {id : String}
    {change : UpdateRemotePeer} (h : Changed row p w w₁)
    (hupdate : (w₁.routers row.routerId).updatePeer id change = some ((), r))
    (hkey : change.publicKey = none)
    (hchange : ∀ q : RouterPeer, (change.apply q).identity = q.identity) :
    Changed row p w (w₁.setRouter row.routerId r) := by
  refine ⟨h.1, ?_⟩
  rw [World.routers_setRouter]
  exact h.2.updatePeer hupdate hkey hchange

theorem wp_updateRemotePeer_failing {p : RouterPeer} {allowedAddress : String} {l : UpdateLocals}
    (hchanged : Changed row p w w) :
    Procedure.wp (World.environment P faults) (fun _ _ => True)
      (updateRemotePeer input row.routerId targetInterface p.toRemoteWireGuardPeer allowedAddress)
      (fun _ l' w' => l' = { l with sameRouterMutated := true } ∧ Changed row p w w')
      (fun _ l' w' => l' = l ∨ l' = { l with sameRouterMutated := true } ∧ Changed row p w w') l
      w := by
  refine Procedure.wp_bind.2 (wp_request_failing (fun _ _ r hupdate => ⟨?_, fun _ => .inl rfl⟩)
    fun _ => .inl rfl)
  have hafter : Changed row p w (w.setRouter row.routerId r) :=
    hchanged.setRouter hupdate rfl fun _ => rfl
  refine Procedure.wp_bind.2 (Procedure.wp_modify.2 (Procedure.wp_bind.2
    (wp_getPeers_failing ?_ fun _ => .inr ⟨rfl, hafter⟩)))
  split
  · exact .inr ⟨rfl, hafter⟩
  · exact ⟨rfl, hafter⟩

/-- An update that stays on its router can be compensated wherever it fails
    before it has committed. -/
theorem wp_updateUntilCommitted_failing (hsame : row.routerId = input.routerId) :
    Procedure.wp (World.environment P faults) (fun _ _ => True)
      (updateUntilCommitted P row input row.routerId row.routerId operationId targetInterface now)
      (fun _ _ _ => True) (fun _ l w' => Compensable row w l w') {} w := by
  have hstart : Compensable row w {} w := ⟨rfl, rfl, rfl, rfl, nofun⟩
  refine Procedure.wp_bind.2 (wp_assertCurrentRemote_failing (fun p hp => ?_) fun _ => hstart)
  have hread : ∀ w', Compensable row w { originalRemote := some p.toRemoteWireGuardPeer } w' :=
    fun _ => ⟨rfl, rfl, rfl, rfl, nofun⟩
  have hchanged : ∀ w', Changed row p w w' → Compensable row w
      { originalRemote := some p.toRemoteWireGuardPeer, sameRouterMutated := true } w' :=
    fun w' h => ⟨rfl, rfl, rfl, rfl, fun _ => ⟨p, hp, rfl, h⟩⟩
  refine Procedure.wp_bind.2 (Procedure.wp_modify.2 (Procedure.wp_bind.2
    (wp_getPeers_failing ?_ fun _ => hread w)))
  refine Procedure.wp_bind.2 (wp_execute_failing (fun _ _ clientIp db htx => ?_) fun _ => hread w)
  -- The choice of an address changes nothing.
  obtain rfl : w.db = db := within_confirmAddress (R := Eq) _ _ _ htx
  have hmoved : decide (row.routerId ≠ input.routerId) = false := decide_eq_false (not_not.2 hsame)
  simp only [hmoved, Bool.false_eq_true, if_false]
  refine Procedure.wp_bind.2 (Procedure.wp_mono
    (wp_updateRemotePeer_failing ⟨rfl, p, hp, rfl⟩) ?_ ?_)
  · rintro updated _ w₁ ⟨rfl, hw₁⟩
    have hcompensable := hchanged w₁ hw₁
    -- The settings and the new quota are read, and nothing changes.
    refine Procedure.wp_bind.2 (wp_anySetting_failing fun policy => ?_)
    refine Procedure.wp_bind.2 (wp_ofExcept_failing (fun quota _ => ?_) fun _ => hcompensable)
    refine Procedure.wp_bind.2 (Procedure.wp_mono (wp_updateQuotaState_failing hw₁
      fun d r hupdate => hw₁.setRouter hupdate rfl fun _ => rfl) ?_ ?_)
    · rintro ⟨observed, disabled, disabledReason⟩ _ w₂ ⟨rfl, hw₂⟩
      exact Procedure.wp_bind.2 (wp_getPeers_failing (Procedure.wp_bind.2 (wp_execute_failing
        (fun _ _ _ _ _ => trivial) fun _ => hchanged w₂ hw₂)) fun _ => hchanged w₂ hw₂)
    · rintro e _ w₂ ⟨rfl, hw₂⟩
      exact hchanged w₂ hw₂
  · rintro e _ w₁ (rfl | ⟨rfl, hw₁⟩)
    · exact hread w₁
    · exact hchanged w₁ hw₁

/-! ## The compensation -/

/-- The compensation of an update that has failed. -/
theorem returns_undoUpdate {l : UpdateLocals} {remote : RemoteWireGuardPeer} {w₁ : World}
    (hfailed : Compensable row w l w₁) (hmutated : l.sameRouterMutated = true)
    (horiginal : l.originalRemote = some remote)
    (h : (Service.request routerId (.updatePeer remote.id remote.compensation)).Returns
      (World.environment P faults) l w₁ () l w') :
    (undoUpdate row input routerId routerId l).Returns
      (World.environment P faults) l w₁ () l w' := by
  have hrequest : (requestAnyway routerId (.updatePeer remote.id remote.compensation)).Returns
      (World.environment P faults) l w₁ () l w' :=
    Procedure.returns_bind.2 ⟨_, l, w', h.attempt, Procedure.returns_pure.2 ⟨rfl, rfl, rfl⟩⟩
  unfold undoUpdate
  simp only [horiginal, hmutated, if_true, hfailed.created, hfailed.recovery, filled]
  exact Procedure.returns_bind.2 ⟨(), l, w', hrequest, Procedure.returns_bind.2
    ⟨(), l, w', Procedure.returns_pure.2 ⟨rfl, rfl, rfl⟩, Procedure.returns_pure.2 ⟨rfl, rfl, rfl⟩⟩⟩

/-- Such a run is one of `updatePeer`. -/
theorem UpdateCompensated.throws {r : Except AppError Unit}
    (h : UpdateCompensated P faults peerId input now row operationId r w w') :
    ∃ e, (updatePeer P peerId input now).Throws (World.environment P faults) () w e () w' := by
  obtain ⟨hsame, targetInterface, source, remote, l, e, w₁, w₂, w₃, w₄, w₅, w₆, hrow, hstart,
    hinterface, hsource, huntil, hmutated, horiginal, hundo, hfail⟩ := h
  obtain ⟨-, hid, -, -⟩ := returns_routerClient hsource
  have hfailed : Compensable row w₄ l w₅ := by
    rw [hid] at huntil
    have hthrown := Procedure.wp_throws (wp_updateUntilCommitted_failing hsame) huntil
    exact hthrown
  have hcurrent : (updateCurrentPeer P row input source.id source.id operationId targetInterface
      now).Throws (World.environment P faults) {} w₄ e l w₅ := by
    rw [updateCurrentPeer_eq]
    exact Procedure.throws_bind.2 (.inl huntil)
  have habandon : (abandonUpdate row input source.id source.id operationId e).Throws
      (World.environment P faults) l w₅ e l w' := by
    refine Procedure.throws_bind.2 (.inr ⟨l, l, w₅, Procedure.returns_get.2 ⟨rfl, rfl, rfl⟩, ?_⟩)
    simp only [hfailed.uncommitted, hfailed.kept, hfailed.created, hmutated, Bool.false_eq_true,
      false_or, if_true, if_false]
    exact Procedure.throws_bind.2 (.inr ⟨(), l, w₆,
      returns_undoUpdate hfailed hmutated horiginal hundo, Procedure.throws_bind.2 (.inr ⟨(), l, w',
        Procedure.returns_bind.2 ⟨r, l, w', hfail, Procedure.returns_pure.2 ⟨rfl, rfl, rfl⟩⟩,
        Procedure.throws_throw⟩)⟩)
  refine ⟨e, Procedure.throws_bind.2 (.inr ⟨row, (), w₁, hrow, Procedure.throws_bind.2
    (.inr ⟨operationId, (), w₂, hstart, Procedure.throws_bind.2 (.inr ⟨some targetInterface, (), w₃,
      hinterface, ?_⟩)⟩)⟩)⟩
  refine Procedure.throws_bind.2 (.inr ⟨targetInterface, (), w₃,
    Procedure.returns_pure.2 ⟨rfl, rfl, rfl⟩,
      Procedure.throws_bind.2 (.inr ⟨source, (), w₄, hsource,
      ?_⟩)⟩)
  rw [if_neg (not_not.2 hsame)]
  exact Procedure.throws_bind.2 (.inr ⟨source, (), w₄, Procedure.returns_pure.2 ⟨rfl, rfl, rfl⟩,
    (hcurrent.tryCatch habandon).withLocals⟩)

/-- The world in which the router has been compensated: but for the row `o` of
    the operation, the database is as it was. -/
structure Compensated (row : PeerRow) (o : OperationRow) (w w' : World) : Prop where
  creating : o.status = .creating
  new : ¬∃ o' ∈ w.db.operations, o'.id = o.id
  db : w'.db = (w.withOperation o).db
  router : ∃ p ∈ (w.routers row.routerId).peerOf row, ∃ q ∈ (w'.routers row.routerId).peerOf row,
    q = { p with name := q.name }

theorem UpdateCompensated.compensated {r : Except AppError Unit}
    (h : UpdateCompensated P faults peerId input now row operationId r w w') :
    ∃ o w₁, o.id = operationId ∧ Compensated row o w w₁ ∧
      ((r = .ok () ∧ ∃ failedAt, w' = w₁.failOperation operationId .needsReconciliation
        (some (uncommittedContext input)) failedAt) ∨ (∃ e, r = .error e) ∧ w' = w₁) := by
  obtain ⟨hsame, targetInterface, source, remote, l, e, w₁, w₂, w₃, w₄, w₅, w₆, hrow, hstart,
    hinterface, hsource, huntil, hmutated, horiginal, hundo, hfail⟩ := h
  obtain ⟨-, -, rfl⟩ := returns_mutablePeer hrow
  obtain ⟨hnew, -, o, rfl, hcreating, rfl⟩ := returns_startOperation hstart
  obtain ⟨-, -, rfl⟩ := Service.returns_query hinterface
  obtain ⟨-, hid, -, rfl⟩ := returns_routerClient hsource
  rw [hid] at huntil hundo
  obtain ⟨p, hp, hremote, hdb, q, hq, hidentity⟩ :=
    (Procedure.wp_throws (wp_updateUntilCommitted_failing hsame) huntil).changed hmutated
  obtain rfl : p.toRemoteWireGuardPeer = remote := Option.some.inj (hremote.symm.trans horiginal)
  obtain ⟨_, r', hupdate, -, rfl⟩ := Service.returns_request hundo
  refine ⟨o, w₅.setRouter row.routerId r', rfl, ⟨hcreating, hnew, hdb,
    ⟨p, hp, p.compensation.apply q, ?_, RouterPeer.apply_compensation hidentity⟩⟩,
    (returns_failOperation hfail).2⟩
  have hpeer := RouterContent.peerOf_updatePeer hupdate rfl row
  have hqid : q.identity.id = p.identity.id := by rw [hidentity]
  rw [World.routers_setRouter, hpeer, hq]
  exact congrArg some (if_pos hqid)

/-- Nothing is left of the update. -/
theorem UpdateCompensated.undone {r : Except AppError Unit}
    (h : UpdateCompensated P faults peerId input now row operationId r w w') :
    UpdateUndone row w w' := by
  obtain ⟨o, w₁, -, hcompensated, hrecord⟩ := h.compensated
  have hundone : UpdateUndone row w w₁ := ⟨hcompensated.router,
    (congrArg Database.peers hcompensated.db :), (congrArg Database.addresses hcompensated.db :)⟩
  rcases hrecord with ⟨-, failedAt, rfl⟩ | ⟨-, rfl⟩
  · exact ⟨hundone.router, hundone.peers, hundone.addresses⟩
  · exact hundone

/-- Its operation needs reconciliation if the failure is recorded, and keeps its
    status if not. -/
theorem UpdateCompensated.status {r : Except AppError Unit}
    (h : UpdateCompensated P faults peerId input now row operationId r w w') :
    ∃ o ∈ w'.db.operations, o.id = operationId ∧ (o.status = .needsReconciliation ↔ r = .ok ()) ∧
      (r ≠ .ok () → o.status = .creating) ∧
      ∀ o' ∈ w'.db.operations, o'.id = operationId → o'.status = o.status := by
  obtain ⟨o, w₁, rfl, hcompensated, hrecord⟩ := h.compensated
  have hops : w₁.db.operations = w.db.operations ++ [o] :=
    (congrArg Database.operations hcompensated.db :)
  have hmem : o ∈ w₁.db.operations := by
    rw [hops]
    exact List.mem_append_right _ (List.mem_singleton_self o)
  rcases hrecord with ⟨rfl, failedAt, rfl⟩ | ⟨⟨e, rfl⟩, rfl⟩
  · refine ⟨OperationRow.failed .needsReconciliation (some (uncommittedContext input)) failedAt o,
      List.mem_map.2 ⟨o, hmem, if_pos rfl⟩, rfl, iff_of_true rfl rfl, absurd rfl,
      fun o' ho' hid => ?_⟩
    obtain ⟨o₁, -, rfl⟩ := List.mem_map.1 ho'
    split_ifs at hid ⊢ with hop
    · rfl
    · exact absurd hid hop
  · refine ⟨o, hmem, rfl, iff_of_false ?_ nofun, fun _ => hcompensated.creating,
      fun o' ho' hid => ?_⟩
    · rw [hcompensated.creating]
      nofun
    · rw [hops] at ho'
      rcases List.mem_append.1 ho' with hold | hone
      · exact absurd ⟨o', hold, hid⟩ hcompensated.new
      · rw [List.mem_singleton.1 hone]

/-- An update that fails after it has changed its router and before it has
    committed leaves the peer, its row and its address as they were, if the
    compensation succeeds. Its operation needs reconciliation just if the
    failure is recorded. Otherwise it keeps the status with which it began. -/
theorem updateUndone_of_compensated {r : Except AppError Unit}
    (h : UpdateCompensated P faults peerId input now row operationId r w w') :
    UpdateUndone row w w' ∧ ∃ o ∈ w'.db.operations, o.id = operationId ∧
      (o.status = .needsReconciliation ↔ r = .ok ()) ∧ (r ≠ .ok () → o.status = .creating) ∧
      ∀ o' ∈ w'.db.operations, o'.id = operationId → o'.status = o.status :=
  ⟨h.undone, h.status⟩

end Updates

/-! ### A database that does not answer -/

/-- The peer of the installation on its router. -/
def renamedWorld : World := plainWorld plainPeer plainPeer_check plainRemote

/-- The local variables with which the update fails. -/
def renamedLocals : UpdateLocals where
  originalRemote := some plainRemote
  sameRouterMutated := true

/-- The outcome of the statement that records the failure. -/
def recordOutcome (recorded : Bool) : Except AppError Unit :=
  if recorded then .ok () else .error routerError

/-- The commit fails, the compensation succeeds, and the failure is recorded or
    it is not. -/
theorem exists_compensated (recorded : Bool) : ∃ w', UpdateCompensated Platform.plain
    FailWithoutEffect "p1" renameInput 60000 plainPeer "o1" (recordOutcome recorded) renamedWorld
      w' := by
  cases recorded
  · exact ⟨_, rfl, plainInterface, plainRouter, plainRemote, renamedLocals, routerError,
      _, _, _, _, _, _, ends_of_program [{}] rfl rfl, ends_of_program [{ id := "o1" }] rfl rfl,
      ends_of_program [{}] rfl rfl, ends_of_program [{}] rfl rfl,
      ends_of_program [{}, {}, {}, {}, {}, {}, {}, { fault := .before routerError }] rfl rfl,
      rfl, rfl,
      ends_of_program [{}] rfl rfl, ends_of_program [{ fault := .before routerError }] rfl rfl⟩
  · exact ⟨_, rfl, plainInterface, plainRouter, plainRemote, renamedLocals, routerError,
      _, _, _, _, _, _, ends_of_program [{}] rfl rfl, ends_of_program [{ id := "o1" }] rfl rfl,
      ends_of_program [{}] rfl rfl, ends_of_program [{}] rfl rfl,
      ends_of_program [{}, {}, {}, {}, {}, {}, {}, { fault := .before routerError }] rfl rfl,
      rfl, rfl,
      ends_of_program [{}] rfl rfl, ends_of_program [{}] rfl rfl⟩

/-- The update is undone, and its operation needs reconciliation. -/
theorem updateUndone_of_compensated_recorded : ∃ w', UpdateCompensated Platform.plain
    FailWithoutEffect "p1" renameInput 60000 plainPeer "o1" (.ok ()) renamedWorld w' ∧
      UpdateUndone plainPeer renamedWorld w' ∧
      ∃ o ∈ w'.db.operations, o.id = "o1" ∧ o.status = .needsReconciliation := by
  obtain ⟨w', h⟩ := exists_compensated true
  obtain ⟨hundone, o, ho, hid, hstatus, -⟩ := updateUndone_of_compensated h
  exact ⟨w', h, hundone, o, ho, hid, hstatus.2 rfl⟩

/-- The operation of an update that is undone does not always need
    reconciliation: the recording of its failure may fail too. -/
theorem exists_not_needsReconciliation :
    ¬∀ (P : Platform) (peerId : String) (input : UpdatePeerInput) (now : ℤ) (row : PeerRow)
      (operationId : String) (r : Except AppError Unit) (w w' : World),
        UpdateCompensated P FailWithoutEffect peerId input now row operationId r w w' →
          UpdateUndone row w w' ∧ ∃ o ∈ w'.db.operations, o.id = operationId ∧
            o.status = .needsReconciliation := by
  intro h
  obtain ⟨w', hcompensated⟩ := exists_compensated false
  obtain ⟨-, o, ho, hid, hneeds⟩ := h _ _ _ _ _ _ _ _ _ hcompensated
  obtain ⟨o', -, -, hstatus, -, hsame⟩ := hcompensated.status
  exact absurd (hstatus.1 ((hsame o ho hid).symm.trans hneeds)) nofun

end WireguardPanel
