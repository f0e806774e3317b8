import WireguardPanel.Failures

/-!
# Key rotations that are rolled back

A rotation that fails after it has given the router the new keys gives it the
keys of the row. These are the old ones only if the row knows them.

* `RotationRolledBack`: a rotation that fails so, and whose rollback succeeds.
* `KeysKnown`: the row knows the peer by its identifier, and both of its keys.
* `keysRestored_iff`: the rollback restores the keys just if the row does.
-/

namespace WireguardPanel

open Foundation

/-- The preshared key that a row has stored, or an empty one if it has none. -/
def PeerRow.storedPresharedKey (P : Platform) (row : PeerRow) : Except AppError String := do
  let presharedKey ← P.decryptFilled row.presharedKeyEncrypted
  return presharedKey.getD ""

/-- The attributes that a rotation sets on the router. -/
def WireGuardKeys.remoteInput (keys : WireGuardKeys) : UpdateRemotePeer where
  publicKey := some keys.publicKey
  presharedKey := some (keys.presharedKey.getD "")

/-- The attributes that the rollback sets. -/
def PeerRow.rollbackInput (row : PeerRow) (presharedKey : String) : UpdateRemotePeer where
  publicKey := some row.publicKey
  presharedKey := some presharedKey

/-- What is noted of a rotation that has been rolled back. -/
def rolledBackContext : Json :=
  .obj [("remoteMutated", .bool true), ("databaseCommitted", .bool false),
    ("rollbackFailed", .bool false)]

section Parts

variable (P : Platform) (row : PeerRow) (routerId operationId : String) (keys : WireGuardKeys)

/-- `rotateKeys` until its own update of the row. -/
def rotateUntilStored : Service RotationLocals Unit := do
  let remote ← assertCurrentRemote P routerId row
  Service.request routerId (.updatePeer remote.id keys.remoteInput)
  modify fun l => { l with remoteMutated := true }
  let remotePeers ← Service.request routerId .getPeers
  match remotePeers.find? fun peer => peer.id = remote.id ∨ peer.publicKey = keys.publicKey with
  | none => throw (.error "RouterOS did not return the regenerated peer during verification.")
  | some updated =>
    Service.execute (.updatePeer row.id (.keys keys.publicKey (P.encryptSecret keys.privateKey)
      ((filled keys.presharedKey).map P.encryptSecret) updated))

/-- `rotateKeys` from then on. -/
def rotateOnceStored : Service RotationLocals Unit := do
  modify fun l => { l with databaseCommitted := true }
  Service.execute (.operationStep operationId)
  refreshPeerQr P row.id
  Service.execute (.operationStep operationId)
  Service.execute (.finishOperation operationId .completed none)

theorem rotateKeys_eq : rotateKeys P row routerId operationId keys =
    rotateUntilStored P row routerId keys >>= fun _ => rotateOnceStored P row operationId := by
  unfold rotateKeys rotateUntilStored rotateOnceStored
  simp only [bind_assoc]
  refine bind_congr fun remote => bind_congr fun _ => bind_congr fun _ => bind_congr fun peers => ?_
  generalize List.find? _ peers = found
  cases found <;> rfl

end Parts

/-- A rotation from `w` to `w'` that throws after its update of the router and
    before its own update of the row `row` has taken effect, and whose rollback
    succeeds. -/
def RotationRolledBack (P : Platform) (faults : Call → Fault → Prop) (peerId : String)
    (keys : WireGuardKeys) (row : PeerRow) (w w' : World) : Prop :=
  ∃ operationId router l e w₁ w₂ w₃ w₄ w₅,
    (mutablePeer peerId).Returns (World.environment P faults) () w row () w₁ ∧
    (Service.execute (.startOperation "peer_key_rotation" (some row.routerId) (some peerId)
      (.obj []))).Returns (World.environment P faults) () w₁ operationId () w₂ ∧
    (routerClient P row.routerId).Returns (World.environment P faults) () w₂ router () w₃ ∧
    (rotateUntilStored P row router.id keys).Throws (World.environment P faults) {} w₃ e l w₄ ∧
    l.remoteMutated = true ∧
    (restoreKeys P row router.id).Returns (World.environment P faults) l w₄ () l w₅ ∧
    (executeAnyway (.failOperation operationId .failed (some rolledBackContext))).Returns
      (World.environment P faults) l w₅ () l w'

/-- The peer of a row has on its router the keys that `p` has, and the row its
    own, as before. -/
structure KeysRestored (row : PeerRow) (p : RouterPeer) (w' : World) : Prop where
  router : ∃ q ∈ (w'.routers row.routerId).peers, q.id = p.id ∧ q.publicKey = p.publicKey ∧
    q.presharedKey = p.presharedKey
  stored : ∃ row', w'.db.peer row.id = some row' ∧ row'.publicKey = row.publicKey ∧
    row'.privateKeyEncrypted = row.privateKeyEncrypted ∧
    row'.presharedKeyEncrypted = row.presharedKeyEncrypted

/-- The row knows the peer `p` by its identifier, and both of its keys. -/
structure KeysKnown (P : Platform) (row : PeerRow) (p : RouterPeer) : Prop where
  remoteId : row.remoteId = some p.id
  publicKey : row.publicKey = p.publicKey
  presharedKey : row.storedPresharedKey P = .ok p.presharedKey

section Rotation

variable {P : Platform} {faults : Call → Fault → Prop} {ℓ : Type} {row : PeerRow} {p : RouterPeer}
  {routerId operationId peerId : String} {keys : WireGuardKeys} {w w' : World}

/-! ## The rotation -/

/-- What a rotation has done when it fails before its own update of the row: the
    router has the new keys, and the database is as it was. -/
theorem wp_rotateUntilStored_failing : Procedure.wp (World.environment P faults) (fun _ _ => True)
    (rotateUntilStored P row routerId keys) (fun _ _ _ => True)
    (fun _ l w' => l.databaseCommitted = false ∧ (l.remoteMutated = true →
      ∃ p r, (w.routers routerId).peerOf row = some p ∧
        (w.routers routerId).updatePeer p.id keys.remoteInput = some ((), r) ∧
        w' = w.setRouter routerId r)) {} w := by
  refine Procedure.wp_bind.2 (wp_assertCurrentRemote_failing (fun p hp => ?_)
    fun _ => ⟨rfl, nofun⟩)
  refine Procedure.wp_bind.2 (wp_request_failing (fun _ _ r hupdate => ⟨?_, fun _ => ⟨rfl, nofun⟩⟩)
    fun _ => ⟨rfl, nofun⟩)
  -- From here on nothing changes until the row is updated.
  refine Procedure.wp_bind.2 (Procedure.wp_modify.2 (Procedure.wp_bind.2
    (wp_getPeers_failing ?_ fun _ => ⟨rfl, fun _ => ⟨p, r, hp, hupdate, rfl⟩⟩)))
  split
  · exact ⟨rfl, fun _ => ⟨p, r, hp, hupdate, rfl⟩⟩
  · exact wp_execute_failing (fun _ _ _ _ _ => trivial)
      fun _ => ⟨rfl, fun _ => ⟨p, r, hp, hupdate, rfl⟩⟩

/-- Such a run is one of `regeneratePeerKeys`. -/
theorem RotationRolledBack.throws (h : RotationRolledBack P faults peerId keys row w w') :
    ∃ e, (regeneratePeerKeys P peerId keys).Throws (World.environment P faults) () w e () w' := by
  obtain ⟨operationId, router, l, e, w₁, w₂, w₃, w₄, w₅, hrow, hstart, hrouter, huntil, hmutated,
    hrestore, hfail⟩ := h
  have hcommitted : l.databaseCommitted = false :=
    (Procedure.wp_throws wp_rotateUntilStored_failing huntil).1
  have hrotate : (rotateKeys P row router.id operationId keys).Throws (World.environment P faults)
      {} w₃ e l w₄ := by
    rw [rotateKeys_eq]
    exact Procedure.throws_bind.2 (.inl huntil)
  have hrolledBack : (abandonRotation P row router.id operationId e).Throws
      (World.environment P faults) l w₄ e l w' := by
    refine Procedure.throws_bind.2 (.inr ⟨l, l, w₄, Procedure.returns_get.2 ⟨rfl, rfl, rfl⟩, ?_⟩)
    dsimp only
    rw [if_pos ⟨hmutated, hcommitted⟩]
    refine Procedure.throws_bind.2 (.inr ⟨.ok (), l, w₅, hrestore.attempt, ?_⟩)
    refine Procedure.throws_bind.2
      (.inr ⟨false, l, w₅, Procedure.returns_pure.2 ⟨rfl, rfl, rfl⟩, ?_⟩)
    simp only [hmutated, hcommitted]
    exact Procedure.throws_bind.2 (.inr ⟨(), l, w', hfail, Procedure.throws_throw⟩)
  exact ⟨e, Procedure.throws_bind.2 (.inr ⟨row, (), w₁, hrow, Procedure.throws_bind.2
    (.inr ⟨operationId, (), w₂, hstart, Procedure.throws_bind.2 (.inr ⟨router, (), w₃, hrouter,
      (hrotate.tryCatch hrolledBack).withLocals⟩)⟩)⟩)⟩

/-! ## The rollback -/

/-- The rollback sets the keys of the row on the first peer that has its
    identifier, if there is one. -/
theorem returns_restoreKeys {l l' : ℓ} {u : Unit}
    (h : (restoreKeys P row routerId : Service ℓ Unit).Returns (World.environment P faults) l w u l'
      w') :
    ((∀ q ∈ (w.routers routerId).peers, row.remoteId ≠ some q.id) ∧ w' = w) ∨
      ∃ id key r, row.remoteId = some id ∧ row.storedPresharedKey P = .ok key ∧
        (w.routers routerId).updatePeer id (row.rollbackInput key) = some ((), r) ∧
        w' = w.setRouter routerId r := by
  obtain ⟨remotePeers, _, _, hlist, hrest⟩ := Procedure.returns_bind.1 h
  obtain ⟨rfl, rfl, rfl⟩ := returns_getPeers hlist
  split at hrest
  · next hnone =>
    refine .inl ⟨fun q hq hid => ?_, (Procedure.returns_pure.1 hrest).2.2.symm⟩
    have hother := List.find?_eq_none.1 hnone q.toRemoteWireGuardPeer (List.mem_map_of_mem hq)
    exact hother (decide_eq_true hid.symm)
  · next current hcurrent =>
    obtain ⟨presharedKey, _, _, hdecrypt, hrest⟩ := Procedure.returns_bind.1 hrest
    obtain ⟨hkey, rfl, rfl⟩ := Service.returns_ofExcept hdecrypt
    obtain ⟨_, r, hupdate, -, rfl⟩ := Service.returns_request hrest
    have hid := List.find?_some hcurrent
    refine .inr ⟨current.id, presharedKey.getD "", r, (of_decide_eq_true hid).symm,
      ?_, hupdate, rfl⟩
    rw [PeerRow.storedPresharedKey, hkey]
    rfl

/-- The router after the rotation and its rollback: no peer has been touched
    but the one that has the new keys and the one that has been given those of
    the row. -/
structure RolledBack (P : Platform) (keys : WireGuardKeys) (row : PeerRow) (p : RouterPeer)
    (r r' : RouterContent) : Prop where
  found : row.remoteId = some p.id → ∃ key, row.storedPresharedKey P = .ok key ∧
    (row.rollbackInput key).apply (keys.remoteInput.apply p) ∈ r'.peers
  touched : ∀ q' ∈ r'.peers, q'.id = p.id → ∃ q ∈ r.peers, q.id = p.id ∧
    (q' = keys.remoteInput.apply q ∨ row.remoteId = some p.id ∧
      ∃ key, row.storedPresharedKey P = .ok key ∧
        q' = (row.rollbackInput key).apply (keys.remoteInput.apply q))

theorem RotationRolledBack.rolledBack (h : RotationRolledBack P faults peerId keys row w w')
    (hp : (w.routers row.routerId).peerOf row = some p) :
    RolledBack P keys row p (w.routers row.routerId) (w'.routers row.routerId) ∧
      w'.db.peers = w.db.peers ∧ w.db.peer row.id = some row := by
  obtain ⟨operationId, router, l, e, w₁, w₂, w₃, w₄, w₅, hrow, hstart, hrouter, huntil, hmutated,
    hrestore, hfail⟩ := h
  obtain ⟨hstored, -, rfl⟩ := returns_mutablePeer hrow
  obtain ⟨-, -, o, -, -, rfl⟩ := returns_startOperation hstart
  obtain ⟨-, hid, -, rfl⟩ := returns_routerClient hrouter
  obtain ⟨p', r, hp', hupdate, rfl⟩ :=
    (Procedure.wp_throws wp_rotateUntilStored_failing huntil).2 hmutated
  rw [hid] at hp' hupdate hrestore
  obtain rfl : p = p' := Option.some.inj (hp.symm.trans hp')
  obtain ⟨hfound, hrows⟩ : w'.routers = w₅.routers ∧ w'.db.peers = w₅.db.peers := by
    obtain ⟨_, _, _, hattempt, hdone⟩ := Procedure.returns_bind.1 hfail
    obtain ⟨-, -, rfl⟩ := Procedure.returns_pure.1 hdone
    rcases returns_failOperation hattempt with ⟨-, ⟨-, now, rfl⟩ | ⟨-, rfl⟩⟩ <;> exact ⟨rfl, rfl⟩
  rw [hfound, hrows, (Database.peer_spec hstored).2]
  have hmem : p ∈ (w.routers row.routerId).peers := List.mem_of_find?_eq_some hp
  -- The peers after the update, and after the rollback.
  have hnew : keys.remoteInput.apply p ∈ r.peers := RouterContent.mem_updatePeer hupdate hmem rfl
  have htouched : ∀ q' ∈ r.peers, q'.id = p.id → ∃ q ∈ (w.routers row.routerId).peers,
      q.id = p.id ∧ q' = keys.remoteInput.apply q := fun q' hq' hq'id => by
    rw [RouterContent.updatePeer_ok hupdate] at hq'
    obtain ⟨q, hq, rfl⟩ := List.mem_map.1 hq'
    by_cases hqid : q.id = p.id
    · exact ⟨q, hq, hqid, if_pos hqid⟩
    · rw [if_neg hqid] at hq'id
      exact absurd hq'id hqid
  rcases returns_restoreKeys hrestore with ⟨hnone, rfl⟩ | ⟨id, key, r', hremoteId,
    hkey, hrollback, rfl⟩
  · rw [World.routers_setRouter] at hnone ⊢
    have hunknown : row.remoteId ≠ some p.id := hnone (keys.remoteInput.apply p) hnew
    refine ⟨⟨fun hknown => absurd hknown hunknown, fun q' hq' hq'id => ?_⟩, rfl, hstored⟩
    obtain ⟨q, hq, hqid, rfl⟩ := htouched q' hq' hq'id
    exact ⟨q, hq, hqid, .inl rfl⟩
  · rw [World.routers_setRouter] at hrollback
    rw [World.routers_setRouter]
    refine ⟨⟨fun hknown => ?_, fun q' hq' hq'id => ?_⟩, rfl, hstored⟩
    · have hid : p.id = id := Option.some.inj (hknown.symm.trans hremoteId)
      exact ⟨key, hkey, RouterContent.mem_updatePeer hrollback hnew hid⟩
    · rw [RouterContent.updatePeer_ok hrollback] at hq'
      obtain ⟨q₁, hq₁, rfl⟩ := List.mem_map.1 hq'
      by_cases hqid : q₁.id = id
      · rw [if_pos hqid] at hq'id ⊢
        obtain ⟨q, hq, hqid', rfl⟩ := htouched q₁ hq₁ hq'id
        have hid : some id = some p.id := congrArg some (hqid.symm.trans hqid')
        exact ⟨q, hq, hqid', .inr ⟨hremoteId.trans hid, key, hkey, rfl⟩⟩
      · rw [if_neg hqid] at hq'id ⊢
        obtain ⟨q, hq, hqid', rfl⟩ := htouched q₁ hq₁ hq'id
        exact ⟨q, hq, hqid', .inl rfl⟩

/-- The keys that a rollback restores are those of the row: the new public key
    is not the old one. -/
theorem KeysRestored.known (hrestored : KeysRestored row p w')
    (hids : ((w.routers row.routerId).peers.map fun q => q.id).Nodup)
    (hp : (w.routers row.routerId).peerOf row = some p) (hnew : keys.publicKey ≠ p.publicKey)
    (h : RotationRolledBack P faults peerId keys row w w') : KeysKnown P row p := by
  obtain ⟨hrolledBack, -, -⟩ := h.rolledBack hp
  obtain ⟨q', hq', hid, hpublic, hpreshared⟩ := hrestored.router
  obtain ⟨q, hq, hqid, hcase⟩ := hrolledBack.touched q' hq' hid
  obtain rfl : q = p := List.inj_on_of_nodup_map hids hq (List.mem_of_find?_eq_some hp) hqid
  rcases hcase with rfl | ⟨hremoteId, key, hkey, rfl⟩
  · exact absurd hpublic hnew
  · exact ⟨hremoteId, hpublic, hkey.trans (congrArg Except.ok hpreshared)⟩

/-- The rollback of a rotation restores the keys of a peer just if its row knows
    the peer by its identifier, and both of its keys. -/
theorem keysRestored_iff (hids : ((w.routers row.routerId).peers.map fun q => q.id).Nodup)
    (hp : (w.routers row.routerId).peerOf row = some p) (hnew : keys.publicKey ≠ p.publicKey)
    (h : RotationRolledBack P faults peerId keys row w w') :
    KeysRestored row p w' ↔ KeysKnown P row p := by
  refine ⟨fun hrestored => hrestored.known hids hp hnew h, fun hknown => ?_⟩
  obtain ⟨hrolledBack, hrows, hstored⟩ := h.rolledBack hp
  obtain ⟨key, hkey, hmem⟩ := hrolledBack.found hknown.remoteId
  have hsame : key = p.presharedKey := Except.ok.inj (hkey.symm.trans hknown.presharedKey)
  refine ⟨⟨_, hmem, rfl, hknown.publicKey, hsame⟩, row, ?_, rfl, rfl, rfl⟩
  rw [Database.peer, hrows]
  exact hstored

end Rotation

/-! ### A preshared key that nobody has stored -/

/-- The peer of the installation, imported: no secret of it is known. -/
def importedPeer : PeerRow :=
  { plainPeer with origin := .imported, privateKeyEncrypted := none }

/-- Its router, on which it has a preshared key. -/
def presharedRemote : RouterPeer := { plainRemote with presharedKey := "preshared" }

def presharedContent : RouterContent := { plainContent plainRemote with peers := [presharedRemote] }

def presharedWorld : World where
  db := plainDatabase importedPeer (by decide)
  routers _ := presharedContent

def freshKeys : WireGuardKeys where
  privateKey := "new private key"
  publicKey := "new key"
  presharedKey := none

/-- A call that fails has no effect. -/
def Fault.withoutEffect : Fault → Bool
  | .after _ => false
  | _ => true

/-- Calls fail without effect. -/
def FailWithoutEffect (_ : Call) (fault : Fault) : Prop := fault.withoutEffect = true

theorem ends_of_program {ℓ α : Type} {P : Platform} {x : Service ℓ α} {l l' : ℓ} {w w' : World}
    {r : Except AppError α} (decisions : List Decision)
    (hfaults : decisions.all (fun d => d.fault.withoutEffect) = true)
    (h : Program.run (World.answer P) (StateT.run (ExceptT.run x) l) decisions w =
      some ((r, l'), w')) :
    Program.Ends (World.environment P FailWithoutEffect) (StateT.run (ExceptT.run x) l) w (r, l')
      w' :=
  Program.ends_of_run (fun d hd _ _ => ⟨d, List.all_eq_true.1 hfaults d hd, rfl⟩) h

/-- The router takes the new keys and does not answer when it is read again; the
    rollback succeeds. -/
theorem exists_rolledBack : ∃ w', RotationRolledBack Platform.plain FailWithoutEffect "p1" freshKeys
    importedPeer presharedWorld w' :=
  ⟨_, "o1", plainRouter, { remoteMutated := true }, routerError, _, _, _, _, _,
    ends_of_program [{}] rfl rfl, ends_of_program [{ id := "o1" }] rfl rfl,
    ends_of_program [{}] rfl rfl,
    ends_of_program [{}, {}, { fault := .before routerError }] rfl rfl, rfl,
    ends_of_program [{}, {}] rfl rfl, ends_of_program [{}] rfl rfl⟩

theorem presharedContent_ids : (presharedContent.peers.map fun q => q.id).Nodup := by decide

theorem presharedContent_peerOf : presharedContent.peerOf importedPeer = some presharedRemote :=
  List.find?_cons_of_pos (by decide)

/-- The keys of the peer are not restored: its preshared key is gone. -/
theorem keysRestored_iff_preshared : ∃ w',
    RotationRolledBack Platform.plain FailWithoutEffect "p1" freshKeys importedPeer presharedWorld
      w' ∧
    (KeysRestored importedPeer presharedRemote w' ↔
      KeysKnown Platform.plain importedPeer presharedRemote) := by
  obtain ⟨w', h⟩ := exists_rolledBack
  exact ⟨w', h, keysRestored_iff presharedContent_ids presharedContent_peerOf (by decide) h⟩

/-- Not every rollback that succeeds restores the keys of the peer. -/
theorem exists_not_keysRestored :
    ¬∀ (P : Platform) (peerId : String) (keys : WireGuardKeys) (row : PeerRow) (p : RouterPeer)
      (w w' : World), ((w.routers row.routerId).peers.map fun q => q.id).Nodup →
        (w.routers row.routerId).peerOf row = some p → keys.publicKey ≠ p.publicKey →
          RotationRolledBack P FailWithoutEffect peerId keys row w w' → KeysRestored row p w' := by
  intro h
  obtain ⟨w', hrolledBack⟩ := exists_rolledBack
  have hrestored : KeysRestored importedPeer presharedRemote w' :=
    h Platform.plain "p1" freshKeys importedPeer presharedRemote presharedWorld w'
      presharedContent_ids presharedContent_peerOf (by decide) hrolledBack
  have hknown : KeysKnown Platform.plain importedPeer presharedRemote :=
    hrestored.known (w := presharedWorld) presharedContent_ids presharedContent_peerOf (by decide)
      hrolledBack
  have hempty : importedPeer.storedPresharedKey Platform.plain = .ok "" := rfl
  exact absurd (Except.ok.inj (hempty.symm.trans hknown.presharedKey)) (by decide)

end WireguardPanel
