import WireguardPanel.QuietServices
import WireguardPanel.ServiceCalls
import WireguardPanel.TransactionRules

/-!
# Updates of a peer that return

What `updatePeer` has done when it returns, read off its parts.

* `peer_commitUpdate`: the rows after the transaction in which it commits.
* `returns_updateQuotaState`, `returns_updateRemotePeer`,
  `returns_moveRemotePeer`: its parts on the routers.
* `Updated`: what it leaves, as a whole (`returns_updatePeer_updated`).
-/

namespace WireguardPanel

open Foundation

/-- If the first element that passes a test passes a second one, which no
    element with another key passes unless it passes the first, then the first
    element that passes the second test has the same key. -/
theorem exists_find_of_find {α β : Type} {f g : α → Bool} {key : α → β} {xs : List α} {a : α}
    (h : xs.find? f = some a) (ha : g a = true)
    (hg : ∀ x ∈ xs, g x = true → f x = true ∨ key x = key a) :
    ∃ b, xs.find? g = some b ∧ key b = key a := by
  induction xs with
  | nil => cases h
  | cons x xs ih =>
    by_cases hx : g x = true
    · refine ⟨x, List.find?_cons_of_pos hx, ?_⟩
      rcases hg x List.mem_cons_self hx with hf | hkey
      · rw [List.find?_cons_of_pos hf] at h
        rw [Option.some.inj h]
      · exact hkey
    · have hf : ¬f x = true := fun hf => by
        rw [List.find?_cons_of_pos hf] at h
        exact hx (Option.some.inj h ▸ ha)
      rw [List.find?_cons_of_neg hf] at h
      rw [List.find?_cons_of_neg hx]
      exact ih h fun y hy => hg y (List.mem_cons_of_mem x hy)

section Updates

variable {P : Platform} {faults : Call → Fault → Prop} {ℓ : Type} {l l' : ℓ} {w w' : World}
  {row : PeerRow} {input : UpdatePeerInput} {sourceId targetId operationId : String} {u : Unit}

/-! ## The commit -/

/-- The commit changes the row that it is about, and the history and the
    addresses besides. -/
theorem peer_commitUpdate {c : PeerCommit} {now : ℤ} {db db' : Database}
    (h : commitUpdate P c now db = .ok (u, db')) :
    ∃ confirmed, ∀ other, db'.peer other = if other = c.row.id then
      (db.peer other).map (c.assign P confirmed) else db.peer other := by
  obtain ⟨pool, router, interface, -, -, -, -, hrest⟩ := lockPoolForPeer_bind_ok h
  obtain ⟨confirmed, db₁, hchoose, hrest⟩ := Tx.bind_eq_ok.1 hrest
  obtain rfl := within_choosePoolAddress (R := Eq) db _ db₁ hchoose
  obtain ⟨history, hrest⟩ : ∃ history, (Tx.movePeer c.row.id c.input.routerId c.input.interfaceId
      (some c.input.poolId) (c.assign P confirmed) >>= fun _ =>
      releasePeerPoolAddress c.row.id >>= fun _ =>
        claimPoolAddress P (pool.view P router interface) confirmed c.row.id c.input.name)
        { db with history } = .ok (u, db') := by
    cases harchive : c.quota.archive with
    | none =>
      simp only [harchive] at hrest
      exact ⟨_, hrest⟩
    | some reason =>
      cases hstart : c.row.accounting.quotaPeriodStartedAt with
      | none =>
        simp only [harchive, hstart] at hrest
        exact absurd hrest Tx.throw_bind_ne_ok
      | some startedAt =>
        simp only [harchive, hstart] at hrest
        obtain ⟨_, db₂, hhistory, hrest⟩ := Tx.bind_eq_ok.1 hrest
        obtain ⟨history, rfl⟩ := Tx.insertHistory_ok hhistory
        exact ⟨history, hrest⟩
  obtain ⟨_, db₂, hmove, hrest⟩ := Tx.bind_eq_ok.1 hrest
  obtain ⟨_, db₃, hrelease, hclaim⟩ := Tx.bind_eq_ok.1 hrest
  obtain rfl := Tx.deleteAddresses_ok hrelease
  obtain ⟨-, addresses, -, rfl, -⟩ := claimPoolAddress_ok hclaim
  have hrows := Tx.peer_updatePeer (f := c.assign P confirmed) (fun _ => rfl) (Tx.movePeer_ok hmove)
  exact ⟨confirmed, hrows⟩

/-! ## The routers -/

/-- The quota disables the peer of a row. -/
def PeerRow.QuotaDisables (row : PeerRow) (quota : QuotaConfiguration) : Prop :=
  (∃ limit ∈ quota.limit, limit ≤ quota.used) ∧ row.expired = false ∧ row.disabled = false

/-- The flag that is stored is the one that the router was given, if it was
    given one. A row that is enabled is disabled just if the quota disables it. -/
theorem returns_updateQuotaState {quota : QuotaConfiguration} {changingRouter : Bool}
    {updated : RemoteWireGuardPeer} {outcome : RemoteWireGuardPeer × Bool × Option DisabledReason}
    (h : (updateQuotaState targetId row quota changingRouter updated : Service ℓ _).Returns
      (World.environment P faults) l w outcome l' w') :
    outcome.1.id = updated.id ∧
      (row.disabled = false → (outcome.2.1 = true ↔ row.QuotaDisables quota)) ∧
      ((w' = w ∧ outcome.2.1 = row.disabled ∧ ¬(changingRouter = true ∧ row.disabled = false)) ∨
        ∃ r, (w.routers targetId).updatePeer updated.id { disabled := some outcome.2.1 } =
          some ((), r) ∧ w' = w.setRouter targetId r) := by
  unfold updateQuotaState at h
  split_ifs at h with hbelow hreached hmoved
  · obtain ⟨_, _, _, hrequest, hdone⟩ := Procedure.returns_bind.1 h
    obtain ⟨r, hupdate, rfl, rfl⟩ := returns_updateRemote hrequest
    obtain ⟨rfl, rfl, rfl⟩ := Procedure.returns_pure.1 hdone
    refine ⟨rfl, fun _ => ⟨nofun, ?_⟩, .inr ⟨r, hupdate, rfl⟩⟩
    rintro ⟨⟨limit, hlimit, hused⟩, -⟩
    exact absurd (hbelow.2 limit hlimit) (not_lt.2 hused)
  · obtain ⟨_, _, _, hrequest, hdone⟩ := Procedure.returns_bind.1 h
    obtain ⟨r, hupdate, rfl, rfl⟩ := returns_updateRemote hrequest
    obtain ⟨rfl, rfl, rfl⟩ := Procedure.returns_pure.1 hdone
    exact ⟨rfl, fun _ => ⟨fun _ => hreached, fun _ => rfl⟩, .inr ⟨r, hupdate, rfl⟩⟩
  · obtain ⟨_, _, _, hrequest, hdone⟩ := Procedure.returns_bind.1 h
    obtain ⟨r, hupdate, rfl, rfl⟩ := returns_updateRemote hrequest
    obtain ⟨rfl, rfl, rfl⟩ := Procedure.returns_pure.1 hdone
    refine ⟨rfl, fun henabled => ⟨fun hdisabled => ?_, fun hdisables => absurd hdisables hreached⟩,
      .inr ⟨r, ?_, rfl⟩⟩
    · exact absurd (hdisabled.symm.trans henabled) nofun
    · rw [hmoved.2]
      exact hupdate
  · obtain ⟨rfl, rfl, rfl⟩ := Procedure.returns_pure.1 h
    refine ⟨rfl, fun henabled => ⟨fun hdisabled => ?_, fun hdisables => absurd hdisables hreached⟩,
      .inl ⟨rfl, rfl, hmoved⟩⟩
    exact absurd (hdisabled.symm.trans henabled) nofun

/-- The attributes that an update sets on the router. -/
def UpdatePeerInput.remoteInput (input : UpdatePeerInput) (targetInterface : InterfaceRow)
    (allowedAddress : String) : UpdateRemotePeer where
  interfaceName := some targetInterface.name
  allowedAddress := some allowedAddress
  comment := some ((filled input.description).getD "")
  persistentKeepalive := some input.persistentKeepalive

theorem returns_updateRemotePeer {targetInterface : InterfaceRow} {allowedAddress : String}
    {remote updated : RemoteWireGuardPeer} {l l' : UpdateLocals}
    (h : (updateRemotePeer input sourceId targetInterface remote allowedAddress).Returns
      (World.environment P faults) l w updated l' w') :
    updated.id = remote.id ∧ ∃ r, (w.routers sourceId).updatePeer remote.id
      (input.remoteInput targetInterface allowedAddress) = some ((), r) ∧
        w' = w.setRouter sourceId r := by
  obtain ⟨_, _, _, hrequest, h₁⟩ := Procedure.returns_bind.1 h
  obtain ⟨r, hupdate, rfl, rfl⟩ := returns_updateRemote hrequest
  obtain ⟨_, _, _, hmodify, h₂⟩ := Procedure.returns_bind.1 h₁
  obtain ⟨-, rfl⟩ := Procedure.returns_modify.1 hmodify
  obtain ⟨remotePeers, _, _, hlist, h₃⟩ := Procedure.returns_bind.1 h₂
  obtain ⟨rfl, rfl, rfl⟩ := returns_getPeers hlist
  split at h₃
  · exact absurd h₃ Procedure.not_returns_throw
  · next found hfound =>
    obtain ⟨rfl, -, rfl⟩ := Procedure.returns_pure.1 h₃
    have hid := List.find?_some hfound
    exact ⟨of_decide_eq_true hid, r, hupdate, rfl⟩

/-- What an update leaves of a peer that it has on the router with the content
    `r`: the flag is not touched, or it is set. -/
def LeavesFlag (r r' : RouterContent) (id : String) (before after moved : Bool) : Prop :=
  (r'.peers = r.peers ∧ after = before ∧ ¬(moved = true ∧ before = false)) ∨
    ∃ r₁, r.updatePeer id { disabled := some after } = some ((), r₁) ∧ r'.peers = r₁.peers

/-- What a move has read from the target router: the first peer that has the
    identifier that was created or the key of the row. It leaves the rows and
    the addresses alone. -/
theorem returns_moveRemotePeer {targetInterface : InterfaceRow}
    {clientIp allowedAddress : String} {remote updated : RemoteWireGuardPeer} {l l' : UpdateLocals}
    (hdistinct : sourceId ≠ targetId)
    (h : (moveRemotePeer P row input sourceId targetId operationId targetInterface remote clientIp
      allowedAddress).Returns (World.environment P faults) l w updated l' w') :
    (∃ created, (w'.routers targetId).remotePeers.find?
      (fun peer => peer.id = created ∨ peer.publicKey = row.publicKey) = some updated) ∧
      QuietDatabase w.db w'.db := by
  unfold moveRemotePeer at h
  dsimp only at h
  split at h
  · exact absurd h Procedure.not_returns_throw_bind
  obtain ⟨presharedKey, _, _, hdecrypt, h⟩ := Procedure.returns_bind.1 h
  obtain ⟨-, rfl, rfl⟩ := Service.returns_ofExcept hdecrypt
  obtain ⟨created, _, w₁, hcreate, h₁⟩ := Procedure.returns_bind.1 h
  obtain ⟨_, r, -, rfl, rfl⟩ := Service.returns_request hcreate
  obtain ⟨_, _, _, hmodify, h₂⟩ := Procedure.returns_bind.1 h₁
  obtain ⟨-, rfl⟩ := Procedure.returns_modify.1 hmodify
  obtain ⟨targetPeers, _, _, hlist, h₃⟩ := Procedure.returns_bind.1 h₂
  obtain ⟨rfl, rfl, rfl⟩ := returns_getPeers hlist
  split at h₃
  · exact absurd h₃ Procedure.not_returns_throw
  · next found hfound =>
    obtain ⟨_, _, _, hmodify, h₄⟩ := Procedure.returns_bind.1 h₃
    obtain ⟨-, rfl⟩ := Procedure.returns_modify.1 hmodify
    obtain ⟨_, _, w₂, hdelete, h₅⟩ := Procedure.returns_bind.1 h₄
    obtain ⟨_, r', -, rfl, rfl⟩ := Service.returns_request hdelete
    obtain ⟨_, _, _, hmodify, h₆⟩ := Procedure.returns_bind.1 h₅
    obtain ⟨-, rfl⟩ := Procedure.returns_modify.1 hmodify
    obtain ⟨_, _, w₃, hstep, h₇⟩ := Procedure.returns_bind.1 h₆
    obtain ⟨now, id, db, htx, -, rfl⟩ := Service.returns_execute hstep
    obtain ⟨rfl, -, rfl⟩ := Procedure.returns_pure.1 h₇
    refine ⟨⟨created, ?_⟩, quiet_operationStep P now id _ _ _ htx⟩
    -- The deletion is a request to the other router.
    have hother : ((w.setRouter targetId r).setRouter sourceId r').routers targetId =
        (w.setRouter targetId r).routers targetId := if_neg hdistinct.symm
    rw [← hother] at hfound
    exact hfound

/-! ## The update -/

/-- What an update has read and chosen: the peer that it has begun with, the
    quota, the identifier and the flag of the peer that it has ended with, and
    the content of its router before the flag was looked at. -/
structure UpdateOutcome where
  peer : RouterPeer
  quota : QuotaConfiguration
  remoteId : String
  disabled : Bool
  content : RouterContent
  stored : PeerRow

/-- An update of `row` that leads from `w` to `w'`. -/
structure Updated (P : Platform) (row : PeerRow) (input : UpdatePeerInput) (now : ℤ) (w w' : World)
    (o : UpdateOutcome) : Prop where
  peer : (w.routers row.routerId).peerOf row = some o.peer
  quota : ∃ policy, quotaConfiguration P row input policy now = .ok o.quota
  disabled : row.disabled = false → (o.disabled = true ↔ row.QuotaDisables o.quota)
  stored : w'.db.peer row.id = some o.stored
  flag : o.stored.disabled = o.disabled
  remoteId : o.stored.remoteId = some o.remoteId
  publicKey : o.stored.publicKey = row.publicKey
  routerId : o.stored.routerId = input.routerId
  stayed : row.routerId = input.routerId → o.remoteId = o.peer.id ∧
    ∃ i allowedAddress, (w.routers row.routerId).updatePeer o.peer.id
      (input.remoteInput i allowedAddress) = some ((), o.content)
  moved : row.routerId ≠ input.routerId → ∃ created updated, updated.id = o.remoteId ∧
    o.content.remotePeers.find? (fun peer => peer.id = created ∨ peer.publicKey = row.publicKey) =
      some updated
  content : LeavesFlag o.content (w'.routers input.routerId) o.remoteId row.disabled o.disabled
    (decide (row.routerId ≠ input.routerId))

/-- The part of `updatePeer` that looks at the quota and commits. -/
def commitCurrentPeer (P : Platform) (row : PeerRow) (input : UpdatePeerInput)
    (sourceId targetId operationId clientIp allowedAddress : String) (changingRouter : Bool)
    (now : ℤ) (updated : RemoteWireGuardPeer) : Service UpdateLocals Unit := do
  let policy ← getQuotaPolicy
  let quota ← Service.ofExcept (quotaConfiguration P row input policy now)
  let (updated, disabled, disabledReason) ←
    updateQuotaState targetId row quota changingRouter updated
  let finalRemotePeers ← Service.request targetId .getPeers
  Service.execute (.commitUpdate {
    row, input, clientIp, allowedAddress, quota, updated, disabled, disabledReason
    usageWhenDisabled := if disabledReason = some .quota then some quota.used
      else quota.usageWhenDisabled
    changingRouter
    finalRemotePeers := finalRemotePeers.filter fun peer => peer.publicKey ≠ row.publicKey } now)
  modify fun l => { l with databaseCommitted := true }
  finishUpdate P row input sourceId targetId operationId changingRouter clientIp

/-- The commit stores the flag of the peer, and what follows leaves it alone. -/
theorem returns_commitCurrentPeer {clientIp allowedAddress : String} {changingRouter : Bool}
    {now : ℤ} {updated : RemoteWireGuardPeer} {l l' : UpdateLocals} {stored : PeerRow}
    (h : (commitCurrentPeer P row input sourceId targetId operationId clientIp allowedAddress
      changingRouter now updated).Returns (World.environment P faults) l w u l' w')
    (hstored : w.db.peer row.id = some stored) (hkey : stored.publicKey = row.publicKey) :
    ∃ quota disabled row', (∃ policy, quotaConfiguration P row input policy now = .ok quota) ∧
      (row.disabled = false → (disabled = true ↔ row.QuotaDisables quota)) ∧
      w'.db.peer row.id = some row' ∧ row'.disabled = disabled ∧
      row'.remoteId = some updated.id ∧ row'.publicKey = row.publicKey ∧
      row'.routerId = input.routerId ∧
      LeavesFlag (w.routers targetId) (w'.routers targetId) updated.id row.disabled disabled
        changingRouter := by
  obtain ⟨policy, _, _, hpolicy, h₁⟩ := Procedure.returns_bind.1 h
  obtain ⟨rfl, rfl⟩ := returns_settingOr hpolicy
  obtain ⟨quota, _, _, hcomputed, h₂⟩ := Procedure.returns_bind.1 h₁
  obtain ⟨hquota, rfl, rfl⟩ := Service.returns_ofExcept hcomputed
  obtain ⟨outcome, l₂, w₂, hstate, h₃⟩ := Procedure.returns_bind.1 h₂
  obtain ⟨hid, hdisables, hrouter⟩ := returns_updateQuotaState hstate
  obtain ⟨finalRemotePeers, _, _, hlist, h₄⟩ := Procedure.returns_bind.1 h₃
  obtain ⟨rfl, rfl, rfl⟩ := returns_getPeers hlist
  obtain ⟨_, _, w₃, hcommit, h₅⟩ := Procedure.returns_bind.1 h₄
  obtain ⟨_, _, db, htx, rfl, rfl⟩ := Service.returns_execute hcommit
  obtain ⟨confirmed, hrows⟩ := peer_commitUpdate htx
  obtain ⟨_, _, _, hmodify, hfinish⟩ := Procedure.returns_bind.1 h₅
  obtain ⟨-, rfl⟩ := Procedure.returns_modify.1 hmodify
  have hquiet : Quiet _ w' := quiet_finishUpdate.returns hfinish
  have hdb : w₂.db = w.db := by
    rcases hrouter with ⟨rfl, -⟩ | ⟨r, -, rfl⟩ <;> rfl
  have hrow := hrows row.id
  rw [if_pos rfl, hdb, hstored, Option.map_some] at hrow
  -- The row as it was committed, up to what follows.
  have hafter := hquiet.db.peer row.id
  rw [show World.db { w₂ with db } = db from rfl, hrow, Option.map_some] at hafter
  obtain ⟨row', hrow', hcore⟩ := Option.map_eq_some_iff.1 hafter
  refine ⟨quota, outcome.2.1, row', ⟨policy, hquota⟩, hdisables, hrow',
    (congrArg PeerRow.disabled hcore :), (congrArg PeerRow.remoteId hcore).trans
      (congrArg some hid),
    (congrArg PeerRow.publicKey hcore).trans hkey, (congrArg PeerRow.routerId hcore :), ?_⟩
  have hpeers : (w'.routers targetId).peers = (w₂.routers targetId).peers := hquiet.peers targetId
  rcases hrouter with ⟨rfl, hflag, hmoved⟩ | ⟨r, hupdate, rfl⟩
  · exact .inl ⟨hpeers, hflag, hmoved⟩
  · exact .inr ⟨r, hupdate, by rw [hpeers, World.routers_setRouter]⟩

/-- What an update that returns has done. -/
theorem returns_updateCurrentPeer {targetInterface : InterfaceRow} {now : ℤ} {l l' : UpdateLocals}
    (h : (updateCurrentPeer P row input row.routerId input.routerId operationId targetInterface
      now).Returns (World.environment P faults) l w u l' w') {stored : PeerRow}
    (hstored : w.db.peer row.id = some stored) (hkey : stored.publicKey = row.publicKey) :
    ∃ o, Updated P row input now w w' o := by
  obtain ⟨remote, _, _, hremote, h₁⟩ := Procedure.returns_bind.1 h
  obtain ⟨p, hp, rfl, rfl, rfl⟩ := returns_assertCurrentRemote hremote
  obtain ⟨_, _, _, hmodify, h₂⟩ := Procedure.returns_bind.1 h₁
  obtain ⟨-, rfl⟩ := Procedure.returns_modify.1 hmodify
  obtain ⟨targetPeers, _, _, hlist, h₃⟩ := Procedure.returns_bind.1 h₂
  obtain ⟨rfl, rfl, rfl⟩ := returns_getPeers hlist
  obtain ⟨clientIp, _, _, hconfirm, h₄⟩ := Procedure.returns_bind.1 h₃
  obtain ⟨_, _, db, htx, rfl, rfl⟩ := Service.returns_execute hconfirm
  obtain rfl := within_confirmAddress (R := Eq) _ _ _ htx
  dsimp only at h₄
  split at h₄
  · next hmoved =>
    obtain ⟨updated, l₁, w₁, hmove, hrest⟩ := Procedure.returns_bind.1 h₄
    obtain ⟨⟨created, hfound⟩, hquiet⟩ := returns_moveRemotePeer (of_decide_eq_true hmoved) hmove
    have hrow := hquiet.peer row.id
    rw [hstored, Option.map_some] at hrow
    obtain ⟨stored₁, hstored₁, hcore⟩ := Option.map_eq_some_iff.1 hrow
    have hkey₁ : stored₁.core.publicKey = stored.core.publicKey := by rw [hcore]
    obtain ⟨quota, disabled, row', hquota, hdisables, hrow', hflag, hid, hpublicKey, hrouter,
      hcontent⟩ := returns_commitCurrentPeer hrest hstored₁ (hkey₁.trans hkey)
    exact ⟨⟨p, quota, updated.id, disabled, _, row'⟩, hp, hquota, hdisables, hrow', hflag, hid,
      hpublicKey, hrouter, fun hsame => absurd hsame (of_decide_eq_true hmoved),
      fun _ => ⟨created, updated, rfl, hfound⟩, hcontent⟩
  · next hmoved =>
    have hsame : row.routerId = input.routerId := by simpa using hmoved
    obtain ⟨updated, l₁, w₁, hupdate, hrest⟩ := Procedure.returns_bind.1 h₄
    obtain ⟨hupdated, r, hr, rfl⟩ := returns_updateRemotePeer hupdate
    obtain ⟨quota, disabled, row', hquota, hdisables, hrow', hflag, hid, hpublicKey, hrouter,
      hcontent⟩ := returns_commitCurrentPeer hrest hstored hkey
    have hset : (w.setRouter row.routerId r).routers input.routerId = r := by
      rw [← hsame, World.routers_setRouter]
    rw [hset] at hcontent
    exact ⟨⟨p, quota, updated.id, disabled, r, row'⟩, hp, hquota, hdisables, hrow', hflag, hid,
      hpublicKey, hrouter, fun _ => ⟨hupdated, _, _, hr⟩, fun hne => absurd hsame hne, hcontent⟩

theorem returns_updatePeer_updated {peerId : String} {now : ℤ}
    (h : (updatePeer P peerId input now : Service ℓ Unit).Returns (World.environment P faults) l w u
      l' w') (hrow : w.db.peer peerId = some row) : ∃ o, Updated P row input now w w' o := by
  obtain ⟨found, _, _, hfind, h₁⟩ := Procedure.returns_bind.1 h
  obtain ⟨hfound, rfl, rfl⟩ := returns_mutablePeer hfind
  obtain rfl := Option.some.inj (hrow.symm.trans hfound)
  obtain ⟨operationId, _, _, hstart, h₂⟩ := Procedure.returns_bind.1 h₁
  obtain ⟨_, _, db, htx, rfl, rfl⟩ := Service.returns_execute hstart
  have hquiet : QuietDatabase w.db db := quiet_startOperation _ _ _ _ _ _ htx
  obtain ⟨_, _, _, hquery, h₃⟩ := Procedure.returns_bind.1 h₂
  obtain ⟨rfl, rfl, rfl⟩ := Service.returns_query hquery
  obtain ⟨targetInterface, _, _, hinterface, h₄⟩ := Procedure.returns_bind.1 h₃
  obtain ⟨-, rfl, rfl⟩ := Service.returns_orThrow hinterface
  obtain ⟨sourceRouter, _, _, hsource, h₅⟩ := Procedure.returns_bind.1 h₄
  obtain ⟨-, hsourceId, rfl, rfl⟩ := returns_routerClient hsource
  have hrest : ∀ {targetRouter : RouterRow}, targetRouter.id = input.routerId →
      (Procedure.withLocals {}
        (tryCatch (updateCurrentPeer P row input sourceRouter.id targetRouter.id operationId
          targetInterface now)
          (abandonUpdate row input sourceRouter.id targetRouter.id operationId)) :
        Service ℓ Unit).Returns (World.environment P faults) l { w with db } u l' w' →
      ∃ o, Updated P row input now w w' o := fun htargetId h => by
    obtain ⟨_, hbody, rfl⟩ := Procedure.returns_withLocals h
    rw [hsourceId, htargetId] at hbody
    rcases Procedure.returns_tryCatch.1 hbody with hupdate | ⟨e, _, _, -, habandon⟩
    · have hrow' := hquiet.peer row.id
      rw [(Database.peer_spec hrow).2, hrow, Option.map_some] at hrow'
      obtain ⟨stored, hstored, hcore⟩ := Option.map_eq_some_iff.1 hrow'
      have hkey : stored.core.publicKey = row.core.publicKey := by rw [hcore]
      rw [← (Database.peer_spec hrow).2] at hstored
      obtain ⟨o, ho⟩ := returns_updateCurrentPeer hupdate hstored hkey
      exact ⟨o, ho.peer, ho.quota, ho.disabled, ho.stored, ho.flag, ho.remoteId, ho.publicKey,
        ho.routerId, ho.stayed, ho.moved, ho.content⟩
    · -- What is abandoned does not return.
      exact (Procedure.Makes.returns (K := fun _ => True) (makes_abandonUpdate
        (S := fun _ => True) (Q := fun _ => False) (fun _ _ => trivial) (fun _ _ _ => trivial)
        fun _ _ => trivial) (fun _ _ _ _ _ _ _ => trivial) trivial habandon).1.elim
  dsimp only at h₅
  split at h₅
  · obtain ⟨targetRouter, _, _, htarget, h₆⟩ := Procedure.returns_bind.1 h₅
    obtain ⟨-, htargetId, rfl, rfl⟩ := returns_routerClient htarget
    exact hrest htargetId h₆
  · next hsame => exact hrest (hsourceId.trans (not_not.1 hsame)) h₅

end Updates

end WireguardPanel
