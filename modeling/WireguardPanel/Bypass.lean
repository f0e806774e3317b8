import WireguardPanel.PeerUpdates

/-!
# Temporary re-enables

A peer that has reached its limit can be enabled until a given time. A poll
respects that, and an update of the peer does not.

* `World.PeerEnabled`: a peer is enabled, in its row and on its router.
* `peerEnabled_of_poll`: a poll in the same period leaves it so.
* `Turn.peerEnabled`: and so does the turn of the peer in a poll of its router.
* `quotaDisables_iff`: when an update that keeps the quota disables it.
* `peerEnabled_of_step_iff`: when it is still enabled after a poll or an update.
-/

namespace WireguardPanel

open Foundation

/-- The peer is enabled, in its row and on the router of the row. -/
def World.PeerEnabled (w : World) (peerId : String) : Prop :=
  ∃ row, w.db.peer peerId = some row ∧ row.disabled = false ∧
    ∃ p, (w.routers row.routerId).peerOf row = some p ∧ p.disabled = false

/-- The quota period of a peer has begun. -/
def PeerRow.PeriodBegun (p : PeerRow) : Prop :=
  p.accounting.quotaPeriod.isSome = true ∧ p.accounting.quotaPeriodStartedAt.isSome = true

instance (p : PeerRow) : Decidable p.PeriodBegun := inferInstanceAs (Decidable (_ ∧ _))

/-- An update keeps the limit and the period of a peer. -/
structure UpdatePeerInput.KeepsQuota (input : UpdatePeerInput) (row : PeerRow) : Prop where
  limit : ∀ bytes ∈ input.quotaBytes, bytes = row.accounting.quotaLimitBytes
  period : ∀ period ∈ input.quotaPeriod, row.accounting.quotaPeriod = some period

section Bypass

variable {P : Platform} {faults : Call → Fault → Prop} {ℓ : Type} {l l' : ℓ} {w w' : World}
  {row : PeerRow} {peerId : String} {input : UpdatePeerInput} {u : Unit}

/-! ## Polls -/

/-- The part of a poll about a peer whose bypass is active, in the same period, does not disable
    it, whether it returns or throws. -/
theorem peerEnabled_of_pollLocalPeer {policy : QuotaPolicy}
    {onlineSeconds sampleSeconds observedAt enforcedAt : ℤ}
    {remotePeers : List RemoteWireGuardPeer} {r : Except AppError EnforcementAction}
    (h : (Procedure.attempt (pollLocalPeer row.routerId policy onlineSeconds sampleSeconds
      remotePeers row observedAt enforcedAt : Service ℓ EnforcementAction)).Returns
      (World.environment P faults) l w r l' w') (hrow : w.db.peer row.id = some row)
    (hlisted : (remotePeers.find? fun remote => row.Matches remote) =
      ((w.routers row.routerId).peerOf row).map RouterPeer.toRemoteWireGuardPeer)
    (henabled : w.PeerEnabled row.id) (hbypass : row.BypassActive enforcedAt)
    (hperiod : ¬row.PeriodOver observedAt) : w'.PeerEnabled row.id := by
  have hkept := henabled
  obtain ⟨_, hsame, hflag, p, hp, hremote⟩ := henabled
  obtain rfl := Option.some.inj (hrow.symm.trans hsame)
  rw [hp, Option.map_some] at hlisted
  unfold pollLocalPeer at h
  rw [hlisted] at h
  have hquiet : ∀ observation db, recordObservation P row.id p.toRemoteWireGuardPeer policy
      onlineSeconds sampleSeconds observedAt w.db = .ok (observation, db) →
      (enforceObservation row.routerId p.toRemoteWireGuardPeer observation enforcedAt :
        Service ℓ EnforcementAction) = pure .none ∧ ({ w with db } : World).PeerEnabled row.id := by
    intro observation db hrecord
    have hrolled : ¬observation.rolled = true :=
      fun hrolled => hperiod ((recordObservation_rolled hrecord hrow).1 hrolled)
    obtain ⟨c, rfl, -, -, hpeer, -, -, -, -, hrows⟩ := recordObservation_ok hrecord
    obtain rfl := Option.some.inj (hrow.symm.trans hpeer)
    have hquota : ¬c.observation.peer.QuotaDisabled := fun hquota =>
      absurd (hflag.symm.trans hquota.1) nofun
    have hactive : c.observation.peer.BypassActive enforcedAt := by
      have hkept : (c.record c.peer).accounting.quotaBypassUntil =
          c.peer.accounting.quotaBypassUntil := if_neg hrolled
      obtain ⟨bypassUntil, hmem, hlater⟩ := hbypass
      exact ⟨bypassUntil, hkept ▸ hmem, hlater⟩
    constructor
    · unfold enforceObservation
      rw [if_neg fun hboth => hrolled hboth.1, enforceLimit]
      by_cases hbelow : ((nonZero c.observation.limit).all fun limit =>
          decide (c.observation.used < limit)) = true
      · rw [if_pos hbelow, if_neg hquota]
        rfl
      · rw [if_neg hbelow, if_pos (.inl hactive)]
    · have hstored : (c.stored sampleSeconds).disabled = c.peer.disabled ∧
          (c.stored sampleSeconds).routerId = c.peer.routerId ∧
          ∀ remote, (c.stored sampleSeconds).Matches remote ↔ c.peer.Matches remote := by
        unfold Counted.stored
        split_ifs <;> exact ⟨rfl, rfl, fun _ => Iff.rfl⟩
      refine ⟨c.stored sampleSeconds, by rw [hrows, if_pos rfl], hstored.1.trans hflag, p, ?_,
        hremote⟩
      rw [hstored.2.1, RouterContent.peerOf]
      refine (List.find?_congr fun q _ => ?_).trans hp
      simp only [hstored.2.2]
  rcases Procedure.returns_attempt h with ⟨action, -, hdone⟩ | ⟨e, -, hfail⟩
  · obtain ⟨observation, _, _, hrecord, henforce⟩ := Procedure.returns_bind.1 hdone
    obtain ⟨_, _, db, htx, rfl, rfl⟩ := Service.returns_execute hrecord
    obtain ⟨hpure, hstays⟩ := hquiet observation db htx
    rw [hpure] at henforce
    exact (Procedure.returns_pure.1 henforce).2.2 ▸ hstays
  · rcases Procedure.throws_bind.1 hfail with hrecord | ⟨observation, _, _, hrecord, henforce⟩
    · -- The observation has not been recorded, and nothing else has happened.
      obtain ⟨hcall, -⟩ := Procedure.throws_call.1 hrecord
      rcases Service.environment_execute hcall with ⟨_, _, _, _, -, hok, -⟩ | ⟨rfl, -⟩
      · cases hok
      · exact hkept
    · obtain ⟨_, _, db, htx, rfl, rfl⟩ := Service.returns_execute hrecord
      rw [(hquiet observation db htx).1] at henforce
      cases (Program.ends_done.1 henforce).1

/-- A poll in the same period does not disable a peer whose bypass is active. -/
theorem peerEnabled_of_poll {observedAt enforcedAt : ℤ} {action : EnforcementAction}
    (h :
      (pollPeer P row.routerId row.id observedAt enforcedAt : Service ℓ EnforcementAction).Returns
      (World.environment P faults) l w action l' w') (hrow : w.db.peer row.id = some row)
    (henabled : w.PeerEnabled row.id) (hbypass : row.BypassActive enforcedAt)
    (hperiod : ¬row.PeriodOver observedAt) : w'.PeerEnabled row.id := by
  obtain ⟨policy, onlineSeconds, sampleSeconds, hlocal⟩ := returns_pollPeer_local h hrow
  exact peerEnabled_of_pollLocalPeer hlocal.attempt hrow (RouterContent.find_remotePeers ..)
    henabled hbypass hperiod

/-- In a poll of the router of `row`, from `w` to `w'`, it is the turn of `row` from `w₁` to
    `w₂`. -/
def Turn (P : Platform) (faults : Call → Fault → Prop) (row : PeerRow)
    (observedAt enforcedAt : PeerRow → ℤ) (w w₁ w₂ w' : World) : Prop :=
  ∃ policy onlineSeconds sampleSeconds front rest k₁ k₂ k₃,
    let counted (localPeer : PeerRow) := pollCounted row.routerId policy onlineSeconds sampleSeconds
      (w.routers row.routerId).remotePeers (observedAt localPeer) (enforcedAt localPeer) localPeer
    ((w.db.peers.rows.filter fun p => p.routerId = row.routerId).insertionSort
      fun p q => p.id ≤ q.id) = front ++ row :: rest ∧
    Procedure.Returns (World.environment P faults) (front.forM counted) {} w () k₁ w₁ ∧
    (counted row).Returns (World.environment P faults) k₁ w₁ () k₂ w₂ ∧
    Procedure.Returns (World.environment P faults) (rest.forM counted) k₂ w₂ () k₃ w'

/-- Each peer of the router has its turn in a poll. -/
theorem exists_turn {observedAt enforcedAt : PeerRow → ℤ} {totals : PollTotals}
    (h : (pollRouterTraffic P row.routerId observedAt enforcedAt : Service ℓ PollTotals).Returns
      (World.environment P faults) l w totals l' w') (hrow : row ∈ w.db.peers.rows) :
    ∃ w₁ w₂, Turn P faults row observedAt enforcedAt w w₁ w₂ w' := by
  obtain ⟨policy, onlineSeconds, sampleSeconds, hloop⟩ := returns_pollRouterTraffic h
  have hlisted : row ∈ (w.db.peers.rows.filter fun p => p.routerId = row.routerId).insertionSort
      fun p q => p.id ≤ q.id := (List.mem_insertionSort _).2 (List.mem_filter.2 ⟨hrow, by simp⟩)
  obtain ⟨front, rest, hsplit⟩ := List.append_of_mem hlisted
  rw [hsplit] at hloop
  obtain ⟨k₁, w₁, hfront, hrest⟩ := Procedure.returns_forM_append.1 hloop
  obtain ⟨_, k₂, w₂, hturn, hrest⟩ := Procedure.returns_bind.1 hrest
  exact ⟨w₁, w₂, policy, onlineSeconds, sampleSeconds, front, rest, k₁, k₂, totals, hsplit, hfront,
    hturn, hrest⟩

/-- The poll of a router does no more to a peer in its turn than a poll of this peer: if the peer
    is then as it was listed, and its bypass is active in the same period, it is not disabled. -/
theorem Turn.peerEnabled {observedAt enforcedAt : PeerRow → ℤ} {w₁ w₂ : World}
    (h : Turn P faults row observedAt enforcedAt w w₁ w₂ w') (hrow : w₁.db.peer row.id = some row)
    (hlisted : (w₁.routers row.routerId).peerOf row = (w.routers row.routerId).peerOf row)
    (henabled : w₁.PeerEnabled row.id) (hbypass : row.BypassActive (enforcedAt row))
    (hperiod : ¬row.PeriodOver (observedAt row)) : w₂.PeerEnabled row.id := by
  obtain ⟨policy, onlineSeconds, sampleSeconds, _, _, _, _, _, -, -, hturn, -⟩ := h
  obtain ⟨_, _, _, hattempt⟩ := attempt_of_pollCounted hturn
  refine peerEnabled_of_pollLocalPeer hattempt hrow ?_ henabled hbypass hperiod
  rw [hlisted, RouterContent.find_remotePeers]

/-! ## Updates -/

/-- What an update that keeps the quota finds: the limit, and what has been
    used of it if the period has begun. -/
theorem quotaConfiguration_kept {policy : QuotaPolicy} {now limit : ℤ} {quota : QuotaConfiguration}
    (h : quotaConfiguration P row input policy now = .ok quota) (hkeeps : input.KeepsQuota row)
    (hlimit : row.accounting.quotaLimitBytes = some limit) (hpos : 0 < limit) :
    quota.limit = some limit ∧ quota.used =
      if row.PeriodBegun then row.accounting.periodRxBytes + row.accounting.periodTxBytes
      else 0 := by
  have hnew : input.quotaBytes.getD (some limit) = some limit := by
    cases hbytes : input.quotaBytes with
    | none => rfl
    | some bytes => exact (hkeeps.limit bytes hbytes).trans hlimit
  have hnonZero : nonZero (some limit) = some limit := by
    rw [nonZero, Option.filter_some, if_pos (decide_eq_true hpos.ne')]
  unfold quotaConfiguration at h
  simp only [hnew, hnonZero, hlimit, Option.isSome_some, Option.isNone_some, Bool.true_and,
    Bool.false_and] at h
  have hreset : (false = true ∨ decide (row.accounting.quotaPeriod ≠
      some ((input.quotaPeriod.or row.accounting.quotaPeriod).getD QuotaPeriod.monthly)) = true ∨
      row.accounting.quotaPeriodStartedAt.isNone = true) ↔ ¬row.PeriodBegun := by
    unfold PeerRow.PeriodBegun
    cases hperiod : row.accounting.quotaPeriod with
    | none => simp
    | some period =>
      have hchosen : (input.quotaPeriod.or (some period)).getD .monthly = period := by
        cases hinput : input.quotaPeriod with
        | none => rfl
        | some other => exact Option.some.inj ((hkeeps.period other hinput).symm.trans hperiod)
      rw [hchosen]
      simp
  by_cases hbegun : row.PeriodBegun
  · rw [if_neg fun h => hreset.1 h hbegun] at h
    cases h
    exact ⟨rfl, (if_pos hbegun).symm⟩
  · rw [if_pos (hreset.2 hbegun)] at h
    cases hwindow : quotaPeriodWindow P now
        ((input.quotaPeriod.or row.accounting.quotaPeriod).getD QuotaPeriod.monthly) policy with
    | error e =>
      rw [hwindow] at h
      cases h
    | ok window =>
      rw [hwindow] at h
      cases h
      exact ⟨rfl, (if_neg hbegun).symm⟩

/-- An update that keeps the quota disables a peer that has reached its limit if
    its period has begun, unless it has expired. -/
theorem quotaDisables_iff {policy : QuotaPolicy} {now : ℤ} {quota : QuotaConfiguration}
    (h : quotaConfiguration P row input policy now = .ok quota) (hkeeps : input.KeepsQuota row)
    (hrow : row ∈ w.db.peers.rows) (hover : row.OverLimit) (henabled : row.disabled = false) :
    row.QuotaDisables quota ↔ row.expired = false ∧ row.PeriodBegun := by
  obtain ⟨limit, hmem, hused⟩ := hover
  have hlimit : row.accounting.quotaLimitBytes = some limit := (Option.filter_eq_some_iff.1 hmem).1
  have hpos : 0 < limit := by
    have hcheck := w.db.peers.check row hrow
    simp only [peerSchema, Bool.and_eq_true, hlimit, Option.all_some, decide_eq_true_eq] at hcheck
    exact hcheck.1.1.1.1.2
  obtain ⟨hquota, husage⟩ := quotaConfiguration_kept h hkeeps hlimit hpos
  unfold PeerRow.QuotaDisables
  rw [hquota, husage]
  by_cases hbegun : row.PeriodBegun
  · simp [hbegun, hused, henabled]
  · simp [hbegun, hpos]

/-- The peer that an update ends with is found for the row that it has stored. -/
theorem Updated.peerOf_content {now : ℤ} {o : UpdateOutcome} (h : Updated P row input now w w' o)
    (hids : ((w.routers row.routerId).peers.map fun p => p.id).Nodup)
    (hpeer : o.peer.disabled = false) : ∃ p, o.content.peerOf o.stored = some p ∧
      p.id = o.remoteId ∧ (row.routerId = input.routerId → p.disabled = false) := by
  by_cases hmoved : row.routerId = input.routerId
  · obtain ⟨hid, i, allowedAddress, hupdate⟩ := h.stayed hmoved
    have hmatches : o.stored.Matches o.peer.toRemoteWireGuardPeer := .inl (hid ▸ h.remoteId)
    have hfirst : ∀ q ∈ (w.routers row.routerId).peers,
        decide (o.stored.Matches q.toRemoteWireGuardPeer) = true →
          decide (row.Matches q.toRemoteWireGuardPeer) = true ∨ q.id = o.peer.id := fun q _ hq => by
      rcases of_decide_eq_true hq with hq | hq
      · exact .inr ((Option.some.inj (hq.symm.trans h.remoteId)).trans hid)
      · exact .inl (decide_eq_true (.inr (h.publicKey.symm.trans hq)))
    obtain ⟨p, hp, hpid⟩ := exists_find_of_find h.peer (decide_eq_true hmatches) hfirst
    -- The identifiers tell the peers of the router apart.
    obtain rfl : p = o.peer := List.inj_on_of_nodup_map hids (List.mem_of_find?_eq_some hp)
      (List.mem_of_find?_eq_some h.peer) hpid
    have hcontent : o.content.peerOf o.stored =
        some ((input.remoteInput i allowedAddress).apply o.peer) := by
      rw [RouterContent.peerOf_updatePeer hupdate rfl, RouterContent.peerOf, hp, Option.map_some,
        if_pos rfl]
    exact ⟨_, hcontent, hid.symm, fun _ => hpeer⟩
  · obtain ⟨created, updated, hid, hfound⟩ := h.moved hmoved
    rw [RouterContent.remotePeers, List.find?_map] at hfound
    obtain ⟨q, hq, rfl⟩ := Option.map_eq_some_iff.1 hfound
    have hmatches : o.stored.Matches q.toRemoteWireGuardPeer := .inl (hid ▸ h.remoteId)
    have hfirst : ∀ p ∈ o.content.peers,
        decide (o.stored.Matches p.toRemoteWireGuardPeer) = true →
          decide (p.id = created ∨ p.publicKey = row.publicKey) = true ∨ p.id = q.id :=
          fun p _ hp => by
      rcases of_decide_eq_true hp with hp | hp
      · exact .inr ((Option.some.inj (hp.symm.trans h.remoteId)).trans hid.symm)
      · exact .inl (decide_eq_true (.inr (hp.symm.trans h.publicKey)))
    obtain ⟨p, hp, hpid⟩ := exists_find_of_find hq (decide_eq_true hmatches) hfirst
    exact ⟨p, hp, hpid.trans hid, fun hsame => absurd hsame hmoved⟩

/-- An update that keeps the quota leaves a peer that has reached its limit
    enabled just if the peer has expired or its period has not begun. -/
theorem peerEnabled_of_update_iff {now : ℤ}
    (h : (updatePeer P peerId input now : Service ℓ Unit).Returns (World.environment P faults) l w u
      l' w') (hrow : w.db.peer peerId = some row)
    (hids : ((w.routers row.routerId).peers.map fun p => p.id).Nodup) (hover : row.OverLimit)
    (henabled : w.PeerEnabled peerId) (hkeeps : input.KeepsQuota row) :
    w'.PeerEnabled peerId ↔ row.expired = true ∨ ¬row.PeriodBegun := by
  obtain ⟨_, hsame, hflag, p, hp, hpeer⟩ := henabled
  obtain rfl := Option.some.inj (hrow.symm.trans hsame)
  obtain ⟨o, ho⟩ := returns_updatePeer_updated h hrow
  obtain ⟨policy, hquota⟩ := ho.quota
  obtain ⟨hmem, rfl⟩ := Database.peer_spec hrow
  obtain rfl := Option.some.inj (hp.symm.trans ho.peer)
  have hdisabled : o.disabled = true ↔ row.expired = false ∧ row.PeriodBegun :=
    (ho.disabled hflag).trans (quotaDisables_iff hquota hkeeps hmem hover hflag)
  have hstays : o.disabled = false ↔ row.expired = true ∨ ¬row.PeriodBegun := by
    rw [← Bool.not_eq_true, hdisabled, not_and_or, Bool.not_eq_false]
  rw [← hstays]
  constructor
  · rintro ⟨row', hrow', hflag', -⟩
    obtain rfl := Option.some.inj (ho.stored.symm.trans hrow')
    exact ho.flag.symm.trans hflag'
  · intro hafter
    obtain ⟨q, hq, hid, henabled⟩ := ho.peerOf_content hids hpeer
    refine ⟨o.stored, ho.stored, ho.flag.trans hafter, ?_⟩
    rw [ho.routerId]
    rcases ho.content with ⟨hpeers, -, hnot⟩ | ⟨r, hupdate, hpeers⟩
    · have hstayed : row.routerId = input.routerId := by
        by_contra hmoved
        exact hnot ⟨decide_eq_true hmoved, hflag⟩
      refine ⟨q, ?_, henabled hstayed⟩
      rwa [RouterContent.peerOf, hpeers]
    · have hpeer' := RouterContent.peerOf_updatePeer hupdate rfl o.stored
      rw [hq, Option.map_some, if_pos hid] at hpeer'
      refine ⟨_, (congrArg (List.find? _) hpeers).trans hpeer', hafter⟩

/-! ## Steps -/

/-- What may be done to a peer whose bypass is active. -/
inductive BypassStep
  | poll (observedAt enforcedAt : ℤ)
  | update (input : UpdatePeerInput) (now : ℤ)

/-- The service of a step, on the router of the peer. -/
def BypassStep.service (P : Platform) (row : PeerRow) : BypassStep → Service Unit Unit
  | .poll observedAt enforcedAt => do
    let _ ← pollPeer P row.routerId row.id observedAt enforcedAt
  | .update input now => updatePeer P row.id input now

/-- The bypass is active at the time of the step, which is in the same quota
    period or keeps the quota. -/
def BypassStep.Bypassed (row : PeerRow) : BypassStep → Prop
  | .poll observedAt enforcedAt => row.BypassActive enforcedAt ∧ ¬row.PeriodOver observedAt
  | .update input now => row.BypassActive now ∧ input.KeepsQuota row

/-- The step is a poll. -/
def BypassStep.IsPoll : BypassStep → Prop
  | .poll .. => True
  | .update .. => False

/-- A peer that has reached its limit, and is enabled until its bypass ends, is
    still enabled after a poll. It is still enabled after an update just if it
    has expired or its quota period has not begun. -/
theorem peerEnabled_of_step_iff (P : Platform) (faults : Call → Fault → Prop) {w w' : World}
    {row : PeerRow} {step : BypassStep}
    (h : (step.service P row).Returns (World.environment P faults) () w () () w')
    (hrow : w.db.peer row.id = some row)
    (hids : ((w.routers row.routerId).peers.map fun p => p.id).Nodup) (hover : row.OverLimit)
    (henabled : w.PeerEnabled row.id) (hbypassed : step.Bypassed row) :
    w'.PeerEnabled row.id ↔ step.IsPoll ∨ row.expired = true ∨ ¬row.PeriodBegun := by
  cases step with
  | poll observedAt enforcedAt =>
    obtain ⟨action, _, _, hpoll, hdone⟩ := Procedure.returns_bind.1 h
    obtain ⟨-, -, rfl⟩ := Procedure.returns_pure.1 hdone
    exact iff_of_true (peerEnabled_of_poll hpoll hrow henabled hbypassed.1 hbypassed.2)
      (.inl trivial)
  | update input now =>
    rw [peerEnabled_of_update_iff h hrow hids hover henabled hbypassed.2]
    exact (or_iff_right id).symm

end Bypass

/-! ### A new name -/

/-- The peer of the installation, enabled for an hour after its limit was
    reached. -/
def bypassedPeer : PeerRow :=
  { limitedPeer with accounting := { limitedPeer.accounting with
      periodRxBytes := 1500
      quotaReachedAt := some 0
      quotaBypassUntil := some 3600000 } }

def bypassedWorld : World := plainWorld bypassedPeer (by decide) heavyRemote

/-- An update that gives the peer another name. -/
def renameInput : UpdatePeerInput where
  routerId := "r1"
  interfaceId := "i1"
  poolId := "w1"
  clientIp := "10.0.0.2"
  name := "Renamed"
  allowedAddress := "10.0.0.2/32"
  clientAllowedIps := "0.0.0.0/0"
  dnsServer := "1.1.1.1"
  persistentKeepalive := 25
  mtu := 1420

/-- Whether the peer is disabled after the update, if that returns. -/
def renameOutcome : Option Bool :=
  ((updatePeer Platform.plain "p1" renameInput 60000).run Platform.plain (List.replicate 26 {})
    bypassedWorld).bind fun result =>
      if result.1.toBool then (result.2.db.peer "p1").map PeerRow.disabled else none

theorem exists_rename : ∃ w', (updatePeer Platform.plain "p1" renameInput 60000).Returns
    (World.environment Platform.plain fun _ _ => True) () bypassedWorld () () w' ∧
      (w'.db.peer "p1").map PeerRow.disabled = some true := by
  have hrun : renameOutcome = some true := by decide +kernel
  obtain ⟨⟨r, w'⟩, hrun, houtcome⟩ := Option.bind_eq_some_iff.1 hrun
  cases r with
  | error e => cases houtcome
  | ok u => exact ⟨w', Service.returns_of_run hrun, houtcome⟩

theorem bypassedWorld_peer : bypassedWorld.db.peer "p1" = some bypassedPeer :=
  plainWorld_peer bypassedPeer _ heavyRemote

theorem bypassedWorld_peerEnabled : bypassedWorld.PeerEnabled "p1" :=
  ⟨bypassedPeer, bypassedWorld_peer, rfl, _, plainContent_peerOf (.inl rfl), rfl⟩

theorem renameInput_keepsQuota : renameInput.KeepsQuota bypassedPeer where
  limit _ h := by cases h
  period _ h := by cases h

/-- The update disables the peer. -/
theorem peerEnabled_of_step_iff_rename :
    ∃ w', (updatePeer Platform.plain "p1" renameInput 60000).Returns
        (World.environment Platform.plain fun _ _ => True) () bypassedWorld () () w' ∧
      ¬w'.PeerEnabled "p1" := by
  obtain ⟨w', hreturns, -⟩ := exists_rename
  have hiff := @peerEnabled_of_step_iff Platform.plain _ bypassedWorld w' bypassedPeer
    (.update renameInput 60000) hreturns bypassedWorld_peer (by decide) (by decide)
    bypassedWorld_peerEnabled ⟨by decide, renameInput_keepsQuota⟩
  have hnot : ¬w'.PeerEnabled "p1" := by
    intro henabled
    rcases hiff.1 henabled with hpoll | hexpired | hbegun
    · exact hpoll
    · cases hexpired
    · exact hbegun (by decide)
  exact ⟨w', hreturns, hnot⟩

/-- Not every step leaves the peer enabled. -/
theorem exists_step_not_peerEnabled :
    ¬∀ (P : Platform) (w w' : World) (row : PeerRow) (step : BypassStep),
      (step.service P row).Returns (World.environment P fun _ _ => True) () w () () w' →
      w.db.peer row.id = some row → ((w.routers row.routerId).peers.map fun p => p.id).Nodup →
      row.OverLimit → w.PeerEnabled row.id → step.Bypassed row → w'.PeerEnabled row.id := by
  intro h
  obtain ⟨w', hreturns, hdisabled⟩ := exists_rename
  obtain ⟨row', hrow', henabled, -⟩ := h Platform.plain bypassedWorld w' bypassedPeer
    (.update renameInput 60000) hreturns bypassedWorld_peer (by decide) (by decide)
    bypassedWorld_peerEnabled ⟨by decide, renameInput_keepsQuota⟩
  rw [show w'.db.peer "p1" = some row' from hrow', Option.map_some, henabled] at hdisabled
  cases hdisabled

end WireguardPanel
