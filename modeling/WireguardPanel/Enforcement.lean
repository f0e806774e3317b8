import WireguardPanel.Calls
import WireguardPanel.Accounting
import Mathlib.Data.List.Find

/-!
# The enforcement of quotas

A traffic poll records what it has observed of a peer, and then disables the
peer on its router if it has used up its quota, or enables it again.

* `enforceObservation`: the enforcement.
* `pollRouterTraffic`, `pollPeer`: the poll, and the poll of one peer.
* `disabled_after_poll_iff`: when a poll that finds the quota used up leaves the
  peer disabled on its router.
-/

namespace WireguardPanel

open Foundation

/-! ## The services -/

section Services

variable {ℓ : Type}

/-- `getRouter`. -/
def getRouter (id : String) : Service ℓ RouterRow := do
  let row ← Service.query fun db => db.router id
  Service.orThrow row "Router not found."

/-- What `clientForRouter` decrypts of a router. -/
def RouterRow.credentials (P : Platform) (router : RouterRow) :
    Except AppError (String × String) := do
  let username ← P.decryptSecret router.usernameEncrypted
  let password ← P.decryptSecret router.passwordEncrypted
  return (username, password)

/-- `clientForRouter`. -/
def clientForRouter (P : Platform) (router : RouterRow) : Service ℓ Unit := do
  let _ ← Service.ofExcept (router.credentials P)

/-- `clientForRouter(await getRouter(id))`: the router that the client is for. -/
def routerClient (P : Platform) (id : String) : Service ℓ RouterRow := do
  let router ← getRouter id
  clientForRouter P router
  return router

/-- A setting, or its default if it cannot be read. -/
def settingOr {α : Type} (read : Settings → α) : Service ℓ α :=
  tryCatch (Service.query fun db => read db.settings) fun _ => pure (read Database.empty.settings)

/-- `getQuotaPolicy`. -/
def getQuotaPolicy : Service ℓ QuotaPolicy := settingOr Settings.quotaPolicy

/-- `getStatusThresholds`, of which the seconds that a peer counts as online
    for are used. -/
def getStatusThresholds : Service ℓ ℤ := settingOr Settings.onlineSeconds

/-- `getPerformancePolicy`, of which the seconds between two samples are used. -/
def getPerformancePolicy : Service ℓ ℤ := settingOr Settings.rawTrafficSampleSeconds

/-- What the enforcement has done. -/
inductive EnforcementAction
  | none
  | disabled
  | reenabled
  deriving DecidableEq

/-- `setRemoteQuotaState`. -/
def setRemoteQuotaState (routerId : String) (remote : RemoteWireGuardPeer) (peer : PeerRow)
    (disabled : Bool) (used : Option ℤ) : Service ℓ Unit := do
  Service.request routerId (.updatePeer remote.id { disabled := some disabled })
  Service.execute (.updatePeer peer.id (.quotaState disabled used { remote with disabled }))

/-- The quota of a peer is bypassed at the time `now`. -/
def PeerRow.BypassActive (p : PeerRow) (now : ℤ) : Prop :=
  ∃ bypassUntil ∈ p.accounting.quotaBypassUntil, now < bypassUntil

instance (p : PeerRow) (now : ℤ) : Decidable (p.BypassActive now) :=
  inferInstanceAs (Decidable (∃ bypassUntil ∈ p.accounting.quotaBypassUntil, _))

/-- The peer is disabled for its quota. -/
def PeerRow.QuotaDisabled (p : PeerRow) : Prop :=
  p.disabled = true ∧ p.disabledReason = some .quota

instance (p : PeerRow) : Decidable p.QuotaDisabled := inferInstanceAs (Decidable (_ ∧ _))

/-- The part of `enforceObservation` that compares the usage with the limit. -/
def enforceLimit (routerId : String) (remote : RemoteWireGuardPeer) (peer : PeerRow) (used : ℤ)
    (limit : Option ℤ) (didReenable : Bool) (now : ℤ) : Service ℓ EnforcementAction :=
  if (nonZero limit).all fun limit => decide (used < limit) then
    if peer.QuotaDisabled then do
      setRemoteQuotaState routerId remote peer false none
      Service.execute (.systemAudit "peer_quota_auto_reenabled" peer.id)
      return .reenabled
    else return if didReenable then .reenabled else .none
  else if peer.BypassActive now ∨ peer.expired = true ∨
      (peer.disabled = true ∧ peer.disabledReason ≠ some .quota) then return .none
  else if peer.QuotaDisabled then return .none
  else if remote.disabled = true ∧ peer.disabled = false then return .none
  else do
    setRemoteQuotaState routerId remote peer true (some used)
    Service.execute (.systemAudit "peer_quota_reached" peer.id)
    return .disabled

/-- `enforceObservation`. A peer that was disabled for the quota of a period
    that is over is enabled before the limit is looked at. -/
def enforceObservation (routerId : String) (remote : RemoteWireGuardPeer)
    (observation : Observation) (now : ℤ) : Service ℓ EnforcementAction :=
  let peer := observation.peer
  if observation.rolled = true ∧ peer.QuotaDisabled then do
    setRemoteQuotaState routerId remote peer false none
    Service.execute (.systemAudit "peer_quota_auto_reenabled" peer.id)
    enforceLimit routerId { remote with disabled := false }
      { peer with disabled := false, disabledReason := none } observation.used observation.limit
      true now
  else
    enforceLimit routerId remote peer observation.used observation.limit false now

/-- The part of `pollRouterTraffic` that is about one peer: it observes the peer
    at the time `observedAt` and looks at its quota at the time `enforcedAt`. -/
def pollLocalPeer (routerId : String) (policy : QuotaPolicy) (onlineSeconds sampleSeconds : ℤ)
    (remotePeers : List RemoteWireGuardPeer) (localPeer : PeerRow) (observedAt enforcedAt : ℤ) :
    Service ℓ EnforcementAction :=
  match remotePeers.find? fun remote => localPeer.Matches remote with
  | none => return .none
  | some remote => do
    let observation ← Service.execute (.recordObservation localPeer.id remote policy onlineSeconds
      sampleSeconds observedAt)
    enforceObservation routerId remote observation enforcedAt

/-- `pollRouterTraffic`, as far as the peer `peerId` is concerned. -/
def pollPeer (P : Platform) (routerId peerId : String) (observedAt enforcedAt : ℤ) :
    Service ℓ EnforcementAction := do
  let router ← routerClient P routerId
  let policy ← getQuotaPolicy
  let onlineSeconds ← getStatusThresholds
  let sampleSeconds ← getPerformancePolicy
  let remotePeers ← Service.request router.id .getPeers
  let localPeers ← Service.query fun db =>
    db.peers.rows.filter fun p => p.routerId = routerId
  match localPeers.find? fun p => p.id = peerId with
  | none => return .none
  | some localPeer =>
    pollLocalPeer router.id policy onlineSeconds sampleSeconds remotePeers localPeer observedAt
      enforcedAt

/-- What `pollRouterTraffic` counts. -/
structure PollTotals where
  observed : ℕ := 0
  disabled : ℕ := 0
  reenabled : ℕ := 0
  failed : ℕ := 0

/-- The totals after the quota of one more peer has been looked at. -/
def PollTotals.count (totals : PollTotals) : EnforcementAction → PollTotals
  | .none => totals
  | .disabled => { totals with disabled := totals.disabled + 1 }
  | .reenabled => { totals with reenabled := totals.reenabled + 1 }

/-- One peer of a poll, whose failure does not end the poll. -/
def pollCounted (routerId : String) (policy : QuotaPolicy) (onlineSeconds sampleSeconds : ℤ)
    (remotePeers : List RemoteWireGuardPeer) (observedAt enforcedAt : ℤ) (localPeer : PeerRow) :
    Service PollTotals Unit :=
  match remotePeers.find? fun remote => localPeer.Matches remote with
  | none => pure ()
  | some remote =>
    tryCatch (do
        let observation ← Service.execute (.recordObservation localPeer.id remote policy
          onlineSeconds sampleSeconds observedAt)
        modify fun totals => { totals with observed := totals.observed + 1 }
        let action ← enforceObservation routerId remote observation enforcedAt
        modify fun totals => totals.count action)
      fun _ => modify fun totals => { totals with failed := totals.failed + 1 }

/-- `pollRouterTraffic`, which comes to each peer at a time of its own. -/
def pollRouterTraffic (P : Platform) (routerId : String) (observedAt enforcedAt : PeerRow → ℤ) :
    Service ℓ PollTotals :=
  Procedure.withLocals {} <|
    tryCatch (do
        let router ← routerClient P routerId
        let policy ← getQuotaPolicy
        let onlineSeconds ← getStatusThresholds
        let sampleSeconds ← getPerformancePolicy
        let remotePeers ← Service.request router.id .getPeers
        let localPeers ← Service.query fun db =>
          (db.peers.rows.filter fun p => p.routerId = routerId).insertionSort fun p q => p.id ≤ q.id
        localPeers.forM fun localPeer => pollCounted router.id policy onlineSeconds sampleSeconds
          remotePeers (observedAt localPeer) (enforcedAt localPeer) localPeer
        Service.execute (.routerStatus routerId)
        get)
      fun e => do
        let _ ← Procedure.attempt (Service.execute (.routerStatus routerId))
        throw e

end Services

/-! ## The peer of a row -/

/-- The peer of a router that is found for a row. -/
def RouterContent.peerOf (r : RouterContent) (row : PeerRow) : Option RouterPeer :=
  r.peers.find? fun p => row.Matches p.toRemoteWireGuardPeer

theorem RouterContent.find_remotePeers (r : RouterContent) (row : PeerRow) :
    (r.remotePeers.find? fun remote => row.Matches remote) =
      (r.peerOf row).map RouterPeer.toRemoteWireGuardPeer := by
  rw [remotePeers, List.find?_map]
  rfl

theorem RouterContent.updatePeer_ok {r r' : RouterContent} {id : String} {input : UpdateRemotePeer}
    {u : Unit} (h : r.updatePeer id input = some (u, r')) :
    r' = { r with peers := r.peers.map fun p => if p.id = id then input.apply p else p } := by
  unfold updatePeer at h
  split_ifs at h
  cases h
  rfl

/-- The peer that a change is about, after it. -/
theorem RouterContent.mem_updatePeer {r r' : RouterContent} {p : RouterPeer} {id : String}
    {input : UpdateRemotePeer} {u : Unit} (h : r.updatePeer id input = some (u, r'))
    (hp : p ∈ r.peers) (hid : p.id = id) : input.apply p ∈ r'.peers := by
  rw [updatePeer_ok h]
  exact List.mem_map.2 ⟨p, hp, if_pos hid⟩

/-- A change that leaves the key of a peer alone changes the peer of a row. -/
theorem RouterContent.peerOf_updatePeer {r r' : RouterContent} {id : String}
    {input : UpdateRemotePeer} {u : Unit} (h : r.updatePeer id input = some (u, r'))
    (hkey : input.publicKey = none) (row : PeerRow) :
    r'.peerOf row = (r.peerOf row).map fun p => if p.id = id then input.apply p else p := by
  obtain rfl := updatePeer_ok h
  have hsame : ((fun p : RouterPeer => decide (row.Matches p.toRemoteWireGuardPeer)) ∘
      fun p => if p.id = id then input.apply p else p) =
      fun p => decide (row.Matches p.toRemoteWireGuardPeer) := funext fun p => by
    by_cases hid : p.id = id
    · simp [hid, PeerRow.Matches, UpdateRemotePeer.apply, hkey]
    · simp [hid]
  rw [peerOf, List.find?_map, hsame, peerOf]

@[simp] theorem World.setRouter_self (w : World) (routerId : String) :
    w.setRouter routerId (w.routers routerId) = w := by
  unfold setRouter
  congr 1
  funext id
  split_ifs with hid
  · rw [hid]
  · rfl

@[simp] theorem World.setRouter_db (w : World) (routerId : String) (r : RouterContent) :
    (w.setRouter routerId r).db = w.db := rfl

@[simp] theorem World.routers_setRouter (w : World) (routerId : String) (r : RouterContent) :
    (w.setRouter routerId r).routers routerId = r := if_pos rfl

/-! ## What the services do -/

section Returns

variable {P : Platform} {faults : Call → Fault → Prop} {ℓ : Type} {l l' : ℓ} {w w' : World}
  {routerId : String} {remote : RemoteWireGuardPeer} {peer row : PeerRow} {u : Unit}

/-- The quota columns that a poll counts in. -/
def PeerRow.usage (p : PeerRow) : Option ℤ × ℤ :=
  (p.accounting.quotaLimitBytes, p.accounting.periodRxBytes + p.accounting.periodTxBytes)

theorem returns_systemAudit {action peerId : String}
    (h : (Service.execute (.systemAudit action peerId) : Service ℓ Unit).Returns
      (World.environment P faults) l w u l' w') :
    w'.routers = w.routers ∧ w'.db.peers = w.db.peers := by
  obtain ⟨now, id, db, htx, -, rfl⟩ := Service.returns_execute h
  rw [Tx.insertAudit_ok htx]
  exact ⟨rfl, rfl⟩

/-- `setRemoteQuotaState` sets the flag of a peer on its router, and notes it
    in the row. -/
theorem returns_setRemoteQuotaState {disabled : Bool} {used : Option ℤ}
    (h : (setRemoteQuotaState routerId remote peer disabled used : Service ℓ Unit).Returns
      (World.environment P faults) l w u l' w') :
    (∃ r, (w.routers routerId).updatePeer remote.id { disabled := some disabled } = some ((), r) ∧
      w'.routers = (w.setRouter routerId r).routers) ∧
    ∀ id, w'.db.peer id = if id = peer.id then
      (w.db.peer id).map (quotaColumns P disabled used { remote with disabled })
      else w.db.peer id := by
  obtain ⟨_, l₁, w₁, hrequest, hexecute⟩ := Procedure.returns_bind.1 h
  obtain ⟨_, r, hupdate, rfl, rfl⟩ := Service.returns_request hrequest
  obtain ⟨now, id, db, htx, -, rfl⟩ := Service.returns_execute hexecute
  exact ⟨⟨r, hupdate, rfl⟩, Tx.peer_updatePeer (f := quotaColumns P disabled used _)
    (fun _ => rfl) htx⟩

/-- The peer of the row `row` is on its router, under the identifier `id`, with
    the flag `disabled`. -/
def World.Shows (w : World) (row : PeerRow) (id : String) (disabled : Bool) : Prop :=
  ∃ p, (w.routers row.routerId).peerOf row = some p ∧ p.id = id ∧ p.disabled = disabled

theorem World.Shows.congr {id : String} {d : Bool} (h : w.Shows row id d)
    (hrouters : w'.routers = w.routers) : w'.Shows row id d := by
  rwa [Shows, hrouters]

theorem shows_setRemoteQuotaState {disabled d : Bool} {used : Option ℤ}
    (h : (setRemoteQuotaState row.routerId remote peer disabled used : Service ℓ Unit).Returns
      (World.environment P faults) l w u l' w') (hshows : w.Shows row remote.id d) :
    w'.Shows row remote.id disabled := by
  obtain ⟨⟨r, hupdate, hrouters⟩, -⟩ := returns_setRemoteQuotaState h
  obtain ⟨p, hp, hid, -⟩ := hshows
  have hafter : (w'.routers row.routerId).peerOf row =
      some (UpdateRemotePeer.apply { disabled := some disabled } p) := by
    rw [hrouters, World.routers_setRouter, RouterContent.peerOf_updatePeer hupdate rfl, hp]
    simp [hid]
  exact ⟨_, hafter, hid, rfl⟩

/-- The update of the quota state changes no usage. -/
theorem usage_setRemoteQuotaState {disabled : Bool} {used : Option ℤ}
    (h : (setRemoteQuotaState routerId remote peer disabled used : Service ℓ Unit).Returns
      (World.environment P faults) l w u l' w') (id : String) :
    (w'.db.peer id).map PeerRow.usage = (w.db.peer id).map PeerRow.usage := by
  rw [(returns_setRemoteQuotaState h).2 id]
  split_ifs
  · rw [Option.map_map]
    rfl
  · rfl

theorem Database.peer_congr {db db' : Database} (h : db'.peers = db.peers) (id : String) :
    db'.peer id = db.peer id := by
  rw [peer, peer, h]

/-- A part of a poll that does not change the usage of a peer and shows it on
    its router at the end. -/
structure Enforced (row : PeerRow) (id : String) (w w' : World) (disabled : Bool) : Prop where
  shows : w'.Shows row id disabled
  usage : ∀ other, (w'.db.peer other).map PeerRow.usage = (w.db.peer other).map PeerRow.usage

/-- A change of the flag with the audit that follows it. -/
theorem enforced_setRemoteQuotaState {disabled d : Bool} {used : Option ℤ} {action : String}
    {w₁ : World} {l₁ : ℓ} {v : Unit}
    (h : (setRemoteQuotaState row.routerId remote peer disabled used : Service ℓ Unit).Returns
      (World.environment P faults) l w u l₁ w₁)
    (haudit : (Service.execute (.systemAudit action peer.id) : Service ℓ Unit).Returns
      (World.environment P faults) l₁ w₁ v l' w') (hshows : w.Shows row remote.id d) :
    Enforced row remote.id w w' disabled := by
  obtain ⟨hrouters, hpeers⟩ := returns_systemAudit haudit
  refine ⟨(shows_setRemoteQuotaState h hshows).congr hrouters, fun other => ?_⟩
  rw [Database.peer_congr hpeers, usage_setRemoteQuotaState h]

/-- The limit is reached, and the row is neither expired nor bypasses it. -/
structure Enforceable (peer : PeerRow) (used : ℤ) (limit : Option ℤ) (now : ℤ) : Prop where
  reached : ∃ n ∈ nonZero limit, n ≤ used
  bypass : ¬peer.BypassActive now
  expired : peer.expired = false

/-- Once the limit is reached, the peer is disabled on its router unless the row
    says that it is disabled already. -/
theorem enforced_enforceLimit {used now : ℤ} {limit : Option ℤ} {didReenable : Bool}
    {action : EnforcementAction}
    (h : (enforceLimit row.routerId remote peer used limit didReenable now :
      Service ℓ EnforcementAction).Returns (World.environment P faults) l w action l' w')
    (hshows : w.Shows row remote.id remote.disabled) :
    ∃ d, Enforced row remote.id w w' d ∧
      (Enforceable peer used limit now → d = (remote.disabled || !peer.disabled)) := by
  have hsame : Enforced row remote.id w w remote.disabled := ⟨hshows, fun _ => rfl⟩
  have hset : ∀ {disabled : Bool} {reported : EnforcementAction} {used : Option ℤ}
      {audit : String}, (do
        setRemoteQuotaState row.routerId remote peer disabled used
        Service.execute (.systemAudit audit peer.id)
        return reported : Service ℓ EnforcementAction).Returns
          (World.environment P faults) l w action
          l' w' → Enforced row remote.id w w' disabled := fun h => by
    obtain ⟨_, l₁, w₁, hset, h⟩ := Procedure.returns_bind.1 h
    obtain ⟨_, l₂, w₂, haudit, h⟩ := Procedure.returns_bind.1 h
    obtain ⟨-, -, rfl⟩ := Procedure.returns_pure.1 h
    exact enforced_setRemoteQuotaState hset haudit hshows
  have hkeep : ∀ {reported : EnforcementAction}, (return reported : Service ℓ
      EnforcementAction).Returns (World.environment P faults) l w action l' w' →
      Enforced row remote.id w w' remote.disabled := fun h => by
    obtain ⟨-, -, rfl⟩ := Procedure.returns_pure.1 h
    exact ⟨hshows, fun _ => rfl⟩
  unfold enforceLimit at h
  by_cases hbelow : ((nonZero limit).all fun limit => decide (used < limit)) = true
  · have hnot : ¬Enforceable peer used limit now := fun ⟨⟨n, hn, hreached⟩, _, _⟩ => by
      rw [Option.mem_def.1 hn, Option.all_some, decide_eq_true_eq] at hbelow
      omega
    rw [if_pos hbelow] at h
    by_cases hquota : peer.QuotaDisabled
    · rw [if_pos hquota] at h
      exact ⟨_, hset h, fun henforce => absurd henforce hnot⟩
    · rw [if_neg hquota] at h
      exact ⟨_, hkeep h, fun henforce => absurd henforce hnot⟩
  rw [if_neg hbelow] at h
  by_cases hstop : peer.BypassActive now ∨ peer.expired = true ∨
      (peer.disabled = true ∧ peer.disabledReason ≠ some .quota)
  · rw [if_pos hstop] at h
    refine ⟨_, hkeep h, fun henforce => ?_⟩
    rcases hstop with hbypass | hexpired | ⟨hdisabled, -⟩
    · exact absurd hbypass henforce.bypass
    · exact absurd (hexpired.symm.trans henforce.expired) nofun
    · simp [hdisabled]
  rw [if_neg hstop] at h
  by_cases hquota : peer.QuotaDisabled
  · rw [if_pos hquota] at h
    exact ⟨_, hkeep h, fun _ => by simp [hquota.1]⟩
  rw [if_neg hquota] at h
  by_cases hremote : remote.disabled = true ∧ peer.disabled = false
  · rw [if_pos hremote] at h
    exact ⟨_, hkeep h, fun _ => by simp [hremote.1]⟩
  · rw [if_neg hremote] at h
    -- Neither of the two tests of the row has found it disabled.
    have hdisabled : peer.disabled = false := by
      by_contra hdisabled
      rw [Bool.not_eq_false] at hdisabled
      exact hstop (.inr (.inr ⟨hdisabled, fun hreason => hquota ⟨hdisabled, hreason⟩⟩))
    exact ⟨_, hset h, fun _ => by simp [hdisabled]⟩

/-- The enforcement leaves the peer disabled on its router unless the row says
    that it is disabled, and not for the quota of a period that is over. -/
theorem enforced_enforceObservation {observation : Observation} {now : ℤ}
    {action : EnforcementAction}
    (h : (enforceObservation row.routerId remote observation now :
      Service ℓ EnforcementAction).Returns (World.environment P faults) l w action l' w')
    (hshows : w.Shows row remote.id remote.disabled) :
    ∃ d, Enforced row remote.id w w' d ∧
      (Enforceable observation.peer observation.used observation.limit now →
        (d = true ↔ remote.disabled = true ∨ observation.peer.disabled = false ∨
          observation.rolled = true ∧ observation.peer.disabledReason = some .quota)) := by
  unfold enforceObservation at h
  by_cases hrolled : observation.rolled = true ∧ observation.peer.QuotaDisabled
  · rw [if_pos hrolled] at h
    obtain ⟨_, l₁, w₁, hset, h⟩ := Procedure.returns_bind.1 h
    obtain ⟨_, l₂, w₂, haudit, h⟩ := Procedure.returns_bind.1 h
    have hfirst := enforced_setRemoteQuotaState hset haudit hshows
    obtain ⟨d, hsecond, hd⟩ := enforced_enforceLimit h hfirst.shows
    refine ⟨d, ⟨hsecond.shows, fun other => (hsecond.usage other).trans (hfirst.usage other)⟩,
      fun henforce => ?_⟩
    rw [hd ⟨henforce.reached, henforce.bypass, henforce.expired⟩]
    simp [hrolled.1, hrolled.2.2]
  · rw [if_neg hrolled] at h
    obtain ⟨d, hlimit, hd⟩ := enforced_enforceLimit h hshows
    refine ⟨d, hlimit, fun henforce => ?_⟩
    rw [hd henforce, Bool.or_eq_true, Bool.not_eq_true']
    refine or_congr_right ⟨.inl, ?_⟩
    rintro (hdisabled | ⟨hperiod, hreason⟩)
    · exact hdisabled
    · by_contra hdisabled
      exact hrolled ⟨hperiod, by simpa using hdisabled, hreason⟩

/-! ## A poll -/

/-- The quota period of a peer is over at the time `now`, or has not begun. -/
def PeerRow.PeriodOver (p : PeerRow) (now : ℤ) : Prop :=
  p.accounting.quotaLimitBytes.isSome = true ∧ ∃ period ∈ p.accounting.quotaPeriod,
    period ≠ .oneTime ∧ (p.accounting.quotaPeriodStartedAt = none ∨
      p.accounting.quotaPeriodEndsAt.all (fun stop => decide (stop ≤ now)) = true)

instance (p : PeerRow) (now : ℤ) : Decidable (p.PeriodOver now) :=
  inferInstanceAs (Decidable (_ ∧ ∃ period ∈ p.accounting.quotaPeriod, _))

/-- The usage of a peer has reached its limit. -/
def PeerRow.OverLimit (p : PeerRow) : Prop :=
  ∃ limit ∈ nonZero p.accounting.quotaLimitBytes,
    limit ≤ p.accounting.periodRxBytes + p.accounting.periodTxBytes

instance (p : PeerRow) : Decidable p.OverLimit :=
  inferInstanceAs (Decidable (∃ limit ∈ nonZero p.accounting.quotaLimitBytes, _))

theorem overLimit_congr {p q : PeerRow} (h : p.usage = q.usage) : p.OverLimit ↔ q.OverLimit := by
  obtain ⟨hlimit, hused⟩ := Prod.mk.inj h
  rw [PeerRow.OverLimit, PeerRow.OverLimit, hlimit, hused]

theorem rollPeriod_rolled {policy : QuotaPolicy} {now : ℤ} {db db' : Database}
    {period : CountedPeriod} (h : rollPeriod P peer policy now db = .ok (period, db')) :
    period.rolled = true ↔ peer.PeriodOver now := by
  unfold PeerRow.PeriodOver
  cases hlimit : peer.accounting.quotaLimitBytes with
  | none =>
    simp only [rollPeriod, hlimit] at h
    obtain ⟨rfl, -⟩ := Tx.pure_eq_ok.1 h
    simp
  | some limit =>
    cases hperiod : peer.accounting.quotaPeriod with
    | none =>
      simp only [rollPeriod, hlimit, hperiod] at h
      obtain ⟨rfl, -⟩ := Tx.pure_eq_ok.1 h
      simp
    | some quotaPeriod =>
      simp only [rollPeriod, hlimit, hperiod] at h
      obtain ⟨expected, -, h⟩ := Tx.ofExcept_bind_ok.1 h
      split_ifs at h with honce hover
      · obtain ⟨rfl, -⟩ := Tx.pure_eq_ok.1 h
        simp [honce]
      · obtain ⟨_, db₁, -, h⟩ := Tx.bind_eq_ok.1 h
        obtain ⟨_, db₂, -, h⟩ := Tx.bind_eq_ok.1 h
        obtain ⟨rfl, -⟩ := Tx.pure_eq_ok.1 h
        simpa [honce] using hover
      · obtain ⟨rfl, -⟩ := Tx.pure_eq_ok.1 h
        simpa [honce] using hover

theorem recordObservation_rolled {policy : QuotaPolicy} {onlineSeconds sampleSeconds now : ℤ}
    {db db' : Database} {peerId : String} {observation : Observation}
    (h : recordObservation P peerId remote policy onlineSeconds sampleSeconds now db
      = .ok (observation, db')) (hrow : db.peer peerId = some row) :
    observation.rolled = true ↔ row.PeriodOver now := by
  obtain ⟨c, rfl, -, -, hpeer, ⟨_, hroll⟩, -⟩ := recordObservation_ok h
  cases hrow.symm.trans hpeer
  change c.rolled.rolled = true ↔ c.peer.PeriodOver now
  exact rollPeriod_rolled hroll

theorem returns_getRouter {id : String} {router : RouterRow}
    (h : (getRouter id : Service ℓ RouterRow).Returns
      (World.environment P faults) l w router l' w') :
    w.db.router id = some router ∧ router.id = id ∧ l = l' ∧ w = w' := by
  obtain ⟨found, l₁, w₁, hfind, hthrow⟩ := Procedure.returns_bind.1 h
  obtain ⟨rfl, rfl, rfl⟩ := Service.returns_query hfind
  obtain ⟨hfound, rfl, rfl⟩ := Service.returns_orThrow hthrow
  exact ⟨hfound, by simpa using List.find?_some hfound, rfl, rfl⟩

/-- A client is returned if the credentials of its router can be decrypted. -/
theorem returns_clientForRouter {router : RouterRow}
    (h : (clientForRouter P router : Service ℓ Unit).Returns
      (World.environment P faults) l w u l' w') :
    (∃ credentials, router.credentials P = .ok credentials) ∧ l = l' ∧ w = w' := by
  obtain ⟨credentials, l₁, w₁, hdecrypt, hrest⟩ := Procedure.returns_bind.1 h
  obtain ⟨hcredentials, rfl, rfl⟩ := Service.returns_ofExcept hdecrypt
  obtain ⟨-, rfl, rfl⟩ := Procedure.returns_pure.1 hrest
  exact ⟨⟨credentials, hcredentials⟩, rfl, rfl⟩

theorem returns_routerClient {id : String} {router : RouterRow}
    (h : (routerClient P id : Service ℓ RouterRow).Returns (World.environment P faults) l w router
      l' w') :
    w.db.router id = some router ∧ router.id = id ∧ l = l' ∧ w = w' := by
  obtain ⟨found, l₁, w₁, hfind, hrest⟩ := Procedure.returns_bind.1 h
  obtain ⟨hfound, hid, rfl, rfl⟩ := returns_getRouter hfind
  obtain ⟨_, l₁, w₁, hclient, hrest⟩ := Procedure.returns_bind.1 hrest
  obtain ⟨-, rfl, rfl⟩ := returns_clientForRouter hclient
  obtain ⟨rfl, rfl, rfl⟩ := Procedure.returns_pure.1 hrest
  exact ⟨hfound, hid, rfl, rfl⟩

/-- Reading a setting changes nothing, whether it fails or not. -/
theorem returns_settingOr {α : Type} {read : Settings → α} {a : α}
    (h : (settingOr read : Service ℓ α).Returns (World.environment P faults) l w a l' w') :
    l = l' ∧ w = w' := by
  rcases Procedure.returns_tryCatch.1 h with hread | ⟨e, _, _, hfail, hdefault⟩
  · exact (Service.returns_query hread).2
  · obtain ⟨rfl, rfl⟩ := Service.throws_query hfail
    exact (Procedure.returns_pure.1 hdefault).2

section Polls

variable {policy : QuotaPolicy} {onlineSeconds sampleSeconds : ℤ}
  {remotePeers : List RemoteWireGuardPeer}

/-- The part of a poll that is about a peer: the observation of the peer, if it is listed, and
    its enforcement. -/
theorem returns_pollLocalPeer {observedAt enforcedAt : ℤ} {remote : RemoteWireGuardPeer}
    {action : EnforcementAction}
    (h : (pollLocalPeer row.routerId policy onlineSeconds sampleSeconds remotePeers row observedAt
      enforcedAt : Service ℓ EnforcementAction).Returns
        (World.environment P faults) l w action l' w')
    (hlisted : (remotePeers.find? fun remote => row.Matches remote) = some remote) :
    ∃ observation db,
      recordObservation P row.id remote policy onlineSeconds sampleSeconds observedAt w.db =
        .ok (observation, db) ∧
      (enforceObservation row.routerId remote observation enforcedAt :
        Service ℓ EnforcementAction).Returns (World.environment P faults) l { w with db } action l'
        w' := by
  unfold pollLocalPeer at h
  rw [hlisted] at h
  obtain ⟨observation, _, _, hrecord, henforce⟩ := Procedure.returns_bind.1 h
  obtain ⟨_, _, db, htx, rfl, rfl⟩ := Service.returns_execute hrecord
  exact ⟨observation, db, htx, henforce⟩

/-- A poll of one peer is the part about this peer. -/
theorem returns_pollPeer_local {peerId : String} {observedAt enforcedAt : ℤ}
    {action : EnforcementAction}
    (h :
      (pollPeer P row.routerId peerId observedAt enforcedAt : Service ℓ EnforcementAction).Returns
      (World.environment P faults) l w action l' w') (hrow : w.db.peer peerId = some row) :
    ∃ policy onlineSeconds sampleSeconds,
      (pollLocalPeer row.routerId policy onlineSeconds sampleSeconds
        (w.routers row.routerId).remotePeers row observedAt enforcedAt :
        Service ℓ EnforcementAction).Returns (World.environment P faults) l w action l' w' := by
  unfold pollPeer at h
  obtain ⟨router, _, _, hrouter, h₁⟩ := Procedure.returns_bind.1 h
  obtain ⟨-, hid, rfl, rfl⟩ := returns_routerClient hrouter
  obtain ⟨policy, _, _, hpolicy, h₁⟩ := Procedure.returns_bind.1 h₁
  obtain ⟨rfl, rfl⟩ := returns_settingOr hpolicy
  obtain ⟨onlineSeconds, _, _, honline, h₁⟩ := Procedure.returns_bind.1 h₁
  obtain ⟨rfl, rfl⟩ := returns_settingOr honline
  obtain ⟨sampleSeconds, _, _, hsample, h₂⟩ := Procedure.returns_bind.1 h₁
  obtain ⟨rfl, rfl⟩ := returns_settingOr hsample
  obtain ⟨remotePeers, _, _, hlist, h₃⟩ := Procedure.returns_bind.1 h₂
  obtain ⟨_, r, hperform, rfl, rfl⟩ := Service.returns_request hlist
  cases hperform
  rw [World.setRouter_self] at h₃
  obtain ⟨localPeers, _, _, hlocal, h₄⟩ := Procedure.returns_bind.1 h₃
  obtain ⟨rfl, rfl, rfl⟩ := Service.returns_query hlocal
  have hlocalPeer : ((w.db.peers.rows.filter fun p => p.routerId = row.routerId).find?
      fun p => p.id = peerId) = some row := by
    obtain ⟨hmem, hpeerId⟩ := Database.peer_spec hrow
    rw [List.find?_filter]
    refine (List.find?_congr fun p hp => ?_).trans hrow
    by_cases hother : p.id = peerId
    · rw [w.db.peer_unique hp hmem (hother.trans hpeerId.symm)]
      simp
    · simp [hother]
  simp only [hlocalPeer, hid] at h₄
  exact ⟨policy, onlineSeconds, sampleSeconds, h₄⟩

/-- What a poll of a peer that is on its router reads, and what it goes on with:
    the observation of the peer, and its enforcement. -/
theorem returns_pollPeer {peerId : String} {observedAt enforcedAt : ℤ} {p : RouterPeer}
    {action : EnforcementAction}
    (h :
      (pollPeer P row.routerId peerId observedAt enforcedAt : Service ℓ EnforcementAction).Returns
      (World.environment P faults) l w action l' w') (hrow : w.db.peer peerId = some row)
    (hp : (w.routers row.routerId).peerOf row = some p) :
    ∃ policy onlineSeconds sampleSeconds observation db,
      recordObservation P peerId p.toRemoteWireGuardPeer policy onlineSeconds
        sampleSeconds observedAt
        w.db = .ok (observation, db) ∧
      (enforceObservation row.routerId p.toRemoteWireGuardPeer observation enforcedAt :
        Service ℓ EnforcementAction).Returns (World.environment P faults) l { w with db } action l'
        w' := by
  obtain ⟨policy, onlineSeconds, sampleSeconds, hlocal⟩ := returns_pollPeer_local h hrow
  obtain ⟨observation, db, hrecord, henforce⟩ := returns_pollLocalPeer hlocal (by
    rw [RouterContent.find_remotePeers, hp, Option.map_some])
  rw [(Database.peer_spec hrow).2] at hrecord
  exact ⟨policy, onlineSeconds, sampleSeconds, observation, db, hrecord, henforce⟩

/-- One peer of a poll of its router: the part about this peer, whether it returns or throws. -/
theorem attempt_of_pollCounted {routerId : String} {observedAt enforcedAt : ℤ} {k k' : PollTotals}
    (h : (pollCounted routerId policy onlineSeconds sampleSeconds remotePeers observedAt enforcedAt
      row).Returns (World.environment P faults) k w () k' w') :
    ∃ k₁ r k₂, (Procedure.attempt (pollLocalPeer routerId policy onlineSeconds sampleSeconds
      remotePeers row observedAt enforcedAt : Service PollTotals EnforcementAction)).Returns
        (World.environment P faults) k₁ w r k₂ w' := by
  unfold pollCounted at h
  unfold pollLocalPeer
  cases hlisted : remotePeers.find? fun remote => row.Matches remote with
  | none =>
    rw [hlisted] at h
    obtain ⟨-, rfl, rfl⟩ := Procedure.returns_pure.1 h
    exact ⟨k, .ok .none, k, Procedure.Returns.attempt (Procedure.returns_pure.2 ⟨rfl, rfl, rfl⟩)⟩
  | some remote =>
    rw [hlisted] at h
    dsimp only at h ⊢
    rcases Procedure.returns_tryCatch.1 h with hbody | ⟨e, k₁, w₁, hbody, hcaught⟩
    · obtain ⟨observation, _, w₁, hrecord, hbody⟩ := Procedure.returns_bind.1 hbody
      obtain ⟨_, k₁, _, hcount, hbody⟩ := Procedure.returns_bind.1 hbody
      obtain ⟨-, rfl⟩ := Procedure.returns_modify.1 hcount
      obtain ⟨action, k₂, w₂, henforce, hcount⟩ := Procedure.returns_bind.1 hbody
      obtain ⟨-, rfl⟩ := Procedure.returns_modify.1 hcount
      obtain ⟨hcall, -⟩ := Procedure.returns_call.1 hrecord
      exact ⟨k₁, .ok action, k₂, Procedure.Returns.attempt (Procedure.returns_bind.2
        ⟨observation, k₁, w₁, Procedure.returns_call.2 ⟨hcall, rfl⟩, henforce⟩)⟩
    · obtain ⟨-, rfl⟩ := Procedure.returns_modify.1 hcaught
      rcases Procedure.throws_bind.1 hbody with hrecord | ⟨observation, _, w₁, hrecord, hbody⟩
      · exact ⟨k, .error e, k₁, Procedure.Throws.attempt (Procedure.throws_bind.2 (.inl hrecord))⟩
      rcases Procedure.throws_bind.1 hbody with hcount | ⟨_, k₂, _, hcount, hbody⟩
      · exact absurd hcount Procedure.not_throws_modify
      obtain ⟨-, rfl⟩ := Procedure.returns_modify.1 hcount
      rcases Procedure.throws_bind.1 hbody with henforce | ⟨_, _, _, -, hcount⟩
      · obtain ⟨hcall, -⟩ := Procedure.returns_call.1 hrecord
        exact ⟨k₂, .error e, k₁, Procedure.Throws.attempt (Procedure.throws_bind.2 (.inr
          ⟨observation, k₂, w₁, Procedure.returns_call.2 ⟨hcall, rfl⟩, henforce⟩))⟩
      · exact absurd hcount Procedure.not_throws_modify

/-- A poll of a router comes to each of its peers, with the peers that the router showed at the
    beginning. -/
theorem returns_pollRouterTraffic {routerId : String} {observedAt enforcedAt : PeerRow → ℤ}
    {totals : PollTotals}
    (h : (pollRouterTraffic P routerId observedAt enforcedAt : Service ℓ PollTotals).Returns
      (World.environment P faults) l w totals l' w') :
    ∃ policy onlineSeconds sampleSeconds, Procedure.Returns (World.environment P faults)
      (((w.db.peers.rows.filter fun p => p.routerId = routerId).insertionSort
        fun p q => p.id ≤ q.id).forM fun localPeer => pollCounted routerId policy onlineSeconds
          sampleSeconds (w.routers routerId).remotePeers (observedAt localPeer)
          (enforcedAt localPeer) localPeer) {} w () totals w' := by
  obtain ⟨k, hpoll, -⟩ := Procedure.returns_withLocals h
  rcases Procedure.returns_tryCatch.1 hpoll with hpoll | ⟨e, _, _, -, hcaught⟩
  · obtain ⟨router, _, _, hrouter, h₁⟩ := Procedure.returns_bind.1 hpoll
    obtain ⟨-, rfl, rfl, rfl⟩ := returns_routerClient hrouter
    obtain ⟨policy, _, _, hpolicy, h₁⟩ := Procedure.returns_bind.1 h₁
    obtain ⟨rfl, rfl⟩ := returns_settingOr hpolicy
    obtain ⟨onlineSeconds, _, _, honline, h₁⟩ := Procedure.returns_bind.1 h₁
    obtain ⟨rfl, rfl⟩ := returns_settingOr honline
    obtain ⟨sampleSeconds, _, _, hsample, h₂⟩ := Procedure.returns_bind.1 h₁
    obtain ⟨rfl, rfl⟩ := returns_settingOr hsample
    obtain ⟨remotePeers, _, _, hlist, h₃⟩ := Procedure.returns_bind.1 h₂
    obtain ⟨_, r, hperform, rfl, rfl⟩ := Service.returns_request hlist
    cases hperform
    rw [World.setRouter_self] at h₃
    obtain ⟨localPeers, _, _, hlocal, h₄⟩ := Procedure.returns_bind.1 h₃
    obtain ⟨rfl, rfl, rfl⟩ := Service.returns_query hlocal
    obtain ⟨_, k₁, w₁, hloop, h₅⟩ := Procedure.returns_bind.1 h₄
    obtain ⟨_, k₂, w₂, hstatus, hget⟩ := Procedure.returns_bind.1 h₅
    obtain ⟨_, _, db, htx, rfl, rfl⟩ := Service.returns_execute hstatus
    cases htx
    obtain ⟨rfl, -, rfl⟩ := Procedure.returns_get.1 hget
    exact ⟨policy, onlineSeconds, sampleSeconds, hloop⟩
  · obtain ⟨_, _, _, -, hthrow⟩ := Procedure.returns_bind.1 hcaught
    exact absurd hthrow Procedure.not_returns_throw

end Polls

/-- A poll that finds the usage of a peer at its limit, with no bypass and the
    peer not expired, leaves the peer disabled on its router just when it was
    disabled there before, or the row is enabled, or it is disabled for the
    quota of a period that is over. -/
theorem disabled_after_poll_iff (P : Platform) (faults : Call → Fault → Prop) {ℓ : Type}
    {l l' : ℓ} {w w' : World} {peerId : String} {observedAt enforcedAt : ℤ} {row : PeerRow}
    {remote : RouterPeer} {action : EnforcementAction}
    (hpoll : (pollPeer P row.routerId peerId observedAt enforcedAt :
      Service ℓ EnforcementAction).Returns (World.environment P faults) l w action l' w')
    (hrow : w.db.peer peerId = some row)
    (hremote : (w.routers row.routerId).peerOf row = some remote)
    (hused : ∃ p ∈ w'.db.peer peerId, p.OverLimit)
    (hbypass : row.PeriodOver observedAt ∨ ¬row.BypassActive enforcedAt)
    (hexpired : row.expired = false) :
    (∃ p ∈ (w'.routers row.routerId).peerOf row, p.disabled = true) ↔
      remote.disabled = true ∨ row.disabled = false ∨
        row.PeriodOver observedAt ∧ row.disabledReason = some .quota := by
  obtain ⟨_, _, _, observation, db, hrecord, henforce⟩ := returns_pollPeer hpoll hrow hremote
  have hrolled := recordObservation_rolled hrecord hrow
  obtain ⟨c, rfl, -, -, hpeer, -, -, -, -, hrows⟩ := recordObservation_ok hrecord
  cases hrow.symm.trans hpeer
  obtain ⟨d, hafter, hd⟩ := enforced_enforceObservation henforce
    ⟨remote, hremote, rfl, rfl⟩
  have hflag :
      (∃ p ∈ (w'.routers c.peer.routerId).peerOf c.peer, p.disabled = true) ↔ d = true := by
    obtain ⟨p, hp, -, rfl⟩ := hafter.shows
    rw [hp]
    simp
  rw [hflag, hd ⟨?_, ?_, hexpired⟩, hrolled]
  · rfl
  · -- The enforcement has not changed the usage that was recorded.
    obtain ⟨p, hp, hover⟩ := hused
    have husage : p.usage = (c.record c.peer).usage := by
      have hsame := hafter.usage peerId
      rw [Option.mem_def.1 hp, hrows, if_pos rfl] at hsame
      refine (Option.some.inj hsame).trans ?_
      unfold Counted.stored
      split_ifs <;> rfl
    exact (overLimit_congr husage).1 hover
  · rintro ⟨bypassUntil, hmem, hlater⟩
    change bypassUntil ∈ (c.record c.peer).accounting.quotaBypassUntil at hmem
    by_cases hroll : c.rolled.rolled = true
    · have hcleared : (c.record c.peer).accounting.quotaBypassUntil = none := if_pos hroll
      rw [hcleared] at hmem
      cases hmem
    · have hkept : (c.record c.peer).accounting.quotaBypassUntil =
          c.peer.accounting.quotaBypassUntil := if_neg hroll
      rw [hkept] at hmem
      exact hbypass.elim (fun hover => hroll (hrolled.2 hover)) fun hnot =>
        hnot ⟨bypassUntil, hmem, hlater⟩

end Returns

/-! ## A router to run the model on -/

/-- The router of the small installation, with one peer. -/
def plainContent (remote : RemoteWireGuardPeer) : RouterContent where
  interfaces := []
  peers := [{ remote with presharedKey := "" }]
  addresses := []
  routes := []
  queues := []
  queueTrees := []
  mangleRules := []
  filterRules := []

/-- The installation and its router. -/
def plainWorld (peer : PeerRow) (hpeer : peerSchema.check peer = true)
    (remote : RemoteWireGuardPeer) : World where
  db := plainDatabase peer hpeer
  routers _ := plainContent remote

/-- The peer of the installation with a limit of 1000 bytes, in the month that
    begins at the time 0. -/
def limitedPeer : PeerRow :=
  { plainPeer with
    accounting := { AccountingColumns.fresh with
      quotaLimitBytes := some 1000
      quotaPeriod := some .monthly
      quotaPeriodStartedAt := some 0
      quotaPeriodEndsAt := some 2678400000
      lastObservedRxBytes := some 0
      lastObservedTxBytes := some 0 } }

/-- The peer, disabled for its quota. -/
def quotaDisabledPeer : PeerRow :=
  { limitedPeer with disabled := true, disabledReason := some .quota }

/-- The peer on the router, after it has received 1500 bytes. -/
def heavyRemote : RemoteWireGuardPeer := { plainRemote with rxBytes := 1500 }

/-- The row of the installation is found. -/
theorem plainWorld_peer (peer : PeerRow) (hpeer : peerSchema.check peer = true)
    (remote : RemoteWireGuardPeer) : (plainWorld peer hpeer remote).db.peer peer.id = some peer :=
  Database.peer_eq_some (List.mem_singleton_self peer)

/-- The peer of the installation is found on its router. -/
theorem plainContent_peerOf {row : PeerRow} {remote : RemoteWireGuardPeer}
    (h : row.Matches remote) :
    (plainContent remote).peerOf row = some { remote with presharedKey := "" } := by
  rw [RouterContent.peerOf, plainContent, List.find?_cons_of_pos]
  exact decide_eq_true h

def limitedWorld : World := plainWorld limitedPeer (by decide) heavyRemote

def quotaDisabledWorld : World := plainWorld quotaDisabledPeer (by decide) heavyRemote

/-- What a poll of the peer leaves: what it has done, whether the limit is
    reached, and whether the peer is disabled on its router. -/
def plainPollOutcome (w : World) : Option (Option EnforcementAction × Bool × Bool) :=
  ((pollPeer Platform.plain "r1" "p1" 60000 60000).run
      Platform.plain (List.replicate 11 {}) w).map fun result =>
    (result.1.toOption, decide (∃ p ∈ result.2.db.peer "p1", p.OverLimit),
      decide (∃ p ∈ (result.2.routers "r1").peerOf plainPeer, p.disabled = true))

theorem returns_of_plainPollOutcome {w : World} {action : EnforcementAction}
    {reached disabled : Bool}
    (h : plainPollOutcome w = some (some action, reached, disabled)) :
    ∃ w', (pollPeer Platform.plain "r1" "p1" 60000 60000).Returns
        (World.environment Platform.plain fun _ _ => True) () w action () w' ∧
      decide (∃ p ∈ w'.db.peer "p1", p.OverLimit) = reached ∧
      decide (∃ p ∈ (w'.routers "r1").peerOf plainPeer, p.disabled = true) = disabled := by
  obtain ⟨⟨r, w'⟩, hrun, houtcome⟩ := Option.map_eq_some_iff.1 h
  obtain ⟨hr, hover, hdisabled⟩ := by simpa only [Prod.mk.injEq] using houtcome
  cases r with
  | error e => cases hr
  | ok a =>
    cases hr
    exact ⟨w', Service.returns_of_run hrun, hover, hdisabled⟩

/-- The enabled peer is disabled. -/
theorem disabled_after_poll_iff_enabled :
    ∃ w', (pollPeer Platform.plain "r1" "p1" 60000 60000).Returns
        (World.environment Platform.plain fun _ _ => True) () limitedWorld
        EnforcementAction.disabled () w' ∧
      ∃ p ∈ (w'.routers "r1").peerOf limitedPeer, p.disabled = true := by
  have hrun : plainPollOutcome limitedWorld = some (some .disabled, true, true) := by
    decide +kernel
  obtain ⟨w', hpoll, hover, -⟩ := returns_of_plainPollOutcome hrun
  have hbypass : ¬limitedPeer.BypassActive 60000 := by decide
  have hrow : limitedWorld.db.peer "p1" = some limitedPeer :=
    plainWorld_peer limitedPeer _ heavyRemote
  have hafter := @disabled_after_poll_iff Platform.plain _ Unit () () limitedWorld w' "p1" 60000
    60000 limitedPeer _ .disabled hpoll hrow (plainContent_peerOf (.inl rfl))
    (of_decide_eq_true hover) (.inr hbypass) rfl
  exact ⟨w', hpoll, hafter.2 (.inr (.inl rfl))⟩

/-- A peer that its row says is disabled for its quota, but that was enabled on
    the router, stays enabled there after a poll that finds it at its limit. -/
theorem exists_poll_not_disabled :
    quotaDisabledWorld.db.peer "p1" = some quotaDisabledPeer ∧
    quotaDisabledPeer.expired = false ∧ quotaDisabledPeer.disabledReason = some .quota ∧
    ¬quotaDisabledPeer.BypassActive 60000 ∧
    ∃ w', (pollPeer Platform.plain "r1" "p1" 60000 60000).Returns
        (World.environment Platform.plain fun _ _ => True) () quotaDisabledWorld
        EnforcementAction.none () w' ∧
      (∃ p ∈ w'.db.peer "p1", p.OverLimit) ∧
      ¬∃ p ∈ (w'.routers "r1").peerOf plainPeer, p.disabled = true := by
  refine ⟨plainWorld_peer quotaDisabledPeer _ heavyRemote, rfl, rfl, by decide, ?_⟩
  have hrun : plainPollOutcome quotaDisabledWorld = some (some .none, true, false) := by
    decide +kernel
  obtain ⟨w', hpoll, hover, henabled⟩ := returns_of_plainPollOutcome hrun
  exact ⟨w', hpoll, of_decide_eq_true hover, of_decide_eq_false henabled⟩

end WireguardPanel
