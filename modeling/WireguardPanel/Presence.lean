import WireguardPanel.Foundation.Join
import WireguardPanel.RouterHealth

/-!
# The status of the peers

The panel tells in three ways which peers are online: a function for the page of a peer, a `CASE`
in the list of peers, and the counts on the tiles of the dashboard, each of which leads to
the list of the peers with its status.

* `peerStatus`, `listedStatus`: the status on the page of a peer and in the list.
* `peerStatus_eq_listedStatus_iff`: they differ just for a handshake that is exactly as old as
  a threshold.
* `RouterRounds.dashboardCount`: the tiles.
* `dashboardCount_add`: a tile counts the peers of the list that it leads to, except those of
  routers of which nobody knows yet whether their statistics can be read. The tile of the peers
  that are blocked for their quota is another matter: it counts them by the reason why they are
  disabled.
-/

namespace WireguardPanel

open Foundation

/-! ## A peer -/

/-- `PeerStatus`. -/
inductive PeerStatus
  | online
  | recent
  | offline
  | never
  | disabled
  | expired
  | trafficLimitReached
  | routerUnreachable
  deriving DecidableEq, Repr

/-- `StatusThresholds`. -/
structure StatusThresholds where
  onlineSeconds : ℤ
  recentSeconds : ℤ
  deriving DecidableEq, Repr

section Status

variable (thresholds : StatusThresholds) (now : ℤ) (routerStatsStatus : StatsPollStatus)
  (peer : PeerRow)

/-- `peerStatus`, with the times in milliseconds. -/
def peerStatus : PeerStatus :=
  if peer.expired then .expired
  else if peer.accounting.quotaReachedAt.isSome then .trafficLimitReached
  else if peer.disabled || peer.presence.remoteDisabled.getD false then .disabled
  else if routerStatsStatus = .unreachable then .routerUnreachable
  else
    match peer.presence.lastHandshakeAt with
    | none => .never
    | some timestamp =>
      let age := max 0 (now - timestamp)
      if age ≤ thresholds.onlineSeconds * 1000 then .online
      else if age ≤ thresholds.recentSeconds * 1000 then .recent
      else .offline

/-- The `CASE` of the list of peers and of the page of the traffic. -/
def listedStatus : PeerStatus :=
  if peer.expired then .expired
  else if peer.accounting.quotaReachedAt.isSome then .trafficLimitReached
  else if peer.disabled || peer.presence.remoteDisabled.getD false then .disabled
  else if routerStatsStatus = .unreachable then .routerUnreachable
  else
    match peer.presence.lastHandshakeAt with
    | none => .never
    | some lastHandshakeAt =>
      if now - thresholds.onlineSeconds * 1000 < lastHandshakeAt then .online
      else if now - thresholds.recentSeconds * 1000 < lastHandshakeAt then .recent
      else .offline

/-- Neither disabled nor expired nor over its quota. -/
def PeerRow.isActive : Bool :=
  !peer.disabled && !peer.presence.remoteDisabled.getD false && !peer.expired &&
    peer.accounting.quotaReachedAt.isNone

variable {thresholds now routerStatsStatus peer}

theorem PeerRow.isActive_iff : peer.isActive = true ↔
    peer.expired = false ∧ peer.accounting.quotaReachedAt = none ∧ peer.disabled = false ∧
      peer.presence.remoteDisabled.getD false = false := by
  simp only [PeerRow.isActive, Bool.and_eq_true, Bool.not_eq_true', Option.isNone_iff_eq_none]
  tauto

/-- The status of a peer that is not active does not depend on its handshakes. -/
theorem peerStatus_of_not_isActive (h : peer.isActive = false) :
    peerStatus thresholds now routerStatsStatus peer =
      listedStatus thresholds now routerStatsStatus peer := by
  unfold peerStatus listedStatus
  split_ifs with hexpired hquota hdisabled hrouter <;> try rfl
  have hactive : peer.isActive = true := by
    refine PeerRow.isActive_iff.2 ⟨by simpa using hexpired, by simpa using hquota, ?_⟩
    simpa using hdisabled
  exact absurd hactive (by simp [h])

/-- The last handshake is exactly as old as a threshold that says what the status is. -/
def OnThreshold (thresholds : StatusThresholds) (now lastHandshakeAt : ℤ) : Prop :=
  now - lastHandshakeAt = thresholds.onlineSeconds * 1000 ∨
    now - lastHandshakeAt = thresholds.recentSeconds * 1000 ∧
      thresholds.onlineSeconds < thresholds.recentSeconds

/-- The page of a peer and the list of peers show the same status, unless its last handshake
    is exactly as old as a threshold. -/
theorem peerStatus_eq_listedStatus_iff (h : 0 ≤ thresholds.onlineSeconds) :
    peerStatus thresholds now routerStatsStatus peer =
        listedStatus thresholds now routerStatsStatus peer ↔
      (peer.isActive = true → routerStatsStatus ≠ .unreachable →
        ∀ lastHandshakeAt ∈ peer.presence.lastHandshakeAt,
          ¬ OnThreshold thresholds now lastHandshakeAt) := by
  cases hactive : peer.isActive with
  | false => exact iff_of_true (peerStatus_of_not_isActive hactive) (by simp)
  | true =>
    obtain ⟨hexpired, hquota, hdisabled, hremote⟩ := PeerRow.isActive_iff.1 hactive
    by_cases hrouter : routerStatsStatus = .unreachable
    · simp [peerStatus, listedStatus, hexpired, hquota, hdisabled, hremote, hrouter]
    · cases hseen : peer.presence.lastHandshakeAt with
      | none =>
        simp [peerStatus, listedStatus, hexpired, hquota, hdisabled, hremote, hrouter, hseen]
      | some lastHandshakeAt =>
        simp only [peerStatus, listedStatus, hexpired, hquota, hdisabled, hremote, hrouter, hseen,
          OnThreshold, Option.mem_some_iff, forall_eq', Option.isSome_none, Bool.or_self,
          Bool.false_eq_true, if_false, ne_eq, not_false_eq_true, forall_const]
        -- Only a handshake that is older than the threshold of `online` can be on the other one.
        split_ifs <;> simp only [false_iff, true_iff] <;> omega

/-- A peer with a handshake at the time 0. -/
def greetedPeer : PeerRow :=
  { plainPeer with presence := { plainPeer.presence with lastHandshakeAt := some 0 } }

theorem peerStatus_eq_listedStatus_iff_edge :
    peerStatus ⟨180, 900⟩ 180000 .reachable greetedPeer ≠
      listedStatus ⟨180, 900⟩ 180000 .reachable greetedPeer :=
  fun h => (peerStatus_eq_listedStatus_iff (by decide)).1 h rfl (by decide) 0 rfl (.inl rfl)

end Status

/-! ## The dashboard -/

namespace PeerStatus

/-- The statuses that say when an active peer has been seen. -/
def IsPresence : PeerStatus → Prop
  | online | recent | offline => True
  | _ => False

instance (status : PeerStatus) : Decidable status.IsPresence := by
  unfold IsPresence
  split <;> infer_instance

end PeerStatus

namespace RouterRounds

variable (thresholds : StatusThresholds) (s : RouterRounds)

/-- `peers p JOIN routers r ON r.id=p.router_id`. -/
def joined : List (PeerRow × RouterHealthRow) :=
  join PeerRow.routerId RouterHealthRow.id s.peers s.routers

/-- The number of peers with a status in the list of peers. -/
def listedCount (status : PeerStatus) : ℕ :=
  s.joined.countP fun row => listedStatus thresholds s.now row.2.statsPollStatus row.1 = status

/-- The condition of a tile that reads the router, but for its time. -/
def isSeen (test : ℤ → Bool) (row : PeerRow × RouterHealthRow) : Bool :=
  row.1.isActive && row.2.statsPollStatus = .reachable &&
    row.1.presence.lastHandshakeAt.any test

/-- `now()-make_interval(secs=>seconds)`. -/
def ago (seconds : ℤ) : ℤ :=
  s.now - seconds * 1000

/-- The counts on the tiles. -/
def dashboardCount : PeerStatus → ℕ
  | .online => s.joined.countP (isSeen fun t => s.ago thresholds.onlineSeconds < t)
  | .recent => s.joined.countP (isSeen fun t =>
      t ≤ s.ago thresholds.onlineSeconds && s.ago thresholds.recentSeconds < t)
  | .offline => s.joined.countP (isSeen fun t => t ≤ s.ago thresholds.recentSeconds)
  | .never => s.joined.countP fun row =>
      row.1.isActive && row.2.statsPollStatus ≠ .unreachable &&
        row.1.presence.lastHandshakeAt.isNone
  | .routerUnreachable => s.joined.countP fun row =>
      row.1.isActive && row.2.statsPollStatus = .unreachable
  | .disabled => s.peers.countP fun p =>
      (p.disabled || p.presence.remoteDisabled.getD false) && !p.expired &&
        p.accounting.quotaReachedAt.isNone
  | .expired => s.peers.countP fun p => p.expired
  | .trafficLimitReached => s.peers.countP fun p => p.disabledReason = some .quota

/-- The number of online peers on the card of a router. -/
def cardOnline (router : RouterHealthRow) : ℕ :=
  s.peers.countP fun p =>
    isSeen (fun t => s.ago thresholds.onlineSeconds < t) (p, router) && router.id = p.routerId

/-- No attempt has written yet whether the statistics of a router can be read. -/
def NeverRead (id : String) : Prop :=
  ∀ a ∈ s.attempts id, a.writesStats = false

instance (id : String) : Decidable (s.NeverRead id) := by
  unfold NeverRead
  infer_instance

variable {thresholds s}

/-- How a handshake at `t` is listed. -/
def seenAs (thresholds : StatusThresholds) (now t : ℤ) : PeerStatus :=
  if now - thresholds.onlineSeconds * 1000 < t then .online
  else if now - thresholds.recentSeconds * 1000 < t then .recent
  else .offline

section Listed

variable {now : ℤ} {stats : StatsPollStatus} {peer : PeerRow} {status : PeerStatus}

theorem listedStatus_of_isActive (h : peer.isActive = true) :
    listedStatus thresholds now stats peer =
      if stats = .unreachable then .routerUnreachable
      else (peer.presence.lastHandshakeAt.map (seenAs thresholds now)).getD .never := by
  obtain ⟨hexpired, hquota, hdisabled, hremote⟩ := PeerRow.isActive_iff.1 h
  cases hseen : peer.presence.lastHandshakeAt <;>
    simp [listedStatus, seenAs, hexpired, hquota, hdisabled, hremote, hseen]

/-- Only an active peer is listed with a status that depends on its router. -/
theorem listedStatus_eq_iff (hexpired : status ≠ .expired) (hquota : status ≠ .trafficLimitReached)
    (hdisabled : status ≠ .disabled) :
    listedStatus thresholds now stats peer = status ↔ peer.isActive = true ∧
      (if stats = .unreachable then .routerUnreachable
        else (peer.presence.lastHandshakeAt.map (seenAs thresholds now)).getD .never) = status := by
  cases hactive : peer.isActive with
  | true => rw [listedStatus_of_isActive hactive]; simp
  | false =>
    refine iff_of_false (fun hlisted => ?_) (by simp)
    unfold listedStatus at hlisted
    split_ifs at hlisted with hexpired' hquota' hdisabled'
    · exact hexpired hlisted.symm
    · exact hquota hlisted.symm
    · exact hdisabled hlisted.symm
    all_goals
      have hyes := PeerRow.isActive_iff.2 ⟨by simpa using hexpired', by simpa using hquota',
        by simpa using hdisabled'⟩
      exact absurd hyes (by simp [hactive])

theorem listedStatus_eq_expired_iff :
    listedStatus thresholds now stats peer = .expired ↔ peer.expired = true := by
  grind [listedStatus]

theorem listedStatus_eq_disabled_iff :
    listedStatus thresholds now stats peer = .disabled ↔
      (peer.disabled || peer.presence.remoteDisabled.getD false) = true ∧ peer.expired = false ∧
        peer.accounting.quotaReachedAt = none := by
  grind [listedStatus, Option.not_isSome_iff_eq_none]

theorem listedStatus_eq_never_iff :
    listedStatus thresholds now stats peer = .never ↔
      peer.isActive = true ∧ stats ≠ .unreachable ∧ peer.presence.lastHandshakeAt = none := by
  grind [listedStatus, PeerRow.isActive_iff, Option.not_isSome_iff_eq_none]

theorem listedStatus_eq_routerUnreachable_iff :
    listedStatus thresholds now stats peer = .routerUnreachable ↔
      peer.isActive = true ∧ stats = .unreachable := by
  grind [listedStatus, PeerRow.isActive_iff, Option.not_isSome_iff_eq_none]

end Listed

theorem seenAs_online (t : ℤ) :
    decide (s.ago thresholds.onlineSeconds < t) = true ↔ seenAs thresholds s.now t = .online := by
  rw [seenAs, ago, decide_eq_true_eq]
  split_ifs <;> simp <;> omega

theorem seenAs_recent (t : ℤ) :
    (decide (t ≤ s.ago thresholds.onlineSeconds) && decide (s.ago thresholds.recentSeconds < t)) =
      true ↔ seenAs thresholds s.now t = .recent := by
  rw [seenAs, ago, ago, Bool.and_eq_true, decide_eq_true_eq, decide_eq_true_eq]
  split_ifs <;> simp <;> omega

/-- The tiles overlap if the thresholds are not in order. -/
theorem seenAs_offline (h : thresholds.onlineSeconds ≤ thresholds.recentSeconds) (t : ℤ) :
    decide (t ≤ s.ago thresholds.recentSeconds) = true ↔
      seenAs thresholds s.now t = .offline := by
  rw [seenAs, ago, decide_eq_true_eq]
  split_ifs <;> simp <;> omega

/-- A tile counts the peers of the list that have been seen in its time, and whose router is
    known to be reachable. -/
theorem isSeen_iff {now : ℤ} {status : PeerStatus} (hstatus : status.IsPresence) {test : ℤ → Bool}
    (htest : ∀ t, test t = true ↔ seenAs thresholds now t = status)
    (row : PeerRow × RouterHealthRow) : isSeen test row = true ↔
      listedStatus thresholds now row.2.statsPollStatus row.1 = status ∧
        row.2.statsPollStatus ≠ .unknown := by
  rw [listedStatus_eq_iff (by rintro rfl; exact hstatus) (by rintro rfl; exact hstatus)
    (by rintro rfl; exact hstatus)]
  cases hstats : row.2.statsPollStatus with
  | unknown => simp [isSeen, hstats]
  | unreachable =>
    refine iff_of_false (by simp [isSeen, hstats]) ?_
    rintro ⟨⟨-, rfl⟩, -⟩
    exact hstatus
  | reachable =>
    cases hseen : row.1.presence.lastHandshakeAt with
    | none =>
      refine iff_of_false (by simp [isSeen, hseen]) ?_
      rintro ⟨⟨-, rfl⟩, -⟩
      exact hstatus
    | some t => simp [isSeen, hstats, hseen, htest]

/-- The statistics of a router are unknown just if nobody has tried to read them. -/
theorem Sound.unknown_iff_neverRead (h : s.Sound) {row : RouterHealthRow} (hrow : row ∈ s.routers) :
    row.statsPollStatus = .unknown ↔ s.NeverRead row.id := by
  rw [(h.reports row hrow).stats, NeverRead]
  cases hread : (s.attempts row.id).find? RouterAttempt.writesStats with
  | none => simpa using hread
  | some a =>
    refine iff_of_false (by cases hfailed : a.failed <;> simp [hfailed]) fun hnever => ?_
    have hwrites := List.find?_some hread
    rw [hnever a (List.mem_of_find?_eq_some hread)] at hwrites
    exact absurd hwrites (by simp)

/-- The peers of the list with a status, except those of routers that have never been
    read. -/
theorem Sound.countP_isSeen_add (h : s.Sound) {status : PeerStatus} (hstatus : status.IsPresence)
    {test : ℤ → Bool} (htest : ∀ t, test t = true ↔ seenAs thresholds s.now t = status) :
    s.joined.countP (isSeen test) +
        s.joined.countP (fun row =>
          listedStatus thresholds s.now row.2.statsPollStatus row.1 = status &&
            (status.IsPresence && s.NeverRead row.2.id)) =
      s.listedCount thresholds status := by
  rw [decide_eq_true hstatus, listedCount, List.countP_eq_countP_filter_add s.joined
    (fun row => listedStatus thresholds s.now row.2.statsPollStatus row.1 = status)
    fun row => !decide (s.NeverRead row.2.id), List.countP_filter, List.countP_filter]
  congr 1
  · refine List.countP_congr fun row hrow => ?_
    obtain ⟨-, hrouter, -⟩ := mem_join.1 hrow
    rw [isSeen_iff hstatus htest, ne_eq, h.unknown_iff_neverRead hrouter]
    simp
  · simp

/-- No other status depends on whether a router has been read. -/
theorem countP_add_of_not_isPresence {status : PeerStatus} (hstatus : ¬ status.IsPresence)
    {n : ℕ} (h : n = s.listedCount thresholds status) :
    n + s.joined.countP (fun row =>
        listedStatus thresholds s.now row.2.statsPollStatus row.1 = status &&
          (status.IsPresence && s.NeverRead row.2.id)) =
      s.listedCount thresholds status := by
  rw [decide_eq_false hstatus, h]
  simp

end RouterRounds

open RouterRounds in
/-- A tile of the dashboard, but for that of the peers blocked for their quota, counts the
    peers of the list that it leads to, except, on the tiles that say when a peer has been seen,
    those of routers of which no attempt has written that yet. The cards of the routers add up
    to the tile of the online peers. A peer that is neither disabled, expired nor over its quota
    is listed under an unreachable router just if the last attempt that has written whether the
    statistics of its router can be read has failed. -/
theorem dashboardCount_add {admits : RouterEvent → RouterRounds → Prop} {started : ℤ}
    {s : RouterRounds} (h : system.Reaches admits (start started) s)
    {thresholds : StatusThresholds}
    (hthresholds : thresholds.onlineSeconds ≤ thresholds.recentSeconds) :
    (∀ status, status ≠ .trafficLimitReached →
      s.dashboardCount thresholds status +
          s.joined.countP (fun row =>
            listedStatus thresholds s.now row.2.statsPollStatus row.1 = status &&
              (status.IsPresence && s.NeverRead row.2.id)) =
        s.listedCount thresholds status) ∧
    (s.routers.map (s.cardOnline thresholds)).sum = s.dashboardCount thresholds .online ∧
    ∀ row ∈ s.joined, row.1.isActive = true →
      (listedStatus thresholds s.now row.2.statsPollStatus row.1 = .routerUnreachable ↔
        ∃ a, (s.attempts row.2.id).find? RouterAttempt.writesStats = some a ∧ a.failed = true) := by
  have hsound : s.Sound := h.invariant (.start started) fun _ _ _ ht _ hstep => ht.step hstep
  have hpeers := countP_join_fst hsound.ids hsound.references
  refine ⟨fun status hstatus => ?_, ?_, fun row hrow hactive => ?_⟩
  · cases status with
    | trafficLimitReached => exact absurd rfl hstatus
    | online =>
      exact hsound.countP_isSeen_add (show PeerStatus.online.IsPresence from trivial) seenAs_online
    | recent =>
      exact hsound.countP_isSeen_add (show PeerStatus.recent.IsPresence from trivial) seenAs_recent
    | offline =>
      exact hsound.countP_isSeen_add (show PeerStatus.offline.IsPresence from trivial)
        (seenAs_offline hthresholds)
    | never =>
      refine countP_add_of_not_isPresence id (List.countP_congr fun row _ => ?_)
      rw [decide_eq_true_eq, listedStatus_eq_never_iff]
      simp [and_assoc]
    | routerUnreachable =>
      refine countP_add_of_not_isPresence id (List.countP_congr fun row _ => ?_)
      rw [decide_eq_true_eq, listedStatus_eq_routerUnreachable_iff]
      simp
    | disabled =>
      refine countP_add_of_not_isPresence id
        ((hpeers _).symm.trans (List.countP_congr fun row _ => ?_))
      rw [decide_eq_true_eq, listedStatus_eq_disabled_iff]
      simp [and_assoc]
    | expired =>
      refine countP_add_of_not_isPresence id
        ((hpeers _).symm.trans (List.countP_congr fun row _ => ?_))
      rw [decide_eq_true_eq, listedStatus_eq_expired_iff]
  · exact sum_countP_join _
  · obtain ⟨-, hrouter, -⟩ := mem_join.1 hrow
    have hreports := hsound.reports row.2 hrouter
    rw [listedStatus_eq_routerUnreachable_iff, hreports.stats]
    cases hread : (s.attempts row.2.id).find? RouterAttempt.writesStats with
    | none => simp
    | some a => cases hfailed : a.failed <;> simp [hactive, hfailed]

/-- A peer of a router that has been created, but not synchronised. -/
def unreadEvents : List RouterEvent :=
  [.create "r1" "Office" true, .changePeers [greetedPeer], .wait 1000]

open RouterRounds in
/-- The list shows the peer as online, the dashboard does not count it. -/
theorem dashboardCount_add_unread : ∃ s ∈ System.run next unreadEvents (start 0),
    s.dashboardCount ⟨180, 900⟩ .online + 1 = s.listedCount ⟨180, 900⟩ .online := by
  have hreach : system.Reaches (fun _ _ => True) (start 0) _ :=
    System.reaches_of_run (fun _ _ _ => trivial) (rfl : System.run next unreadEvents _ = some _)
  exact ⟨_, rfl, (dashboardCount_add hreach (by decide)).1 .online (by decide)⟩

end WireguardPanel
