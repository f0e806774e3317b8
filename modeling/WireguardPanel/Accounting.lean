import WireguardPanel.Peer
import Mathlib.Tactic.Linarith

/-!
# Traffic accounting

A traffic poll reads the byte counters of a peer on its router and adds the
traffic since the previous reading to the totals of the peer.

* `recordObservation`: the transaction of a poll.
* `storeQuotaState`: the statement that records that a poll has disabled or
  enabled a peer for its quota.
* `recordObservation_ok`: what a poll that commits leaves.
-/

namespace WireguardPanel

open Foundation

/-! ## Observations -/

/-- `Observation`. -/
structure Observation where
  peer : PeerRow
  used : ℤ
  limit : Option ℤ
  rolled : Bool
  previousUsed : ℤ

/-- The quota period in which a poll counts the traffic. -/
structure CountedPeriod where
  rx : ℤ
  tx : ℤ
  start : Option ℤ
  stop : Option ℤ
  rolled : Bool

/-- `archivePeriod`. -/
def archivePeriod (peer : PeerRow) (reason : ResetReason) (endedAt : ℤ) : Tx Unit :=
  match peer.accounting.quotaPeriod, peer.accounting.quotaPeriodStartedAt with
  | some _, some startedAt => Tx.insertHistory peer startedAt endedAt reason
  | _, _ => pure ()

/-- `GREATEST(COALESCE(old, new), new)` if the handshake could be read. -/
def latestHandshake (valid : Bool) (old new : Option ℤ) : Option ℤ :=
  match new with
  | some t => if valid then some (max (old.getD t) t) else old
  | none => old

/-- A peer counts as online when its last handshake is recent. -/
def consideredOnline (remote : RemoteWireGuardPeer) (onlineSeconds now : ℤ) : Bool :=
  remote.lastHandshakeAt.any fun t => decide (now - t ≤ onlineSeconds * 1000)

/-- The columns that a poll sets. -/
def recordColumns (remote : RemoteWireGuardPeer) (onlineSeconds now : ℤ) (period : CountedPeriod)
    (lifetimeRx lifetimeTx : ℤ) (reached : Bool) (p : PeerRow) : PeerRow :=
  { p with
    accounting := { p.accounting with
      rxBytes := remote.rxBytes
      txBytes := remote.txBytes
      lastObservedRxBytes := some remote.rxBytes
      lastObservedTxBytes := some remote.txBytes
      periodRxBytes := period.rx
      periodTxBytes := period.tx
      lifetimeRxBytes := lifetimeRx
      lifetimeTxBytes := lifetimeTx
      quotaPeriodStartedAt := period.start
      quotaPeriodEndsAt := period.stop
      quotaReachedAt :=
        if reached then some (p.accounting.quotaReachedAt.getD now)
        else if period.rolled then none else p.accounting.quotaReachedAt
      quotaUsageWhenDisabled :=
        if period.rolled then none else p.accounting.quotaUsageWhenDisabled
      quotaBypassUntil := if period.rolled then none else p.accounting.quotaBypassUntil }
    presence := { p.presence with
      lastHandshakeAt := latestHandshake remote.lastHandshakeParseValid p.presence.lastHandshakeAt
        remote.lastHandshakeAt
      lastSeenAt := latestHandshake remote.lastHandshakeParseValid p.presence.lastSeenAt
        remote.lastHandshakeAt
      lastOnlineAt :=
        if consideredOnline remote onlineSeconds now then some now else p.presence.lastOnlineAt
      lastStatisticsPollAt := some now
      lastHandshakeRaw := remote.lastHandshakeRaw
      lastHandshakeParseValid := remote.lastHandshakeParseValid
      remoteDisabled := some remote.disabled } }

section Platform

variable (P : Platform)

/-- The part of `recordObservation` that begins a new quota period. -/
def beginPeriod (peer : PeerRow) (expected : QuotaWindow) (now : ℤ) : Tx CountedPeriod := do
  archivePeriod peer .scheduled (peer.accounting.quotaPeriodEndsAt.getD now)
  Tx.insertAudit "peer_quota_period_reset" peer.id
  return { rx := 0, tx := 0, start := some expected.start, stop := expected.stop, rolled := true }

/-- The part of `recordObservation` that finds the period to count in. It
    archives a period that has begun, which `archivePeriod` checks again. -/
def rollPeriod (peer : PeerRow) (policy : QuotaPolicy) (now : ℤ) : Tx CountedPeriod :=
  let columns := peer.accounting
  let kept : CountedPeriod := {
    rx := columns.periodRxBytes, tx := columns.periodTxBytes, start := columns.quotaPeriodStartedAt
    stop := columns.quotaPeriodEndsAt, rolled := false }
  match columns.quotaLimitBytes, columns.quotaPeriod with
  | some _, some period => do
    let expected ← Tx.ofExcept (quotaPeriodWindow P now period policy)
    if period = .oneTime then
      return { kept with
        start := some (columns.quotaPeriodStartedAt.getD expected.start), stop := none }
    else if columns.quotaPeriodStartedAt = none ∨
        columns.quotaPeriodEndsAt.all (fun stop => decide (stop ≤ now)) = true then
      beginPeriod peer expected now
    else
      return kept
  | _, _ => return kept

/-- The row of a peer with the time of its last snapshot. -/
def stampSnapshot (now : ℤ) (p : PeerRow) : PeerRow :=
  { p with accounting := { p.accounting with lastTrafficSnapshotAt := some now } }

/-- The part of `recordObservation` that stores a snapshot if the last one is
    old enough. -/
def storeSnapshot (last : Option ℤ) (sampleSeconds : ℤ) (row : SnapshotRow) : Tx Unit :=
  if sampleSeconds * 1000 ≤ row.capturedAt - last.getD 0 then do
    Tx.insertSnapshot row
    Tx.updatePeer row.peerId (stampSnapshot row.capturedAt)
  else
    pure ()

/-- What a poll has worked out when it updates the row of a peer. -/
structure Counted where
  peer : PeerRow
  remote : RemoteWireGuardPeer
  onlineSeconds : ℤ
  now : ℤ
  /-- The period that the traffic is counted in, before it is. -/
  rolled : CountedPeriod

namespace Counted

variable (c : Counted)

def deltaRx : ℤ := counterDelta c.peer.accounting.lastObservedRxBytes c.remote.rxBytes

def deltaTx : ℤ := counterDelta c.peer.accounting.lastObservedTxBytes c.remote.txBytes

def period : CountedPeriod :=
  { c.rolled with rx := c.rolled.rx + c.deltaRx, tx := c.rolled.tx + c.deltaTx }

def lifetimeRx : ℤ := c.peer.accounting.lifetimeRxBytes + c.deltaRx

def lifetimeTx : ℤ := c.peer.accounting.lifetimeTxBytes + c.deltaTx

def used : ℤ := c.period.rx + c.period.tx

def reached : Bool :=
  (nonZero c.peer.accounting.quotaLimitBytes).any fun limit => decide (limit ≤ c.used)

/-- The update of the row. -/
def record : PeerRow → PeerRow :=
  recordColumns c.remote c.onlineSeconds c.now c.period c.lifetimeRx c.lifetimeTx c.reached

/-- The snapshot that is stored if it is time for one. -/
def snapshot : SnapshotRow where
  peerId := c.peer.id
  rxBytes := c.remote.rxBytes
  txBytes := c.remote.txBytes
  lastHandshakeAt := c.remote.lastHandshakeAt
  capturedAt := c.now
  deltaRxBytes := c.deltaRx
  deltaTxBytes := c.deltaTx
  lifetimeRxBytes := c.lifetimeRx
  lifetimeTxBytes := c.lifetimeTx
  periodRxBytes := c.period.rx
  periodTxBytes := c.period.tx
  quotaPeriodStartedAt := c.period.start

/-- What the poll returns. -/
def observation : Observation where
  peer := c.record c.peer
  used := c.used
  limit := c.peer.accounting.quotaLimitBytes
  rolled := c.period.rolled
  previousUsed := c.peer.accounting.periodRxBytes + c.peer.accounting.periodTxBytes

end Counted

/-- `recordObservation`. -/
def recordObservation (peerId : String) (remote : RemoteWireGuardPeer) (policy : QuotaPolicy)
    (onlineSeconds sampleSeconds now : ℤ) : Tx Observation := do
  let db ← get
  let peer ← Tx.orThrow (db.peer peerId) (.error "Peer disappeared during traffic accounting.")
  let rolled ← rollPeriod P peer policy now
  let counted : Counted := { peer, remote, onlineSeconds, now, rolled }
  Tx.updatePeer peer.id counted.record
  storeSnapshot peer.accounting.lastTrafficSnapshotAt sampleSeconds counted.snapshot
  return counted.observation

/-- The columns that `setRemoteQuotaState` sets, with the peer as it was observed. -/
def quotaColumns (disabled : Bool) (used : Option ℤ) (observed : RemoteWireGuardPeer)
    (p : PeerRow) : PeerRow :=
  { p with
    disabled
    disabledReason := if disabled then some .quota else none
    accounting := { p.accounting with
      quotaUsageWhenDisabled := if disabled then used else none
      quotaBypassUntil := if disabled then none else p.accounting.quotaBypassUntil }
    remoteFingerprint := some (remotePeerFingerprint P observed)
    lastRemoteState := some observed
    conflictType := none }

/-- The statement of `setRemoteQuotaState`. -/
def storeQuotaState (peerId : String) (disabled : Bool) (used : Option ℤ)
    (observed : RemoteWireGuardPeer) : Tx Unit :=
  Tx.updatePeer peerId (quotaColumns P disabled used observed)

/-! ## What a poll does -/

variable {P} {db db' : Database} {peer : PeerRow} {policy : QuotaPolicy} {now : ℤ} {u : Unit}

/-- The row of the history that keeps the present period of a peer. -/
def IsArchiveOf (peer : PeerRow) (h : HistoryRow) : Prop :=
  h.peerId = peer.id ∧ h.rxBytes = peer.accounting.periodRxBytes ∧
    h.txBytes = peer.accounting.periodTxBytes

theorem insertHistory_ok {startedAt endedAt : ℤ} {reason : ResetReason}
    (h : Tx.insertHistory peer startedAt endedAt reason db = .ok (u, db')) :
    ∃ row, db' = { db with history := db.history ++ [row] } ∧ IsArchiveOf peer row := by
  unfold Tx.insertHistory at h
  split at h
  · exact absurd h nofun
  · split at h
    · exact absurd h nofun
    · cases h
      exact ⟨_, rfl, rfl, rfl, rfl⟩

/-- What finding the period of a poll does to what has been counted: it stays,
    or it is archived if the period had begun, and the count begins anew. -/
inductive Counts (peer : PeerRow) (period : CountedPeriod) (old : List HistoryRow) :
    List HistoryRow → Prop
  | kept (hrolled : period.rolled = false) (hrx : period.rx = peer.accounting.periodRxBytes)
      (htx : period.tx = peer.accounting.periodTxBytes) : Counts peer period old old
  | dropped (hrolled : period.rolled = true) (hrx : period.rx = 0) (htx : period.tx = 0)
      (hstart : peer.accounting.quotaPeriodStartedAt = none) : Counts peer period old old
  | archived (hrolled : period.rolled = true) (hrx : period.rx = 0) (htx : period.tx = 0)
      (row : HistoryRow) (hrow : IsArchiveOf peer row) : Counts peer period old (old ++ [row])

theorem beginPeriod_ok {expected : QuotaWindow} {period : CountedPeriod}
    (hquota : peer.accounting.quotaPeriod.isSome = true)
    (h : beginPeriod peer expected now db = .ok (period, db')) :
    ∃ history audits, db' = { db with history, audits } ∧
      Counts peer period db.history history := by
  obtain ⟨quotaPeriod, hquota⟩ := Option.isSome_iff_exists.1 hquota
  obtain ⟨_, db₁, harchive, h⟩ := Tx.bind_eq_ok.1 h
  obtain ⟨_, db₂, haudit, h⟩ := Tx.bind_eq_ok.1 h
  obtain ⟨rfl, rfl⟩ := Tx.pure_eq_ok.1 h
  rw [Tx.insertAudit_ok haudit]
  cases hstart : peer.accounting.quotaPeriodStartedAt with
  | none =>
    simp only [archivePeriod, hquota, hstart] at harchive
    obtain ⟨-, rfl⟩ := Tx.pure_eq_ok.1 harchive
    exact ⟨_, _, rfl, .dropped rfl rfl rfl hstart⟩
  | some startedAt =>
    simp only [archivePeriod, hquota, hstart] at harchive
    obtain ⟨row, rfl, hrow⟩ := insertHistory_ok harchive
    exact ⟨_, _, rfl, .archived rfl rfl rfl row hrow⟩

theorem rollPeriod_ok {period : CountedPeriod}
    (h : rollPeriod P peer policy now db = .ok (period, db')) :
    ∃ history audits, db' = { db with history, audits } ∧
      Counts peer period db.history history := by
  have hkept : ∀ start stop, (pure ⟨peer.accounting.periodRxBytes, peer.accounting.periodTxBytes,
      start, stop, false⟩ : Tx CountedPeriod) db = .ok (period, db') →
      ∃ history audits, db' = { db with history, audits } ∧
        Counts peer period db.history history := fun _ _ h => by
    obtain ⟨rfl, rfl⟩ := Tx.pure_eq_ok.1 h
    exact ⟨db.history, db.audits, rfl, .kept rfl rfl rfl⟩
  cases hlimit : peer.accounting.quotaLimitBytes with
  | none => exact hkept _ _ (by simpa only [rollPeriod, hlimit] using h)
  | some limit =>
    cases hperiod : peer.accounting.quotaPeriod with
    | none => exact hkept _ _ (by simpa only [rollPeriod, hlimit, hperiod] using h)
    | some quotaPeriod =>
      simp only [rollPeriod, hlimit, hperiod] at h
      obtain ⟨expected, -, h⟩ := Tx.ofExcept_bind_ok.1 h
      split_ifs at h
      · exact hkept _ _ h
      · exact beginPeriod_ok (by rw [hperiod]; rfl) h
      · exact hkept _ _ h

/-- What storing a snapshot changes: nothing if the last one is recent, else
    the snapshot is appended and its time is noted in the row of the peer. -/
theorem storeSnapshot_ok {last : Option ℤ} {sampleSeconds : ℤ} {row : SnapshotRow}
    (h : storeSnapshot last sampleSeconds row db = .ok (u, db')) :
    (¬sampleSeconds * 1000 ≤ row.capturedAt - last.getD 0 ∧ db' = db) ∨
      (sampleSeconds * 1000 ≤ row.capturedAt - last.getD 0 ∧
        Tx.updatePeer row.peerId (stampSnapshot row.capturedAt)
          { db with snapshots := db.snapshots ++ [row] } = .ok (u, db')) := by
  unfold storeSnapshot at h
  split_ifs at h with hdue
  · obtain ⟨_, db₁, hinsert, h⟩ := Tx.bind_eq_ok.1 h
    rw [Tx.insertSnapshot_ok hinsert] at h
    exact .inr ⟨hdue, h⟩
  · exact .inl ⟨hdue, (Tx.pure_eq_ok.1 h).2.symm⟩

/-- It is time for a snapshot. -/
def Counted.Due (c : Counted) (sampleSeconds : ℤ) : Prop :=
  sampleSeconds * 1000 ≤ c.now - c.peer.accounting.lastTrafficSnapshotAt.getD 0

instance (c : Counted) (sampleSeconds : ℤ) : Decidable (c.Due sampleSeconds) :=
  inferInstanceAs (Decidable (_ ≤ _))

/-- The row of a peer after a poll. -/
def Counted.stored (c : Counted) (sampleSeconds : ℤ) : PeerRow :=
  if c.Due sampleSeconds then stampSnapshot c.now (c.record c.peer) else c.record c.peer

theorem Counted.lifetimes_stored (c : Counted) (sampleSeconds : ℤ) :
    (c.stored sampleSeconds).accounting.lifetimeRxBytes = c.lifetimeRx ∧
      (c.stored sampleSeconds).accounting.lifetimeTxBytes = c.lifetimeTx := by
  unfold Counted.stored
  split_ifs <;> exact ⟨rfl, rfl⟩

/-- A poll that succeeds has counted the traffic of the row it has locked. It
    changes no other row of `peers`, and stores a snapshot when it is time. -/
theorem recordObservation_ok {peerId : String} {remote : RemoteWireGuardPeer}
    {onlineSeconds sampleSeconds : ℤ} {result : Observation}
    (h : recordObservation P peerId remote policy onlineSeconds sampleSeconds now db
      = .ok (result, db')) :
    ∃ c : Counted, result = c.observation ∧ c.remote = remote ∧ c.now = now ∧
      db.peer peerId = some c.peer ∧
      (∃ db₁, rollPeriod P c.peer policy now db = .ok (c.rolled, db₁)) ∧
      db'.settings = db.settings ∧ Counts c.peer c.rolled db.history db'.history ∧
      db'.snapshots = db.snapshots ++ (if c.Due sampleSeconds then [c.snapshot] else []) ∧
      ∀ other, db'.peer other =
        if other = peerId then some (c.stored sampleSeconds) else db.peer other := by
  rw [recordObservation, Tx.get_bind] at h
  obtain ⟨peer, hpeer, h⟩ := Tx.orThrow_bind_ok.1 h
  obtain ⟨rolled, db₁, hroll, h⟩ := Tx.bind_eq_ok.1 h
  obtain ⟨history, audits, rfl, hcounts⟩ := rollPeriod_ok hroll
  obtain ⟨_, db₂, hupdate, h⟩ := Tx.bind_eq_ok.1 h
  obtain ⟨_, db₃, hstore, h⟩ := Tx.bind_eq_ok.1 h
  obtain ⟨rfl, rfl⟩ := Tx.pure_eq_ok.1 h
  set c : Counted := { peer, remote, onlineSeconds, now, rolled }
  have hid : peer.id = peerId := (Database.peer_spec hpeer).2
  have hrecord := Tx.peer_updatePeer (f := c.record) (fun _ => rfl) hupdate
  obtain ⟨peers, rfl, -⟩ := Tx.updatePeer_ok hupdate
  have hlookup : ∀ other, ({ db with peers, history, audits } : Database).peer other =
      if other = peerId then some (c.record c.peer) else db.peer other := fun other => by
    rw [hrecord, hid]
    change (if other = peerId then (db.peer other).map _ else db.peer other) = _
    split_ifs with hother
    · rw [hother, hpeer, Option.map_some]
    · rfl
  refine ⟨c, rfl, rfl, rfl, hpeer, ⟨_, hroll⟩, ?_⟩
  rcases storeSnapshot_ok hstore with ⟨hdue, rfl⟩ | ⟨hdue, hstamp⟩
  · have hnot : ¬c.Due sampleSeconds := hdue
    refine ⟨rfl, hcounts, by simp [hnot], fun other => ?_⟩
    rw [hlookup, Counted.stored, if_neg hnot]
  · have hyes : c.Due sampleSeconds := hdue
    have hstamped := Tx.peer_updatePeer (f := stampSnapshot c.now) (fun _ => rfl) hstamp
    obtain ⟨peers', rfl, -⟩ := Tx.updatePeer_ok hstamp
    refine ⟨rfl, hcounts, by simp [hyes], fun other => ?_⟩
    rw [hstamped]
    change (if other = peer.id then Option.map _ (({ db with peers, history, audits } :
      Database).peer other) else ({ db with peers, history, audits } : Database).peer other) = _
    rw [hlookup, hid, Counted.stored, if_pos hyes]
    split_ifs <;> rfl

end Platform

end WireguardPanel
