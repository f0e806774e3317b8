import WireguardPanel.Accounting
import WireguardPanel.Foundation.Meter

/-!
# The traffic between snapshots

The totals of a peer are a meter that every poll reads. Only the readings at
which a snapshot is due are kept, each with the traffic since the last poll.

* `Event.run`: the database after a run of polls and of the changes that the
  enforcement of quotas makes in between.
* `readings`: what the polls of one peer have read and stored in such a run.
* `delta_eq_growth_iff`: when the traffic that is stored with a snapshot is all
  traffic since the snapshot before.
-/

namespace WireguardPanel

open Foundation

/-! ## Runs -/

/-- A poll of a peer: what its router has shown, and the settings. -/
structure Poll where
  peerId : String
  remote : RemoteWireGuardPeer
  policy : QuotaPolicy
  onlineSeconds : ℤ
  rawTrafficSampleSeconds : ℤ
  now : ℤ

/-- The steps of polling: the observation of a peer, and what its enforcement
    stores after it has changed the router. -/
inductive Event
  | observe (poll : Poll)
  | enforce (peerId : String) (disabled : Bool) (used : Option ℤ) (observed : RemoteWireGuardPeer)

section Platform

variable (P : Platform)

/-- The transaction of a poll. -/
def Poll.record (poll : Poll) : Tx Observation :=
  recordObservation P poll.peerId poll.remote poll.policy poll.onlineSeconds
    poll.rawTrafficSampleSeconds poll.now

/-- The database after a step. -/
def Event.next (db : Database) : Event → Database
  | .observe poll => (poll.record P).after db
  | .enforce peerId disabled used observed =>
    (storeQuotaState P peerId disabled used observed).after db

/-- The database after a run. -/
def Event.run (events : List Event) (db : Database) : Database := events.foldl (Event.next P) db

/-- The snapshots of a peer, in the order in which they were stored. -/
def Database.snapshotsOf (db : Database) (id : String) : List SnapshotRow :=
  db.snapshots.filter fun s => s.peerId = id

/-- What a poll has read: by how much the counters have grown, the totals after
    it, and the snapshot that it has stored, if any. -/
structure Reading where
  rx : ℤ
  tx : ℤ
  lifetimeRx : ℤ
  lifetimeTx : ℤ
  snapshot : Option SnapshotRow
  deriving DecidableEq

/-- The traffic of a reading that is stored with no snapshot. -/
def Reading.lost (r : Reading) : ℤ × ℤ := if r.snapshot = none then (r.rx, r.tx) else (0, 0)

/-- What a poll of the peer `id` reads. A poll that throws reads nothing. -/
def Poll.reading (poll : Poll) (id : String) (db : Database) : Option Reading :=
  match db.peer id, poll.record P db with
  | some peer, .ok (_, db') =>
    let rx := counterDelta peer.accounting.lastObservedRxBytes poll.remote.rxBytes
    let tx := counterDelta peer.accounting.lastObservedTxBytes poll.remote.txBytes
    if poll.peerId = id then
      some { rx, tx, lifetimeRx := peer.accounting.lifetimeRxBytes + rx
             lifetimeTx := peer.accounting.lifetimeTxBytes + tx
             snapshot := (db'.snapshots.drop db.snapshots.length).head? }
    else none
  | _, _ => none

/-- What a step reads of the peer `id`. -/
def Event.reading (id : String) (db : Database) : Event → Option Reading
  | .observe poll => poll.reading P id db
  | .enforce .. => none

/-- What the polls of the peer `id` read in a run. -/
def readings (id : String) : List Event → Database → List Reading
  | [], _ => []
  | e :: events, db => (e.reading P id db).toList ++ readings id events (e.next P db)

/-! ## A step -/

/-- The totals of a peer. -/
def Database.lifetimes (db : Database) (id : String) : Option (ℤ × ℤ) :=
  (db.peer id).map fun p => (p.accounting.lifetimeRxBytes, p.accounting.lifetimeTxBytes)

/-- What a step does to the totals and the snapshots of the peer `id`, next to
    what it reads. -/
inductive Metered (id : String) (db db' : Database) : Option Reading → Prop
  | quiet (htotal : db'.lifetimes id = db.lifetimes id)
      (hsnapshots : db'.snapshotsOf id = db.snapshotsOf id) : Metered id db db' none
  | read (r : Reading) (rx tx : ℤ) (hrx : 0 ≤ r.rx) (htx : 0 ≤ r.tx)
      (hbefore : db.lifetimes id = some (rx, tx))
      (htotal : r.lifetimeRx = rx + r.rx ∧ r.lifetimeTx = tx + r.tx)
      (hafter : db'.lifetimes id = some (r.lifetimeRx, r.lifetimeTx))
      (hsnapshots : db'.snapshotsOf id = db.snapshotsOf id ++ r.snapshot.toList)
      (hsnapshot : ∀ a ∈ r.snapshot, a.deltaRxBytes = r.rx ∧ a.deltaTxBytes = r.tx ∧
        a.lifetimeRxBytes = r.lifetimeRx ∧ a.lifetimeTxBytes = r.lifetimeTx) :
      Metered id db db' (some r)

variable {P} {id : String} {db : Database}

theorem Database.snapshotsOf_append {id : String} {db db' : Database} {rows : List SnapshotRow}
    (h : db'.snapshots = db.snapshots ++ rows) :
    db'.snapshotsOf id = db.snapshotsOf id ++ rows.filter fun s => s.peerId = id := by
  rw [snapshotsOf, h, List.filter_append]
  rfl

theorem Poll.metered (poll : Poll) :
    Metered id db ((poll.record P).after db) (poll.reading P id db) := by
  unfold Tx.after Poll.reading
  cases hrecord : poll.record P db with
  | error e =>
    cases db.peer id <;> exact .quiet rfl rfl
  | ok result =>
    obtain ⟨observation, db'⟩ := result
    obtain ⟨c, -, hremote, -, hpeer, -, -, -, hsnapshots, hrows⟩ := recordObservation_ok hrecord
    have hid : c.peer.id = poll.peerId := (Database.peer_spec hpeer).2
    by_cases hother : poll.peerId = id
    · subst hother
      have hafter : db'.lifetimes poll.peerId = some (c.lifetimeRx, c.lifetimeTx) := by
        rw [Database.lifetimes, hrows, if_pos rfl, Option.map_some]
        simp only [c.lifetimes_stored]
      rw [hpeer, ← hremote]
      simp only [if_true, hsnapshots, List.drop_left]
      refine .read _ c.peer.accounting.lifetimeRxBytes c.peer.accounting.lifetimeTxBytes
        (counterDelta_nonneg _ _) (counterDelta_nonneg _ _) (by rw [Database.lifetimes, hpeer]; rfl)
        ⟨rfl, rfl⟩ hafter ?_ ?_
      · rw [Database.snapshotsOf_append hsnapshots]
        split_ifs <;> simp [Counted.snapshot, hid]
      · intro a ha
        split_ifs at ha
        · cases ha
          exact ⟨rfl, rfl, rfl, rfl⟩
        · cases ha
    · have hquiet : Metered id db db' none := by
        refine .quiet ?_ ?_
        · rw [Database.lifetimes, hrows, if_neg (Ne.symm hother)]
          rfl
        · rw [Database.snapshotsOf_append hsnapshots]
          split_ifs <;> simp [Counted.snapshot, hid, hother]
      cases db.peer id <;> simpa [hother] using hquiet

theorem metered_enforce (peerId : String) (disabled : Bool) (used : Option ℤ)
    (observed : RemoteWireGuardPeer) :
    Metered id db ((storeQuotaState P peerId disabled used observed).after db) none := by
  unfold Tx.after
  cases hstore : storeQuotaState P peerId disabled used observed db with
  | error e => exact .quiet rfl rfl
  | ok result =>
    obtain ⟨u, db'⟩ := result
    have hrows :=
      Tx.peer_updatePeer (f := quotaColumns P disabled used observed) (fun _ => rfl) hstore
    obtain ⟨peers, rfl, -⟩ := Tx.updatePeer_ok hstore
    refine .quiet ?_ rfl
    rw [Database.lifetimes, hrows]
    split_ifs
    · rw [Option.map_map]
      rfl
    · rfl

/-- Every step of polling meters the peer `id`. -/
theorem Event.metered (e : Event) (id : String) (db : Database) :
    Metered id db (e.next P db) (e.reading P id db) := by
  cases e with
  | observe poll => exact poll.metered
  | enforce peerId disabled used observed => exact metered_enforce peerId disabled used observed

/-! ## A run -/

/-- The second reading continues the totals of the first. -/
def Reading.Continues (r s : Reading) : Prop :=
  Meter.Continues Reading.rx Reading.lifetimeRx r s ∧
    Meter.Continues Reading.tx Reading.lifetimeTx r s

/-- What is true of every reading of a run. -/
theorem readings_mem {events : List Event} {r : Reading} (h : r ∈ readings P id events db) :
    0 ≤ r.rx ∧ 0 ≤ r.tx ∧ ∀ a ∈ r.snapshot, a.deltaRxBytes = r.rx ∧ a.deltaTxBytes = r.tx ∧
      a.lifetimeRxBytes = r.lifetimeRx ∧ a.lifetimeTxBytes = r.lifetimeTx := by
  induction events generalizing db with
  | nil => cases h
  | cons e events ih =>
    rcases List.mem_append.1 h with h | h
    · have hstep := e.metered (P := P) id db
      rw [Option.mem_toList.1 h] at hstep
      cases hstep with
      | read _ _ _ hrx htx _ _ _ _ hsnapshot => exact ⟨hrx, htx, hsnapshot⟩
    · exact ih h

/-- The first reading of a run continues the totals of the peer. -/
theorem readings_head {events : List Event} {rx tx : ℤ} {r : Reading}
    (htotal : db.lifetimes id = some (rx, tx)) (h : r ∈ (readings P id events db).head?) :
    r.lifetimeRx = rx + r.rx ∧ r.lifetimeTx = tx + r.tx := by
  induction events generalizing db with
  | nil => cases h
  | cons e events ih =>
    have hstep := e.metered (P := P) id db
    unfold readings at h
    cases hread : e.reading P id db with
    | none =>
      rw [hread] at hstep h
      cases hstep with
      | quiet hsame _ => exact ih (hsame.trans htotal) h
    | some s =>
      rw [hread] at hstep h
      cases h
      cases hstep with
      | read _ _ _ _ _ hbefore hgrown _ _ _ =>
        cases hbefore.symm.trans htotal
        exact hgrown

/-- The readings of a run continue one another. -/
theorem readings_isChain (id : String) (events : List Event) (db : Database) :
    (readings P id events db).IsChain Reading.Continues := by
  induction events generalizing db with
  | nil => exact .nil
  | cons e events ih =>
    have hstep := e.metered (P := P) id db
    unfold readings
    cases hread : e.reading P id db with
    | none => exact ih _
    | some r =>
      refine List.isChain_cons.2 ⟨fun s hs => ?_, ih _⟩
      rw [hread] at hstep
      cases hstep with
      | read _ _ _ _ _ _ _ hafter _ _ => exact readings_head hafter hs

/-- Two consecutive snapshots `a` and `b` of a peer are stored by two of the
    readings of a run, between which none stores a snapshot. The traffic stored
    with `b` is the growth of the totals since `a` just when the polls in
    between have lost none. -/
theorem delta_eq_growth_iff (P : Platform) (id : String) (db : Database) (events : List Event)
    (before between after : List Reading) (r s : Reading) (a b : SnapshotRow)
    (hreadings : readings P id events db = before ++ r :: between ++ s :: after)
    (ha : r.snapshot = some a) (hb : s.snapshot = some b)
    (hbetween : ∀ t ∈ between, t.snapshot = none) :
    (b.deltaRxBytes = b.lifetimeRxBytes - a.lifetimeRxBytes ∧
        b.deltaTxBytes = b.lifetimeTxBytes - a.lifetimeTxBytes) ↔
      ∀ t ∈ between, t.lost = (0, 0) := by
  have hmem : ∀ t ∈ before ++ r :: between ++ s :: after, _ := fun t ht =>
    readings_mem (hreadings ▸ ht)
  obtain ⟨-, -, hr⟩ := hmem r (by simp)
  obtain ⟨-, -, hs⟩ := hmem s (by simp)
  obtain ⟨-, -, hrRx, hrTx⟩ := hr a ha
  obtain ⟨hbRx, hbTx, hsRx, hsTx⟩ := hs b hb
  have hchain : (r :: between ++ [s]).IsChain Reading.Continues := by
    have hrun := readings_isChain (P := P) id events db
    rw [hreadings] at hrun
    exact hrun.infix ⟨before, after, by simp⟩
  have hrx := Meter.growth_eq_sub_iff (hchain.imp fun _ _ h => h.1)
    fun t ht => (hmem t (by simp [ht])).1
  have htx := Meter.growth_eq_sub_iff (hchain.imp fun _ _ h => h.2)
    fun t ht => (hmem t (by simp [ht])).2.1
  rw [hbRx, hbTx, hrRx, hrTx, hsRx, hsTx, hrx, htx, ← forall₂_and]
  refine forall₂_congr fun t ht => ?_
  rw [Reading.lost, if_pos (hbetween t ht), Prod.mk.injEq]

end Platform

/-- A poll of the plain peer that finds `rx` received bytes. -/
def plainPoll (now rx : ℤ) : Event :=
  .observe {
    peerId := "p1", remote := { plainRemote with rxBytes := rx }
    policy := { timezone := "UTC", weekStartsOn := 1, monthlyResetDay := 1 }, onlineSeconds := 180
    rawTrafficSampleSeconds := 300, now }

/-- The snapshot that a poll of the plain peer stores. -/
def plainSnapshot (now rx delta lifetime : ℤ) : SnapshotRow where
  peerId := "p1"
  rxBytes := rx
  txBytes := 0
  lastHandshakeAt := none
  capturedAt := now
  deltaRxBytes := delta
  deltaTxBytes := 0
  lifetimeRxBytes := lifetime
  lifetimeTxBytes := 0
  periodRxBytes := lifetime
  periodTxBytes := 0
  quotaPeriodStartedAt := none

/-- While the peer is idle between two snapshots, nothing is lost. -/
theorem delta_eq_growth_idle :
    (plainSnapshot 600000 400 300 300).deltaRxBytes =
        (plainSnapshot 600000 400 300 300).lifetimeRxBytes -
          (plainSnapshot 300000 100 0 0).lifetimeRxBytes ∧
      (plainSnapshot 600000 400 300 300).deltaTxBytes =
        (plainSnapshot 600000 400 300 300).lifetimeTxBytes -
          (plainSnapshot 300000 100 0 0).lifetimeTxBytes :=
  (delta_eq_growth_iff Platform.plain "p1" (plainDatabase plainPeer plainPeer_check)
    [plainPoll 300000 100, plainPoll 330000 100, plainPoll 600000 400]
    [] [⟨0, 0, 0, 0, none⟩] [] ⟨0, 0, 0, 0, some (plainSnapshot 300000 100 0 0)⟩
    ⟨300, 0, 300, 0, some (plainSnapshot 600000 400 300 300)⟩ _ _ (by decide +kernel) rfl rfl
    (by decide)).2 (by decide)

/-- Three polls, of which the first and the last store a snapshot: the 150
    bytes that the second has read are part of the totals and of no snapshot. -/
theorem delta_ne_growth :
    ∃ a b, (Event.run Platform.plain
        [plainPoll 300000 100, plainPoll 330000 250, plainPoll 600000 400]
        (plainDatabase plainPeer plainPeer_check)).snapshotsOf "p1" = [a, b] ∧
      b.deltaRxBytes ≠ b.lifetimeRxBytes - a.lifetimeRxBytes :=
  ⟨plainSnapshot 300000 100 0 0, plainSnapshot 600000 400 150 300, by decide +kernel, by decide⟩

end WireguardPanel
