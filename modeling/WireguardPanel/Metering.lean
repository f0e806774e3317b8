import WireguardPanel.Foundation.Counter
import WireguardPanel.Snapshots

/-!
# The traffic of a peer and its totals

The byte counters of a peer on its router grow with its traffic and begin at
zero again when the router reboots or the peer reconnects. A poll reads them,
and adds up later what it infers to have been transferred since the poll before.

* `Metering`: the counters, the database and the listing of a poll that has not
  been recorded yet.
* `observations`: what the polls of a run have recorded.
* `totals_within_traffic`: the totals never exceed the traffic, and grow by just
  the traffic as long as no counter is reset.
-/

namespace WireguardPanel

open Foundation

/-! ## Runs -/

/-- What a poll has read and has not recorded yet. -/
structure Listing where
  remote : RemoteWireGuardPeer
  rx : Counter
  tx : Counter

/-- The poll of the peer `id` that records what has been listed. -/
def Listing.poll (l : Listing) (id : String) (poll : Poll) : Poll :=
  { poll with
    peerId := id
    remote := { l.remote with rxBytes := l.rx.value, txBytes := l.tx.value } }

/-- The database, the counters of the peer on its router, and the listing of
    the poll that is under way. -/
structure Metering where
  db : Database
  rx : Counter
  tx : Counter
  listing : Option Listing

namespace Metering

/-- What happens to a peer, and the steps of its polls. -/
inductive Event
  | traffic (rx tx : ℕ)
  | reset
  | list (remote : RemoteWireGuardPeer)
  | record (poll : Poll)
  | enforce (disabled : Bool) (used : Option ℤ) (observed : RemoteWireGuardPeer)

/-- What the transaction of a poll has done: the columns of the peer before and
    after it, and the counters as they were listed. -/
structure Observed where
  rx : Counter
  tx : Counter
  rolled : Bool
  before : AccountingColumns
  after : AccountingColumns

/-- The state before the first poll of a run. -/
def start (db : Database) (rx tx : Counter) : Metering := { db, rx, tx, listing := none }

section Platform

variable (P : Platform) (id : String)

/-- The state after an event. A listing is recorded once, if at all. -/
def Event.next (m : Metering) : Event → Metering
  | .traffic rx tx => { m with rx := m.rx.count rx, tx := m.tx.count tx }
  | .reset => { m with rx := m.rx.reset, tx := m.tx.reset }
  | .list remote => { m with listing := some { remote, rx := m.rx, tx := m.tx } }
  | .record poll =>
    match m.listing with
    | some l => { m with db := ((l.poll id poll).record P).after m.db, listing := none }
    | none => m
  | .enforce disabled used observed =>
    { m with db := (storeQuotaState P id disabled used observed).after m.db }

/-- The state after a run. -/
def run (events : List Event) (m : Metering) : Metering := events.foldl (Event.next P id) m

/-- What the transaction of a poll records of the peer. -/
def recorded (l : Listing) (poll : Poll) (db : Database) : Option Observed :=
  match db.peer id, (l.poll id poll).record P db with
  | some before, .ok (observation, db') => (db'.peer id).map fun after =>
    { rx := l.rx, tx := l.tx, rolled := observation.rolled, before := before.accounting
      after := after.accounting }
  | _, _ => none

/-- What an event records of the peer. -/
def Event.observed (m : Metering) : Event → Option Observed
  | .record poll => m.listing.bind fun l => recorded P id l poll m.db
  | _ => none

/-- What a run records of the peer. -/
def observations : List Event → Metering → List Observed
  | [], _ => []
  | e :: events, m => (e.observed P id m).toList ++ observations events (e.next P id m)

/-- The baseline that a run starts with, if the peer has the present counters
    as the last ones observed. -/
def baseline (m : Metering) : Option Observed :=
  match m.db.peer id with
  | some p =>
    if p.accounting.lastObservedRxBytes = some (m.rx.value : ℤ) ∧
        p.accounting.lastObservedTxBytes = some (m.tx.value : ℤ) then
      some { rx := m.rx, tx := m.tx, rolled := false, before := p.accounting
             after := p.accounting }
    else none
  | none => none

/-! ## A step -/

variable {P id}

/-- The totals of a peer and the counters that were observed last. -/
def totals (p : PeerRow) : ℤ × ℤ × Option ℤ × Option ℤ :=
  (p.accounting.lifetimeRxBytes, p.accounting.lifetimeTxBytes, p.accounting.lastObservedRxBytes,
    p.accounting.lastObservedTxBytes)

/-- The transaction of a poll, in terms of the columns before and after it. -/
structure Observed.Sound (o : Observed) : Prop where
  rx : o.after.lifetimeRxBytes =
    o.before.lifetimeRxBytes + counterDelta o.before.lastObservedRxBytes o.rx.value
  tx : o.after.lifetimeTxBytes =
    o.before.lifetimeTxBytes + counterDelta o.before.lastObservedTxBytes o.tx.value
  lastRx : o.after.lastObservedRxBytes = some (o.rx.value : ℤ)
  lastTx : o.after.lastObservedTxBytes = some (o.tx.value : ℤ)
  periodRx : o.after.periodRxBytes = (if o.rolled then 0 else o.before.periodRxBytes) +
    (o.after.lifetimeRxBytes - o.before.lifetimeRxBytes)
  periodTx : o.after.periodTxBytes = (if o.rolled then 0 else o.before.periodTxBytes) +
    (o.after.lifetimeTxBytes - o.before.lifetimeTxBytes)

/-- What an event does to the row of the peer, to its counters and to the
    listing, next to what it records. -/
inductive Happens (id : String) (m m' : Metering) : Option Observed → Prop
  | quiet (hrow : (m'.db.peer id).map totals = (m.db.peer id).map totals)
      (hrx : ∀ c : Counter, c.Follows m.rx → c.Follows m'.rx)
      (htx : ∀ c : Counter, c.Follows m.tx → c.Follows m'.tx)
      (hlisting : ∀ l ∈ m'.listing, l ∈ m.listing ∨ l.rx = m'.rx ∧ l.tx = m'.tx) :
      Happens id m m' none
  | recorded (o : Observed) (l : Listing) (p q : PeerRow) (hlisting : m.listing = some l)
      (hrx : o.rx = l.rx) (htx : o.tx = l.tx) (hsound : o.Sound)
      (hbefore : m.db.peer id = some p ∧ p.accounting = o.before)
      (hafter : m'.db.peer id = some q ∧ q.accounting = o.after)
      (hcounters : m'.rx = m.rx ∧ m'.tx = m.tx) (hdone : m'.listing = none) :
      Happens id m m' (some o)

/-- An event that changes at most the database, and there nothing that is metered. -/
theorem Happens.of_peer_eq {m m' : Metering}
    (hrow : (m'.db.peer id).map totals = (m.db.peer id).map totals)
    (hcounters : m'.rx = m.rx ∧ m'.tx = m.tx) (hlisting : ∀ l ∈ m'.listing, l ∈ m.listing) :
    Happens id m m' none :=
  .quiet hrow (fun _ h => hcounters.1 ▸ h) (fun _ h => hcounters.2 ▸ h)
    fun l hl => .inl (hlisting l hl)

/-- The columns that a poll stores. -/
theorem Observed.sound_of_counted {c : Counted} {rx tx : Counter} {sampleSeconds : ℤ}
    {old new : List HistoryRow} (hrx : c.remote.rxBytes = rx.value)
    (htx : c.remote.txBytes = tx.value) (hcounts : Counts c.peer c.rolled old new) :
    Observed.Sound {
      rx, tx, rolled := c.rolled.rolled, before := c.peer.accounting
      after := (c.stored sampleSeconds).accounting } := by
  have hcolumns : (c.stored sampleSeconds).accounting.lifetimeRxBytes = c.lifetimeRx ∧
      (c.stored sampleSeconds).accounting.lifetimeTxBytes = c.lifetimeTx ∧
      (c.stored sampleSeconds).accounting.lastObservedRxBytes = some c.remote.rxBytes ∧
      (c.stored sampleSeconds).accounting.lastObservedTxBytes = some c.remote.txBytes ∧
      (c.stored sampleSeconds).accounting.periodRxBytes = c.rolled.rx + c.deltaRx ∧
      (c.stored sampleSeconds).accounting.periodTxBytes = c.rolled.tx + c.deltaTx := by
    unfold Counted.stored
    split_ifs <;> exact ⟨rfl, rfl, rfl, rfl, rfl, rfl⟩
  obtain ⟨hlifetimeRx, hlifetimeTx, hlastRx, hlastTx, hperiodRx, hperiodTx⟩ := hcolumns
  have hbegun : c.rolled.rx = (if c.rolled.rolled then 0 else c.peer.accounting.periodRxBytes) ∧
      c.rolled.tx = (if c.rolled.rolled then 0 else c.peer.accounting.periodTxBytes) := by
    cases hcounts with
    | kept hrolled hrx htx => simp [hrolled, hrx, htx]
    | dropped hrolled hrx htx _ => simp [hrolled, hrx, htx]
    | archived hrolled hrx htx _ _ => simp [hrolled, hrx, htx]
  have hdeltaRx : c.deltaRx = counterDelta c.peer.accounting.lastObservedRxBytes rx.value := by
    rw [Counted.deltaRx, hrx]
  have hdeltaTx : c.deltaTx = counterDelta c.peer.accounting.lastObservedTxBytes tx.value := by
    rw [Counted.deltaTx, htx]
  refine ⟨?_, ?_, hlastRx.trans (by rw [hrx]), hlastTx.trans (by rw [htx]), ?_, ?_⟩
  · rw [hlifetimeRx, Counted.lifetimeRx, hdeltaRx]
  · rw [hlifetimeTx, Counted.lifetimeTx, hdeltaTx]
  · rw [hperiodRx, hlifetimeRx, Counted.lifetimeRx, hbegun.1, add_sub_cancel_left]
  · rw [hperiodTx, hlifetimeTx, Counted.lifetimeTx, hbegun.2, add_sub_cancel_left]

theorem happens_record (m : Metering) (l : Listing) (poll : Poll) (hlisting : m.listing = some l) :
    Happens id m ((Event.record poll).next P id m) (recorded P id l poll m.db) := by
  simp only [Event.next, hlisting]
  unfold recorded Tx.after
  cases hrecord : (l.poll id poll).record P m.db with
  | error e => cases m.db.peer id <;> exact .of_peer_eq rfl ⟨rfl, rfl⟩ fun _ hl => by cases hl
  | ok result =>
    obtain ⟨observation, db⟩ := result
    obtain ⟨c, rfl, hremote, -, hpeer, -, -, hcounts, -, hrows⟩ := recordObservation_ok hrecord
    have hstored := (hrows id).trans (if_pos rfl)
    have hpeer' : m.db.peer id = some c.peer := hpeer
    simp only [hpeer', hstored, Option.map_some]
    exact .recorded _ l c.peer _ hlisting rfl rfl
      (Observed.sound_of_counted (by rw [hremote]; rfl) (by rw [hremote]; rfl) hcounts)
      ⟨hpeer', rfl⟩
      ⟨hstored, rfl⟩ ⟨rfl, rfl⟩ rfl

theorem happens_enforce (m : Metering) (disabled : Bool) (used : Option ℤ)
    (observed : RemoteWireGuardPeer) :
    Happens id m ((Event.enforce disabled used observed).next P id m) none := by
  refine .of_peer_eq ?_ ⟨rfl, rfl⟩ fun _ hl => hl
  simp only [Event.next, Tx.after]
  cases hstore : storeQuotaState P id disabled used observed m.db with
  | error e => rfl
  | ok result =>
    obtain ⟨u, db⟩ := result
    have hrows := Tx.peer_updatePeer (f := quotaColumns P disabled used observed) (fun _ => rfl)
      hstore id
    rw [if_pos rfl] at hrows
    rw [hrows, Option.map_map]
    rfl

/-- What each event does. -/
theorem Event.happens (e : Event) (m : Metering) :
    Happens id m (e.next P id m) (e.observed P id m) := by
  cases e with
  | traffic rx tx =>
    exact .quiet rfl (fun _ h => h.count rx) (fun _ h => h.count tx) fun _ hl => .inl hl
  | reset => exact .quiet rfl (fun _ h => h.reset) (fun _ h => h.reset) fun _ hl => .inl hl
  | list remote =>
    refine .quiet rfl (fun _ h => h) (fun _ h => h) fun l hl => .inr ?_
    cases hl
    exact ⟨rfl, rfl⟩
  | record poll =>
    cases hlisting : m.listing with
    | some l =>
      rw [Event.observed, hlisting]
      exact happens_record m l poll hlisting
    | none =>
      simp only [Event.next, Event.observed, hlisting]
      exact .of_peer_eq rfl ⟨rfl, rfl⟩ fun _ hl => hl
  | enforce disabled used observed => exact happens_enforce m disabled used observed

/-! ## A run -/

/-- A poll after another one, with what it has read from the counters since. -/
structure Observed.Continues (r t : Observed) : Prop where
  rx : r.rx.Follows t.rx
  tx : r.tx.Follows t.tx
  lifetimeRx : t.after.lifetimeRxBytes =
    r.after.lifetimeRxBytes + counterDelta (some (r.rx.value : ℤ)) t.rx.value
  lifetimeTx : t.after.lifetimeTxBytes =
    r.after.lifetimeTxBytes + counterDelta (some (r.tx.value : ℤ)) t.tx.value

/-- The listing of a poll that is under way was made before. -/
def ListedBefore (m : Metering) : Prop :=
  ∀ l ∈ m.listing, l.rx.Follows m.rx ∧ l.tx.Follows m.tx

/-- The last poll that was recorded is `r`: the row has its totals, and the
    counters, also those of a listing, were read after its own. -/
structure Since (id : String) (r : Observed) (m : Metering) : Prop where
  row : ∃ p, m.db.peer id = some p ∧ totals p = (r.after.lifetimeRxBytes, r.after.lifetimeTxBytes,
    some (r.rx.value : ℤ), some (r.tx.value : ℤ))
  rx : r.rx.Follows m.rx
  tx : r.tx.Follows m.tx
  listed : ∀ l ∈ m.listing, r.rx.Follows l.rx ∧ r.tx.Follows l.tx

theorem Happens.listedBefore {m m' : Metering} {o : Option Observed} (h : Happens id m m' o)
    (hlisted : m.ListedBefore) : m'.ListedBefore := by
  intro l hl
  cases h with
  | quiet _ hrx htx hlisting =>
    rcases hlisting l hl with hold | ⟨hrxNew, htxNew⟩
    · exact ⟨hrx _ (hlisted l hold).1, htx _ (hlisted l hold).2⟩
    · exact ⟨hrxNew ▸ .refl _, htxNew ▸ .refl _⟩
  | recorded _ _ _ _ _ _ _ _ _ _ _ hdone =>
    rw [hdone] at hl
    cases hl

/-- A poll that is recorded is from then on the last one. -/
theorem Happens.since {m m' : Metering} {o : Observed} (h : Happens id m m' (some o))
    (hlisted : m.ListedBefore) : Since id o m' := by
  cases h with
  | recorded _ l p q hlisting hrx htx hsound _ hafter hcounters hdone =>
    obtain ⟨hlistedRx, hlistedTx⟩ := hlisted l hlisting
    refine ⟨⟨q, hafter.1, ?_⟩, ?_, ?_, ?_⟩
    · rw [totals, hafter.2, hsound.lastRx, hsound.lastTx]
    · rwa [hrx, hcounters.1]
    · rwa [htx, hcounters.2]
    · rw [hdone]
      exact fun _ hl => by cases hl

/-- A poll that is recorded continues the last one before it. -/
theorem Happens.continues {m m' : Metering} {r o : Observed} (h : Happens id m m' (some o))
    (hsince : Since id r m) : r.Continues o := by
  cases h with
  | recorded _ l p q hlisting hrx htx hsound hbefore _ _ _ =>
    obtain ⟨hlistedRx, hlistedTx⟩ := hsince.listed l hlisting
    obtain ⟨p', hp', htotals⟩ := hsince.row
    cases hp'.symm.trans hbefore.1
    rw [totals, hbefore.2, Prod.mk.injEq, Prod.mk.injEq, Prod.mk.injEq] at htotals
    obtain ⟨hlifetimeRx, hlifetimeTx, hlastRx, hlastTx⟩ := htotals
    refine ⟨hrx ▸ hlistedRx, htx ▸ hlistedTx, ?_, ?_⟩
    · rw [hsound.rx, hlifetimeRx, hlastRx]
    · rw [hsound.tx, hlifetimeTx, hlastTx]

/-- What records nothing leaves the last poll as it is. -/
theorem Happens.since_quiet {m m' : Metering} {r : Observed} (h : Happens id m m' none)
    (hsince : Since id r m) : Since id r m' := by
  cases h with
  | quiet hrow hrx htx hlisting =>
    obtain ⟨p, hp, htotals⟩ := hsince.row
    rw [hp, Option.map_some, Option.map_eq_some_iff] at hrow
    obtain ⟨q, hq, hsame⟩ := hrow
    refine ⟨⟨q, hq, hsame.trans htotals⟩, hrx _ hsince.rx, htx _ hsince.tx, fun l hl => ?_⟩
    rcases hlisting l hl with hold | ⟨hrxNew, htxNew⟩
    · exact hsince.listed l hold
    · exact ⟨hrxNew ▸ hrx _ hsince.rx, htxNew ▸ htx _ hsince.tx⟩

/-- After a poll that was recorded, each poll of a run continues the one before
    it, and at the end of the run the last one is the last of them. -/
theorem observations_since {r : Observed} {m : Metering} (events : List Event)
    (hsince : Since id r m) (hlisted : m.ListedBefore) :
    (r :: observations P id events m).IsChain Observed.Continues ∧
      ∃ last ∈ (r :: observations P id events m).getLast?, Since id last (run P id events m) := by
  induction events generalizing r m with
  | nil => exact ⟨.singleton r, r, rfl, hsince⟩
  | cons e events ih =>
    have hstep : Happens id m (e.next P id m) (e.observed P id m) := e.happens m
    have hlisted' := hstep.listedBefore hlisted
    unfold observations
    cases hobserved : e.observed P id m with
    | none =>
      rw [hobserved] at hstep
      exact ih (hstep.since_quiet hsince) hlisted'
    | some o =>
      rw [hobserved] at hstep
      obtain ⟨hchain, last, hlast, hend⟩ := ih (hstep.since hlisted) hlisted'
      refine ⟨.cons_cons (hstep.continues hsince) hchain, last, ?_, hend⟩
      rw [Option.toList_some, List.singleton_append, List.getLast?_cons_cons]
      exact hlast

theorem observations_sound {o : Observed} {m : Metering} {events : List Event}
    (h : o ∈ observations P id events m) : o.Sound := by
  induction events generalizing m with
  | nil => cases h
  | cons e events ih =>
    rcases List.mem_append.1 h with h | h
    · have hstep : Happens id m (e.next P id m) (e.observed P id m) := e.happens m
      rw [Option.mem_toList.1 h] at hstep
      cases hstep with
      | recorded _ _ _ _ _ _ _ hsound _ _ _ _ => exact hsound
    · exact ih h

/-- The first poll of a run starts the chain if there is no baseline. -/
theorem observations_isChain {m : Metering} (events : List Event) (hlisted : m.ListedBefore) :
    (observations P id events m).IsChain Observed.Continues ∧
      ∀ r ∈ (observations P id events m).head?,
        ∃ last ∈ (observations P id events m).getLast?, Since id last (run P id events m) := by
  induction events generalizing m with
  | nil => exact ⟨.nil, fun _ hr => by cases hr⟩
  | cons e events ih =>
    have hstep : Happens id m (e.next P id m) (e.observed P id m) := e.happens m
    have hlisted' := hstep.listedBefore hlisted
    unfold observations
    cases hobserved : e.observed P id m with
    | none => exact ih hlisted'
    | some o =>
      rw [hobserved] at hstep
      obtain ⟨hchain, hlast⟩ := observations_since (P := P) events (hstep.since hlisted) hlisted'
      exact ⟨hchain, fun _ _ => hlast⟩

/-! ## Totals and traffic -/

/-- The totals have grown by no more than the traffic. -/
def WithinTraffic (r t : Observed) : Prop :=
  t.after.lifetimeRxBytes - r.after.lifetimeRxBytes ≤ (t.rx.counted : ℤ) - r.rx.counted ∧
    t.after.lifetimeTxBytes - r.after.lifetimeTxBytes ≤ (t.tx.counted : ℤ) - r.tx.counted

/-- The totals have grown by the traffic of each counter that was not reset. -/
def CountsTraffic (r t : Observed) : Prop :=
  (t.rx.resets = r.rx.resets →
    t.after.lifetimeRxBytes - r.after.lifetimeRxBytes = (t.rx.counted : ℤ) - r.rx.counted) ∧
  (t.tx.resets = r.tx.resets →
    t.after.lifetimeTxBytes - r.after.lifetimeTxBytes = (t.tx.counted : ℤ) - r.tx.counted)

/-- A poll adds no negative traffic, and the same to the totals as to the
    quota period, which begins anew if it has rolled over. -/
def Observed.AddsSame (o : Observed) : Prop :=
  0 ≤ o.after.lifetimeRxBytes - o.before.lifetimeRxBytes ∧
    0 ≤ o.after.lifetimeTxBytes - o.before.lifetimeTxBytes ∧
    o.after.periodRxBytes = (if o.rolled then 0 else o.before.periodRxBytes) +
      (o.after.lifetimeRxBytes - o.before.lifetimeRxBytes) ∧
    o.after.periodTxBytes = (if o.rolled then 0 else o.before.periodTxBytes) +
      (o.after.lifetimeTxBytes - o.before.lifetimeTxBytes)

/-- What `counterDelta` infers from two readings of a counter. -/
theorem counterDelta_cast (c d : Counter) :
    counterDelta (some (c.value : ℤ)) d.value =
      ((if c.value ≤ d.value then d.value - c.value else d.value : ℕ) : ℤ) := by
  simp only [counterDelta]
  split_ifs <;> omega

theorem counterDelta_le {c d : Counter} (h : c.Follows d) :
    counterDelta (some (c.value : ℤ)) d.value ≤ (d.counted : ℤ) - c.counted := by
  have hcounted := h.counted
  have hgrowth := h.growth_le
  rw [counterDelta_cast]
  omega

theorem counterDelta_eq {c d : Counter} (h : c.Follows d) (hresets : d.resets = c.resets) :
    counterDelta (some (c.value : ℤ)) d.value = (d.counted : ℤ) - c.counted := by
  have hcounted := h.counted
  rw [counterDelta_cast, h.growth_eq hresets, Nat.cast_sub hcounted]

theorem Observed.Continues.withinTraffic {r t : Observed} (h : r.Continues t) :
    WithinTraffic r t := by
  constructor
  · rw [h.lifetimeRx, add_sub_cancel_left]
    exact counterDelta_le h.rx
  · rw [h.lifetimeTx, add_sub_cancel_left]
    exact counterDelta_le h.tx

theorem Observed.Continues.countsTraffic {r t : Observed} (h : r.Continues t) :
    CountsTraffic r t := by
  constructor
  · intro hresets
    rw [h.lifetimeRx, add_sub_cancel_left, counterDelta_eq h.rx hresets]
  · intro hresets
    rw [h.lifetimeTx, add_sub_cancel_left, counterDelta_eq h.tx hresets]

theorem WithinTraffic.trans {r t u : Observed} (h : WithinTraffic r t) (h' : WithinTraffic t u) :
    WithinTraffic r u := by
  obtain ⟨hrx, htx⟩ := h
  obtain ⟨hrx', htx'⟩ := h'
  constructor <;> omega

theorem Observed.Sound.addsSame {o : Observed} (h : o.Sound) : o.AddsSame := by
  refine ⟨?_, ?_, h.periodRx, h.periodTx⟩
  · rw [h.rx, add_sub_cancel_left]
    exact counterDelta_nonneg _ _
  · rw [h.tx, add_sub_cancel_left]
    exact counterDelta_nonneg _ _

/-- The polls of a run from its baseline, if it starts with one. -/
def polls (P : Platform) (id : String) (events : List Event) (m : Metering) : List Observed :=
  (baseline id m).toList ++ observations P id events m

/-- The polls of a run continue one another, and at its end the last one is
    the last of them. -/
theorem polls_isChain (db : Database) (rx tx : Counter) (events : List Event) :
    (polls P id events (start db rx tx)).IsChain Observed.Continues ∧
      ∀ r ∈ (polls P id events (start db rx tx)).head?,
        ∃ last ∈ (polls P id events (start db rx tx)).getLast?,
          Since id last (run P id events (start db rx tx)) := by
  have hlisted : (start db rx tx).ListedBefore := fun _ hl => by cases hl
  unfold polls
  cases hbaseline : baseline id (start db rx tx) with
  | none => exact observations_isChain events hlisted
  | some r =>
    have hsince : Since id r (start db rx tx) := by
      unfold baseline at hbaseline
      split at hbaseline
      · rename_i p hp
        split_ifs at hbaseline with hobserved
        cases hbaseline
        exact ⟨⟨p, hp, by rw [totals, hobserved.1, hobserved.2]⟩, .refl _, .refl _,
          fun _ hl => by cases hl⟩
      · cases hbaseline
    obtain ⟨hchain, hlast⟩ := observations_since (P := P) events hsince hlisted
    exact ⟨hchain, fun _ _ => hlast⟩

/-- In every interleaving of traffic, resets and polls: a poll adds the same
    non-negative traffic to the totals and to the quota period; from any poll on
    the totals never exceed the traffic; between two polls they grow by just the
    traffic if no counter is reset. -/
theorem totals_within_traffic (P : Platform) (id : String) (db : Database) (rx tx : Counter)
    (events : List Event) :
    (∀ o ∈ observations P id events (start db rx tx), o.AddsSame) ∧
      (polls P id events (start db rx tx)).Pairwise WithinTraffic ∧
      (polls P id events (start db rx tx)).IsChain CountsTraffic ∧
      ∀ r ∈ (polls P id events (start db rx tx)).head?,
        ∀ p ∈ (run P id events (start db rx tx)).db.peer id,
          p.accounting.lifetimeRxBytes - r.after.lifetimeRxBytes ≤
              ((run P id events (start db rx tx)).rx.counted : ℤ) - r.rx.counted ∧
            p.accounting.lifetimeTxBytes - r.after.lifetimeTxBytes ≤
              ((run P id events (start db rx tx)).tx.counted : ℤ) - r.tx.counted := by
  obtain ⟨hchain, hend⟩ := @polls_isChain P id db rx tx events
  have htrans : Trans WithinTraffic WithinTraffic WithinTraffic := ⟨WithinTraffic.trans⟩
  have hpairwise : (polls P id events (start db rx tx)).Pairwise WithinTraffic :=
    List.isChain_iff_pairwise.1 (hchain.imp fun _ _ h => h.withinTraffic)
  refine ⟨fun o ho => (observations_sound ho).addsSame, hpairwise,
    hchain.imp fun _ _ h => h.countsTraffic, fun r hr p hp => ?_⟩
  obtain ⟨last, hlast, hsince⟩ := hend r hr
  obtain ⟨q, hq, htotals⟩ := hsince.row
  cases hq.symm.trans hp
  simp only [totals, Prod.mk.injEq] at htotals
  have hlastWithin : WithinTraffic r last := by
    obtain ⟨rest, hrest⟩ := List.head?_eq_some_iff.1 hr
    rw [hrest] at hlast hpairwise
    rcases List.mem_cons.1 (List.mem_of_getLast? hlast) with rfl | hmem
    · exact ⟨by simp, by simp⟩
    · exact (List.pairwise_cons.1 hpairwise).1 _ hmem
  obtain ⟨hrx, htx⟩ := hlastWithin
  have hrxCounted := hsince.rx.counted
  have htxCounted := hsince.tx.counted
  constructor <;> omega

end Platform

end Metering

end WireguardPanel
