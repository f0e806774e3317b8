import WireguardPanel.Foundation.System
import WireguardPanel.Failures
import WireguardPanel.RowRules

/-!
# When a limit has been reached

A row says since when the limit of its peer has been reached. The column is kept
by a poll, which does not clear it when it begins a new quota period, and is
worked out anew by the other operations.

* `PeerRow.MarksLimit`: the column is set just if the limit is reached, and to a
  time of the present quota period.
* `PeerRow.Tracked`: what a run keeps of a row.
* `Counted.tracked_stored`, `quotaConfiguration_tracked`: a poll, and an update.
* `marksLimit_of_reaches`: the column in every state of a run in which no poll
  finds a new period used up that has a time from before it.
-/

namespace WireguardPanel

open Foundation

/-! ## Rows -/

/-- The column tells whether the limit is reached, and since when in the present
    quota period. -/
structure PeerRow.MarksLimit (p : PeerRow) : Prop where
  limited : ∀ limit ∈ p.accounting.quotaLimitBytes, (p.accounting.quotaReachedAt.isSome = true ↔
    limit ≤ p.accounting.periodRxBytes + p.accounting.periodTxBytes)
  unlimited : p.accounting.quotaLimitBytes = none → p.accounting.quotaReachedAt = none
  since : ∀ start ∈ p.accounting.quotaPeriodStartedAt, ∀ reachedAt ∈ p.accounting.quotaReachedAt,
    start ≤ reachedAt

/-- A limit and what has been used of it since the time `start`, at the time
    `now`, with the time at which it was reached. -/
structure LimitMark (now : ℤ) (limit : Option ℤ) (period : Option QuotaPeriod) (start : Option ℤ)
    (used : ℤ) (reachedAt : Option ℤ) : Prop where
  limited : ∀ n ∈ limit, (reachedAt.isSome = true ↔ n ≤ used)
  unlimited : limit = none → reachedAt = none
  since : ∀ s ∈ start, ∀ t ∈ reachedAt, s ≤ t
  /-- A limit with a period is counted from some time on. -/
  begun : limit.isSome = true → period.isSome = true → start.isSome = true
  past : ∀ s ∈ start, s ≤ now

/-- The row of a peer at the time `now` of a run. -/
def PeerRow.Tracked (now : ℤ) (p : PeerRow) : Prop :=
  LimitMark now p.accounting.quotaLimitBytes p.accounting.quotaPeriod
    p.accounting.quotaPeriodStartedAt (p.accounting.periodRxBytes + p.accounting.periodTxBytes)
    p.accounting.quotaReachedAt

namespace LimitMark

variable {now now' used : ℤ} {limit start reachedAt : Option ℤ} {period : Option QuotaPeriod}

theorem later (h : LimitMark now limit period start used reachedAt) (hnow : now ≤ now') :
    LimitMark now' limit period start used reachedAt :=
  { h with past := fun s hs => (h.past s hs).trans hnow }

/-- Nothing has been used. -/
theorem fresh (hpos : ∀ n ∈ limit, 0 < n)
    (hbegun : limit.isSome = true → period.isSome = true → start.isSome = true)
    (hpast : ∀ s ∈ start, s ≤ now) : LimitMark now limit period start 0 none where
  limited n hn := by
    have := hpos n hn
    simp only [Option.isSome_none, Bool.false_eq_true, false_iff]
    omega
  unlimited _ := rfl
  since _ _ _ ht := absurd ht nofun
  begun := hbegun
  past := hpast

/-- There is no limit. -/
theorem unlimitedOf (hpast : ∀ s ∈ start, s ≤ now) :
    LimitMark now none period start used none where
  limited _ hn := absurd hn nofun
  unlimited _ := rfl
  since _ _ _ ht := absurd ht nofun
  begun h := absurd h nofun
  past := hpast

/-- The time is set to the present one unless it was set before, if the limit is
    reached. -/
theorem counted {n : ℤ} {old : Option ℤ} (hstart : period.isSome = true → start.isSome = true)
    (hpast : ∀ s ∈ start, s ≤ now) (hold : n ≤ used → ∀ s ∈ start, ∀ t ∈ old, s ≤ t) :
    LimitMark now (some n) period start used (if n ≤ used then some (old.getD now) else none) where
  limited m hm := by
    cases hm
    split_ifs with hreached <;> simpa using hreached
  unlimited h := absurd h nofun
  since s hs t ht := by
    split_ifs at ht with hreached
    · cases ht
      cases old with
      | none => exact hpast s hs
      | some t => exact hold hreached s hs t rfl
    · exact absurd ht nofun
  begun _ := hstart
  past := hpast

end LimitMark

theorem PeerRow.Tracked.marksLimit {now : ℤ} {p : PeerRow} (h : p.Tracked now) : p.MarksLimit :=
  ⟨h.limited, h.unlimited, h.since⟩

section Platform

variable {P : Platform} {now time : ℤ} {p : PeerRow}

/-- No update of a row by itself touches what is counted. -/
theorem PeerUpdate.tracked (update : PeerUpdate) (hp : p.Tracked now) :
    (update.apply P time p).Tracked now := by
  cases update <;> exact hp

theorem tracked_of_check (hcheck : peerSchema.check p = true) :
    ∀ n ∈ p.accounting.quotaLimitBytes, 0 < n := by
  intro n hn
  simp only [peerSchema, Bool.and_eq_true] at hcheck
  have hlimit := hcheck.1.1.1.1.2
  rw [Option.mem_def.1 hn] at hlimit
  exact of_decide_eq_true hlimit

/-! ## Polls -/

/-- What finding the period of a poll does: the period stays, or it is over and
    another one begins. -/
theorem rollPeriod_start {peer : PeerRow} {policy : QuotaPolicy} {period : CountedPeriod}
    {db db' : Database} (h : rollPeriod P peer policy now db = .ok (period, db'))
    (hbegun : peer.accounting.quotaLimitBytes.isSome = true →
      peer.accounting.quotaPeriod.isSome = true →
        peer.accounting.quotaPeriodStartedAt.isSome = true) :
    (period.rolled = false ∧ period.rx = peer.accounting.periodRxBytes ∧
      period.tx = peer.accounting.periodTxBytes ∧
      period.start = peer.accounting.quotaPeriodStartedAt) ∨
    (peer.PeriodOver now ∧ period.rolled = true ∧ period.rx = 0 ∧ period.tx = 0 ∧
      ∃ quotaPeriod ∈ peer.accounting.quotaPeriod, ∃ window,
        quotaPeriodWindow P now quotaPeriod policy = .ok window ∧
        period.start = some window.start) := by
  have hover := rollPeriod_rolled h
  cases hlimit : peer.accounting.quotaLimitBytes with
  | none =>
    simp only [rollPeriod, hlimit] at h
    obtain ⟨rfl, -⟩ := Tx.pure_eq_ok.1 h
    exact .inl ⟨rfl, rfl, rfl, rfl⟩
  | some limit =>
    cases hperiod : peer.accounting.quotaPeriod with
    | none =>
      simp only [rollPeriod, hlimit, hperiod] at h
      obtain ⟨rfl, -⟩ := Tx.pure_eq_ok.1 h
      exact .inl ⟨rfl, rfl, rfl, rfl⟩
    | some quotaPeriod =>
      obtain ⟨start, hstart⟩ := Option.isSome_iff_exists.1
        (hbegun (hlimit ▸ rfl) (hperiod ▸ rfl))
      simp only [rollPeriod, hlimit, hperiod] at h
      obtain ⟨expected, hexpected, h⟩ := Tx.ofExcept_bind_ok.1 h
      split_ifs at h with honce hrolls
      · obtain ⟨rfl, -⟩ := Tx.pure_eq_ok.1 h
        exact .inl ⟨rfl, rfl, rfl, by simp [hstart]⟩
      · obtain ⟨_, db₁, -, h⟩ := Tx.bind_eq_ok.1 h
        obtain ⟨_, db₂, -, h⟩ := Tx.bind_eq_ok.1 h
        obtain ⟨rfl, -⟩ := Tx.pure_eq_ok.1 h
        exact .inr ⟨hover.1 rfl, rfl, rfl, rfl, quotaPeriod, rfl, expected, hexpected, rfl⟩
      · obtain ⟨rfl, -⟩ := Tx.pure_eq_ok.1 h
        exact .inl ⟨rfl, rfl, rfl, rfl⟩

/-- The traffic that a poll counts. -/
def PeerRow.traffic (p : PeerRow) (remote : RemoteWireGuardPeer) : ℤ :=
  counterDelta p.accounting.lastObservedRxBytes remote.rxBytes +
    counterDelta p.accounting.lastObservedTxBytes remote.txBytes

/-- A poll that begins a new quota period begins it in the past, and if it finds
    it used up at once, then the row has no time from before it. -/
def PeerRow.BeginsClear (P : Platform) (p : PeerRow) (remote : RemoteWireGuardPeer)
    (policy : QuotaPolicy) (now : ℤ) : Prop :=
  p.PeriodOver now → ∀ period ∈ p.accounting.quotaPeriod, ∀ window,
    quotaPeriodWindow P now period policy = .ok window → window.start ≤ now ∧
      ((∃ limit ∈ p.accounting.quotaLimitBytes, limit ≤ p.traffic remote) →
        ∀ reachedAt ∈ p.accounting.quotaReachedAt, window.start ≤ reachedAt)

/-- A poll that begins no period with a time from before it. -/
theorem Counted.tracked_stored {c : Counted} {policy : QuotaPolicy} {sampleSeconds : ℤ}
    {db db' : Database} (hroll : rollPeriod P c.peer policy c.now db = .ok (c.rolled, db'))
    (hpos : ∀ n ∈ c.peer.accounting.quotaLimitBytes, 0 < n) (hpeer : c.peer.Tracked c.now)
    (hclear : c.peer.BeginsClear P c.remote policy c.now) :
    (c.stored sampleSeconds).Tracked c.now := by
  suffices hrecord : (c.record c.peer).Tracked c.now by
    unfold Counted.stored
    split_ifs <;> exact hrecord
  have hrx : 0 ≤ c.deltaRx := counterDelta_nonneg _ _
  have htx : 0 ≤ c.deltaTx := counterDelta_nonneg _ _
  have hused : c.used = c.rolled.rx + c.deltaRx + (c.rolled.tx + c.deltaTx) := rfl
  have hstart := rollPeriod_start hroll hpeer.begun
  change LimitMark c.now c.peer.accounting.quotaLimitBytes c.peer.accounting.quotaPeriod
    c.rolled.start c.used (if c.reached = true then
      some (c.peer.accounting.quotaReachedAt.getD c.now) else if c.rolled.rolled = true then none
        else c.peer.accounting.quotaReachedAt)
  cases hlimit : c.peer.accounting.quotaLimitBytes with
  | none =>
    have hreached : c.reached = false := by simp [Counted.reached, hlimit, nonZero]
    rcases hstart with ⟨hrolled, -, -, hstart⟩ | ⟨⟨hsome, -⟩, -⟩
    · rw [hreached, hrolled, hpeer.unlimited hlimit, hstart]
      exact .unlimitedOf hpeer.past
    · rw [hlimit] at hsome
      exact absurd hsome nofun
  | some limit =>
    have hreached : c.reached = true ↔ limit ≤ c.used := by
      have hne : limit ≠ 0 := (hpos limit hlimit).ne'
      simp [Counted.reached, hlimit, nonZero, Option.filter_some, hne]
    simp only [hreached]
    rcases hstart with ⟨hrolled, hrx', htx', hstart⟩ |
      ⟨hover, hrolled, hrx', htx', period, hperiod, window, hwindow, hstart⟩
    · -- What has been used only grows, so an old time stays with its limit.
      have hold : ¬limit ≤ c.used → c.peer.accounting.quotaReachedAt = none := fun hbelow => by
        have hnot : ¬limit ≤ c.peer.accounting.periodRxBytes + c.peer.accounting.periodTxBytes := by
          omega
        simpa using mt (hpeer.limited limit hlimit).1 hnot
      have hmark : (if limit ≤ c.used then some (c.peer.accounting.quotaReachedAt.getD c.now)
          else if c.rolled.rolled = true then none else c.peer.accounting.quotaReachedAt) =
          if limit ≤ c.used then some (c.peer.accounting.quotaReachedAt.getD c.now) else none := by
        by_cases hreached : limit ≤ c.used
        · rw [if_pos hreached, if_pos hreached]
        · rw [if_neg hreached, if_neg hreached, hrolled, if_neg Bool.false_ne_true, hold hreached]
      rw [hmark, hstart]
      exact .counted (hpeer.begun (hlimit ▸ rfl)) hpeer.past fun _ => hpeer.since
    · obtain ⟨hbegins, hclears⟩ := hclear hover period hperiod window hwindow
      rw [hrolled, if_pos rfl, hstart]
      refine .counted (fun _ => rfl) (fun s hs => ?_) fun hreached s hs => ?_
      · cases hs
        exact hbegins
      · cases hs
        refine hclears ⟨limit, hlimit, ?_⟩
        have htraffic : c.peer.traffic c.remote = c.deltaRx + c.deltaTx := rfl
        omega

/-! ## Updates -/

/-- An update begins a quota period: it adds a limit, or it changes the period,
    or the period of the limit has not begun. -/
def PeerRow.BeginsPeriod (row : PeerRow) (input : UpdatePeerInput) (period : QuotaPeriod) : Prop :=
  (nonZero (input.quotaBytes.getD row.accounting.quotaLimitBytes)).isSome = true ∧
    period = (input.quotaPeriod.or row.accounting.quotaPeriod).getD .monthly ∧
    (row.accounting.quotaLimitBytes = none ∨ row.accounting.quotaPeriodStartedAt = none ∨
      row.accounting.quotaPeriod ≠ some period)

/-- What an update stores of the quota, if a period that it begins begins in the
    past. -/
theorem quotaConfiguration_tracked {row : PeerRow} {input : UpdatePeerInput} {policy : QuotaPolicy}
    {quota : QuotaConfiguration} (h : quotaConfiguration P row input policy now = .ok quota)
    (hrow : row.Tracked now) (hpos : ∀ n ∈ quota.limit, 0 < n)
    (hbegins : ∀ period, row.BeginsPeriod input period → ∀ window,
      quotaPeriodWindow P now period policy = .ok window → window.start ≤ now) :
    LimitMark now quota.limit quota.period quota.start (quota.periodRx + quota.periodTx)
      quota.reachedAt := by
  unfold quotaConfiguration at h
  dsimp only at h
  split at h
  · cases h
    exact .unlimitedOf nofun
  · next limit hlimit =>
    simp only [hlimit, Option.isSome_some, Bool.and_true] at h
    have hreset : (row.accounting.quotaLimitBytes.isNone = true ∨
        (row.accounting.quotaLimitBytes.isSome && decide (row.accounting.quotaPeriod ≠
          some ((input.quotaPeriod.or
            row.accounting.quotaPeriod).getD QuotaPeriod.monthly))) = true ∨
        row.accounting.quotaPeriodStartedAt.isNone = true) ↔ row.BeginsPeriod input
          ((input.quotaPeriod.or row.accounting.quotaPeriod).getD .monthly) := by
      unfold PeerRow.BeginsPeriod
      rw [hlimit]
      cases row.accounting.quotaLimitBytes <;> simp [or_comm]
    by_cases hbegin : row.BeginsPeriod input
        ((input.quotaPeriod.or row.accounting.quotaPeriod).getD .monthly)
    · rw [if_pos (hreset.2 hbegin)] at h
      cases hwindow : quotaPeriodWindow P now
          ((input.quotaPeriod.or row.accounting.quotaPeriod).getD .monthly) policy with
      | error e =>
        rw [hwindow] at h
        cases h
      | ok window =>
        rw [hwindow] at h
        cases h
        have hbelow : ¬limit ≤ 0 + 0 := by
          have := hpos limit rfl
          omega
        simp only [hbelow, decide_false, Bool.false_eq_true, if_false]
        refine .fresh hpos (fun _ _ => rfl) fun s hs => ?_
        cases hs
        exact hbegins _ hbegin window hwindow
    · rw [if_neg fun hreset' => hbegin (hreset.1 hreset')] at h
      cases h
      have hstart : row.accounting.quotaPeriodStartedAt.isSome = true := by
        rw [Option.isSome_iff_ne_none]
        exact fun hnone => hbegin ⟨hlimit ▸ rfl, rfl, .inr (.inl hnone)⟩
      simp only [decide_eq_true_eq]
      exact .counted (fun _ => hstart) hrow.past fun _ => hrow.since

/-- What the staging of a peer inserts, likewise. -/
theorem stagedRow_tracked {input : CreatePeerInput} {policy : QuotaPolicy}
    {peerId clientIp : String}
    {router : RouterRow} {interface : InterfaceRow} {pool : WireGuardPool} {keys : WireGuardKeys}
    {window : Option QuotaWindow} (hwindow : stagedWindow P input policy now = .ok window)
    (hcheck : peerSchema.check
      (stagedRow P input peerId router interface pool keys clientIp window) = true)
    (hbegins : ∀ begun, stagedWindow P input policy now = .ok (some begun) → begun.start ≤ now) :
    (stagedRow P input peerId router interface pool keys clientIp window).Tracked now := by
  refine LimitMark.fresh (tracked_of_check hcheck) (fun _ hperiod => ?_) fun s hs => ?_
  · cases hlimit : nonZero input.quotaBytes with
    | none => simp [stagedRow, hlimit] at hperiod
    | some limit =>
      cases hinput : input.quotaPeriod with
      | none => simp [stagedRow, hlimit, hinput] at hperiod
      | some period =>
        simp only [stagedWindow, hlimit, hinput] at hwindow
        cases hquota : quotaPeriodWindow P now period policy with
        | error e =>
          rw [hquota] at hwindow
          cases hwindow
        | ok begun =>
          rw [hquota] at hwindow
          cases hwindow
          rfl
  · obtain ⟨begun, rfl, rfl⟩ := Option.map_eq_some_iff.1 hs
    exact hbegins begun hwindow

/-! ## Services -/

theorem tracked_congr {p q : PeerRow} (hp : p.Tracked now) (h : q.accounting = p.accounting) :
    q.Tracked now := by
  rw [PeerRow.Tracked, h]
  exact hp

theorem keepsRows_tracked (peerId : String) (update : PeerUpdate) :
    (Statement.updatePeer peerId update).KeepsRows P (PeerRow.Tracked now) := fun _ _ =>
  within_rows_updatePeer fun _ _ => update.tracked

variable {ℓ α β : Type} {l : ℓ} {w : World} {I : Database → Prop}

/-- Wherever a run of `x` ends, `I` is true of the database. -/
abbrev EndsKeeping (P : Platform) (I : Database → Prop) (x : Service ℓ α) (l : ℓ) (w : World) :
    Prop :=
  Procedure.wp (World.environment P fun _ _ => True) (fun _ _ => True) x (fun _ _ w' => I w'.db)
    (fun _ _ w' => I w'.db) l w

theorem endsKeeping_of_executes {x : Service ℓ α} (hx : Executes (Statement.Keeps P I) x)
    (hw : I w.db) : EndsKeeping P I x l w := hx.wp_keeps (fun _ hs => hs) hw

theorem endsKeeping_bind {x : Service ℓ β} {f : β → Service ℓ α}
    (hx : Executes (Statement.Keeps P I) x) (hw : I w.db)
    (hf : ∀ b l w, I w.db → EndsKeeping P I (f b) l w) : EndsKeeping P I (x >>= f) l w :=
  Procedure.wp_bind.2 (Procedure.wp_mono (endsKeeping_of_executes hx hw) hf fun _ _ _ => id)

/-- A creation whose quota period, if there is one, begins in the past. -/
theorem endsKeeping_createPeer {input : CreatePeerInput} {peerId : String} {keys : WireGuardKeys}
    (hbegins : ∀ begun, stagedWindow P input w.db.settings.quotaPolicy now = .ok (some begun) →
      begun.start ≤ now) :
    EndsKeeping P (KeepsRows (PeerRow.Tracked now) w.db)
      (createPeer P input peerId keys now : Service ℓ String) l w := by
  refine endsKeeping_of_executes ?_ (Std.Refl.refl _)
  refine (executes_execute keepsRows_startOperation.keeps).bind fun operationId => ?_
  refine executes_getRouter.bind fun router => executes_query.bind fun _ => ?_
  refine executes_orThrow.bind fun interface => executes_clientForRouter.bind fun _ => ?_
  have hoperation : ∀ s : Statement, s.OfOperation operationId →
      s.Keeps P (KeepsRows (PeerRow.Tracked now) w.db) := fun s hs => (keepsRows_operation hs).keeps
  refine Procedure.Makes.withLocals (Executes.tryCatch ?_ fun _ => ?_)
  · refine executes_createStagedPeer (fun listing _ _ db staged db' hdb htx => ?_) hoperation
      (fun _ _ _ _ _ _ => keepsRows_confirmAddress.keeps)
      (fun _ => (keepsRows_tracked _ _).keeps)
      (fun s hs => (keepsRows_bandwidth hs fun _ _ => tracked_congr).keeps)
      (keepsRows_tracked _ _).keeps
    refine IsTrans.trans _ _ _ hdb (rows_stagePeer (fun window pool clientIp hwindow hcheck =>
      stagedRow_tracked hwindow hcheck ?_) htx)
    rw [hdb.settings]
    exact hbegins
  · exact makes_abandonCreation keepsRows_releaseStagedPeer.keeps
      (fun _ _ _ => (keepsRows_tracked _ _).keeps) hoperation

theorem endsKeeping_temporarilyReenablePeer {peerId : String} {minutes : ℤ} :
    EndsKeeping P (KeepsRows (PeerRow.Tracked now) w.db)
      (temporarilyReenablePeer P peerId minutes now : Service ℓ Unit) l w :=
  endsKeeping_of_executes
    (executes_temporarilyReenablePeer fun _ _ => (keepsRows_tracked _ _).keeps) (Std.Refl.refl _)

/-- A reset begins the period at the time at which it is made. -/
theorem endsKeeping_resetPeerQuotaUsage {peerId : String} :
    EndsKeeping P (KeepsRows (PeerRow.Tracked now) w.db)
      (resetPeerQuotaUsage P peerId now : Service ℓ Unit) l w := by
  refine endsKeeping_of_executes (executes_resetPeerQuotaUsage fun row windowEnd observed => ?_)
    (Std.Refl.refl _)
  refine Statement.KeepsRows.keeps fun _ _ => within_rows_resetQuota fun p q hcheck _ hreset => ?_
  have hpos := tracked_of_check hcheck
  rw [PeerRow.Tracked, hreset]
  rw [hreset] at hpos
  exact .fresh hpos (fun _ _ => rfl) fun s hs => by
    cases hs
    exact le_rfl

/-- The quota policies that a service goes on with: the one that is stored, or the
    default if it cannot be read. -/
def Settings.policies (settings : Settings) : List QuotaPolicy :=
  [settings.quotaPolicy, Database.empty.settings.quotaPolicy]

theorem wp_getQuotaPolicy_failing {Q : QuotaPolicy → ℓ → World → Prop}
    {E : AppError → ℓ → World → Prop} (hQ : ∀ policy ∈ w.db.settings.policies, Q policy l w) :
    Procedure.wp (World.environment P fun _ _ => True) (fun _ _ => True) getQuotaPolicy Q E l w :=
  wp_settingOr_failing (hQ _ List.mem_cons_self)
    (hQ _ (List.mem_cons_of_mem _ (List.mem_singleton_self _)))

section Update

variable {row : PeerRow} {input : UpdatePeerInput} {db : Database}
  {sourceId targetId operationId : String} {k : UpdateLocals} (hrow : row.Tracked now)
  (hbegins : ∀ period, row.BeginsPeriod input period → ∀ policy ∈ db.settings.policies, ∀ window,
    quotaPeriodWindow P now period policy = .ok window → window.start ≤ now)

include hrow hbegins

/-- The part of an update that works out the quota and commits. -/
theorem endsKeeping_commitCurrentPeer {clientIp allowedAddress : String} {changingRouter : Bool}
    {updated : RemoteWireGuardPeer} (hw : KeepsRows (PeerRow.Tracked now) db w.db) :
    EndsKeeping P (KeepsRows (PeerRow.Tracked now) db)
      (commitCurrentPeer P row input sourceId targetId
      operationId clientIp allowedAddress changingRouter now updated) k w := by
  refine Procedure.wp_bind.2 (wp_getQuotaPolicy_failing fun policy hpolicy => ?_)
  rw [hw.settings] at hpolicy
  refine endsKeeping_of_executes (Procedure.Makes.bind makes_ofExcept fun quota hquota => ?_) hw
  refine Procedure.Makes.bind makes_updateQuotaState fun r _ => ?_
  refine executes_request_bind trivial fun finalRemotePeers =>
      Executes.bind (executes_execute ?_) fun _ =>
    Executes.bind Procedure.makes_modify fun _ => executes_finishUpdate
      (fun s hs => (keepsRows_operation hs).keeps)
      (fun s hs => (keepsRows_bandwidth hs fun _ _ => tracked_congr).keeps)
      fun _ => (keepsRows_tracked _ _).keeps
  exact Statement.KeepsRows.keeps fun _ _ => within_rows_commitUpdate fun confirmed p hcheck _ =>
    quotaConfiguration_tracked hquota hrow (tracked_of_check hcheck)
      fun period hperiod => hbegins period hperiod policy hpolicy

theorem endsKeeping_updateCurrentPeer {targetInterface : InterfaceRow}
    (hw : KeepsRows (PeerRow.Tracked now) db w.db) :
    EndsKeeping P (KeepsRows (PeerRow.Tracked now) db)
      (updateCurrentPeer P row input sourceId targetId operationId targetInterface now) k w := by
  refine endsKeeping_bind executes_assertCurrentRemote hw fun remote _ _ hw => ?_
  refine endsKeeping_bind Procedure.makes_modify hw fun _ _ _ hw => ?_
  refine endsKeeping_bind (executes_request trivial) hw fun targetPeers _ _ hw => ?_
  refine endsKeeping_bind (executes_execute keepsRows_confirmAddress.keeps) hw
    fun clientIp _ _ hw => ?_
  dsimp only
  split
  · exact endsKeeping_bind (executes_moveRemotePeer fun s hs => (keepsRows_operation hs).keeps) hw
      fun updated _ _ hw => endsKeeping_commitCurrentPeer hrow hbegins hw
  · exact endsKeeping_bind executes_updateRemotePeer hw
      fun updated _ _ hw => endsKeeping_commitCurrentPeer hrow hbegins hw

end Update

/-- An update whose quota period, if it begins one, begins in the past. -/
theorem endsKeeping_updatePeer {peerId : String} {input : UpdatePeerInput}
    (hrows : ∀ p ∈ w.db.peers.rows, p.Tracked now)
    (hbegins : ∀ row ∈ w.db.peer peerId, ∀ period, row.BeginsPeriod input period →
      ∀ policy ∈ w.db.settings.policies, ∀ window,
        quotaPeriodWindow P now period policy = .ok window → window.start ≤ now) :
    EndsKeeping P (KeepsRows (PeerRow.Tracked now) w.db)
      (updatePeer P peerId input now : Service ℓ Unit) l w := by
  have hstart : KeepsRows (PeerRow.Tracked now) w.db w.db := Std.Refl.refl _
  refine Procedure.wp_bind.2 (Procedure.wp_bind.2 (wp_query_failing (wp_orThrow_failing
    (fun row hpeer => ?_) fun _ => hstart) fun _ => hstart))
  have hrow : row.Tracked now := hrows row (Database.peer_spec hpeer).1
  refine endsKeeping_bind (executes_execute keepsRows_startOperation.keeps) hstart
    fun operationId _ _ hw => ?_
  refine endsKeeping_bind executes_query hw fun _ _ _ hw => ?_
  refine endsKeeping_bind executes_orThrow hw fun interface _ _ hw => ?_
  refine endsKeeping_bind executes_routerClient hw fun sourceRouter _ _ hw => ?_
  have hrest : ∀ (targetRouter : RouterRow) (l : ℓ) (w' : World),
      KeepsRows (PeerRow.Tracked now) w.db w'.db →
        EndsKeeping P (KeepsRows (PeerRow.Tracked now) w.db)
        (Procedure.withLocals {} (tryCatch
          (updateCurrentPeer P row input sourceRouter.id targetRouter.id operationId interface now)
          (abandonUpdate row input sourceRouter.id targetRouter.id operationId))) l w' :=
    fun targetRouter l w' hw => by
      refine Procedure.wp_withLocals.2 (Procedure.wp_tryCatch.2 (Procedure.wp_mono
        (endsKeeping_updateCurrentPeer hrow (hbegins row hpeer) hw) (fun _ _ _ => id)
        fun e k w' hw => ?_))
      exact endsKeeping_of_executes (makes_abandonUpdate
        (fun _ _ => (keepsRows_recoverUpdate fun _ _ => tracked_congr).keeps)
        (fun _ _ _ => (keepsRows_tracked _ _).keeps) fun s hs => (keepsRows_operation hs).keeps) hw
  dsimp only
  split
  · exact endsKeeping_bind executes_routerClient hw hrest
  · exact hrest _ _ _ hw

theorem endsKeeping_pollPeer {routerId peerId : String} {enforcedAt : ℤ}
    (hclear : ∀ p ∈ w.db.peer peerId,
      ∀ remote ∈ (w.routers routerId).remotePeers.find? fun remote => p.Matches remote,
        ∀ policy ∈ w.db.settings.policies, p.BeginsClear P remote policy now) :
    EndsKeeping P (KeepsRows (PeerRow.Tracked now) w.db)
      (pollPeer P routerId peerId now enforcedAt : Service ℓ EnforcementAction) l w := by
  have hstart : KeepsRows (PeerRow.Tracked now) w.db w.db := Std.Refl.refl _
  refine Procedure.wp_bind.2 (wp_routerClient_failing (fun router hrouter => ?_) fun _ => hstart)
  refine Procedure.wp_bind.2 (wp_getQuotaPolicy_failing fun policy hpolicy => ?_)
  refine Procedure.wp_bind.2 (wp_anySetting_failing fun onlineSeconds => ?_)
  refine Procedure.wp_bind.2 (wp_anySetting_failing fun sampleSeconds => ?_)
  refine Procedure.wp_bind.2 (wp_getPeers_failing ?_ fun _ => hstart)
  refine Procedure.wp_bind.2 (wp_query_failing ?_ fun _ => hstart)
  split
  · exact hstart
  next localPeer hfound =>
  unfold pollLocalPeer
  split
  · exact hstart
  next remote hremote =>
  -- Nothing has been changed yet, so the poll locks the row that it has read.
  have hmem : localPeer ∈ w.db.peers.rows :=
    List.mem_of_mem_filter (List.mem_of_find?_eq_some hfound)
  obtain rfl : localPeer.id = peerId := by simpa using List.find?_some hfound
  rw [hrouter] at hremote
  refine Procedure.wp_bind.2 (wp_execute_failing (fun _ _ observation db htx => ?_) fun _ => hstart)
  have hdb : KeepsRows (PeerRow.Tracked now) w.db db := by
    refine rows_recordObservation (fun c hc hnow hpeer ⟨db₁, hroll⟩ htracked => ?_) htx
    subst hc hnow
    have hsame : c.peer = localPeer :=
      Option.some.inj (hpeer.symm.trans (Database.peer_eq_some hmem))
    refine Counted.tracked_stored hroll (tracked_of_check (w.db.peers.check _ (hsame ▸ hmem)))
      htracked (hclear _ hpeer _ (hsame ▸ hremote) policy hpolicy)
  exact endsKeeping_of_executes (executes_enforceObservation
    (fun _ _ _ => (keepsRows_tracked _ _).keeps) fun _ => keepsRows_systemAudit.keeps) hdb

end Platform

/-! ## Runs -/

/-- The operations that count the traffic of a peer, or change its quota. -/
inductive QuotaAction
  | create (input : CreatePeerInput) (peerId : String) (keys : WireGuardKeys)
  /-- A poll, as far as one peer is concerned. -/
  | poll (routerId peerId : String) (enforcedAt : ℤ)
  | update (peerId : String) (input : UpdatePeerInput)
  | resetUsage (peerId : String)
  | temporarilyReenable (peerId : String) (minutes : ℤ)

/-- The service of an operation at the time `now`, without what it returns. -/
def QuotaAction.service (P : Platform) (now : ℤ) : QuotaAction → Service Unit Unit
  | .create input peerId keys => do let _ ← createPeer P input peerId keys now
  | .poll routerId peerId enforcedAt => do let _ ← pollPeer P routerId peerId now enforcedAt
  | .update peerId input => updatePeer P peerId input now
  | .resetUsage peerId => resetPeerQuotaUsage P peerId now
  | .temporarilyReenable peerId minutes => temporarilyReenablePeer P peerId minutes now

/-- An operation at the time `now` begins no quota period that is still to come,
    and a poll that begins one and finds it used up finds no time from before
    it. -/
def QuotaAction.Clear (P : Platform) (now : ℤ) (w : World) : QuotaAction → Prop
  | .create input .. => ∀ window,
    stagedWindow P input w.db.settings.quotaPolicy now = .ok (some window) → window.start ≤ now
  | .poll routerId peerId _ => ∀ p ∈ w.db.peer peerId,
    ∀ remote ∈ (w.routers routerId).remotePeers.find? fun remote => p.Matches remote,
      ∀ policy ∈ w.db.settings.policies, p.BeginsClear P remote policy now
  | .update peerId input => ∀ row ∈ w.db.peer peerId, ∀ period, row.BeginsPeriod input period →
    ∀ policy ∈ w.db.settings.policies, ∀ window,
      quotaPeriodWindow P now period policy = .ok window → window.start ≤ now
  | .resetUsage _ | .temporarilyReenable .. => True

/-- The complete operations, one after the other, at times that do not decrease,
    whichever of their calls fail. A step without an operation is anything that
    leaves the rows of the peers alone, such as traffic on a router or a change of
    the settings. -/
def quotaRuns (P : Platform) : System (World × ℤ) (ℤ × Option QuotaAction) where
  step
    | (now, some action), (w, time), (w', time') => time ≤ now ∧ time' = now ∧
      ∃ r, ((action.service P now).start ()).Ends (World.environment P fun _ _ => True) w r w'
    | (now, none), (w, time), (w', time') => time ≤ now ∧ time' = now ∧ w'.db.peers = w.db.peers

/-- Every operation of a run is clear. -/
def ClearSteps (P : Platform) (a : ℤ × Option QuotaAction) (s : World × ℤ) : Prop :=
  ∀ action ∈ a.2, action.Clear P a.1 s.1

variable {P : Platform} {w w' : World} {time time' now : ℤ}

theorem endsKeeping_bind_pure {α : Type} {I : Database → Prop} {x : Service Unit α}
    (h : EndsKeeping P I x () w) : EndsKeeping P I (do let _ ← x) () w :=
  Procedure.wp_bind.2 (Procedure.wp_mono h (fun _ _ _ => id) fun _ _ _ => id)

theorem endsKeeping_service {action : QuotaAction} (hrows : ∀ p ∈ w.db.peers.rows, p.Tracked now)
    (hclear : action.Clear P now w) :
    EndsKeeping P (KeepsRows (PeerRow.Tracked now) w.db) (action.service P now) () w := by
  cases action with
  | create => exact endsKeeping_bind_pure (endsKeeping_createPeer hclear)
  | poll => exact endsKeeping_bind_pure (endsKeeping_pollPeer hclear)
  | update => exact endsKeeping_updatePeer hrows hclear
  | resetUsage => exact endsKeeping_resetPeerQuotaUsage
  | temporarilyReenable => exact endsKeeping_temporarilyReenablePeer

/-- One step keeps the rows as they have to be. -/
theorem tracked_of_step {a : ℤ × Option QuotaAction} (hrows : ∀ p ∈ w.db.peers.rows, p.Tracked time)
    (hclear : ClearSteps P a (w, time)) (hstep : (quotaRuns P).step a (w, time) (w', time')) :
    ∀ p ∈ w'.db.peers.rows, p.Tracked time' := by
  obtain ⟨now, _ | action⟩ := a
  · obtain ⟨hnow, rfl, hpeers⟩ := hstep
    exact fun p hp => (hrows p (hpeers ▸ hp)).later hnow
  · obtain ⟨hnow, rfl, r, t, hrun⟩ := hstep
    have hlater : ∀ p ∈ w.db.peers.rows, p.Tracked time' := fun p hp => (hrows p hp).later hnow
    have halways : ((action.service P time').start ()).Always (World.environment P fun _ _ => True)
        (fun _ _ => True) (fun _ w' => KeepsRows (PeerRow.Tracked time') w.db w'.db) w :=
      Procedure.always_start.2 (endsKeeping_service hlater (hclear action rfl))
    exact (halways.ends hrun).rows hlater

/-- In a run of clear steps, every row says whether the limit of its peer is
    reached, and since when in the present quota period. -/
theorem marksLimit_of_reaches (P : Platform) {w w' : World} {time time' : ℤ}
    (h : (quotaRuns P).Reaches (ClearSteps P) (w, time) (w', time'))
    (hw : ∀ p ∈ w.db.peers.rows, p.Tracked time) : ∀ p ∈ w'.db.peers.rows, p.MarksLimit := by
  have htracked := h.invariant (I := fun s => ∀ p ∈ s.1.db.peers.rows, p.Tracked s.2) hw
    fun _ _ _ ht hclear hstep => tracked_of_step ht hclear hstep
  exact fun p hp => (htracked p hp).marksLimit

/-! ### Two runs -/

/-- A complete operation is a step. -/
theorem quotaRuns_step {action : QuotaAction} {decisions : List Decision} {r : Except AppError Unit}
    (htime : time ≤ now) (h : (action.service P now).run P decisions w = some (r, w')) :
    (quotaRuns P).step (now, some action) (w, time) (w', now) :=
  ⟨htime, rfl, r, Program.ends_of_run (fun d _ _ _ => ⟨d, trivial, rfl⟩) h⟩

/-- The peer of the installation with a limit of 1000 bytes, on the day that
    begins at the time 0. -/
def dailyPeer : PeerRow :=
  { limitedPeer with
    accounting := { limitedPeer.accounting with
      quotaPeriod := some .daily
      quotaPeriodEndsAt := some 86400000 } }

/-- It has received 1500 bytes. -/
def dailyWorld : World := plainWorld dailyPeer (by decide) heavyRemote

/-- When the period of a peer has begun, and when its limit was reached. -/
def PeerRow.marks (p : PeerRow) : Option ℤ × Option ℤ :=
  (p.accounting.quotaPeriodStartedAt, p.accounting.quotaReachedAt)

theorem dailyWorld_tracked : ∀ p ∈ dailyWorld.db.peers.rows, p.Tracked 0 := by
  intro p hp
  obtain rfl := List.mem_singleton.1 hp
  refine LimitMark.fresh (tracked_of_check (p := dailyPeer) (by decide))
    (fun _ _ => rfl) fun s hs => ?_
  cases hs
  exact le_rfl

/-- A poll finds the limit reached. -/
theorem marksLimit_of_reaches_daily :
    ∃ w', (quotaRuns Platform.plain).Reaches (ClearSteps Platform.plain)
      (dailyWorld, 0) (w', 60000) ∧
      w'.db.peers.rows.map PeerRow.marks = [(some 0, some 60000)] ∧
      ∀ p ∈ w'.db.peers.rows, p.MarksLimit := by
  have hmarks :
      (((QuotaAction.poll "r1" "p1" 60000).service Platform.plain 60000).run Platform.plain
      (List.replicate 11 {}) dailyWorld).map
        (fun outcome => outcome.2.db.peers.rows.map PeerRow.marks) =
        some [(some 0, some 60000)] := by
    decide +kernel
  obtain ⟨⟨r, w'⟩, hrun, hrows⟩ := Option.map_eq_some_iff.1 hmarks
  have hclear :
      ClearSteps Platform.plain (60000, some (.poll "r1" "p1" 60000)) (dailyWorld, 0) := by
    rintro _ ⟨⟩ p hp remote - policy - hover
    obtain rfl : dailyPeer = p := Option.some.inj
      ((plainWorld_peer dailyPeer (by decide) heavyRemote).symm.trans hp)
    exact absurd hover (by decide)
  have hreach : (quotaRuns Platform.plain).Reaches (ClearSteps Platform.plain) (dailyWorld, 0)
      (w', 60000) := .tail .refl hclear (quotaRuns_step (by decide) hrun)
  exact ⟨w', hreach, hrows, marksLimit_of_reaches Platform.plain hreach dailyWorld_tracked⟩

/-- The peer of the world `w`, with the counter of its router at 3000. -/
def trafficked (w : World) : World :=
  { w with routers := fun _ => plainContent { heavyRemote with rxBytes := 3000 } }

/-- What two polls leave, one after the limit was reached and one in the next
    period, of which as much is used at once. -/
def exceedingMarks : Option (List (Option ℤ × Option ℤ)) :=
  (((QuotaAction.poll "r1" "p1" 60000).service Platform.plain 60000).run Platform.plain
      (List.replicate 11 {}) dailyWorld).bind fun first =>
    (((QuotaAction.poll "r1" "p1" 86400000).service Platform.plain 86400000).run Platform.plain
      (List.replicate 13 {}) (trafficked first.2)).map fun second =>
      second.2.db.peers.rows.map PeerRow.marks

/-- The limit of the second day was reached on the first. -/
theorem exists_not_marksLimit :
    ¬∀ (P : Platform) (w w' : World) (time time' : ℤ),
      (quotaRuns P).Reaches (fun _ _ => True) (w, time) (w', time') →
      (∀ p ∈ w.db.peers.rows, p.Tracked time) → ∀ p ∈ w'.db.peers.rows, p.MarksLimit := by
  intro h
  have hmarks : exceedingMarks = some [(some 86400000, some 60000)] := by decide +kernel
  obtain ⟨⟨_, first⟩, hfirst, hrest⟩ := Option.bind_eq_some_iff.1 hmarks
  obtain ⟨⟨_, second⟩, hsecond, hrows⟩ := Option.map_eq_some_iff.1 hrest
  have hreach : (quotaRuns Platform.plain).Reaches (fun _ _ => True) (dailyWorld, 0)
      (second, 86400000) :=
    .tail (.tail (.tail .refl trivial (quotaRuns_step (by decide) hfirst)) trivial
      (show (quotaRuns Platform.plain).step (60000, none) (first, 60000)
          (trafficked first, 60000) from
        ⟨le_rfl, rfl, rfl⟩)) trivial (quotaRuns_step (by decide) hsecond)
  obtain ⟨p, hp, hpair⟩ := List.mem_map.1 (show (some 86400000, some 60000) ∈
    second.db.peers.rows.map PeerRow.marks from hrows ▸ List.mem_singleton_self _)
  obtain ⟨hstart, hreached⟩ := Prod.mk.inj hpair
  have hsince := (h Platform.plain _ _ _ _ hreach dailyWorld_tracked p hp).since _ hstart _ hreached
  exact absurd hsince (by decide)

end WireguardPanel
