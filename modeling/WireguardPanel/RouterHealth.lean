import WireguardPanel.Database
import WireguardPanel.Foundation.System
import Mathlib.Data.List.Nodup
import Mathlib.Data.List.Sort
import Mathlib.Data.String.Basic
import Mathlib.Logic.Function.Basic

/-!
# The health of the routers

Three jobs of the worker visit the routers in rounds: the health polls, the synchronisations and
the traffic polls. A request may synchronise any router at any time. Each attempt writes to the
row of its router what has become of it, and a router that cannot be reached is left alone for a
while, the longer the more often it has failed.

* `RouterAttempt.record`: what an attempt writes. The rounds do not write the same columns.
* `RouterRounds.next`: the three rounds and the requests, in any order.
* `routers_report`: however they are interleaved, the columns of a router report its
  attempts: its failures since the last success, when it is tried again, and what the last
  attempt to read its statistics has come to.
* `backoff_respected`: no round takes up a router that is to be left alone, so that the rounds
  contact it no more often than they were about to; and no router is left alone for more than
  an hour.

The other jobs that contact routers, such as the reconciliation of operations, are no rounds. Where
they synchronise a router, they do so as a request does.
-/

namespace WireguardPanel

open Foundation

/-! ## The columns -/

/-- `connection_status`. -/
inductive ConnectionStatus
  | unknown
  | connected
  | offline
  | authFailed
  | timeout
  | apiUnavailable
  | tlsError
  | unsupported
  deriving DecidableEq, Repr

/-- `stats_poll_status`. -/
inductive StatsPollStatus
  | unknown
  | reachable
  | unreachable
  deriving DecidableEq, Repr

/-- The columns of a router that its attempts write. -/
structure RouterHealthRow where
  id : String
  name : String
  enabled : Bool
  connectionStatus : ConnectionStatus := .unknown
  lastError : Option String := none
  lastCheckedAt : Option ℤ := none
  lastSyncedAt : Option ℤ := none
  statsPollStatus : StatsPollStatus := .unknown
  lastStatsPollAt : Option ℤ := none
  lastStatsSuccessAt : Option ℤ := none
  lastStatsError : Option String := none
  lastSuccessfulConnectionAt : Option ℤ := none
  lastFailedOperationAt : Option ℤ := none
  lastFailedOperation : Option String := none
  consecutiveFailures : ℕ := 0
  nextRetryAt : Option ℤ := none
  deriving DecidableEq, Repr

/-- An error, its message as `redactError` leaves it. -/
structure RouterError where
  message : String
  code : Option String := none
  deriving DecidableEq, Repr

/-- `LEAST(3600,power(2,LEAST(consecutive_failures,11))*15)`, in milliseconds. -/
def retryDelay (consecutiveFailures : ℕ) : ℤ :=
  min 3600 (2 ^ min consecutiveFailures 11 * 15) * 1000

/-- The delay doubles up to an hour; that its exponent is limited as well makes no
    difference. -/
theorem retryDelay_eq (n : ℕ) : retryDelay n = min 3600 (2 ^ n * 15) * 1000 := by
  rw [retryDelay]
  rcases Nat.le_total n 11 with h | h
  · rw [min_eq_left h]
  · have hpow : (2 : ℤ) ^ 11 ≤ 2 ^ n := pow_le_pow_right₀ (by norm_num) h
    rw [min_eq_right h, min_eq_left (by norm_num), min_eq_left (by linarith)]

/-- No failure shortens the delay. -/
theorem retryDelay_mono {m n : ℕ} (h : m ≤ n) : retryDelay m ≤ retryDelay n := by
  have hpow : (2 : ℤ) ^ m ≤ 2 ^ n := pow_le_pow_right₀ (by norm_num) h
  rw [retryDelay_eq, retryDelay_eq]
  omega

/-- `$2 ILIKE '%pattern%'`, for a pattern of small letters. -/
def ilikeContains (pattern text : String) : Bool :=
  decide (pattern.toList <:+: text.toList.map Char.toLower)

/-- `routerStatus`. -/
def routerStatus (code : String) : ConnectionStatus :=
  if code = "auth_failed" then .authFailed
  else if code = "timeout" then .timeout
  else if code = "tls_error" then .tlsError
  else if code = "unsupported" then .unsupported
  else .apiUnavailable

namespace RouterHealthRow

variable (now attemptedAt : ℤ) (error : RouterError) (row : RouterHealthRow)

/-- The row of a new router. -/
def created (id name : String) (enabled : Bool) : RouterHealthRow where
  id := id
  name := name
  enabled := enabled
  connectionStatus := .connected
  lastCheckedAt := some now

/-- The `UPDATE` of an edited router. -/
def edited (name : String) (enabled : Bool) : RouterHealthRow :=
  { row with
    name := name
    enabled := enabled
    connectionStatus := .connected
    lastCheckedAt := some now
    lastError := none }

/-- What `pollRouterHealth` writes. It leaves the columns of the statistics alone. -/
def healthy : RouterHealthRow :=
  { row with
    connectionStatus := .connected
    lastSuccessfulConnectionAt := some now
    lastError := none
    lastCheckedAt := some now
    consecutiveFailures := 0
    nextRetryAt := none }

/-- `markRouterFailure`. -/
def markRouterFailure : RouterHealthRow :=
  { row with
    connectionStatus :=
      if ilikeContains "password" error.message ∨ ilikeContains "username" error.message then
        .authFailed
      else .offline
    statsPollStatus := .unreachable
    lastStatsPollAt := some now
    lastStatsError := some error.message
    lastError := some error.message
    lastFailedOperationAt := some now
    lastFailedOperation := some error.message
    lastCheckedAt := some now
    consecutiveFailures := row.consecutiveFailures + 1
    nextRetryAt := some (now + retryDelay row.consecutiveFailures) }

/-- What `syncRouter` writes. -/
def synced : RouterHealthRow :=
  { row with
    connectionStatus := .connected
    lastError := none
    lastCheckedAt := some now
    statsPollStatus := .reachable
    lastStatsPollAt := some now
    lastStatsSuccessAt := some now
    lastStatsError := none
    lastSuccessfulConnectionAt := some now
    consecutiveFailures := 0
    nextRetryAt := none
    lastSyncedAt := some now }

/-- What `syncRouter` writes after an error. -/
def syncFailed : RouterHealthRow :=
  { row with
    connectionStatus := routerStatus (error.code.getD "api_unavailable")
    lastError := some error.message
    lastCheckedAt := some now
    statsPollStatus := .unreachable
    lastStatsPollAt := some now
    lastStatsError := some error.message
    lastFailedOperationAt := some now
    lastFailedOperation := some error.message
    consecutiveFailures := row.consecutiveFailures + 1
    nextRetryAt := some (now + retryDelay row.consecutiveFailures) }

/-- What `pollRouterTraffic` writes. -/
def polled : RouterHealthRow :=
  { row with
    statsPollStatus := .reachable
    lastStatsPollAt := some attemptedAt
    lastStatsSuccessAt := some attemptedAt
    lastStatsError := none
    connectionStatus := .connected
    lastCheckedAt := some attemptedAt
    lastSuccessfulConnectionAt := some attemptedAt
    consecutiveFailures := 0
    nextRetryAt := none }

/-- What `pollRouterTraffic` writes after an error. -/
def pollFailed : RouterHealthRow :=
  { row with
    statsPollStatus := .unreachable
    lastStatsPollAt := some attemptedAt
    lastStatsError := some error.message
    connectionStatus :=
      if row.connectionStatus = .authFailed then row.connectionStatus else .offline
    lastFailedOperationAt := some attemptedAt
    lastFailedOperation := some error.message
    consecutiveFailures := row.consecutiveFailures + 1
    nextRetryAt := some (now + retryDelay row.consecutiveFailures)
    lastCheckedAt := some attemptedAt }

/-- `next_retry_at IS NULL OR next_retry_at<=now()`. -/
def isDue : Bool :=
  row.nextRetryAt.all fun retryAt => decide (retryAt ≤ now)

end RouterHealthRow

/-! ## Attempts -/

/-- What contacts the routers: `pollRouterHealth`, `syncRouter` and `pollRouterTraffic`. -/
inductive RouterTask
  | health
  | sync
  | traffic
  deriving DecidableEq, Repr

/-- What an attempt comes to. -/
inductive AttemptOutcome
  | succeeded
  | failed (error : RouterError)
  /-- Its failure could not be written. -/
  | lost
  deriving DecidableEq, Repr

/-- An attempt to contact a router, in a round or for a request. -/
structure RouterAttempt where
  router : String
  task : RouterTask
  requested : Bool
  startedAt : ℤ
  endedAt : ℤ
  outcome : AttemptOutcome
  deriving DecidableEq, Repr

namespace RouterAttempt

variable (a : RouterAttempt)

/-- The error of an attempt. -/
def error : Option String :=
  match a.outcome with
  | .failed error => some error.message
  | .succeeded | .lost => none

/-- The attempt has failed, and this has been written. -/
def failed : Bool :=
  a.error.isSome

/-- Whether an attempt writes to the columns of the statistics. -/
def writesStats : Bool :=
  a.failed || a.task ≠ .health

/-- The time that the attempt writes. -/
def writtenAt : ℤ :=
  if a.task = .traffic then a.startedAt else a.endedAt

/-- What an attempt writes to the row of its router. -/
def record (row : RouterHealthRow) : RouterHealthRow :=
  match a.outcome, a.task with
  | .succeeded, .health => row.healthy a.endedAt
  | .succeeded, .sync => row.synced a.endedAt
  | .succeeded, .traffic => row.polled a.startedAt
  | .failed error, .health => row.markRouterFailure a.endedAt error
  | .failed error, .sync => row.syncFailed a.endedAt error
  | .failed error, .traffic => row.pollFailed a.endedAt a.startedAt error
  | .lost, _ => row

theorem record_id (row : RouterHealthRow) : (a.record row).id = row.id := by
  unfold record
  split <;> rfl

end RouterAttempt

/-- The row says what the attempts, the newest first, have come to. -/
structure RouterHealthRow.Reports (row : RouterHealthRow) (attempts : List RouterAttempt) :
    Prop where
  /-- The failures are those since the last success of any attempt. -/
  failures : row.consecutiveFailures = (attempts.takeWhile RouterAttempt.failed).length
  /-- The router is tried again when a time has passed that doubles with every failure. -/
  retry : row.nextRetryAt = ((attempts.head?).filter RouterAttempt.failed).map fun a =>
    a.endedAt + min 3600 (2 ^ (row.consecutiveFailures - 1) * 15) * 1000
  /-- The statistics are reachable if the last attempt that says so has succeeded. -/
  stats : row.statsPollStatus =
    match attempts.find? RouterAttempt.writesStats with
    | none => .unknown
    | some a => if a.failed then .unreachable else .reachable
  statsError : row.lastStatsError =
    (attempts.find? RouterAttempt.writesStats).bind RouterAttempt.error
  statsPoll : row.lastStatsPollAt =
    (attempts.find? RouterAttempt.writesStats).map RouterAttempt.writtenAt
  statsSuccess : row.lastStatsSuccessAt =
    (attempts.find? fun a => a.writesStats && !a.failed).map RouterAttempt.writtenAt
  failedOperation : row.lastFailedOperation =
    (attempts.find? RouterAttempt.failed).bind RouterAttempt.error
  failedOperationAt : row.lastFailedOperationAt =
    (attempts.find? RouterAttempt.failed).map RouterAttempt.writtenAt
  successfulConnection : row.lastSuccessfulConnectionAt =
    (attempts.find? fun a => !a.failed).map RouterAttempt.writtenAt
  sync : row.lastSyncedAt =
    (attempts.find? fun a => !a.failed && a.task = .sync).map RouterAttempt.writtenAt
  /-- After a success the router is connected, also when it has been edited since. -/
  connected : ∀ a ∈ attempts.head?, a.failed = false → row.connectionStatus = .connected

namespace RouterHealthRow.Reports

variable {row : RouterHealthRow} {attempts : List RouterAttempt}

theorem created (id name : String) (enabled : Bool) (now : ℤ) :
    (RouterHealthRow.created now id name enabled).Reports [] := by
  constructor <;> simp [RouterHealthRow.created]

theorem edited (h : row.Reports attempts) (name : String) (enabled : Bool) (now : ℤ) :
    (row.edited now name enabled).Reports attempts :=
  { h with connected := fun _ _ _ => rfl }

/-- What an attempt writes reports it as well. -/
theorem record (h : row.Reports attempts) {a : RouterAttempt} (ha : a.outcome ≠ .lost) :
    (a.record row).Reports (a :: attempts) := by
  obtain ⟨router, task, requested, startedAt, endedAt, outcome⟩ := a
  cases outcome with
  | lost => exact absurd rfl ha
  | succeeded =>
    cases task <;> constructor <;>
      simp [RouterAttempt.record, RouterAttempt.failed, RouterAttempt.error,
        RouterAttempt.writesStats, RouterAttempt.writtenAt, healthy, synced, polled, h.stats,
        h.statsError, h.statsPoll, h.statsSuccess, h.failedOperation, h.failedOperationAt, h.sync]
  | failed error =>
    cases task <;> constructor <;>
      simp [RouterAttempt.record, RouterAttempt.failed, RouterAttempt.error,
        RouterAttempt.writesStats, RouterAttempt.writtenAt, markRouterFailure, syncFailed,
        pollFailed, h.failures, h.statsSuccess, h.successfulConnection, h.sync, retryDelay_eq,
        List.takeWhile_cons, List.find?_cons]

/-- No time is written before which the attempts say that the router is to be left alone. -/
theorem retry_le (h : row.Reports attempts) {retryAt : ℤ}
    (hretry : row.nextRetryAt = some retryAt) :
    ∃ a ∈ attempts, retryAt ≤ a.endedAt + 3600000 := by
  rw [h.retry, Option.map_eq_some_iff] at hretry
  obtain ⟨a, ha, rfl⟩ := hretry
  obtain ⟨hhead, -⟩ := Option.filter_eq_some_iff.1 ha
  exact ⟨a, List.mem_of_head? hhead, by omega⟩

end RouterHealthRow.Reports

/-! ## Rounds -/

/-- A round of one of the three jobs: the routers that it has still to contact, and when it
    turned to the first of them. -/
structure RouterRound where
  remaining : List String := []
  startedAt : ℤ := 0
  deriving DecidableEq, Repr

/-- The routers and the three rounds. The attempts, the newest first, are not
    stored. -/
structure RouterRounds where
  now : ℤ
  routers : List RouterHealthRow
  peers : List PeerRow
  rounds : RouterTask → RouterRound
  log : List RouterAttempt

/-- What happens to the routers. -/
inductive RouterEvent
  /-- Time passes. -/
  | wait (ms : ℕ)
  | create (id name : String) (enabled : Bool)
  | edit (id name : String) (enabled : Bool)
  | delete (id : String)
  /-- The rows of `peers` change. -/
  | changePeers (peers : List PeerRow)
  /-- A round begins. -/
  | select (task : RouterTask)
  /-- A round is done with a router. -/
  | attempt (task : RouterTask) (outcome : AttemptOutcome)
  /-- `syncRouter` is done with a router for a request. -/
  | sync (id : String) (outcome : AttemptOutcome)

namespace RouterRounds

/-- No routers yet. -/
def start (now : ℤ) : RouterRounds where
  now := now
  routers := []
  peers := []
  rounds _ := {}
  log := []

variable (s : RouterRounds)

/-- The routers of a new round: those that are enabled and not left alone, and for
    `pollAllRouterTraffic` those with peers, in the order of their names. -/
def selected (task : RouterTask) : List String :=
  let rows := s.routers.filter fun row => row.enabled && row.isDue s.now &&
    (task ≠ .traffic || s.peers.any fun p => p.routerId = row.id)
  (rows.insertionSort fun a b => a.name ≤ b.name).map RouterHealthRow.id

/-- The attempts to contact a router whose outcome has been written. -/
def attempts (id : String) : List RouterAttempt :=
  s.log.filter fun a => a.router = id ∧ a.outcome ≠ .lost

/-- The attempts to contact a router in a round. -/
def byRounds (id : String) : List RouterAttempt :=
  s.log.filter fun a => a.router = id ∧ a.requested = false

/-- The rounds that have still to contact a router. -/
def awaiting (id : String) : List RouterTask :=
  [.health, .sync, .traffic].filter fun task => id ∈ (s.rounds task).remaining

/-- `gen_random_uuid()` gives an id that has not been used before. -/
def IsNew (id : String) : Prop :=
  (∀ row ∈ s.routers, row.id ≠ id) ∧ ∀ a ∈ s.log, a.router ≠ id

instance (id : String) : Decidable (s.IsNew id) := by
  unfold IsNew
  infer_instance

/-- An attempt writes what it has come to. -/
def finish (a : RouterAttempt) : RouterRounds :=
  { s with
    routers := s.routers.map fun row => if row.id = a.router then a.record row else row
    log := a :: s.log }

/-- A round goes on with other routers. -/
def turn (task : RouterTask) (remaining : List String) : RouterRounds :=
  { s with rounds := Function.update s.rounds task ⟨remaining, s.now⟩ }

/-- The attempt of a round that ends now. -/
def roundAttempt (task : RouterTask) (id : String) (outcome : AttemptOutcome) : RouterAttempt where
  router := id
  task := task
  requested := false
  startedAt := (s.rounds task).startedAt
  endedAt := s.now
  outcome := outcome

/-- The attempt for a request that ends now. -/
def requestedAttempt (id : String) (outcome : AttemptOutcome) : RouterAttempt where
  router := id
  task := .sync
  requested := true
  startedAt := s.now
  endedAt := s.now
  outcome := outcome

/-- What an event does, if it can happen. -/
def next : RouterEvent → RouterRounds → Option RouterRounds
  | .wait ms, s => some { s with now := s.now + ms }
  | .create id name enabled, s =>
    if s.IsNew id then
      some { s with routers := .created s.now id name enabled :: s.routers }
    else none
  | .edit id name enabled, s =>
    some { s with
      routers := s.routers.map fun row =>
        if row.id = id then row.edited s.now name enabled else row }
  | .delete id, s =>
    some { s with
      routers := s.routers.filter fun row => row.id ≠ id
      peers := s.peers.filter fun p => p.routerId ≠ id }
  | .changePeers peers, s =>
    -- `router_id` references `routers`.
    if ∀ p ∈ peers, ∃ row ∈ s.routers, row.id = p.routerId then some { s with peers := peers }
    else none
  | .select task, s =>
    if (s.rounds task).remaining = [] then some (s.turn task (s.selected task)) else none
  | .attempt task outcome, s =>
    match (s.rounds task).remaining with
    | [] => none
    | id :: remaining => some ((s.finish (s.roundAttempt task id outcome)).turn task remaining)
  | .sync id outcome, s => some (s.finish (s.requestedAttempt id outcome))

/-- The routers, however the rounds and the requests are interleaved. -/
abbrev system : System RouterRounds RouterEvent :=
  .ofNext next

variable {s}

theorem mem_selected {task : RouterTask} {id : String} :
    id ∈ s.selected task ↔ ∃ row ∈ s.routers, row.id = id ∧ row.enabled = true ∧
      row.isDue s.now = true ∧ (task = .traffic → ∃ p ∈ s.peers, p.routerId = id) := by
  simp only [selected, List.mem_map, (List.perm_insertionSort ..).mem_iff, List.mem_filter,
    Bool.and_eq_true, Bool.or_eq_true, List.any_eq_true, decide_eq_true_eq]
  constructor
  · rintro ⟨row, ⟨hrow, ⟨henabled, hdue⟩, hpeers⟩, rfl⟩
    exact ⟨row, hrow, rfl, henabled, hdue, fun htask => hpeers.resolve_left (absurd htask)⟩
  · rintro ⟨row, hrow, rfl, henabled, hdue, hpeers⟩
    refine ⟨row, ⟨hrow, ⟨henabled, hdue⟩, ?_⟩, rfl⟩
    by_cases htask : task = .traffic
    · exact .inr (hpeers htask)
    · exact .inl htask

theorem nodup_selected (h : (s.routers.map RouterHealthRow.id).Nodup) (task : RouterTask) :
    (s.selected task).Nodup :=
  ((List.perm_insertionSort ..).map _).nodup_iff.2 ((List.filter_sublist.map _).nodup h)

theorem attempts_finish (a : RouterAttempt) (id : String) :
    (s.finish a).attempts id =
      if a.router = id ∧ a.outcome ≠ .lost then a :: s.attempts id else s.attempts id := by
  simp [attempts, finish, List.filter_cons]

theorem byRounds_finish (a : RouterAttempt) (id : String) :
    (s.finish a).byRounds id =
      if a.router = id ∧ a.requested = false then a :: s.byRounds id else s.byRounds id := by
  simp [byRounds, finish, List.filter_cons]

/-- A round that turns from a router to other ones no longer awaits it. -/
theorem length_awaiting_turn {task : RouterTask} {id : String} {remaining : List String}
    (h : (s.rounds task).remaining = id :: remaining) (hnew : id ∉ remaining) :
    ((s.turn task remaining).awaiting id).length + 1 = (s.awaiting id).length := by
  cases task <;> simp [awaiting, turn, List.filter_cons, h, hnew] <;> split_ifs <;> simp

theorem awaiting_turn {task : RouterTask} {id : String} {remaining : List String}
    (h : id ∈ remaining ↔ id ∈ (s.rounds task).remaining) :
    (s.turn task remaining).awaiting id = s.awaiting id := by
  refine List.filter_congr fun other _ => ?_
  by_cases heq : other = task
  · subst heq
    simp [turn, h]
  · simp [turn, heq]

/-- The columns report the attempts, none of which is still to end, and every peer has a
    router. -/
structure Sound (s : RouterRounds) : Prop where
  ids : (s.routers.map RouterHealthRow.id).Nodup
  references : ∀ p ∈ s.peers, ∃ row ∈ s.routers, row.id = p.routerId
  reports : ∀ row ∈ s.routers, row.Reports (s.attempts row.id)
  ended : ∀ a ∈ s.log, a.endedAt ≤ s.now
  remaining : ∀ task, (s.rounds task).remaining.Nodup

namespace Sound

theorem start (now : ℤ) : (start now).Sound where
  ids := List.nodup_nil
  references := by simp [RouterRounds.start]
  reports := by simp [RouterRounds.start]
  ended := by simp [RouterRounds.start]
  remaining _ := List.nodup_nil

theorem turn (h : s.Sound) {remaining : List String} (hnodup : remaining.Nodup)
    (task : RouterTask) : (s.turn task remaining).Sound where
  ids := h.ids
  references := h.references
  reports := h.reports
  ended := h.ended
  remaining other := by
    by_cases heq : other = task
    · subst heq
      simpa [RouterRounds.turn] using hnodup
    · simpa [RouterRounds.turn, heq] using h.remaining other

/-- A peer keeps its router when rows of routers change. -/
theorem references_map (h : s.Sound) {change : RouterHealthRow → RouterHealthRow}
    (hid : ∀ row, (change row).id = row.id) :
    ∀ p ∈ s.peers, ∃ row ∈ s.routers.map change, row.id = p.routerId := by
  intro p hp
  obtain ⟨row, hrow, hrouter⟩ := h.references p hp
  exact ⟨change row, List.mem_map_of_mem hrow, (hid row).trans hrouter⟩

/-- The row of an attempt reports it, and the other rows do not change. -/
theorem finish (h : s.Sound) {a : RouterAttempt} (ha : a.endedAt ≤ s.now) :
    (s.finish a).Sound where
  ids := by
    have hids : (s.finish a).routers.map RouterHealthRow.id = s.routers.map RouterHealthRow.id := by
      rw [RouterRounds.finish, List.map_map]
      refine List.map_congr_left fun row _ => ?_
      rw [Function.comp_apply]
      split_ifs
      · exact a.record_id row
      · rfl
    exact hids ▸ h.ids
  references := h.references_map fun row => by split_ifs <;> simp [a.record_id]
  reports row' hrow' := by
    obtain ⟨row, hrow, rfl⟩ := List.mem_map.1 hrow'
    have hreports := h.reports row hrow
    split_ifs with hid
    · rw [a.record_id, attempts_finish]
      split_ifs with hwritten
      · exact hreports.record hwritten.2
      · have hlost : a.outcome = .lost := by_contra fun hne => hwritten ⟨hid.symm, hne⟩
        simpa [RouterAttempt.record, hlost] using hreports
    · rw [attempts_finish, if_neg fun hwritten => hid hwritten.1.symm]
      exact hreports
  ended := List.forall_mem_cons.2 ⟨ha, h.ended⟩
  remaining := h.remaining

theorem step (h : s.Sound) {a : RouterEvent} {t : RouterRounds} (hstep : next a s = some t) :
    t.Sound := by
  cases a with
  | wait ms =>
    obtain rfl := Option.some.inj hstep
    exact ⟨h.ids, h.references, h.reports, fun a ha => (h.ended a ha).trans (by simp),
      h.remaining⟩
  | create id name enabled =>
    obtain ⟨⟨hrows, hlog⟩, hstep⟩ := Option.ite_none_right_eq_some.1 hstep
    obtain rfl := Option.some.inj hstep
    refine ⟨List.nodup_cons.2 ⟨?_, h.ids⟩, fun p hp => ?_, List.forall_mem_cons.2 ⟨?_, h.reports⟩,
      h.ended, h.remaining⟩
    · rintro hmem
      obtain ⟨row, hrow, hid⟩ := List.mem_map.1 hmem
      exact hrows row hrow hid
    · obtain ⟨row, hrow, hrouter⟩ := h.references p hp
      exact ⟨row, List.mem_cons_of_mem _ hrow, hrouter⟩
    · have hnone : s.attempts id = [] :=
        List.filter_eq_nil_iff.2 fun a ha => by simp [hlog a ha]
      exact hnone ▸ .created id name enabled s.now
  | edit id name enabled =>
    obtain rfl := Option.some.inj hstep
    refine ⟨?_, h.references_map fun row => by split_ifs <;> rfl, fun row' hrow' => ?_, h.ended,
      h.remaining⟩
    · have hids : (s.routers.map fun row =>
          if row.id = id then row.edited s.now name enabled else row).map RouterHealthRow.id =
          s.routers.map RouterHealthRow.id := by
        rw [List.map_map]
        exact List.map_congr_left fun row _ => by rw [Function.comp_apply]; split_ifs <;> rfl
      exact hids ▸ h.ids
    · obtain ⟨row, hrow, rfl⟩ := List.mem_map.1 hrow'
      split_ifs
      · exact (h.reports row hrow).edited name enabled s.now
      · exact h.reports row hrow
  | delete id =>
    obtain rfl := Option.some.inj hstep
    refine ⟨(List.filter_sublist.map _).nodup h.ids, fun p hp => ?_,
      fun row hrow => h.reports row (List.mem_of_mem_filter hrow), h.ended, h.remaining⟩
    obtain ⟨hp, hrouter⟩ := List.mem_filter.1 hp
    obtain ⟨row, hrow, hid⟩ := h.references p hp
    exact ⟨row, List.mem_filter.2 ⟨hrow, by simpa [hid] using hrouter⟩, hid⟩
  | changePeers peers =>
    obtain ⟨hreferences, hstep⟩ := Option.ite_none_right_eq_some.1 hstep
    obtain rfl := Option.some.inj hstep
    exact ⟨h.ids, hreferences, h.reports, h.ended, h.remaining⟩
  | select task =>
    obtain ⟨-, hstep⟩ := Option.ite_none_right_eq_some.1 hstep
    obtain rfl := Option.some.inj hstep
    exact h.turn (nodup_selected h.ids task) task
  | attempt task outcome =>
    cases hround : (s.rounds task).remaining with
    | nil => simp [next, hround] at hstep
    | cons id remaining =>
      obtain rfl : (s.finish (s.roundAttempt task id outcome)).turn task remaining = t := by
        simpa [next, hround] using hstep
      have hnodup : (id :: remaining).Nodup := hround ▸ h.remaining task
      exact (h.finish le_rfl).turn (List.nodup_cons.1 hnodup).2 task
  | sync id outcome =>
    obtain rfl := Option.some.inj hstep
    exact h.finish le_rfl

end Sound

/-- An event is not the success of an attempt to contact a router. -/
def NoSuccess (id : String) : RouterEvent → RouterRounds → Prop
  | .attempt task .succeeded, s => (s.rounds task).remaining.head? ≠ some id
  | .sync other .succeeded, _ => other ≠ id
  | _, _ => True

/-- A router is left alone until `retryAt`. Its attempts, and the rounds that await it, are
    no more than `limit`. -/
structure Resting (id : String) (retryAt : ℤ) (limit : ℕ) (s : RouterRounds) : Prop where
  sound : s.Sound
  known : ∃ a ∈ s.log, a.router = id
  rests : ∀ row ∈ s.routers, row.id = id → ∃ t, row.nextRetryAt = some t ∧ retryAt ≤ t
  count : (s.byRounds id).length + (s.awaiting id).length ≤ limit

namespace Resting

variable {id : String} {retryAt : ℤ} {limit : ℕ}

/-- A router that rests is not selected. -/
theorem not_mem_selected (h : s.Resting id retryAt limit) (hnow : s.now < retryAt)
    (task : RouterTask) : id ∉ s.selected task := by
  intro hmem
  obtain ⟨row, hrow, hid, -, hdue, -⟩ := mem_selected.1 hmem
  obtain ⟨t, ht, hle⟩ := h.rests row hrow hid
  have hpast : t ≤ s.now := by simpa [RouterHealthRow.isDue, ht] using hdue
  omega

/-- One more failure does not end the rest earlier, as it comes later and is followed by a
    longer delay. -/
theorem rests_record (h : s.Resting id retryAt limit) {a : RouterAttempt} (hend : a.endedAt = s.now)
    (hfail : a.outcome ≠ .succeeded) {row : RouterHealthRow} (hrow : row ∈ s.routers)
    (hid : row.id = id) : ∃ t, (a.record row).nextRetryAt = some t ∧ retryAt ≤ t := by
  obtain ⟨t, ht, hle⟩ := h.rests row hrow hid
  have hreports := h.sound.reports row hrow
  have hsooner : t ≤ s.now + retryDelay row.consecutiveFailures := by
    have hretry := hreports.retry
    rw [ht, eq_comm, Option.map_eq_some_iff] at hretry
    obtain ⟨b, hb, rfl⟩ := hretry
    obtain ⟨hhead, -⟩ := Option.filter_eq_some_iff.1 hb
    have hended := h.sound.ended b (List.mem_of_mem_filter (List.mem_of_head? hhead))
    have hdelay := retryDelay_mono (Nat.sub_le row.consecutiveFailures 1)
    rw [← retryDelay_eq]
    omega
  cases houtcome : a.outcome with
  | succeeded => exact absurd houtcome hfail
  | lost => exact ⟨t, by simpa [RouterAttempt.record, houtcome] using ht, hle⟩
  | failed error =>
    refine ⟨s.now + retryDelay row.consecutiveFailures, ?_, hle.trans hsooner⟩
    cases htask : a.task <;>
      simp [RouterAttempt.record, houtcome, htask, hend, RouterHealthRow.markRouterFailure,
        RouterHealthRow.syncFailed, RouterHealthRow.pollFailed]

/-- An attempt that does not succeed leaves the router at rest. -/
theorem rests_finish (h : s.Resting id retryAt limit) {a : RouterAttempt} (hend : a.endedAt = s.now)
    (hfail : a.router = id → a.outcome ≠ .succeeded) :
    ∀ row ∈ (s.finish a).routers, row.id = id → ∃ t, row.nextRetryAt = some t ∧ retryAt ≤ t := by
  intro row' hrow' hid
  obtain ⟨row, hrow, rfl⟩ := List.mem_map.1 hrow'
  split_ifs at hid ⊢ with hrouter
  · rw [a.record_id] at hid
    exact h.rests_record hend (hfail (hrouter.symm.trans hid)) hrow hid
  · exact h.rests row hrow hid

theorem step (h : s.Resting id retryAt limit) {a : RouterEvent} {t : RouterRounds}
    (hnow : s.now < retryAt) (hfail : NoSuccess id a s) (hstep : next a s = some t) :
    t.Resting id retryAt limit := by
  have hsound := h.sound.step hstep
  cases a with
  | wait ms =>
    obtain rfl := Option.some.inj hstep
    exact ⟨hsound, h.known, h.rests, h.count⟩
  | create other name enabled =>
    obtain ⟨⟨-, hlog⟩, hstep⟩ := Option.ite_none_right_eq_some.1 hstep
    obtain rfl := Option.some.inj hstep
    refine ⟨hsound, h.known, List.forall_mem_cons.2 ⟨fun hid => ?_, h.rests⟩, h.count⟩
    obtain ⟨a, ha, hrouter⟩ := h.known
    exact absurd (hrouter.trans hid.symm) (hlog a ha)
  | edit other name enabled =>
    obtain rfl := Option.some.inj hstep
    refine ⟨hsound, h.known, fun row' hrow' hid => ?_, h.count⟩
    obtain ⟨row, hrow, rfl⟩ := List.mem_map.1 hrow'
    split_ifs at hid ⊢
    · exact h.rests row hrow hid
    · exact h.rests row hrow hid
  | delete other =>
    obtain rfl := Option.some.inj hstep
    exact ⟨hsound, h.known, fun row hrow => h.rests row (List.mem_of_mem_filter hrow), h.count⟩
  | changePeers peers =>
    obtain ⟨-, hstep⟩ := Option.ite_none_right_eq_some.1 hstep
    obtain rfl := Option.some.inj hstep
    exact ⟨hsound, h.known, h.rests, h.count⟩
  | select task =>
    obtain ⟨hidle, hstep⟩ := Option.ite_none_right_eq_some.1 hstep
    obtain rfl := Option.some.inj hstep
    refine ⟨hsound, h.known, h.rests, ?_⟩
    have hsame : id ∈ s.selected task ↔ id ∈ (s.rounds task).remaining :=
      iff_of_false (h.not_mem_selected hnow task) (by simp [hidle])
    rw [awaiting_turn hsame]
    exact h.count
  | attempt task outcome =>
    cases hround : (s.rounds task).remaining with
    | nil => simp [next, hround] at hstep
    | cons other remaining =>
      obtain rfl : (s.finish (s.roundAttempt task other outcome)).turn task remaining = t := by
        simpa [next, hround] using hstep
      have hnodup : other ∉ remaining :=
        (List.nodup_cons.1 (hround ▸ h.sound.remaining task)).1
      have hrests := h.rests_finish (a := s.roundAttempt task other outcome) rfl fun hid hout => by
        obtain rfl : other = id := hid
        obtain rfl : outcome = .succeeded := hout
        exact hfail (by simp [hround])
      refine ⟨hsound, ?_, hrests, ?_⟩
      · obtain ⟨a, ha, hrouter⟩ := h.known
        exact ⟨a, List.mem_cons_of_mem _ ha, hrouter⟩
      · have hcount := h.count
        change ((s.finish _).byRounds id).length + _ ≤ limit
        rw [byRounds_finish]
        by_cases hid : other = id
        · -- The round awaited the router, and does so no longer.
          subst hid
          have hfewer := length_awaiting_turn
            (s := s.finish (s.roundAttempt task other outcome)) hround hnodup
          have hsame : (s.finish (s.roundAttempt task other outcome)).awaiting other =
            s.awaiting other := rfl
          rw [hsame] at hfewer
          rw [if_pos ⟨rfl, rfl⟩, List.length_cons]
          omega
        · rw [if_neg fun hrouter => hid hrouter.1, awaiting_turn]
          · exact hcount
          · change id ∈ remaining ↔ id ∈ (s.rounds task).remaining
            simp [hround, Ne.symm hid]
  | sync other outcome =>
    obtain rfl := Option.some.inj hstep
    have hrests := h.rests_finish (a := s.requestedAttempt other outcome) rfl fun hid hout => by
      obtain rfl : other = id := hid
      obtain rfl : outcome = .succeeded := hout
      exact hfail rfl
    refine ⟨hsound, ?_, hrests, ?_⟩
    · obtain ⟨a, ha, hrouter⟩ := h.known
      exact ⟨a, List.mem_cons_of_mem _ ha, hrouter⟩
    · rw [byRounds_finish, if_neg fun hrouter => absurd hrouter.2 (by simp [requestedAttempt])]
      exact h.count

end Resting

end RouterRounds

open RouterRounds in
/-- However the rounds and the requests are interleaved, and whatever fails, the columns of a
    router report the attempts to contact it. -/
theorem routers_report {admits : RouterEvent → RouterRounds → Prop} {started : ℤ}
    {s : RouterRounds} (h : system.Reaches admits (start started) s) {row : RouterHealthRow}
    (hrow : row ∈ s.routers) : row.Reports (s.attempts row.id) := by
  have hsound : s.Sound := h.invariant (.start started) fun _ _ _ ht _ hstep => ht.step hstep
  exact hsound.reports row hrow

/-- A router, of which a synchronisation fails while a round is about to contact it. -/
def refusedEvents : List RouterEvent :=
  [.create "R1" "Office" true, .select .health, .sync "R1" (.failed ⟨"Timeout.", some "timeout"⟩)]

open RouterRounds in
/-- The routers after these events. -/
def refusedRouters : RouterRounds :=
  (System.run next refusedEvents (start 0)).getD (start 0)

open RouterRounds in
theorem reaches_refusedRouters : system.Reaches (fun _ _ => True) (start 0) refusedRouters := by
  have hrun : System.run next refusedEvents (start 0) = some refusedRouters := rfl
  exact System.reaches_of_run (fun _ _ _ => trivial) hrun

open RouterRounds in
theorem routers_report_refused :
    ∃ row ∈ refusedRouters.routers, row.Reports (refusedRouters.attempts row.id) ∧
      row.statsPollStatus = .unreachable ∧ row.nextRetryAt = some 15000 :=
  ⟨_, List.mem_cons_self .., routers_report reaches_refusedRouters (List.mem_cons_self ..),
    rfl, rfl⟩

open RouterRounds in
/-- Until a router is tried again, and unless it is reached in the meantime, only the rounds
    that awaited it already contact it. It is tried again within an hour after the last
    attempt: if it is enabled, it is taken up by any round that begins then. -/
theorem backoff_respected {started : ℤ} {s : RouterRounds}
    (h : system.Reaches (fun _ _ => True) (start started) s) {row : RouterHealthRow}
    (hrow : row ∈ s.routers) :
    (∀ retryAt ∈ row.nextRetryAt, ∀ t,
      system.Reaches (fun a u => u.now < retryAt ∧ NoSuccess row.id a u) s t →
        (t.byRounds row.id).length ≤ (s.byRounds row.id).length + (s.awaiting row.id).length) ∧
    (row.enabled = true → (∀ a ∈ s.attempts row.id, a.endedAt + 3600000 ≤ s.now) →
      ∀ task t, (task = .traffic → ∃ p ∈ s.peers, p.routerId = row.id) →
        next (.select task) s = some t → row.id ∈ (t.rounds task).remaining) := by
  have hsound : s.Sound := h.invariant (.start started) fun _ _ _ ht _ hstep => ht.step hstep
  have hreports := hsound.reports row hrow
  constructor
  · intro retryAt hretry t hrun
    obtain ⟨a, ha, -⟩ := hreports.retry_le hretry
    have hlogged := List.mem_filter.1 ha
    have hresting : s.Resting row.id retryAt
        ((s.byRounds row.id).length + (s.awaiting row.id).length) :=
      { sound := hsound
        known := ⟨a, hlogged.1, by simpa using (of_decide_eq_true hlogged.2).1⟩
        rests := fun other hother hid => by
          obtain rfl := List.inj_on_of_nodup_map hsound.ids hother hrow hid
          exact ⟨retryAt, hretry, le_rfl⟩
        count := le_rfl }
    have hlater : t.Resting row.id retryAt _ :=
      hrun.invariant hresting fun _ _ _ hu hallow hstep => hu.step hallow.1 hallow.2 hstep
    exact Nat.le_of_add_right_le hlater.count
  · intro henabled hpast task t hpeers hstep
    obtain ⟨-, hstep⟩ := Option.ite_none_right_eq_some.1 hstep
    obtain rfl := Option.some.inj hstep
    have hdue : row.isDue s.now = true := by
      rw [RouterHealthRow.isDue, Option.all_eq_true]
      intro retryAt hretry
      obtain ⟨a, ha, hle⟩ := hreports.retry_le hretry
      exact decide_eq_true (hle.trans (hpast a ha))
    simpa [turn] using mem_selected.2 ⟨row, hrow, rfl, henabled, hdue, hpeers⟩

open RouterRounds in
/-- The round that has already begun contacts the router before it is to be tried again. -/
theorem backoff_respected_refused :
    ∃ t : RouterRounds, (t.byRounds "R1").length ≤
      (refusedRouters.byRounds "R1").length + (refusedRouters.awaiting "R1").length ∧
      (t.byRounds "R1").length = 1 ∧ t.now = 14000 := by
  let t : RouterRounds := { refusedRouters with now := 14000 }
  let outcome : AttemptOutcome := .failed ⟨"No route.", none⟩
  let u : RouterRounds := (t.finish (t.roundAttempt .health "R1" outcome)).turn .health []
  have hwait : system.Reaches (fun a u => u.now < 15000 ∧ NoSuccess "R1" a u) refusedRouters t :=
    .tail .refl (a := .wait 14000) ⟨by decide, trivial⟩ rfl
  have hstep : next (.attempt .health outcome) t = some u := rfl
  have hattempt := hwait.tail ⟨by decide, by exact trivial⟩ hstep
  have hrespected := backoff_respected reaches_refusedRouters (List.mem_cons_self ..)
  exact ⟨u, hrespected.1 15000 rfl u hattempt, rfl, rfl⟩

end WireguardPanel
