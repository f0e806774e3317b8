import WireguardPanel.Foundation.Json
import WireguardPanel.Retention

/-!
# The settings of the worker

How often the jobs of the worker run is a setting. It is stored as JSON by a route that
checks it, and read by the worker, which checks it again and falls back to what the
environment says.

* `Env`: the variables that the environment may set, with their bounds.
* `PerformancePolicy`: the setting. `PerformancePolicy.Valid` is what the worker
  checks.
* `PerformancePolicy.getPerformancePolicy`: what the worker takes, whatever is stored.
* `defaultPerformancePolicy_valid_iff`: an environment can be accepted whose own
  policy is not valid.
* `getPerformancePolicy_spec`: when every policy that is taken is valid, and what
  becomes of a policy that the route stores.

Numbers in stored JSON are whole numbers here.
-/

namespace WireguardPanel

open Foundation

/-- `LogLevel`. -/
inductive LogLevel
  | error
  | warn
  | info
  | debug
  deriving DecidableEq

/-- The text of a level. -/
def LogLevel.text : LogLevel → String
  | .error => "error"
  | .warn => "warn"
  | .info => "info"
  | .debug => "debug"

/-- The level of a text. -/
def LogLevel.ofText (text : String) : Option LogLevel :=
  [.error, .warn, .info, .debug].find? fun level : LogLevel => level.text = text

@[simp] theorem LogLevel.ofText_text (level : LogLevel) : ofText level.text = some level := by
  cases level <;> decide

/-- `PerformancePolicy`. -/
structure PerformancePolicy where
  trafficPollSeconds : ℤ
  syncIntervalSeconds : ℤ
  routerHealthSeconds : ℤ
  bandwidthSeconds : ℤ
  operationReconciliationSeconds : ℤ
  trafficAggregationSeconds : ℤ
  maintenanceSeconds : ℤ
  rawTrafficSampleSeconds : ℤ
  auditRetentionDays : ℤ
  logLevel : LogLevel
  deriving DecidableEq

/-! ## The environment -/

/-- The variables of `env()` that the worker works with. -/
structure Env where
  syncIntervalSeconds : ℤ := 300
  mikrotikStatsInterval : ℤ := 30
  routerHealthIntervalSeconds : ℤ := 60
  bandwidthIntervalSeconds : ℤ := 300
  operationReconciliationIntervalSeconds : ℤ := 60
  trafficAggregationIntervalSeconds : ℤ := 3600
  maintenanceIntervalSeconds : ℤ := 21600
  rawTrafficSampleSeconds : ℤ := 300
  auditRetentionDays : ℤ := 180
  logLevel : LogLevel := .info
  expirationIntervalSeconds : ℤ := 60

/-- A value lies within bounds. -/
def Between (low high n : ℤ) : Prop := low ≤ n ∧ n ≤ high

instance (low high n : ℤ) : Decidable (Between low high n) := inferInstanceAs (Decidable (_ ∧ _))

/-- The schema of `env.ts` accepts the variables. -/
structure Env.Accepted (e : Env) : Prop where
  syncInterval : 30 ≤ e.syncIntervalSeconds
  statsInterval : Between 10 3600 e.mikrotikStatsInterval
  routerHealth : Between 30 3600 e.routerHealthIntervalSeconds
  bandwidth : Between 60 86400 e.bandwidthIntervalSeconds
  operationReconciliation : Between 30 3600 e.operationReconciliationIntervalSeconds
  trafficAggregation : Between 300 86400 e.trafficAggregationIntervalSeconds
  maintenance : Between 3600 86400 e.maintenanceIntervalSeconds
  rawTrafficSample : Between 30 3600 e.rawTrafficSampleSeconds
  auditRetention : Between 0 3650 e.auditRetentionDays
  expirationInterval : 30 ≤ e.expirationIntervalSeconds

/-- `defaultPerformancePolicy`. -/
def defaultPerformancePolicy (e : Env) : PerformancePolicy where
  trafficPollSeconds := e.mikrotikStatsInterval
  syncIntervalSeconds := e.syncIntervalSeconds
  routerHealthSeconds := e.routerHealthIntervalSeconds
  bandwidthSeconds := e.bandwidthIntervalSeconds
  operationReconciliationSeconds := e.operationReconciliationIntervalSeconds
  trafficAggregationSeconds := e.trafficAggregationIntervalSeconds
  maintenanceSeconds := e.maintenanceIntervalSeconds
  rawTrafficSampleSeconds := e.rawTrafficSampleSeconds
  auditRetentionDays := e.auditRetentionDays
  logLevel := e.logLevel

/-! ## Stored settings -/

namespace PerformancePolicy

/-- The bounds of `validPerformancePolicy`. -/
structure Valid (p : PerformancePolicy) : Prop where
  trafficPoll : Between 10 3600 p.trafficPollSeconds
  syncInterval : Between 60 86400 p.syncIntervalSeconds
  routerHealth : Between 30 3600 p.routerHealthSeconds
  bandwidth : Between 60 86400 p.bandwidthSeconds
  operationReconciliation : Between 30 3600 p.operationReconciliationSeconds
  trafficAggregation : Between 300 86400 p.trafficAggregationSeconds
  maintenance : Between 3600 86400 p.maintenanceSeconds
  rawTrafficSample : Between p.trafficPollSeconds 3600 p.rawTrafficSampleSeconds
  auditRetention : Between 0 3650 p.auditRetentionDays

theorem valid_iff (p : PerformancePolicy) : p.Valid ↔
    Between 10 3600 p.trafficPollSeconds ∧ Between 60 86400 p.syncIntervalSeconds ∧
    Between 30 3600 p.routerHealthSeconds ∧ Between 60 86400 p.bandwidthSeconds ∧
    Between 30 3600 p.operationReconciliationSeconds ∧
    Between 300 86400 p.trafficAggregationSeconds ∧ Between 3600 86400 p.maintenanceSeconds ∧
    Between p.trafficPollSeconds 3600 p.rawTrafficSampleSeconds ∧
    Between 0 3650 p.auditRetentionDays :=
  ⟨fun ⟨h₁, h₂, h₃, h₄, h₅, h₆, h₇, h₈, h₉⟩ => ⟨h₁, h₂, h₃, h₄, h₅, h₆, h₇, h₈, h₉⟩,
    fun ⟨h₁, h₂, h₃, h₄, h₅, h₆, h₇, h₈, h₉⟩ => ⟨h₁, h₂, h₃, h₄, h₅, h₆, h₇, h₈, h₉⟩⟩

instance (p : PerformancePolicy) : Decidable p.Valid := decidable_of_iff _ (valid_iff p).symm

/-- The members of the object that is stored. -/
def members (p : PerformancePolicy) : List (String × Json) :=
  [("trafficPollSeconds", .num p.trafficPollSeconds),
    ("syncIntervalSeconds", .num p.syncIntervalSeconds),
    ("routerHealthSeconds", .num p.routerHealthSeconds),
    ("bandwidthSeconds", .num p.bandwidthSeconds),
    ("operationReconciliationSeconds", .num p.operationReconciliationSeconds),
    ("trafficAggregationSeconds", .num p.trafficAggregationSeconds),
    ("maintenanceSeconds", .num p.maintenanceSeconds),
    ("rawTrafficSampleSeconds", .num p.rawTrafficSampleSeconds),
    ("auditRetentionDays", .num p.auditRetentionDays), ("logLevel", .str p.logLevel.text)]

/-- A property that is a whole number. -/
def integerField (v : Json) (k : String) : Option ℤ :=
  match v.field k with
  | some (.num n) => some n
  | _ => none

/-- A property that is one of the levels. -/
def levelField (v : Json) (k : String) : Option LogLevel :=
  match v.field k with
  | some (.str text) => LogLevel.ofText text
  | _ => none

/-- The policy that an object is, as far as its types go. -/
def ofJson (v : Json) : Option PerformancePolicy := do
  return {
    trafficPollSeconds := ← integerField v "trafficPollSeconds"
    syncIntervalSeconds := ← integerField v "syncIntervalSeconds"
    routerHealthSeconds := ← integerField v "routerHealthSeconds"
    bandwidthSeconds := ← integerField v "bandwidthSeconds"
    operationReconciliationSeconds := ← integerField v "operationReconciliationSeconds"
    trafficAggregationSeconds := ← integerField v "trafficAggregationSeconds"
    maintenanceSeconds := ← integerField v "maintenanceSeconds"
    rawTrafficSampleSeconds := ← integerField v "rawTrafficSampleSeconds"
    auditRetentionDays := ← integerField v "auditRetentionDays"
    logLevel := ← levelField v "logLevel" }

/-- `validPerformancePolicy`, with the policy that is valid. -/
def validPerformancePolicy (v : Json) : Option PerformancePolicy := (ofJson v).filter (·.Valid)

/-- `{ ...fallback, ...value }`. Values without properties of their own add none. -/
def spread (fallback : PerformancePolicy) (value : Json) : Json :=
  match value with
  | .obj ms => .obj (fallback.members ++ ms)
  | _ => .obj fallback.members

/-- The values that are taken for false. -/
def falsy : Json → Bool
  | .null => true
  | .bool b => !b
  | .num n => n == 0
  | .str s => s == ""
  | .arr _ | .obj _ => false

/-- `getPerformancePolicy`, given what the query returns. There is no value if there
    is no row or if the query fails. -/
def getPerformancePolicy (fallback : PerformancePolicy) (stored : Option Json) :
    PerformancePolicy :=
  match stored with
  | none => fallback
  | some value =>
    if falsy value then fallback else (validPerformancePolicy (fallback.spread value)).getD fallback

/-! ## The route -/

/-- The body of the request, after the coercion of its numbers. -/
structure PutInput where
  performance : PerformancePolicy
  retention : RetentionPolicy

/-- The schema of the route accepts the body. -/
structure PutInput.Accepted (input : PutInput) : Prop where
  trafficPoll : Between 10 3600 input.performance.trafficPollSeconds
  syncInterval : Between 60 86400 input.performance.syncIntervalSeconds
  routerHealth : Between 30 3600 input.performance.routerHealthSeconds
  bandwidth : Between 60 86400 input.performance.bandwidthSeconds
  operationReconciliation : Between 30 3600 input.performance.operationReconciliationSeconds
  trafficAggregation : Between 300 86400 input.performance.trafficAggregationSeconds
  maintenance : Between 3600 86400 input.performance.maintenanceSeconds
  rawTrafficSample : Between 30 3600 input.performance.rawTrafficSampleSeconds
  auditRetention : Between 0 3650 input.performance.auditRetentionDays
  rawTrafficHours : Between 1 744 input.retention.rawTrafficHours
  hourlyDays : Between 1 3660 input.retention.hourlyDays
  dailyMonths : Between 1 120 input.retention.dailyMonths
  /-- The refinement of the whole body. -/
  samples : input.performance.trafficPollSeconds ≤ input.performance.rawTrafficSampleSeconds

/-- The value that the route stores, as it is read again. -/
def PutInput.stored (input : PutInput) : Json := (Json.obj input.performance.members).jsonb

/-! ## What is read -/

/-- Bounds that do not depend on each other are those of the schema; the environment
    may leave the others open. -/
theorem defaultPerformancePolicy_valid_iff {e : Env} (h : e.Accepted) :
    (defaultPerformancePolicy e).Valid ↔
      Between 60 86400 e.syncIntervalSeconds ∧
        e.mikrotikStatsInterval ≤ e.rawTrafficSampleSeconds := by
  constructor
  · intro hvalid
    exact ⟨hvalid.syncInterval, hvalid.rawTrafficSample.1⟩
  · rintro ⟨hsync, hsamples⟩
    exact ⟨h.statsInterval, hsync, h.routerHealth, h.bandwidth, h.operationReconciliation,
      h.trafficAggregation, h.maintenance, ⟨hsamples, h.rawTrafficSample.2⟩, h.auditRetention⟩

/-- The policy that is taken is the fallback or a valid one. -/
theorem getPerformancePolicy_eq_or_valid (fallback : PerformancePolicy) (stored : Option Json) :
    getPerformancePolicy fallback stored = fallback ∨
      (getPerformancePolicy fallback stored).Valid := by
  cases stored with
  | none => exact .inl rfl
  | some value =>
    rw [getPerformancePolicy]
    split
    · exact .inl rfl
    · cases hread : validPerformancePolicy (fallback.spread value) with
      | none => exact .inl rfl
      | some p =>
        have hvalid : decide p.Valid = true := (Option.mem_filter_iff.1 hread).2
        exact .inr (of_decide_eq_true hvalid)

/-- A member of a stored object hides the one of the fallback. -/
theorem field_spread (fallback : PerformancePolicy) (ms : List (String × Json)) {k : String}
    {v : Json} (h : Json.lookup k ms = some v) :
    (fallback.spread (Json.obj ms).jsonb).field k = some v.jsonb := by
  have hstored : Json.lookup k (Json.jsonbMembers ms) = some v.jsonb := by
    have hfield := Json.field_jsonb (.obj ms) k
    rw [Json.jsonb] at hfield
    exact hfield.trans (congrArg (Option.map Json.jsonb) h)
  rw [Json.jsonb, spread, Json.field, Json.lookup_append, hstored]
  rfl

/-- What is stored is read as it was, whatever the fallback. -/
theorem ofJson_spread (fallback p : PerformancePolicy) :
    ofJson (fallback.spread (Json.obj p.members).jsonb) = some p := by
  have hinteger : ∀ (k : String) (n : ℤ), Json.lookup k p.members = some (.num n) →
      integerField (fallback.spread (Json.obj p.members).jsonb) k = some n := by
    intro k n h
    rw [integerField, field_spread fallback p.members h]
    rfl
  have hlevel : levelField (fallback.spread (Json.obj p.members).jsonb) "logLevel" =
      some p.logLevel := by
    have hlookup : Json.lookup "logLevel" p.members = some (.str p.logLevel.text) := by
      simp [members, Json.lookup]
    rw [levelField, field_spread fallback p.members hlookup]
    exact LogLevel.ofText_text p.logLevel
  rw [ofJson, hlevel, hinteger "trafficPollSeconds" p.trafficPollSeconds,
    hinteger "syncIntervalSeconds" p.syncIntervalSeconds,
    hinteger "routerHealthSeconds" p.routerHealthSeconds,
    hinteger "bandwidthSeconds" p.bandwidthSeconds,
    hinteger "operationReconciliationSeconds" p.operationReconciliationSeconds,
    hinteger "trafficAggregationSeconds" p.trafficAggregationSeconds,
    hinteger "maintenanceSeconds" p.maintenanceSeconds,
    hinteger "rawTrafficSampleSeconds" p.rawTrafficSampleSeconds,
    hinteger "auditRetentionDays" p.auditRetentionDays]
  · rfl
  all_goals simp [members, Json.lookup]

/-- The worker takes what the route stores. -/
theorem getPerformancePolicy_stored (fallback : PerformancePolicy) {input : PutInput}
    (h : input.Accepted) :
    getPerformancePolicy fallback (some input.stored) = input.performance := by
  have hvalid : input.performance.Valid :=
    ⟨h.trafficPoll, h.syncInterval, h.routerHealth, h.bandwidth, h.operationReconciliation,
      h.trafficAggregation, h.maintenance, ⟨h.samples, h.rawTrafficSample.2⟩, h.auditRetention⟩
  have hread : validPerformancePolicy (fallback.spread input.stored) = some input.performance := by
    rw [validPerformancePolicy, PutInput.stored, ofJson_spread, Option.filter_some,
      if_pos (decide_eq_true hvalid)]
  have htruthy : falsy input.stored = false := by
    rw [PutInput.stored, Json.jsonb, falsy]
  rw [getPerformancePolicy, htruthy, if_neg Bool.false_ne_true, hread]
  rfl

/-- The limits of the route are those of the job that deletes old traffic. -/
theorem validatePolicy_retention {input : PutInput} (h : input.Accepted) :
    validatePolicy input.retention = .ok () := by
  obtain ⟨hhours, hhours'⟩ := h.rawTrafficHours
  obtain ⟨hdays, hdays'⟩ := h.hourlyDays
  obtain ⟨hmonths, hmonths'⟩ := h.dailyMonths
  rw [validatePolicy, rejectIf, if_neg (by omega), rejectIf, if_neg (by omega), rejectIf,
    if_neg (by omega)]
  rfl

end PerformancePolicy

open PerformancePolicy in
/-- Every policy that the worker takes is valid, whatever has been stored, if and only
    if the environment respects the two bounds that its schema leaves out; and a
    request that the route accepts is taken as it is. -/
theorem getPerformancePolicy_spec {e : Env} (he : e.Accepted) :
    ((∀ stored, (getPerformancePolicy (defaultPerformancePolicy e) stored).Valid) ↔
      Between 60 86400 e.syncIntervalSeconds ∧
        e.mikrotikStatsInterval ≤ e.rawTrafficSampleSeconds) ∧
    ∀ input : PutInput, input.Accepted →
      getPerformancePolicy (defaultPerformancePolicy e) (some input.stored) =
          input.performance ∧
        validatePolicy input.retention = .ok () := by
  refine ⟨?_, fun input h => ⟨getPerformancePolicy_stored _ h, validatePolicy_retention h⟩⟩
  rw [← defaultPerformancePolicy_valid_iff he]
  constructor
  · intro h
    exact h none
  · intro h stored
    obtain heq | hvalid := getPerformancePolicy_eq_or_valid (defaultPerformancePolicy e) stored
    · rw [heq]
      exact h
    · exact hvalid

/-- A worker that has been told to synchronise every thirty seconds. -/
def hastyEnv : Env := { syncIntervalSeconds := 30 }

theorem getPerformancePolicy_spec_hasty :
    ¬ ∀ stored, (PerformancePolicy.getPerformancePolicy
      (defaultPerformancePolicy hastyEnv) stored).Valid := fun h => by
  have hspec := getPerformancePolicy_spec (e := hastyEnv)
    ⟨by decide, by decide, by decide, by decide, by decide, by decide, by decide, by decide,
      by decide, by decide⟩
  exact absurd (hspec.1.1 h) (by decide)

end WireguardPanel
