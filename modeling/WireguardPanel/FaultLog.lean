import WireguardPanel.Foundation.InsertionMap
import WireguardPanel.Foundation.Machine
import WireguardPanel.PerformanceSettings

/-!
# The log of faults

A job that fails again and again does not fill the log: a fault is logged when it is new, when
it has changed and from time to time, and its end is logged once. The log remembers no more than
`maxFaultKeys` faults, and forgets the oldest one for a new one.

* `FaultLog.machine`: the log, for any way to remember faults.
* `boundedFaults`: the one of the code. `unboundedFaults` forgets nothing.
* `faultLog_bounded`: the memory stays within its limit, and no end of a fault is logged whose
  beginning was not.
* `faultLog_eq_unbounded`: as long as no more faults than that last at the same time, the log
  is that of a memory without limit.
-/

namespace WireguardPanel

open Foundation

/-! ## Levels -/

/-- `priorities`. -/
def LogLevel.priority : LogLevel → ℕ
  | .error => 0
  | .warn => 1
  | .info => 2
  | .debug => 3

/-- A line of the log. The key of a fault is not part of it. -/
structure LogLine where
  level : LogLevel
  key : String
  message : String
  deriving DecidableEq

/-- `log`, at the level that is configured. -/
def logLine (configured : LogLevel) (line : LogLine) : Option LogLine :=
  if configured.priority < line.level.priority then none else some line

/-! ## The memory -/

/-- A fault that lasts. -/
structure LoggedFault where
  signature : String
  lastLoggedAt : ℤ
  deriving DecidableEq

/-- A way to remember faults. -/
structure FaultMemory (F : Type) where
  lookup : F → String → Option LoggedFault
  /-- `rememberFault`. -/
  remember : F → String → LoggedFault → F
  erase : F → String → F

/-- `MAX_FAULT_KEYS`. -/
def maxFaultKeys : ℕ := 256

/-- A memory of `capacity` faults. The empty key is taken for no key. -/
def fifoFaults (capacity : ℕ) : FaultMemory (InsertionMap String LoggedFault) where
  lookup faults key := faults.lookup key
  remember faults key fault :=
    if key ∉ faults.keys ∧ capacity ≤ faults.size then
      (faults.dropOldest fun oldest => oldest ≠ "").set key fault
    else faults.set key fault
  erase faults key := faults.erase key

/-- `faults`. -/
abbrev boundedFaults : FaultMemory (InsertionMap String LoggedFault) := fifoFaults maxFaultKeys

/-- A memory without limit. -/
def unboundedFaults : FaultMemory (String → Option LoggedFault) where
  lookup faults key := faults key
  remember faults key fault := Function.update faults key (some fault)
  erase faults key := Function.update faults key none

/-! ## The log -/

/-- The state of `logger.ts`. -/
structure FaultLog (F : Type) where
  faults : F
  activeLevel : Option LogLevel
  now : ℤ

/-- What is called, and the clock. -/
inductive FaultEvent
  | wait (ms : ℤ)
  | setLogLevel (level : LogLevel)
  | logFault (key signature message : String) (reminderMs : ℤ)
  | logRecovery (key message : String)

/-- The key of an event. -/
def FaultEvent.key : FaultEvent → Option String
  | logFault key .. | logRecovery key _ => some key
  | wait _ | setLogLevel _ => none

namespace FaultLog

variable {F : Type} (memory : FaultMemory F) (e : Env)

/-- A fault is logged if it is new, another one, or was logged long ago. -/
def isDue (s : FaultLog F) (key signature : String) (reminderMs : ℤ) : Bool :=
  match memory.lookup s.faults key with
  | none => true
  | some previous =>
    previous.signature ≠ signature ∨ reminderMs ≤ s.now - previous.lastLoggedAt

/-- The state after an event. -/
def next (a : FaultEvent) (s : FaultLog F) : FaultLog F :=
  match a with
  | .wait ms => { s with now := s.now + ms }
  | .setLogLevel level => { s with activeLevel := some level }
  | .logFault key signature _ reminderMs =>
    if s.isDue memory key signature reminderMs then
      { s with faults := memory.remember s.faults key ⟨signature, s.now⟩ }
    else s
  | .logRecovery key _ => { s with faults := memory.erase s.faults key }

/-- What an event logs. -/
def answer (a : FaultEvent) (s : FaultLog F) : Option LogLine :=
  match a with
  | .wait _ | .setLogLevel _ => none
  | .logFault key signature message reminderMs =>
    if s.isDue memory key signature reminderMs then
      logLine (s.activeLevel.getD e.logLevel) ⟨.error, key, message⟩
    else none
  | .logRecovery key message =>
    if (memory.lookup s.faults key).isSome then
      logLine (s.activeLevel.getD e.logLevel) ⟨.info, key, message⟩
    else none

/-- The log as a machine. -/
def machine : Machine (FaultLog F) FaultEvent (Option LogLine) := ⟨next memory, answer memory e⟩

/-- The lines of a run. -/
def lines (events : List FaultEvent) (s : FaultLog F) : List LogLine :=
  ((machine memory e).answers (fun _ => false) events s).filterMap id

end FaultLog

/-! ## Beginnings and ends -/

/-- A memory that recalls nothing but what it has been told and has not been told to
    forget. -/
structure FaultMemory.Honest {F : Type} (memory : FaultMemory F) : Prop where
  of_remember : ∀ faults key fault l, memory.lookup (memory.remember faults key fault) l ≠ none →
    l = key ∨ memory.lookup faults l ≠ none
  of_erase : ∀ faults key l, memory.lookup (memory.erase faults key) l ≠ none →
    l ≠ key ∧ memory.lookup faults l ≠ none

theorem honest_fifoFaults (capacity : ℕ) : (fifoFaults capacity).Honest where
  of_remember faults key fault l h := by
    have hset : ∀ m : InsertionMap String LoggedFault, (m.set key fault).lookup l ≠ none →
        l = key ∨ m.lookup l ≠ none := by
      intro m hm
      rw [m.lookup_set] at hm
      by_cases hl : l = key
      · exact .inl hl
      · exact .inr (by rwa [if_neg hl] at hm)
    unfold fifoFaults at h ⊢
    simp only at h ⊢
    split_ifs at h
    · exact (hset _ h).imp_right faults.lookup_of_dropOldest
    · exact hset _ h
  of_erase faults key l h := by
    unfold fifoFaults at h ⊢
    simp only [InsertionMap.lookup_erase] at h ⊢
    split_ifs at h with hl
    · exact absurd rfl h
    · exact ⟨hl, h⟩

/-- Lines about one fault in which every end follows a beginning. `opened` is whether there
    was a beginning before them. -/
def Paired : Bool → List LogLine → Prop
  | _, [] => True
  | opened, line :: lines =>
    if line.level = .error then Paired true lines else opened = true ∧ Paired false lines

theorem logLine_error (configured : LogLevel) (key message : String) :
    logLine configured ⟨.error, key, message⟩ = some ⟨.error, key, message⟩ := by
  cases configured <;> rfl

theorem logLine_cases (configured : LogLevel) (line : LogLine) :
    logLine configured line = none ∨ logLine configured line = some line := by
  unfold logLine
  split_ifs
  · exact .inl rfl
  · exact .inr rfl

namespace FaultLog

variable {F : Type} {memory : FaultMemory F} {e : Env}

theorem lines_cons (a : FaultEvent) (events : List FaultEvent) (s : FaultLog F) :
    lines memory e (a :: events) s =
      (answer memory e a s).toList ++ lines memory e events (next memory a s) := by
  unfold lines
  rw [Machine.answers, if_neg Bool.false_ne_true, List.filterMap_cons]
  cases hanswer : answer memory e a s with
  | none => simp [machine, hanswer]
  | some line => simp [machine, hanswer]

/-- Whatever happens, the end of a fault follows its beginning. -/
theorem paired_lines (hmemory : memory.Honest) (key : String) (events : List FaultEvent)
    (s : FaultLog F) (opened : Bool) (h : memory.lookup s.faults key ≠ none → opened = true) :
    Paired opened ((lines memory e events s).filter fun line => line.key = key) := by
  induction events generalizing s opened with
  | nil => trivial
  | cons a events ih =>
    rw [lines_cons, List.filter_append]
    cases a with
    | wait | setLogLevel => exact ih _ opened h
    | logFault other signature message reminderMs =>
      by_cases hdue : s.isDue memory other signature reminderMs = true
      · rw [answer, if_pos hdue, next, if_pos hdue, logLine_error, Option.toList_some]
        by_cases hkey : other = key
        · subst hkey
          rw [List.filter_cons_of_pos (by simp), List.filter_nil, List.singleton_append, Paired,
            if_pos rfl]
          exact ih _ true fun _ => rfl
        · rw [List.filter_cons_of_neg (by simpa using hkey), List.filter_nil, List.nil_append]
          refine ih _ opened fun hafter => h ?_
          exact (hmemory.of_remember _ _ _ _ hafter).resolve_left (Ne.symm hkey)
      · rw [answer, if_neg hdue, next, if_neg hdue]
        exact ih _ opened h
    | logRecovery other message =>
      rw [answer, next]
      have hrest : ∀ opened, (other ≠ key → memory.lookup s.faults key ≠ none → opened = true) →
          Paired opened
            ((lines memory e events { s with faults := memory.erase s.faults other }).filter
              fun line => line.key = key) := fun opened hopened =>
        ih _ opened fun hafter =>
          have ⟨hne, hbefore⟩ := hmemory.of_erase _ _ _ hafter
          hopened (Ne.symm hne) hbefore
      by_cases hlasts : (memory.lookup s.faults other).isSome = true
      · rw [if_pos hlasts]
        obtain hnone | hline :=
          logLine_cases (s.activeLevel.getD e.logLevel) ⟨.info, other, message⟩
        · rw [hnone]
          exact hrest opened fun _ => h
        · rw [hline, Option.toList_some]
          by_cases hkey : other = key
          · subst hkey
            rw [List.filter_cons_of_pos (by simp), List.filter_nil, List.singleton_append, Paired,
              if_neg (by simp)]
            exact ⟨h (Option.isSome_iff_ne_none.1 hlasts), hrest false fun hne => absurd rfl hne⟩
          · rw [List.filter_cons_of_neg (by simpa using hkey), List.filter_nil, List.nil_append]
            exact hrest opened fun _ => h
      · rw [if_neg hlasts]
        exact hrest opened fun _ => h

end FaultLog

/-! ## Size -/

/-- The memory is within its limit, and knows no fault by the empty key. -/
structure WithinLimit (capacity : ℕ) (faults : InsertionMap String LoggedFault) : Prop where
  size_le : faults.size ≤ capacity
  named : "" ∉ faults.keys

theorem WithinLimit.remember {capacity : ℕ} (hcapacity : 0 < capacity)
    {faults : InsertionMap String LoggedFault} (h : WithinLimit capacity faults) {key : String}
    (hkey : key ≠ "") (fault : LoggedFault) :
    WithinLimit capacity ((fifoFaults capacity).remember faults key fault) := by
  refine ⟨?_, fun hmem => ?_⟩
  · unfold fifoFaults
    simp only
    split_ifs with hfull
    · -- One fault goes before the new one comes.
      have hdrop : (faults.dropOldest fun oldest => oldest ≠ "").size < faults.size := by
        refine faults.size_dropOldest_lt (fun k hk => ?_) (hcapacity.trans_le hfull.2)
        exact decide_eq_true (ne_of_mem_of_not_mem hk h.named)
      have hle := h.size_le
      rw [InsertionMap.size_set]
      split_ifs <;> omega
    · rw [InsertionMap.size_set]
      split_ifs with hmem
      · exact h.size_le
      · exact not_le.1 (not_and.1 hfull hmem)
  · rw [InsertionMap.mem_keys_iff] at hmem
    obtain heq | hbefore := (honest_fifoFaults capacity).of_remember faults key fault "" hmem
    · exact hkey heq.symm
    · exact h.named ((faults.mem_keys_iff "").2 hbefore)

theorem WithinLimit.erase {capacity : ℕ} {faults : InsertionMap String LoggedFault}
    (h : WithinLimit capacity faults) (key : String) : WithinLimit capacity (faults.erase key) :=
  ⟨(faults.size_erase_le key).trans h.size_le, fun hmem => h.named (faults.mem_keys_erase key hmem)⟩

namespace FaultLog

/-- The log before anything has been logged. -/
def start {F : Type} (faults : F) (now : ℤ) : FaultLog F := ⟨faults, none, now⟩

theorem withinLimit_next {capacity : ℕ} (hcapacity : 0 < capacity) {a : FaultEvent}
    (ha : a.key ≠ some "") {s : FaultLog (InsertionMap String LoggedFault)}
    (h : WithinLimit capacity s.faults) :
    WithinLimit capacity (next (fifoFaults capacity) a s).faults := by
  cases a with
  | wait | setLogLevel => exact h
  | logFault key signature message reminderMs =>
    rw [next]
    split_ifs
    · exact h.remember hcapacity (fun heq => ha (congrArg some heq)) _
    · exact h
  | logRecovery key => exact h.erase key

/-! ## A memory without limit -/

/-- Two logs remember the same faults. -/
structure Same (s : FaultLog (InsertionMap String LoggedFault))
    (t : FaultLog (String → Option LoggedFault)) : Prop where
  lookup : ∀ key, s.faults.lookup key = t.faults key
  activeLevel : s.activeLevel = t.activeLevel
  now : s.now = t.now

/-- No more than `capacity` faults last. -/
def Fits (capacity : ℕ) (t : FaultLog (String → Option LoggedFault)) : Prop :=
  ∃ S : Finset String, S.card ≤ capacity ∧ ∀ key, t.faults key ≠ none → key ∈ S

variable {capacity : ℕ} {s : FaultLog (InsertionMap String LoggedFault)}
  {t : FaultLog (String → Option LoggedFault)}

namespace Same

theorem isDue (h : s.Same t) (key signature : String) (reminderMs : ℤ) :
    s.isDue (fifoFaults capacity) key signature reminderMs =
      t.isDue unboundedFaults key signature reminderMs := by
  have hlookup : (fifoFaults capacity).lookup s.faults key = unboundedFaults.lookup t.faults key :=
    h.lookup key
  rw [FaultLog.isDue, FaultLog.isDue, hlookup, h.now]

theorem answer (h : s.Same t) (e : Env) (a : FaultEvent) :
    FaultLog.answer (fifoFaults capacity) e a s = FaultLog.answer unboundedFaults e a t := by
  cases a with
  | wait | setLogLevel => rfl
  | logFault key signature message reminderMs =>
    rw [FaultLog.answer, FaultLog.answer, h.isDue, h.activeLevel]
  | logRecovery key message =>
    have hlookup : (fifoFaults capacity).lookup s.faults key =
        unboundedFaults.lookup t.faults key := h.lookup key
    rw [FaultLog.answer, FaultLog.answer, hlookup, h.activeLevel]

/-- A fault is remembered without another one being forgotten. -/
theorem remember (h : s.Same t) {key : String} {fault : LoggedFault}
    (hfits : Fits capacity { t with faults := unboundedFaults.remember t.faults key fault }) :
    Same { s with faults := (fifoFaults capacity).remember s.faults key fault }
      { t with faults := unboundedFaults.remember t.faults key fault } := by
  have hset : ∀ l, (s.faults.set key fault).lookup l =
      unboundedFaults.remember t.faults key fault l := by
    intro l
    rw [InsertionMap.lookup_set, h.lookup l]
    exact (Function.update_apply ..).symm
  have hroom : ¬ (key ∉ s.faults.keys ∧ capacity ≤ s.faults.size) := by
    rintro ⟨hnew, hfull⟩
    obtain ⟨S, hcard, hS⟩ := hfits
    have hle : (s.faults.set key fault).size ≤ S.card :=
      (s.faults.set key fault).size_le_card fun l hl => hS l (by rwa [hset l] at hl)
    rw [InsertionMap.size_set, if_neg hnew] at hle
    omega
  refine ⟨fun l => ?_, h.activeLevel, h.now⟩
  simp only [fifoFaults, if_neg hroom]
  exact hset l

theorem next (h : s.Same t) {a : FaultEvent}
    (hfits : Fits capacity (FaultLog.next unboundedFaults a t)) :
    (FaultLog.next (fifoFaults capacity) a s).Same (FaultLog.next unboundedFaults a t) := by
  cases a with
  | wait ms => exact ⟨h.lookup, h.activeLevel, congrArg (· + ms) h.now⟩
  | setLogLevel level => exact ⟨h.lookup, rfl, h.now⟩
  | logFault key signature message reminderMs =>
    rw [FaultLog.next] at hfits
    rw [FaultLog.next, FaultLog.next, h.isDue]
    split_ifs at hfits ⊢
    · simpa only [h.now] using h.remember hfits
    · exact h
  | logRecovery key message =>
    refine ⟨fun l => ?_, h.activeLevel, h.now⟩
    rw [FaultLog.next, FaultLog.next]
    simp only [fifoFaults, unboundedFaults, InsertionMap.lookup_erase, h.lookup,
      Function.update_apply]

end Same

/-- A run that is about no more than `capacity` faults. -/
theorem fits_of_keys (e : Env) {S : Finset String} (hcard : S.card ≤ capacity)
    {events : List FaultEvent} (hkeys : ∀ a ∈ events, ∀ key ∈ a.key, key ∈ S) (now : ℤ) :
    Fits capacity ((machine unboundedFaults e).run events (start (fun _ => none) now)) := by
  refine ⟨S, hcard, Machine.invariant (M := machine unboundedFaults e)
    (I := fun t => ∀ key, t.faults key ≠ none → key ∈ S) (fun a ha t ht key hkey => ?_)
    fun key hkey => absurd rfl hkey⟩
  have hmem := hkeys a ha
  cases a with
  | wait | setLogLevel => exact ht key hkey
  | logFault other signature message reminderMs =>
    by_cases heq : key = other
    · exact heq ▸ hmem other rfl
    · refine ht key fun hnone => hkey ?_
      simp only [machine, FaultLog.next, unboundedFaults]
      split_ifs <;> simp [heq, hnone]
  | logRecovery other message =>
    refine ht key fun hnone => hkey ?_
    simp [machine, FaultLog.next, unboundedFaults, Function.update_apply, hnone]

end FaultLog

open FaultLog in
/-- However many faults there are, the memory does not outgrow its limit, and in the lines
    about each fault no end comes first or follows an end. -/
theorem faultLog_bounded (e : Env) {events : List FaultEvent}
    (hnamed : ∀ a ∈ events, a.key ≠ some "") (now : ℤ) :
    ((machine boundedFaults e).run events (start .empty now)).faults.size ≤ maxFaultKeys ∧
      ∀ key, Paired false
        ((lines boundedFaults e events (start .empty now)).filter fun line => line.key = key) := by
  constructor
  · have hlimit := Machine.invariant (M := machine boundedFaults e)
      (I := fun s => WithinLimit maxFaultKeys s.faults)
      (fun a ha s hs => withinLimit_next (by decide) (hnamed a ha) hs)
      (s := start .empty now)
      ⟨Nat.zero_le _, by simp [start, InsertionMap.keys, InsertionMap.empty]⟩
    exact hlimit.size_le
  · intro key
    exact paired_lines (honest_fifoFaults _) key events _ false fun h => absurd rfl h

open FaultLog in
/-- A log whose memory never has more than `maxFaultKeys` faults to remember reads as if it
    forgot none. -/
theorem faultLog_eq_unbounded (e : Env) (events : List FaultEvent) (now : ℤ)
    (hfits : ∀ n, Fits maxFaultKeys
      ((machine unboundedFaults e).run (events.take n) (start (fun _ => none) now))) :
    lines boundedFaults e events (start .empty now) =
      lines unboundedFaults e events (start (fun _ => none) now) := by
  have hanswers : (machine boundedFaults e).answers (fun _ => false) events (start .empty now) =
      (machine unboundedFaults e).answers (fun _ => false) (events.filter fun _ => !false)
        (start (fun _ => none) now) :=
    Machine.answers_eq_of_simulates
      (R := fun later s t => s.Same t ∧ ∀ n, Fits maxFaultKeys
        ((machine unboundedFaults e).run (later.take n) t))
      (fun a later s t _ h => ⟨h.1.answer e a, h.1.next (h.2 1), fun n => h.2 (n + 1)⟩)
      (fun _ _ _ _ h => absurd h Bool.false_ne_true) ⟨⟨fun _ => rfl, rfl, rfl⟩, hfits⟩
  rw [List.filter_eq_self.2 (by simp)] at hanswers
  exact congrArg (List.filterMap id) hanswers

/-- A router that is lost twice. -/
def lostTwice : List FaultEvent :=
  [.logFault "router-health:r1" "Timeout." "Router became unreachable" 900000, .wait 60000,
    .logFault "router-health:r1" "Timeout." "Router became unreachable" 900000,
    .logRecovery "router-health:r1" "Router connection restored",
    .logRecovery "router-health:r1" "Router connection restored"]

theorem faultLog_bounded_lostTwice :
    ((FaultLog.machine boundedFaults {}).run lostTwice (.start .empty 0)).faults.size ≤ 256 ∧
      Paired false ((FaultLog.lines boundedFaults {} lostTwice (.start .empty 0)).filter
        fun line => line.key = "router-health:r1") := by
  have hnamed : ∀ a ∈ lostTwice, a.key ≠ some "" := by decide
  obtain ⟨hsize, hpaired⟩ := faultLog_bounded {} hnamed 0
  exact ⟨hsize, hpaired _⟩

theorem faultLog_eq_unbounded_lostTwice :
    FaultLog.lines boundedFaults {} lostTwice (.start .empty 0) =
      FaultLog.lines unboundedFaults {} lostTwice (.start (fun _ => none) 0) := by
  have hkeys : ∀ a ∈ lostTwice, ∀ key ∈ a.key, key ∈ ({"router-health:r1"} : Finset String) := by
    simp [lostTwice, FaultEvent.key]
  exact faultLog_eq_unbounded {} lostTwice 0 fun n => FaultLog.fits_of_keys {} (by decide)
    (fun a ha => hkeys a (List.mem_of_mem_take ha)) 0

end WireguardPanel
