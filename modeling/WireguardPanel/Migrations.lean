import WireguardPanel.Foundation.System
import Mathlib.Data.List.Lex
import Mathlib.Data.List.Sort
import Mathlib.Logic.Function.Basic

/-!
# Migrations

At every start of the panel a process brings the schema of the database up to date: it runs
the files of a directory that the database has not seen. Several processes may do so at the
same time, and each may be cut off at any point.

* `migrationFiles`: the files of a directory in the order in which they are run.
* `Migrations.next`: the statements of the processes, the lock that they take, and their
  transactions.
* `migrate_runs`: no file is run twice. The schema is what the files that the database has
  seen make of it, one after the other, and a process that ends well leaves none of its files
  out; if the processes have the same files, these are run in their order.
-/

namespace WireguardPanel

open Foundation

/-! ## Files -/

/-- The code units of a text. -/
def codeUnits (text : String) : List ℕ :=
  text.toList.flatMap fun c =>
    if c.toNat < 0x10000 then [c.toNat]
    else [0xd800 + (c.toNat - 0x10000) / 0x400, 0xdc00 + (c.toNat - 0x10000) % 0x400]

/-- The migrations of a directory: the files that end in `.sql`, in the order of
    `sort()`. -/
def migrationFiles (directory : List String) : List String :=
  (directory.filter fun file => ".sql".toList.isSuffixOf file.toList).insertionSort fun a b =>
    codeUnits a ≤ codeUnits b

theorem nodup_migrationFiles {directory : List String} (h : directory.Nodup) :
    (migrationFiles directory).Nodup :=
  (List.perm_insertionSort ..).nodup_iff.2 (h.filter _)

/-- A list that stops short of `a` in a list `xs ++ a :: ys`, and that leaves nothing of `xs`
    out, is `xs`. -/
theorem eq_of_prefix_of_subset {α : Type*} {new xs ys : List α} {a : α}
    (hinitial : new <+: xs ++ a :: ys) (ha : a ∉ new) (hsubset : xs ⊆ new) (hxs : xs.Nodup) :
    new = xs := by
  have hshort : new <+: xs := by
    obtain hle | hlt := le_or_gt new.length xs.length
    · exact List.prefix_of_prefix_length_le hinitial (List.prefix_append ..) hle
    · have hlonger : xs ++ [a] <+: new := by
        refine List.prefix_of_prefix_length_le ?_ hinitial (by simpa [Nat.succ_le_iff] using hlt)
        exact ⟨ys, by simp⟩
      exact absurd (hlonger.subset (by simp)) ha
  exact hshort.eq_of_length_le (List.subperm_of_subset hxs hsubset).length_le

/-- The scripts of some files, one after the other. -/
def runScripts {σ : Type*} (script : String → σ → Option σ) : List String → σ → Option σ
  | [], schema => some schema
  | file :: files, schema => (script file schema).bind (runScripts script files)

theorem runScripts_append {σ : Type*} (script : String → σ → Option σ) (files later : List String)
    (schema : σ) :
    runScripts script (files ++ later) schema =
      (runScripts script files schema).bind (runScripts script later) := by
  induction files generalizing schema with
  | nil => rfl
  | cons file files ih =>
    rw [List.cons_append, runScripts, runScripts, Option.bind_assoc]
    exact congrArg _ (funext ih)

/-! ## Processes -/

/-- Where `migrate` is. In a transaction it has a schema of its own. -/
inductive Migrator (σ : Type*)
  | idle
  /-- At `pg_advisory_lock`. -/
  | waiting
  /-- Before the files `rest`. -/
  | checking (rest : List String)
  /-- After `BEGIN`. -/
  | begun (file : String) (rest : List String)
  /-- After the script. -/
  | executed (file : String) (rest : List String) (schema : σ)
  /-- After the `INSERT`. -/
  | recorded (file : String) (rest : List String) (schema : σ)
  | failed
  | finished

/-- The session of the process has the lock. -/
def Migrator.Holds {σ : Type*} : Migrator σ → Prop
  | checking _ | begun .. | executed .. | recorded .. => True
  | idle | waiting | failed | finished => False

/-- The files that are still before a process, and those of one that has ended well. -/
def Migrator.remaining {σ : Type*} : Migrator σ → Option (List String)
  | checking rest => some rest
  | begun file rest | executed file rest _ | recorded file rest _ => some (file :: rest)
  | finished => some []
  | idle | waiting | failed => none

/-- The file of the transaction. -/
def Migrator.current {σ : Type*} : Migrator σ → Option String
  | begun file _ | executed file _ _ | recorded file _ _ => some file
  | _ => none

/-- The file of the transaction and what its script has made of the schema. -/
def Migrator.draft {σ : Type*} : Migrator σ → Option (String × σ)
  | executed file _ schema | recorded file _ schema => some (file, schema)
  | _ => none

theorem Migrator.holds_of_current {σ : Type*} {m : Migrator σ} {file : String}
    (h : file ∈ m.current) : m.Holds := by
  cases m <;> trivial

theorem Migrator.holds_of_draft {σ : Type*} {m : Migrator σ} {d : String × σ}
    (h : d ∈ m.draft) : m.Holds := by
  cases m <;> trivial

/-- The database and the processes. `applied` is `schema_migrations` in the order of its
    rows. -/
structure Migrations (σ : Type*) where
  schema : σ
  applied : List String
  lock : Option ℕ
  process : ℕ → Migrator σ

/-- What a process does next. Any statement may also fail, or the process be killed. -/
inductive MigratorEvent
  | connect
  | acquire
  | check
  | execute
  | record
  | commit
  | crash
  deriving DecidableEq, Repr

namespace Migrations

variable {σ : Type*}

/-- The database before any process has begun. -/
def start (applied : List String) (schema : σ) : Migrations σ where
  schema := schema
  applied := applied
  lock := none
  process _ := .idle

variable (script : String → σ → Option σ) (directory : ℕ → List String)

/-- The process `p` goes on. -/
def put (s : Migrations σ) (p : ℕ) (m : Migrator σ) : Migrations σ :=
  { s with process := Function.update s.process p m }

/-- The process `p` comes to its end: its transaction is rolled back and its lock given
    up. -/
def release (s : Migrations σ) (p : ℕ) (m : Migrator σ) : Migrations σ :=
  { s.put p m with lock := if s.lock = some p then none else s.lock }

/-- What the process `p` does, if it can. -/
def act (p : ℕ) : MigratorEvent → Migrations σ → Option (Migrations σ)
  | .connect, s =>
    match s.process p with
    | .idle => some (s.put p .waiting)
    | _ => none
  | .acquire, s =>
    match s.process p, s.lock with
    | .waiting, none =>
      some { s.put p (.checking (migrationFiles (directory p))) with lock := some p }
    | _, _ => none
  | .check, s =>
    match s.process p with
    | .checking [] => some (s.release p .finished)
    | .checking (file :: rest) =>
      if file ∈ s.applied then some (s.put p (.checking rest))
      else some (s.put p (.begun file rest))
    | _ => none
  | .execute, s =>
    match s.process p with
    | .begun file rest =>
      match script file s.schema with
      | some schema => some (s.put p (.executed file rest schema))
      | none => some (s.release p .failed)
    | _ => none
  | .record, s =>
    match s.process p with
    | .executed file rest schema =>
      -- The version is the primary key.
      if file ∈ s.applied then some (s.release p .failed)
      else some (s.put p (.recorded file rest schema))
    | _ => none
  | .commit, s =>
    match s.process p with
    | .recorded file rest schema =>
      some { s.put p (.checking rest) with schema := schema, applied := s.applied ++ [file] }
    | _ => none
  | .crash, s => some (s.release p .failed)

/-- The runs of the processes. -/
abbrev system : System (Migrations σ) (ℕ × MigratorEvent) :=
  .ofNext fun a => act script directory a.1 a.2

/-- All that a process does: it goes on by itself, takes the lock, commits, or comes to its
    end. -/
inductive Moves (s : Migrations σ) (p : ℕ) : Migrations σ → Prop
  | connect (hstage : s.process p = .idle) : Moves s p (s.put p .waiting)
  | acquire (hstage : s.process p = .waiting) (hlock : s.lock = none) :
    Moves s p { s.put p (.checking (migrationFiles (directory p))) with lock := some p }
  | skip {file : String} {rest : List String} (hstage : s.process p = .checking (file :: rest))
    (hfile : file ∈ s.applied) : Moves s p (s.put p (.checking rest))
  | begin {file : String} {rest : List String} (hstage : s.process p = .checking (file :: rest))
    (hfile : file ∉ s.applied) : Moves s p (s.put p (.begun file rest))
  | execute {file : String} {rest : List String} {schema : σ}
    (hstage : s.process p = .begun file rest) (hschema : script file s.schema = some schema) :
    Moves s p (s.put p (.executed file rest schema))
  | record {file : String} {rest : List String} {schema : σ}
    (hstage : s.process p = .executed file rest schema) (hfile : file ∉ s.applied) :
    Moves s p (s.put p (.recorded file rest schema))
  | commit {file : String} {rest : List String} {schema : σ}
    (hstage : s.process p = .recorded file rest schema) :
    Moves s p
      { s.put p (.checking rest) with schema := schema, applied := s.applied ++ [file] }
  | finish (hstage : s.process p = .checking []) : Moves s p (s.release p .finished)
  | fail : Moves s p (s.release p .failed)

theorem moves_of_act {p : ℕ} {event : MigratorEvent} {s s' : Migrations σ}
    (h : act script directory p event s = some s') : Moves script directory s p s' := by
  cases event with
  | connect =>
    rw [act] at h
    split at h
    · cases h
      exact .connect ‹_›
    · cases h
  | acquire =>
    rw [act] at h
    split at h
    · cases h
      exact .acquire ‹_› ‹_›
    · cases h
  | check =>
    rw [act] at h
    split at h
    · cases h
      exact .finish ‹_›
    · split_ifs at h with hfile <;> cases h
      · exact .skip ‹_› hfile
      · exact .begin ‹_› hfile
    · cases h
  | execute =>
    rw [act] at h
    split at h
    · split at h <;> cases h
      · exact .execute ‹_› ‹_›
      · exact .fail
    · cases h
  | record =>
    rw [act] at h
    split at h
    · split_ifs at h with hfile <;> cases h
      · exact .fail
      · exact .record ‹_› hfile
    · cases h
  | commit =>
    rw [act] at h
    split at h
    · cases h
      exact .commit ‹_›
    · cases h
  | crash =>
    cases h
    exact .fail

/-! ## What is true of every run -/

/-- What is true of the database and of what the processes know of it. -/
structure Sound (applied : List String) (schema : σ) (s : Migrations σ) : Prop where
  holds_iff : ∀ p, (s.process p).Holds ↔ s.lock = some p
  history : ∃ new, s.applied = applied ++ new ∧ runScripts script new schema = some s.schema
  nodup : s.applied.Nodup
  current : ∀ p, ∀ file ∈ (s.process p).current, file ∉ s.applied
  draft : ∀ p, ∀ d ∈ (s.process p).draft, script d.1 s.schema = some d.2
  visited : ∀ p, ∀ rest ∈ (s.process p).remaining,
    ∃ done, migrationFiles (directory p) = done ++ rest ∧ done ⊆ s.applied

namespace Sound

variable {script directory} {applied : List String} {schema : σ} {s s' : Migrations σ} {p : ℕ}

theorem start (h : applied.Nodup) :
    Sound script directory applied schema (start applied schema) where
  holds_iff p := by simp [Migrations.start, Migrator.Holds]
  history := ⟨[], by simp [Migrations.start], rfl⟩
  nodup := h
  current p file hfile := by cases hfile
  draft p d hd := by cases hd
  visited p rest hrest := by cases hrest

/-- Two processes never have the lock at the same time. -/
theorem eq_of_holds (h : Sound script directory applied schema s) {q : ℕ}
    (hp : (s.process p).Holds) (hq : (s.process q).Holds) : p = q :=
  Option.some.inj (((h.holds_iff p).1 hp).symm.trans ((h.holds_iff q).1 hq))

/-- A process goes on, and keeps the lock or does without it as before. -/
theorem put (h : Sound script directory applied schema s) {m : Migrator σ}
    (hholds : m.Holds ↔ (s.process p).Holds)
    (hcurrent : ∀ file ∈ m.current, file ∉ s.applied)
    (hdraft : ∀ d ∈ m.draft, script d.1 s.schema = some d.2)
    (hvisited : ∀ rest ∈ m.remaining,
      ∃ done, migrationFiles (directory p) = done ++ rest ∧ done ⊆ s.applied) :
    Sound script directory applied schema (s.put p m) := by
  refine ⟨fun q => ?_, h.history, h.nodup, fun q => ?_, fun q => ?_, fun q => ?_⟩ <;>
    by_cases hq : q = p
  · subst hq
    simpa [Migrations.put] using hholds.trans (h.holds_iff q)
  · simpa [Migrations.put, hq] using h.holds_iff q
  · subst hq
    simpa [Migrations.put] using hcurrent
  · simpa [Migrations.put, hq] using h.current q
  · subst hq
    simpa [Migrations.put] using hdraft
  · simpa [Migrations.put, hq] using h.draft q
  · subst hq
    simpa [Migrations.put] using hvisited
  · simpa [Migrations.put, hq] using h.visited q

/-- A process comes to its end. -/
theorem release (h : Sound script directory applied schema s) {m : Migrator σ}
    (hholds : ¬ m.Holds) (hvisited : ∀ rest ∈ m.remaining,
      ∃ done, migrationFiles (directory p) = done ++ rest ∧ done ⊆ s.applied) :
    Sound script directory applied schema (s.release p m) := by
  refine ⟨fun q => ?_, h.history, h.nodup, fun q => ?_, fun q => ?_, fun q => ?_⟩ <;>
    by_cases hq : q = p
  · subst hq
    by_cases hlock : s.lock = some q <;> simp [Migrations.release, Migrations.put, hholds, hlock]
  · -- The lock of another process stays where it is.
    by_cases hlock : s.lock = some p
    · simp [Migrations.release, Migrations.put, hq, h.holds_iff q, hlock, Ne.symm hq]
    · simpa [Migrations.release, Migrations.put, hq, hlock] using h.holds_iff q
  · subst hq
    intro file hfile
    exact absurd (Migrator.holds_of_current hfile) (by simpa [Migrations.release, Migrations.put])
  · simpa [Migrations.release, Migrations.put, hq] using h.current q
  · subst hq
    intro d hd
    exact absurd (Migrator.holds_of_draft hd) (by simpa [Migrations.release, Migrations.put])
  · simpa [Migrations.release, Migrations.put, hq] using h.draft q
  · subst hq
    simpa [Migrations.release, Migrations.put] using hvisited
  · simpa [Migrations.release, Migrations.put, hq] using h.visited q

/-- A process takes the lock that nobody has. -/
theorem acquire (h : Sound script directory applied schema s) (hlock : s.lock = none) :
    Sound script directory applied schema
      { s.put p (.checking (migrationFiles (directory p))) with lock := some p } := by
  have hfree : ∀ q, ¬ (s.process q).Holds := fun q hq => by
    rw [h.holds_iff q, hlock] at hq
    cases hq
  refine ⟨fun q => ?_, h.history, h.nodup, fun q => ?_, fun q => ?_, fun q => ?_⟩ <;>
    by_cases hq : q = p
  · subst hq
    simp [Migrations.put, Migrator.Holds]
  · simp [Migrations.put, hq, hfree q, Ne.symm hq]
  · subst hq
    simp [Migrations.put, Migrator.current]
  · simpa [Migrations.put, hq] using h.current q
  · subst hq
    simp [Migrations.put, Migrator.draft]
  · simpa [Migrations.put, hq] using h.draft q
  · subst hq
    simp [Migrations.put, Migrator.remaining]
  · simpa [Migrations.put, hq] using h.visited q

/-- A transaction is committed: no other process has begun one. -/
theorem commit (h : Sound script directory applied schema s) {file : String} {rest : List String}
    {made : σ} (hstage : s.process p = .recorded file rest made) :
    Sound script directory applied schema
      { s.put p (.checking rest) with schema := made, applied := s.applied ++ [file] } := by
  have hfile : file ∉ s.applied := h.current p file (by rw [hstage]; rfl)
  have hmade : script file s.schema = some made := h.draft p (file, made) (by rw [hstage]; rfl)
  have hholds : (s.process p).Holds := by rw [hstage]; trivial
  have hother : ∀ q, q ≠ p → ¬ (s.process q).Holds := fun q hq hq' => hq (h.eq_of_holds hq' hholds)
  refine ⟨fun q => ?_, ?_, ?_, fun q => ?_, fun q => ?_, fun q => ?_⟩
  · by_cases hq : q = p
    · subst hq
      simpa [Migrations.put, Migrator.Holds] using (h.holds_iff q).1 hholds
    · simpa [Migrations.put, hq] using h.holds_iff q
  · obtain ⟨new, hnew, hrun⟩ := h.history
    refine ⟨new ++ [file], by simp [hnew], ?_⟩
    rw [runScripts_append, hrun]
    simp [runScripts, hmade]
  · refine List.nodup_append.2 ⟨h.nodup, by simp, ?_⟩
    simpa using fun _ hx => ne_of_mem_of_not_mem hx hfile
  · by_cases hq : q = p
    · subst hq
      simp [Migrations.put, Migrator.current]
    · intro other hother'
      have hcurrent : other ∈ (s.process q).current := by simpa [Migrations.put, hq] using hother'
      exact absurd (Migrator.holds_of_current hcurrent) (hother q hq)
  · by_cases hq : q = p
    · subst hq
      simp [Migrations.put, Migrator.draft]
    · intro d hd
      have hdraft : d ∈ (s.process q).draft := by simpa [Migrations.put, hq] using hd
      exact absurd (Migrator.holds_of_draft hdraft) (hother q hq)
  · intro rest' hrest'
    by_cases hq : q = p
    · subst hq
      obtain ⟨done, hdone, hsubset⟩ := h.visited q (file :: rest) (by rw [hstage]; rfl)
      have heq : rest = rest' := by simpa [Migrations.put, Migrator.remaining] using hrest'
      refine ⟨done ++ [file], by simp [hdone, heq], ?_⟩
      exact List.append_subset.2 ⟨List.subset_append_of_subset_left _ hsubset,
        List.subset_append_right ..⟩
    · obtain ⟨done, hdone, hsubset⟩ := h.visited q rest' (by
        simpa [Migrations.put, hq] using hrest')
      exact ⟨done, hdone, List.subset_append_of_subset_left _ hsubset⟩

theorem moves (h : Sound script directory applied schema s)
    (hmove : Moves script directory s p s') : Sound script directory applied schema s' := by
  cases hmove with
  | connect hstage =>
    exact h.put (by simp [hstage, Migrator.Holds]) (by simp [Migrator.current])
      (by simp [Migrator.draft]) (by simp [Migrator.remaining])
  | acquire hstage hlock => exact h.acquire hlock
  | @skip file rest hstage hfile =>
    refine h.put (by simp [hstage, Migrator.Holds]) (by simp [Migrator.current])
      (by simp [Migrator.draft]) fun rest' hrest' => ?_
    obtain ⟨done, hdone, hsubset⟩ := h.visited p (file :: rest) (by rw [hstage]; rfl)
    have heq : rest = rest' := by simpa [Migrator.remaining] using hrest'
    exact ⟨done ++ [file], by simp [hdone, heq], by simp [hsubset, hfile]⟩
  | @begin file rest hstage hfile =>
    exact h.put (by simp [hstage, Migrator.Holds]) (by simpa [Migrator.current] using hfile)
      (by simp [Migrator.draft]) (by simpa [hstage, Migrator.remaining] using h.visited p)
  | execute hstage hschema =>
    exact h.put (by simp [hstage, Migrator.Holds])
      (by simpa [hstage, Migrator.current] using h.current p)
      (by simpa [Migrator.draft] using hschema)
      (by simpa [hstage, Migrator.remaining] using h.visited p)
  | record hstage hfile =>
    exact h.put (by simp [hstage, Migrator.Holds])
      (by simpa [hstage, Migrator.current] using h.current p)
      (by simpa [hstage, Migrator.draft] using h.draft p)
      (by simpa [hstage, Migrator.remaining] using h.visited p)
  | commit hstage => exact h.commit hstage
  | finish hstage =>
    exact h.release (by simp [Migrator.Holds])
      (by simpa [hstage, Migrator.remaining] using h.visited p)
  | fail => exact h.release (by simp [Migrator.Holds]) (by simp [Migrator.remaining])

end Sound

/-- The files that have been run since the start are the first ones of those that were
    missing. -/
def InOrder (files applied : List String) (s : Migrations σ) : Prop :=
  ∃ new, s.applied = applied ++ new ∧ new <+: files.filter fun file => file ∉ applied

theorem InOrder.moves {script directory} {files applied : List String} {schema : σ}
    {s s' : Migrations σ} {p : ℕ} (h : s.InOrder files applied)
    (hs : Sound script directory applied schema s) (hfiles : migrationFiles (directory p) = files)
    (hnodup : files.Nodup) (hmove : Moves script directory s p s') : s'.InOrder files applied := by
  cases hmove with
  | @commit file rest made hstage =>
    obtain ⟨new, hnew, hinitial⟩ := h
    obtain ⟨done, hdone, hsubset⟩ := hs.visited p (file :: rest) (by rw [hstage]; rfl)
    have hfile : file ∉ applied ++ new := hnew ▸ hs.current p file (by rw [hstage]; rfl)
    obtain ⟨hold, hlater⟩ := not_or.1 (mt List.mem_append.2 hfile)
    have hsplit : files.filter (fun file => file ∉ applied) =
        done.filter (fun file => file ∉ applied) ++
          file :: rest.filter fun file => file ∉ applied := by
      rw [← hfiles, hdone, List.filter_append, List.filter_cons_of_pos (by simpa using hold)]
    -- What the process has found done is all that has been run.
    have heq : new = done.filter fun file => file ∉ applied := by
      refine eq_of_prefix_of_subset (hsplit ▸ hinitial) hlater ?_ ?_
      · intro other hother
        obtain ⟨hmem, hmissing⟩ := List.mem_filter.1 hother
        have hseen : other ∈ applied ++ new := hnew ▸ hsubset hmem
        exact (List.mem_append.1 hseen).resolve_left (by simpa using hmissing)
      · rw [← hfiles, hdone] at hnodup
        exact (List.nodup_append.1 hnodup).1.filter _
    refine ⟨new ++ [file], by simp [hnew], ?_⟩
    rw [hsplit, heq]
    exact ⟨rest.filter fun file => file ∉ applied, by simp⟩
  | connect | acquire | skip | begin | execute | record | finish | fail => exact h

end Migrations

open Migrations in
/-- Whatever the processes do, fail at or are killed at, one after the other or at the same
    time: only one of them is at work, and the lock is free when none is; no file is run twice,
    and the schema is that of the files that have been recorded, in their order; a
    process that ends well leaves no file out. If all have the same files, those that were
    missing are run in the order of their names, all of them when a process ends well. -/
theorem migrate_runs {σ : Type*} {script : String → σ → Option σ} {directory : ℕ → List String}
    (hdirectory : ∀ p, (directory p).Nodup) {applied : List String} (happlied : applied.Nodup)
    {schema : σ} {admits : ℕ × MigratorEvent → Migrations σ → Prop} {s : Migrations σ}
    (h : (system script directory).Reaches admits (start applied schema) s) :
    (∀ p, (s.process p).Holds ↔ s.lock = some p) ∧
      (∃ new, s.applied = applied ++ new ∧ s.applied.Nodup ∧
        runScripts script new schema = some s.schema) ∧
      (∀ p, s.process p = .finished → migrationFiles (directory p) ⊆ s.applied) ∧
      ∀ files, (∀ p, migrationFiles (directory p) = files) →
        ∃ new, s.applied = applied ++ new ∧
          new <+: files.filter (fun file => file ∉ applied) ∧
          ∀ p, s.process p = .finished → new = files.filter fun file => file ∉ applied := by
  have hsound : Sound script directory applied schema s :=
    h.invariant (.start happlied) fun a t t' ht _ hstep => ht.moves (moves_of_act _ _ hstep)
  have hfinished : ∀ p, s.process p = .finished → migrationFiles (directory p) ⊆ s.applied := by
    intro p hp
    obtain ⟨done, hdone, hsubset⟩ := hsound.visited p [] (by rw [hp]; rfl)
    rw [hdone, List.append_nil]
    exact hsubset
  refine ⟨hsound.holds_iff, ?_, hfinished, fun files hfiles => ?_⟩
  · obtain ⟨new, hnew, hrun⟩ := hsound.history
    exact ⟨new, hnew, hsound.nodup, hrun⟩
  · have hnodup : files.Nodup := hfiles 0 ▸ nodup_migrationFiles (hdirectory 0)
    have hboth := h.invariant
      (I := fun t => Sound script directory applied schema t ∧ t.InOrder files applied)
      ⟨.start happlied, [], by simp [Migrations.start], List.nil_prefix⟩
      fun a t t' ht _ hstep =>
        have hmove := moves_of_act script directory hstep
        ⟨ht.1.moves hmove, ht.2.moves ht.1 (hfiles _) hnodup hmove⟩
    obtain ⟨new, hnew, hinitial⟩ := hboth.2
    refine ⟨new, hnew, hinitial, fun p hp => ?_⟩
    have hall : files.filter (fun file => file ∉ applied) ⊆ new := by
      intro file hfile
      obtain ⟨hmem, hmissing⟩ := List.mem_filter.1 hfile
      have hseen : file ∈ applied ++ new := hnew ▸ hfinished p hp (hfiles p ▸ hmem)
      exact (List.mem_append.1 hseen).resolve_left (by simpa using hmissing)
    exact hinitial.eq_of_length_le (List.subperm_of_subset (hnodup.filter _) hall).length_le

/-- Scripts that note their names in the schema. -/
def notingScript (file : String) (schema : List String) : Option (List String) :=
  some (schema ++ [file])

/-- Two copies of the panel with the same files. -/
def twoFiles (_ : ℕ) : List String := ["b.sql", "README.md", "a.sql"]

/-- A process that is killed in its first transaction, and one that ends well. -/
def twoMigrators : List (ℕ × MigratorEvent) :=
  [(0, .connect), (1, .connect), (0, .acquire), (0, .check), (0, .execute), (0, .record),
    (0, .crash), (1, .acquire), (1, .check), (1, .execute), (1, .record), (1, .commit), (1, .check),
    (1, .execute), (1, .record), (1, .commit), (1, .check)]

/-- The database after both. -/
def migratedTwice : Migrations (List String) :=
  (System.run (fun a => Migrations.act notingScript twoFiles a.1 a.2) twoMigrators
    (.start [] [])).getD (.start [] [])

theorem migrate_runs_twice :
    migratedTwice.process 1 = .finished ∧ ["a.sql", "b.sql"] ⊆ migratedTwice.applied ∧
      migratedTwice.schema = ["a.sql", "b.sql"] := by
  have hrun : System.run (fun a => Migrations.act notingScript twoFiles a.1 a.2) twoMigrators
      (.start [] []) = some migratedTwice := rfl
  have hreach : (Migrations.system notingScript twoFiles).Reaches (fun _ _ => True) (.start [] [])
      migratedTwice := System.reaches_of_run (fun _ _ _ => trivial) hrun
  have hfinished : migratedTwice.process 1 = .finished := rfl
  have hspec := migrate_runs (fun _ => by simp [twoFiles]) (by decide) hreach
  exact ⟨hfinished, hspec.2.2.1 1 hfinished, rfl⟩

end WireguardPanel
