import WireguardPanel.Foundation.Inet
import WireguardPanel.Foundation.Text
import Mathlib.Data.Int.Notation
import Mathlib.Tactic.SplitIfs

/-!
# Errors and the platform

The errors that the application raises, and what it takes from the platform it
runs on: the hash function, the time zone database, the number arithmetic of
ECMAScript, and the network address type of PostgreSQL.
-/

namespace WireguardPanel

open Foundation

/-! ## Errors -/

/-- Who holds an address that was asked for. -/
structure PoolOwner where
  peer : Option String := none
  router : Option String := none
  interface : Option String := none
  kind : Option String := none
  deriving DecidableEq

/-- A RouterOS object that stands in the way of a bandwidth change. -/
structure ConflictSummary where
  id : String
  name : String
  target : String
  comment : String
  deriving DecidableEq

/-- The codes of a `RouterConnectionError`. -/
inductive RouterErrorCode
  | authFailed
  | timeout
  | apiUnavailable
  | tlsError
  | unsupported
  | routerError
  deriving DecidableEq

/-- The kinds of constraints that a statement can violate, and what its types
    can be rejected for. -/
inductive Violation
  | check
  | unique
  | foreignKey
  | notNull
  | invalidText
  /-- A parameter is used with two types. -/
  | ambiguousParameter
  /-- A function is called with types that it does not take. -/
  | undefinedFunction
  deriving DecidableEq

/-- What is thrown. -/
inductive AppError
  | error (message : String)
  | ipAllocation (message : String)
  | poolConflict (message : String) (owner : Option PoolOwner)
  | reconciliationConflict (message : String)
  | driftChanged (message : String)
  | bandwidthConflict (message : String) (conflicts : List ConflictSummary)
  | routerConnection (code : RouterErrorCode) (message : String)
  | database (violation : Violation)
  deriving DecidableEq

/-- An error if the condition holds. -/
def rejectIf (p : Prop) [Decidable p] (e : AppError) : Except AppError Unit :=
  if p then throw e else return ()

/-- A computation that may throw followed by a step succeeds when both do. -/
theorem except_bind_ok {α β : Type} {r : Except AppError α} {f : α → Except AppError β} {b : β} :
    (r >>= f) = .ok b ↔ ∃ a, r = .ok a ∧ f a = .ok b := by
  cases r <;> simp [bind, Except.bind]

theorem rejectIf_ok {p : Prop} [Decidable p] {e : AppError} {u : Unit} :
    rejectIf p e = .ok u ↔ ¬p := by
  unfold rejectIf
  split_ifs with hp
  · exact iff_of_false nofun fun h => h hp
  · exact iff_of_true rfl hp

theorem rejectIf_bind_ok {β : Type} {p : Prop} [Decidable p] {e : AppError}
    {f : Unit → Except AppError β} {b : β} : (rejectIf p e >>= f) = .ok b ↔ ¬p ∧ f () = .ok b := by
  unfold rejectIf
  split_ifs with hp
  · exact iff_of_false nofun fun h => h.1 hp
  · exact ⟨fun h => ⟨hp, h⟩, And.right⟩

/-! ## Platform -/

/-- What the program takes from outside. Moments and offsets are counted in
    milliseconds. -/
structure Platform where
  /-- The hexadecimal SHA-256 digest of a text. -/
  sha256 : List Char → String
  /-- The offset from UTC that `Intl.DateTimeFormat` applies to a moment in a
      time zone, if there is a zone of this name. -/
  timeZone : String → Option (ℤ → ℤ)
  /-- `String(Math.round(Number(text) * factor))` for a decimal text. -/
  scaledText : String → ℕ → String
  /-- The cast of a text to `inet`. -/
  inet : String → Option Inet
  /-- `host` of an IPv6 value. -/
  host6 : ℕ → String
  /-- The encryption of stored secrets, and their decryption with the key of the environment, which
      throws if it cannot be done. -/
  encryptSecret : String → String
  decryptSecretWithKey : String → Except String String

/-- `decryptSecret`. -/
def Platform.decryptSecret (P : Platform) (payload : String) : Except AppError String :=
  match P.decryptSecretWithKey payload with
  | .ok value => .ok value
  | .error _ => .error (.error ("Stored credentials cannot be decrypted. Restore the " ++
      "APP_ENCRYPTION_KEY used when they were saved."))

end WireguardPanel
