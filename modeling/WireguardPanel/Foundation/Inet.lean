import Mathlib.Data.Nat.Notation
import Mathlib.Tactic.Linarith
import Mathlib.Order.Compare

/-!
# Network addresses of a database

The `inet` values of PostgreSQL: an address with the length of a network mask,
and the order in which the database compares them.

* `Inet.cmp`: addresses are compared by the bits that both masks cover, then
  by the lengths of the masks, and only then by all of their bits.
* `Inet.host_le_host`: on addresses without a mask this is the numeric order.
-/

namespace Foundation

/-- The version of an address. -/
inductive Family
  | v4
  | v6
  deriving DecidableEq

namespace Family

/-- The number of bits of an address. -/
def width : Family → ℕ
  | v4 => 32
  | v6 => 128

/-- The place of a family in the order of addresses. -/
def index : Family → ℕ
  | v4 => 0
  | v6 => 1

end Family

/-- An address, as a number, and the length of its network mask. -/
structure Inet where
  family : Family
  addr : ℕ
  bits : ℕ
  deriving DecidableEq

namespace Inet

/-- The first `k` bits of an address. -/
def lead (k : ℕ) (a : Inet) : ℕ := a.addr / 2 ^ (a.family.width - k)

/-- The comparison of two addresses. -/
def cmp (a b : Inet) : Ordering :=
  (compare a.family.index b.family.index).then <|
    (compare (a.lead (min a.bits b.bits)) (b.lead (min a.bits b.bits))).then <|
      (compare a.bits b.bits).then (compare a.addr b.addr)

instance : LT Inet := ⟨fun a b => a.cmp b = .lt⟩

instance : LE Inet := ⟨fun a b => a.cmp b ≠ .gt⟩

instance (a b : Inet) : Decidable (a < b) := inferInstanceAs (Decidable (a.cmp b = .lt))

instance (a b : Inet) : Decidable (a ≤ b) := inferInstanceAs (Decidable (a.cmp b ≠ .gt))

/-- The address `n` of version 4, without a mask. -/
def host (n : ℕ) : Inet := ⟨.v4, n, 32⟩

/-- The network of an address, as a number. -/
def network (a : Inet) : ℕ := a.lead a.bits * 2 ^ (a.family.width - a.bits)

/-- The broadcast address of a network, as a number. -/
def broadcast (a : Inet) : ℕ := a.network + 2 ^ (a.family.width - a.bits) - 1

/-- `<<=`: the address lies in the network, or is the network. -/
def Within (a b : Inet) : Prop :=
  a.family = b.family ∧ b.bits ≤ a.bits ∧ a.lead b.bits = b.lead b.bits

instance (a b : Inet) : Decidable (a.Within b) :=
  inferInstanceAs
    (Decidable (a.family = b.family ∧ b.bits ≤ a.bits ∧ a.lead b.bits = b.lead b.bits))

@[simp] theorem cmp_host (m n : ℕ) : (host m).cmp (host n) = compare m n := by
  have h : ∀ k, (host k).lead (min (host m).bits (host n).bits) = k := fun k => by
    simp [lead, host, Family.width]
  simp only [cmp, h]
  rcases lt_trichotomy m n with hlt | rfl | hlt <;>
    simp [host, Family.index, Ordering.then, compare_lt_iff_lt.2, compare_gt_iff_gt.2, *]

@[simp] theorem host_lt_host {m n : ℕ} : host m < host n ↔ m < n := by
  change (host m).cmp (host n) = .lt ↔ _
  rw [cmp_host, compare_lt_iff_lt]

@[simp] theorem host_le_host {m n : ℕ} : host m ≤ host n ↔ m ≤ n := by
  change (host m).cmp (host n) ≠ .gt ↔ _
  rw [cmp_host, ne_eq, compare_gt_iff_gt, not_lt]

theorem cmp_swap (a b : Inet) : (a.cmp b).swap = b.cmp a := by
  simp only [cmp, Ordering.swap_then, Nat.compare_swap, min_comm b.bits a.bits]

/-- The order of addresses is total. -/
theorem not_lt {a b : Inet} : ¬a < b ↔ b ≤ a := by
  change ¬a.cmp b = .lt ↔ b.cmp a ≠ .gt
  rw [← cmp_swap a b]
  cases a.cmp b <;> simp

/-- A host of a network lies between its first and its last address. -/
theorem Within.bounds {n : ℕ} {b : Inet} (h : (host n).Within b) :
    b.network ≤ n ∧ n ≤ b.broadcast := by
  obtain ⟨hfamily, -, hlead⟩ := h
  have hpos : 0 < 2 ^ (b.family.width - b.bits) := Nat.two_pow_pos _
  have hn : n / 2 ^ (b.family.width - b.bits) = b.lead b.bits := by
    rw [← hlead, lead, ← hfamily]
    rfl
  have hdiv := Nat.div_add_mod n (2 ^ (b.family.width - b.bits))
  have hmod := Nat.mod_lt n hpos
  rw [hn, mul_comm] at hdiv
  unfold broadcast network
  omega

end Inet

end Foundation
