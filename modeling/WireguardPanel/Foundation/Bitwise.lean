import Mathlib.Data.BitVec
import Mathlib.Data.Nat.Bitwise

/-!
# The bitwise operators of ECMAScript

The operators on whole numbers. They take the low 32 bits of a number, and all
but `>>>` give back a signed number.

* `Bitwise.bits`: the 32 bits that the operators work on.
* `Bitwise.bits_xor` and its likes: what an operator does to the bits.
* `Bitwise.or_natCast`, `Bitwise.shiftLeft_natCast`: on small numbers the signs
  do not matter.
-/

namespace Foundation

namespace Bitwise

/-- `ToInt32` and `ToUint32`: the low 32 bits of a number. -/
def bits (n : ℤ) : BitVec 32 := BitVec.ofInt 32 n

/-- `m ^ n`. -/
def xor (m n : ℤ) : ℤ := (bits m ^^^ bits n).toInt

/-- `m & n`. -/
def and (m n : ℤ) : ℤ := (bits m &&& bits n).toInt

/-- `m | n`. -/
def or (m n : ℤ) : ℤ := (bits m ||| bits n).toInt

/-- `m << k`, for `k` below 32. -/
def shiftLeft (m : ℤ) (k : ℕ) : ℤ := (bits m <<< k).toInt

/-- `m >>> k`, for `k` below 32. -/
def unsignedShiftRight (m : ℤ) (k : ℕ) : ℤ := (bits m >>> k).toNat

@[simp] theorem bits_toInt (x : BitVec 32) : bits x.toInt = x := BitVec.ofInt_toInt

@[simp] theorem bits_toNat (x : BitVec 32) : bits x.toNat = x := by
  rw [bits, BitVec.ofInt_natCast, BitVec.ofNat_toNat, BitVec.setWidth_eq]

@[simp] theorem bits_xor (m n : ℤ) : bits (xor m n) = bits m ^^^ bits n := bits_toInt _

@[simp] theorem bits_unsignedShiftRight (m : ℤ) (k : ℕ) :
    bits (unsignedShiftRight m k) = bits m >>> k := bits_toNat _

theorem bits_natCast_toNat {n : ℕ} (h : n < 2 ^ 32) : (bits n).toNat = n := by
  rw [bits, BitVec.ofInt_natCast, BitVec.toNat_ofNat, Nat.mod_eq_of_lt h]

/-- Bits whose first one is not set are those of the number itself. -/
theorem toInt_of_lt {x : BitVec 32} (h : x.toNat < 2 ^ 31) : x.toInt = x.toNat :=
  BitVec.toInt_eq_toNat_of_lt (by omega)

theorem or_natCast {m n : ℕ} (hm : m < 2 ^ 31) (hn : n < 2 ^ 31) :
    or m n = ((m ||| n : ℕ) : ℤ) := by
  have hor : (bits m ||| bits n).toNat = m ||| n := by
    rw [BitVec.toNat_or, bits_natCast_toNat (by omega), bits_natCast_toNat (by omega)]
  rw [or, toInt_of_lt, hor]
  rw [hor]
  exact Nat.or_lt_two_pow hm hn

theorem shiftLeft_natCast {m k : ℕ} (h : m * 2 ^ k < 2 ^ 31) :
    shiftLeft m k = ((m * 2 ^ k : ℕ) : ℤ) := by
  have hm : m < 2 ^ 32 := by
    have hle := Nat.le_mul_of_pos_right m (Nat.two_pow_pos k)
    omega
  have hshift : (bits m <<< k).toNat = m * 2 ^ k := by
    rw [BitVec.toNat_shiftLeft, bits_natCast_toNat hm, Nat.shiftLeft_eq,
      Nat.mod_eq_of_lt (by omega)]
  rw [shiftLeft, toInt_of_lt, hshift]
  rw [hshift]
  exact h

/-- The lowest bit of a number. -/
theorem and_one_ne_zero_iff (m : ℤ) : and m 1 ≠ 0 ↔ (bits m).getLsbD 0 = true := by
  have hone : bits 1 = 1#32 := by decide
  rw [and, hone, BitVec.and_one_eq_setWidth_ofBool_getLsbD]
  cases (bits m).getLsbD 0 <;> decide

end Bitwise

end Foundation
