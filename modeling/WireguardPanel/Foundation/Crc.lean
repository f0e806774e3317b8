import Mathlib.Data.BitVec
import Mathlib.Data.List.GetD
import Mathlib.Logic.Function.Iterate

/-!
# Cyclic redundancy checks

Reflected checks of any width, whose register takes the bits of a message one
after the other, the least significant bit of a byte first.

* `Crc.absorb`, `Crc.register`: the register after a bit, and after a message.
* `Crc.shift_xor`: a shift of the register is linear.
* `Crc.register_byte`: the eight bits of a byte can be added at once, before
  eight shifts.
* `Crc.shifts_eight_eq`: eight shifts are those of the low byte, and the rest
  moved down; so they can be read from a table of 256 registers.
-/

namespace Foundation

namespace Crc

variable {w : ℕ}

/-- A shift of the register, which adds the polynomial for the bit that leaves it. -/
def shift (poly x : BitVec w) : BitVec w :=
  if x.getLsbD 0 then (x >>> 1) ^^^ poly else x >>> 1

/-- The register after a bit of the message. -/
def absorb (poly x : BitVec w) (bit : Bool) : BitVec w :=
  if x.getLsbD 0 ^^ bit then (x >>> 1) ^^^ poly else x >>> 1

/-- The bits of a byte. -/
def byteBits (byte : UInt8) : List Bool := (List.range 8).map fun i => byte.toNat.testBit i

/-- The register after a message. -/
def register (poly x : BitVec w) (message : List UInt8) : BitVec w :=
  (message.flatMap byteBits).foldl (absorb poly) x

/-- A row of bits in a register. -/
def ofBits : List Bool → BitVec w
  | [] => 0
  | bit :: bits => BitVec.setWidth w (BitVec.ofBool bit) ^^^ (ofBits bits <<< 1)

/-! ## Shifts -/

theorem shift_xor (poly x y : BitVec w) : shift poly (x ^^^ y) = shift poly x ^^^ shift poly y := by
  have hcancel : ∀ a b : BitVec w, a ^^^ poly ^^^ (b ^^^ poly) = a ^^^ b := fun a b => by
    rw [BitVec.xor_comm b poly, BitVec.xor_assoc, ← BitVec.xor_assoc poly, BitVec.xor_self,
      BitVec.zero_xor]
  simp only [shift, BitVec.getLsbD_xor, BitVec.ushiftRight_xor_distrib]
  cases x.getLsbD 0 <;> cases y.getLsbD 0
  · rfl
  · exact BitVec.xor_assoc _ _ _
  · change x >>> 1 ^^^ y >>> 1 ^^^ poly = x >>> 1 ^^^ poly ^^^ y >>> 1
    rw [BitVec.xor_assoc, BitVec.xor_assoc, BitVec.xor_comm poly]
  · exact (hcancel _ _).symm

theorem iterate_shift_xor (poly x y : BitVec w) (k : ℕ) :
    (shift poly)^[k] (x ^^^ y) = (shift poly)^[k] x ^^^ (shift poly)^[k] y := by
  induction k generalizing x y with
  | zero => rfl
  | succ k ih => rw [Function.iterate_succ_apply, shift_xor, ih, ← Function.iterate_succ_apply,
      ← Function.iterate_succ_apply]

/-- Bits that are not set leave the register without the polynomial. -/
theorem iterate_shift_eq (poly x : BitVec w) {k : ℕ} (h : ∀ i < k, x.getLsbD i = false) :
    (shift poly)^[k] x = x >>> k := by
  induction k with
  | zero => simp
  | succ k ih =>
    have hlow : (x >>> k).getLsbD 0 = false := by
      rw [BitVec.getLsbD_ushiftRight]
      exact h k (Nat.lt_succ_self k)
    rw [Function.iterate_succ_apply', ih fun i hi => h i (hi.trans (Nat.lt_succ_self k)),
      shift, hlow,
      if_neg Bool.false_ne_true, ← BitVec.shiftRight_add]

/-! ## Bytes -/

theorem getLsbD_ofBits (bits : List Bool) (i : ℕ) :
    (ofBits bits : BitVec w).getLsbD i = (decide (i < w) && bits.getD i false) := by
  induction bits generalizing i with
  | nil => simp [ofBits]
  | cons bit bits ih =>
    rw [ofBits, BitVec.getLsbD_xor, BitVec.getLsbD_setWidth, BitVec.getLsbD_shiftLeft]
    cases i with
    | zero => simp
    | succ i =>
      rw [Nat.add_sub_cancel, ih]
      by_cases hi : i + 1 < w
      · simp [hi, show i < w by omega]
      · simp [hi]

/-- A bit that is added to the register leaves it with the next shift. -/
theorem absorb_xor_ofBits (poly x : BitVec w) {bit : Bool} {bits : List Bool}
    (h : bits.length < w) :
    absorb poly x bit ^^^ ofBits bits = shift poly (x ^^^ ofBits (bit :: bits)) := by
  have hlow : (x ^^^ BitVec.setWidth w (BitVec.ofBool bit)).getLsbD 0 = (x.getLsbD 0 ^^ bit) := by
    simp [show 0 < w by omega]
  have hrest : (x ^^^ BitVec.setWidth w (BitVec.ofBool bit)) >>> 1 = x >>> 1 := by
    refine BitVec.eq_of_getLsbD_eq fun i _ => ?_
    simp
  have hshift : shift poly (ofBits bits <<< 1) = (ofBits bits : BitVec w) := by
    refine (iterate_shift_eq poly _ (k := 1) fun i hi => ?_).trans ?_
    · simp [show i = 0 by omega]
    · -- The row does not fill the register, so that no bit of it is lost.
      refine BitVec.eq_of_getLsbD_eq fun i hi => ?_
      rw [BitVec.getLsbD_ushiftRight, BitVec.getLsbD_shiftLeft]
      by_cases hlast : 1 + i < w
      · simp [hlast]
      · have hnone : bits.getD i false = false := List.getD_eq_default _ _ (by omega)
        have hlost : (ofBits bits : BitVec w).getLsbD i = false := by
          rw [getLsbD_ofBits, hnone, Bool.and_false]
        rw [hlost]
        simp [hlast]
  rw [ofBits, ← BitVec.xor_assoc, shift_xor, hshift, shift, hlow, hrest]
  rfl

/-- The bits of a row can be added at once. -/
theorem foldl_absorb (poly x : BitVec w) {bits : List Bool} (h : bits.length ≤ w) :
    bits.foldl (absorb poly) x = (shift poly)^[bits.length] (x ^^^ ofBits bits) := by
  induction bits generalizing x with
  | nil => simp [ofBits]
  | cons bit bits ih =>
    have hlt : bits.length < w := h
    rw [List.foldl_cons, ih _ hlt.le, absorb_xor_ofBits poly x hlt, List.length_cons,
      Function.iterate_succ_apply]

theorem ofBits_byteBits (byte : UInt8) : (ofBits (byteBits byte) : BitVec w) =
    byte.toBitVec.setWidth w := by
  refine BitVec.eq_of_getLsbD_eq fun i hi => ?_
  rw [getLsbD_ofBits, BitVec.getLsbD_setWidth, byteBits]
  by_cases hi' : i < 8
  · simp [hi, hi', BitVec.getLsbD, List.getD_eq_getElem?_getD]
  · rw [List.getD_eq_default _ _ (by simpa using hi'), BitVec.getLsbD_of_ge _ _ (by omega)]

/-- The register after a byte and the rest of a message. -/
theorem register_cons (hw : 8 ≤ w) (poly x : BitVec w) (byte : UInt8) (rest : List UInt8) :
    register poly x (byte :: rest) =
      register poly ((shift poly)^[8] (x ^^^ byte.toBitVec.setWidth w)) rest := by
  have hlength : (byteBits byte).length = 8 := by simp [byteBits]
  rw [register, List.flatMap_cons, List.foldl_append, foldl_absorb poly x (by omega), hlength,
    ofBits_byteBits]
  rfl

/-- Eight shifts are those of the low byte, and the rest moved down. -/
theorem shifts_eight_eq (poly x : BitVec w) :
    (shift poly)^[8] x = (shift poly)^[8] (x &&& 0xff) ^^^ x >>> 8 := by
  have hmask : ∀ i, (0xff : BitVec w).getLsbD i = (decide (i < w) && decide (i < 8)) := fun i => by
    have hones : (0xff : ℕ) = 2 ^ 8 - 1 := by decide
    change (BitVec.ofNat w 0xff).getLsbD i = _
    rw [BitVec.getLsbD_ofNat, hones, Nat.testBit_two_pow_sub_one]
  have hsplit : x = (x &&& 0xff) ^^^ (x &&& ~~~0xff) := by
    refine BitVec.eq_of_getLsbD_eq fun i hi => ?_
    simp only [BitVec.getLsbD_xor, BitVec.getLsbD_and, BitVec.getLsbD_not, hmask, hi]
    cases x.getLsbD i <;> cases decide (i < 8) <;> rfl
  have hhigh : (x &&& ~~~0xff) >>> 8 = x >>> 8 := by
    refine BitVec.eq_of_getLsbD_eq fun i hi => ?_
    simp only [BitVec.getLsbD_ushiftRight, BitVec.getLsbD_and, BitVec.getLsbD_not, hmask]
    by_cases hlt : 8 + i < w
    · simp [hlt]
    · simp [BitVec.getLsbD_of_ge x (8 + i) (by omega)]
  calc (shift poly)^[8] x = (shift poly)^[8] ((x &&& 0xff) ^^^ (x &&& ~~~0xff)) := by rw [← hsplit]
    _ = (shift poly)^[8] (x &&& 0xff) ^^^ (x &&& ~~~0xff) >>> 8 := by
      rw [iterate_shift_xor, iterate_shift_eq poly (x &&& ~~~0xff) fun i hi => ?_]
      simp only [BitVec.getLsbD_and, BitVec.getLsbD_not, hmask, hi]
      simp
    _ = (shift poly)^[8] (x &&& 0xff) ^^^ x >>> 8 := by rw [hhigh]

end Crc

end Foundation
