import Mathlib.Algebra.Group.Nat.Defs
import Mathlib.Data.Int.Notation
import Mathlib.Data.List.Basic
import Mathlib.Tactic.Ring

/-!
# Buffers

Bytes with numbers at fixed places, the least significant byte of a number
first.

* `Buffer.encode`, `Buffer.value`: the bytes of a number, and their number.
* `Buffer.slice`, `Buffer.read`: bytes and a number at a place.
* `Buffer.Field`, `Buffer.write`: a number that is written at a place. It has to
  fit.
* `Buffer.isSome_writeAll`: fields are written if they all fit.
* `Buffer.Filled`: fields that do not overlap can all be read, and the rest of
  the bytes is as before.
-/

namespace Foundation

namespace Buffer

/-- The bytes of a number. -/
def encode : ℕ → ℕ → List UInt8
  | 0, _ => []
  | width + 1, n => UInt8.ofNat n :: encode width (n / 256)

/-- The number of bytes. -/
def value : List UInt8 → ℕ
  | [] => 0
  | byte :: bytes => byte.toNat + 256 * value bytes

@[simp] theorem length_encode (width n : ℕ) : (encode width n).length = width := by
  induction width generalizing n with
  | zero => rfl
  | succ width ih => rw [encode, List.length_cons, ih]

theorem value_encode {width n : ℕ} (h : n < 256 ^ width) : value (encode width n) = n := by
  induction width generalizing n with
  | zero =>
    have hzero : n = 0 := by simpa using h
    rw [hzero]
    rfl
  | succ width ih =>
    have hrest : n / 256 < 256 ^ width := Nat.div_lt_of_lt_mul (by rwa [pow_succ'] at h)
    rw [encode, value, ih hrest, UInt8.toNat_ofNat']
    exact Nat.mod_add_div n 256

/-! ## Places -/

/-- The bytes at a place, if the buffer reaches that far. -/
def slice (buffer : List UInt8) (offset length : ℕ) : Option (List UInt8) :=
  if offset + length ≤ buffer.length then some ((buffer.drop offset).take length) else none

/-- The number at a place. -/
def read (buffer : List UInt8) (width offset : ℕ) : Option ℕ :=
  (slice buffer offset width).map value

/-- Other bytes at a place. -/
def put (buffer : List UInt8) (offset : ℕ) (bytes : List UInt8) : List UInt8 :=
  buffer.take offset ++ (bytes ++ buffer.drop (offset + bytes.length))

theorem slice_append_left {front back : List UInt8} {offset length : ℕ}
    (h : offset + length ≤ front.length) :
    slice (front ++ back) offset length = slice front offset length := by
  rw [slice, slice, if_pos h, if_pos (by rw [List.length_append]; omega),
    List.drop_append_of_le_length (by omega),
    List.take_append_of_le_length (by rw [List.length_drop]; omega)]

theorem slice_append_right (front back : List UInt8) (offset length : ℕ) :
    slice (front ++ back) (front.length + offset) length = slice back offset length := by
  have hiff : front.length + offset + length ≤ (front ++ back).length ↔
      offset + length ≤ back.length := by rw [List.length_append]; omega
  rw [slice, slice, List.drop_length_add_append]
  simp only [hiff]

theorem slice_self (bytes back : List UInt8) :
    slice (bytes ++ back) 0 bytes.length = some bytes := by
  rw [slice, if_pos (by simp), List.drop_zero, List.take_left]

theorem length_put {buffer bytes : List UInt8} {offset : ℕ}
    (h : offset + bytes.length ≤ buffer.length) :
    (put buffer offset bytes).length = buffer.length := by
  rw [put, List.length_append, List.length_append, List.length_take, List.length_drop]
  omega

/-- What has been put at a place is there. -/
theorem slice_put_self {buffer bytes : List UInt8} {offset : ℕ}
    (h : offset + bytes.length ≤ buffer.length) :
    slice (put buffer offset bytes) offset bytes.length = some bytes := by
  have hfront : (buffer.take offset).length = offset := by rw [List.length_take]; omega
  have hplace := slice_append_right (buffer.take offset)
    (bytes ++ buffer.drop (offset + bytes.length)) 0 bytes.length
  rw [hfront, Nat.add_zero, slice_self] at hplace
  exact hplace

/-- What is before or after the place stays. -/
theorem slice_put_of_disjoint {buffer bytes : List UInt8} {offset place length : ℕ}
    (h : offset + bytes.length ≤ buffer.length)
    (hdisjoint : place + length ≤ offset ∨ offset + bytes.length ≤ place) :
    slice (put buffer offset bytes) place length = slice buffer place length := by
  have hfront : (buffer.take offset).length = offset := by rw [List.length_take]; omega
  rcases hdisjoint with hbefore | hafter
  · conv_rhs => rw [← List.take_append_drop offset buffer]
    rw [put, slice_append_left (by omega), slice_append_left (by omega)]
  · obtain ⟨rest, rfl⟩ := Nat.exists_eq_add_of_le hafter
    have hput : put buffer offset bytes =
        (buffer.take offset ++ bytes) ++ buffer.drop (offset + bytes.length) :=
      (List.append_assoc _ _ _).symm
    have hnew : (buffer.take offset ++ bytes).length = offset + bytes.length := by
      rw [List.length_append, hfront]
    have hold : (buffer.take (offset + bytes.length)).length = offset + bytes.length := by
      rw [List.length_take]; omega
    have hright := slice_append_right (buffer.take offset ++ bytes)
      (buffer.drop (offset + bytes.length)) rest length
    have hright' := slice_append_right (buffer.take (offset + bytes.length))
      (buffer.drop (offset + bytes.length)) rest length
    rw [hnew] at hright
    rw [hold, List.take_append_drop] at hright'
    rw [hput, hright, hright']

theorem read_append_left {front back : List UInt8} {width offset : ℕ}
    (h : offset + width ≤ front.length) :
    read (front ++ back) width offset = read front width offset := by
  rw [read, read, slice_append_left h]

theorem read_append_right (front back : List UInt8) (width offset : ℕ) :
    read (front ++ back) width (front.length + offset) = read back width offset := by
  rw [read, read, slice_append_right]

/-- A number in the middle of a buffer. -/
theorem read_within {front middle back : List UInt8} {width offset : ℕ}
    (h : offset + width ≤ middle.length) :
    read (front ++ (middle ++ back)) width (front.length + offset) = read middle width offset := by
  rw [read_append_right, read_append_left h]

/-- The middle of a buffer. -/
theorem slice_within (front before middle back : List UInt8) :
    slice (front ++ (before ++ (middle ++ back))) (front.length + before.length) middle.length =
      some middle := by
  rw [slice_append_right, ← Nat.add_zero before.length, slice_append_right, slice_self]

/-! ## Fields -/

/-- A number of so many bytes at a place. -/
structure Field where
  width : ℕ
  value : ℤ
  offset : ℕ

/-- The number has so many bytes, and they are in the buffer. -/
def Field.Fits (size : ℕ) (f : Field) : Prop :=
  0 ≤ f.value ∧ f.value < 256 ^ f.width ∧ f.offset + f.width ≤ size

instance (size : ℕ) (f : Field) : Decidable (f.Fits size) :=
  inferInstanceAs (Decidable (0 ≤ f.value ∧ f.value < 256 ^ f.width ∧ f.offset + f.width ≤ size))

/-- The field and the bytes at a place have no byte in common. -/
def Field.Apart (place length : ℕ) (f : Field) : Prop :=
  place + length ≤ f.offset ∨ f.offset + f.width ≤ place

instance (place length : ℕ) (f : Field) : Decidable (f.Apart place length) :=
  inferInstanceAs (Decidable (place + length ≤ f.offset ∨ f.offset + f.width ≤ place))

/-- The numbers of the fields do not overlap. -/
def Separate : List Field → Prop := List.Pairwise fun f g => g.Apart f.offset f.width

/-- A number is written, or there is an error. -/
def write (buffer : List UInt8) (f : Field) : Option (List UInt8) :=
  if f.Fits buffer.length then some (put buffer f.offset (encode f.width f.value.toNat)) else none

/-- Numbers are written one after the other. -/
def writeAll (buffer : List UInt8) (fields : List Field) : Option (List UInt8) :=
  fields.foldlM write buffer

/-- The bytes `buffer'` are `buffer` with the fields in it. -/
structure Filled (buffer : List UInt8) (fields : List Field) (buffer' : List UInt8) : Prop where
  length : buffer'.length = buffer.length
  read : ∀ f ∈ fields, read buffer' f.width f.offset = some f.value.toNat
  rest : ∀ place length, (∀ f ∈ fields, f.Apart place length) →
    slice buffer' place length = slice buffer place length

theorem Filled.read_rest {buffer buffer' : List UInt8} {fields : List Field}
    (h : Filled buffer fields buffer') {width offset : ℕ}
    (hapart : ∀ f ∈ fields, f.Apart offset width) :
    Buffer.read buffer' width offset = Buffer.read buffer width offset := by
  rw [Buffer.read, h.rest _ _ hapart, Buffer.read]

theorem length_write {buffer buffer' : List UInt8} {f : Field} (h : write buffer f = some buffer') :
    buffer'.length = buffer.length := by
  rw [write] at h
  split_ifs at h with hfits
  rw [← Option.some.inj h, length_put (by rw [length_encode]; exact hfits.2.2)]

theorem isSome_writeAll (buffer : List UInt8) (fields : List Field) :
    (writeAll buffer fields).isSome ↔ ∀ f ∈ fields, f.Fits buffer.length := by
  induction fields generalizing buffer with
  | nil => simp [writeAll]
  | cons f fields ih =>
    rw [List.forall_mem_cons, writeAll, List.foldlM_cons]
    cases hwrite : write buffer f with
    | none =>
      have hnot : ¬f.Fits buffer.length := fun hfits => by simp [write, hfits] at hwrite
      exact iff_of_false (by simp) fun h => hnot h.1
    | some buffer' =>
      have hfits : f.Fits buffer.length := by
        by_contra hnot
        simp [write, hnot] at hwrite
      rw [← length_write hwrite, ← ih buffer', length_write hwrite, and_iff_right hfits]
      rfl

theorem filled_of_writeAll {buffer buffer' : List UInt8} {fields : List Field}
    (hseparate : Separate fields) (h : writeAll buffer fields = some buffer') :
    Filled buffer fields buffer' := by
  induction fields generalizing buffer with
  | nil =>
    rw [← Option.some.inj h]
    exact ⟨rfl, nofun, fun _ _ _ => rfl⟩
  | cons f fields ih =>
    rw [writeAll, List.foldlM_cons] at h
    obtain ⟨middle, hwrite, hrest⟩ := Option.bind_eq_some_iff.1 h
    have hlength := length_write hwrite
    obtain ⟨hfirst, hlater⟩ := List.pairwise_cons.1 hseparate
    have hfilled := ih hlater hrest
    rw [write] at hwrite
    split_ifs at hwrite with hfits
    obtain ⟨hpos, hlt, hplace⟩ := hfits
    have hplace' : f.offset + (encode f.width f.value.toNat).length ≤ buffer.length := by
      rwa [length_encode]
    have hput := Option.some.inj hwrite
    refine ⟨hfilled.length.trans hlength, List.forall_mem_cons.2 ⟨?_, hfilled.read⟩,
      fun place length hapart => ?_⟩
    · -- The later fields leave the number of the first one alone.
      have hself := slice_put_self hplace'
      rw [length_encode, hput] at hself
      have hsmall : f.value.toNat < 256 ^ f.width := by
        have hcast : ((f.value.toNat : ℕ) : ℤ) < ((256 ^ f.width : ℕ) : ℤ) := by
          rw [Int.toNat_of_nonneg hpos]
          exact_mod_cast hlt
        exact_mod_cast hcast
      rw [Buffer.read, hfilled.rest _ _ hfirst, hself, Option.map_some, value_encode hsmall]
    · obtain ⟨hf, hfields⟩ := List.forall_mem_cons.1 hapart
      have hapart' : place + length ≤ f.offset ∨
          f.offset + (encode f.width f.value.toNat).length ≤ place := by
        rwa [length_encode]
      rw [hfilled.rest _ _ hfields, ← hput, slice_put_of_disjoint hplace' hapart']

end Buffer

end Foundation
