import Mathlib.Data.List.Basic
import Mathlib.Data.Nat.Notation
import Mathlib.Tactic.Linarith

/-!
# Base64 without padding

Bytes as characters that stand in URLs. The decoder reads the other alphabet as
well, and passes over characters of neither.

* `Base64.encode`, `Base64.decode`: three bytes are four characters.
* `Base64.decode_encode`: what has been encoded is decoded again.
-/

namespace Foundation

namespace Base64

/-- The character for six bits. -/
def digit (n : ℕ) : Char :=
  if n < 26 then Char.ofNat (n + 65)
  else if n < 52 then Char.ofNat (n + 71)
  else if n < 62 then Char.ofNat (n - 4)
  else if n = 62 then '-' else '_'

/-- The six bits of a character. -/
def value (c : Char) : Option ℕ :=
  if 'A' ≤ c ∧ c ≤ 'Z' then some (c.toNat - 65)
  else if 'a' ≤ c ∧ c ≤ 'z' then some (c.toNat - 71)
  else if '0' ≤ c ∧ c ≤ '9' then some (c.toNat + 4)
  else if c = '-' ∨ c = '+' then some 62
  else if c = '_' ∨ c = '/' then some 63
  else none

/-- The first six bits of 24, and those that follow. -/
def sextet (n i : ℕ) : Char := digit (n / 0x40 ^ (3 - i) % 0x40)

/-- The characters of bytes. -/
def encode : List UInt8 → List Char
  | a :: b :: c :: rest =>
    let n := a.toNat * 0x10000 + b.toNat * 0x100 + c.toNat
    sextet n 0 :: sextet n 1 :: sextet n 2 :: sextet n 3 :: encode rest
  | [a, b] =>
    let n := a.toNat * 0x10000 + b.toNat * 0x100
    [sextet n 0, sextet n 1, sextet n 2]
  | [a] => [sextet (a.toNat * 0x10000) 0, sextet (a.toNat * 0x10000) 1]
  | [] => []

/-- The bytes of rows of six bits. Six bits alone are no byte. -/
def bytes : List ℕ → List UInt8
  | a :: b :: c :: d :: rest =>
    let n := ((a * 0x40 + b) * 0x40 + c) * 0x40 + d
    UInt8.ofNat (n / 0x10000) :: UInt8.ofNat (n / 0x100) :: UInt8.ofNat n :: bytes rest
  | [a, b, c] =>
    let n := ((a * 0x40 + b) * 0x40 + c) * 0x40
    [UInt8.ofNat (n / 0x10000), UInt8.ofNat (n / 0x100)]
  | [a, b] => [UInt8.ofNat ((a * 0x40 + b) / 0x10)]
  | [_] | [] => []

/-- The bytes of characters. -/
def decode (cs : List Char) : List UInt8 := bytes (cs.filterMap value)

/-! ## Decoding what has been encoded -/

theorem value_digit : ∀ n < 0x40, value (digit n) = some n := by decide

theorem digit_ne_dot : ∀ n < 0x40, digit n ≠ '.' := by decide

@[simp] theorem value_sextet (n i : ℕ) : value (sextet n i) = some (n / 0x40 ^ (3 - i) % 0x40) :=
  value_digit _ (Nat.mod_lt _ (by decide))

theorem filterMap_sextet (n i : ℕ) (cs : List Char) :
    (sextet n i :: cs).filterMap value = n / 0x40 ^ (3 - i) % 0x40 :: cs.filterMap value :=
  List.filterMap_cons_some (value_sextet n i)

theorem ofNat_toNat_of_mod {n : ℕ} {b : UInt8} (h : n % 0x100 = b.toNat) : UInt8.ofNat n = b := by
  rw [← UInt8.toNat_inj, UInt8.toNat_ofNat', ← h]

/-- The rows of six bits of 24 are the 24. -/
theorem join_sextets {n : ℕ} (h : n < 0x1000000) :
    ((n / 0x40 ^ (3 - 0) % 0x40 * 0x40 + n / 0x40 ^ (3 - 1) % 0x40) * 0x40 +
        n / 0x40 ^ (3 - 2) % 0x40) * 0x40 + n / 0x40 ^ (3 - 3) % 0x40 = n := by
  norm_num
  omega

/-- The three bytes of 24 bits. -/
theorem split_bytes {n : ℕ} {a b c : UInt8}
    (hn : a.toNat * 0x10000 + b.toNat * 0x100 + c.toNat = n) :
    n < 0x1000000 ∧ UInt8.ofNat (n / 0x10000) = a ∧ UInt8.ofNat (n / 0x100) = b ∧
      UInt8.ofNat n = c := by
  have ha : a.toNat < 0x100 := a.toNat_lt
  have hb : b.toNat < 0x100 := b.toNat_lt
  have hc : c.toNat < 0x100 := c.toNat_lt
  refine ⟨by omega, ofNat_toNat_of_mod ?_, ofNat_toNat_of_mod ?_, ofNat_toNat_of_mod ?_⟩ <;> omega

/-- The characters of bytes are decoded to the bytes. -/
theorem decode_encode (bs : List UInt8) : decode (encode bs) = bs := by
  induction bs using encode.induct with
  | case1 a b c rest ih =>
    rw [encode, decode]
    generalize hn : a.toNat * 0x10000 + b.toNat * 0x100 + c.toNat = n
    obtain ⟨hlt, ha, hb, hc⟩ := split_bytes hn
    simp only [filterMap_sextet, bytes, join_sextets hlt, ha, hb, hc]
    exact congrArg (a :: b :: c :: ·) ih
  | case2 a b =>
    -- The last six bits are not written, and are nothing.
    rw [encode, decode]
    generalize hn : a.toNat * 0x10000 + b.toNat * 0x100 = n
    obtain ⟨hlt, ha, hb, -⟩ := split_bytes (a := a) (b := b) (c := 0) (n := n) (by simpa using hn)
    have hlast : n / 0x40 ^ (3 - 3) % 0x40 = 0 := by
      norm_num
      omega
    have hjoin := join_sextets hlt
    rw [hlast, Nat.add_zero] at hjoin
    simp only [filterMap_sextet, List.filterMap_nil, bytes, hjoin, ha, hb]
  | case3 a =>
    rw [encode, decode]
    generalize hn : a.toNat * 0x10000 = n
    obtain ⟨hlt, ha, -, -⟩ := split_bytes (a := a) (b := 0) (c := 0) (n := n) (by simpa using hn)
    have hbits : (n / 0x40 ^ (3 - 0) % 0x40 * 0x40 + n / 0x40 ^ (3 - 1) % 0x40) / 0x10 =
        n / 0x10000 := by
      norm_num
      omega
    simp only [filterMap_sextet, List.filterMap_nil, bytes, hbits, ha]
  | case4 => rfl

/-- The alphabet has no full stop. -/
theorem dot_not_mem_encode (bs : List UInt8) : '.' ∉ encode bs := by
  have hsextet : ∀ n i, '.' ≠ sextet n i := fun n i h =>
    digit_ne_dot _ (Nat.mod_lt _ (by decide)) h.symm
  induction bs using encode.induct with
  | case1 a b c rest ih => simp [encode, hsextet, ih]
  | case2 | case3 | case4 => simp [encode, hsextet]

theorem encode_ne_nil {bs : List UInt8} (h : bs ≠ []) : encode bs ≠ [] := fun hnil => h <| by
  rw [← decode_encode bs, hnil]
  rfl

end Base64

end Foundation
