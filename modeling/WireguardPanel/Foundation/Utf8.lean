import Mathlib.Data.List.Basic
import Mathlib.Data.Nat.Notation
import Mathlib.Tactic.SplitIfs

/-!
# UTF-8

Texts as bytes. Bytes that encode no text are decoded as well: the decoder puts
a replacement character for every longest row of bytes that begins a character
and does not finish it, and for every byte that begins none.

* `Utf8.encode`, `Utf8.decode`: the encoding of a text and the text of bytes.
* `Utf8.decode_encode`: what has been encoded is decoded again.
-/

namespace Foundation

namespace Utf8

/-- The bytes of a text. -/
def encode (s : String) : List UInt8 := s.toList.flatMap String.utf8EncodeChar

/-- The replacement character. -/
def replacement : Char := '\uFFFD'

/-- Where a decoder is in a character: the number of bytes that are missing, the
    bounds of the next one, and the bits that have been read. -/
structure State where
  missing : ℕ
  low : ℕ
  high : ℕ
  bits : ℕ
  deriving DecidableEq

/-- Between two characters. -/
def clear : State := ⟨0, 0x80, 0xBF, 0⟩

/-- The first byte of a character. -/
def start (b : ℕ) : List Char × State :=
  if b < 0x80 then ([Char.ofNat b], clear)
  else if 0xC2 ≤ b ∧ b ≤ 0xDF then ([], ⟨1, 0x80, 0xBF, b % 0x20⟩)
  else if 0xE0 ≤ b ∧ b ≤ 0xEF then
    ([], ⟨2, if b = 0xE0 then 0xA0 else 0x80, if b = 0xED then 0x9F else 0xBF, b % 0x10⟩)
  else if 0xF0 ≤ b ∧ b ≤ 0xF4 then
    ([], ⟨3, if b = 0xF0 then 0x90 else 0x80, if b = 0xF4 then 0x8F else 0xBF, b % 0x08⟩)
  else ([replacement], clear)

/-- A byte in any state. A byte that cannot go on with a character begins another. -/
def step (s : State) (b : ℕ) : List Char × State :=
  if s.missing = 0 then start b
  else if b < s.low ∨ s.high < b then (replacement :: (start b).1, (start b).2)
  else if s.missing = 1 then ([Char.ofNat (s.bits * 0x40 + b % 0x40)], clear)
  else ([], ⟨s.missing - 1, 0x80, 0xBF, s.bits * 0x40 + b % 0x40⟩)

/-- The characters of the bytes that follow. -/
def run : State → List UInt8 → List Char
  | s, [] => if s.missing = 0 then [] else [replacement]
  | s, b :: bs => (step s b.toNat).1 ++ run (step s b.toNat).2 bs

/-- The text of bytes. -/
def decode (bytes : List UInt8) : String := String.ofList (run clear bytes)

/-! ## Decoding what has been encoded -/

theorem toNat_valid (c : Char) : c.toNat < 0xD800 ∨ 0xDFFF < c.toNat ∧ c.toNat < 0x110000 :=
  c.valid

theorem run_cons (s : State) (n : ℕ) (hn : n < 256) (rest : List UInt8) :
    run s (UInt8.ofNat n :: rest) = (step s n).1 ++ run (step s n).2 rest := by
  rw [run, UInt8.toNat_ofNat', Nat.mod_eq_of_lt hn]

theorem step_clear (b : ℕ) : step clear b = start b := if_pos rfl

/-- A byte inside a character that is not the last one. -/
theorem step_inside {s : State} {b : ℕ} (hmissing : 1 < s.missing) (hlow : s.low ≤ b)
    (hhigh : b ≤ s.high) :
    step s b = ([], ⟨s.missing - 1, 0x80, 0xBF, s.bits * 0x40 + b % 0x40⟩) := by
  rw [step, if_neg (by omega), if_neg (by omega), if_neg (by omega)]

/-- The last byte of a character of several bytes. -/
theorem step_last {s : State} {b : ℕ} (hmissing : s.missing = 1) (hlow : s.low ≤ b)
    (hhigh : b ≤ s.high) : step s b = ([Char.ofNat (s.bits * 0x40 + b % 0x40)], clear) := by
  rw [step, if_neg (by omega), if_neg (by omega), if_pos hmissing]

/-- The bytes of a character are decoded to the character. -/
theorem run_utf8EncodeChar (c : Char) (rest : List UInt8) :
    run clear (String.utf8EncodeChar c ++ rest) = c :: run clear rest := by
  have hvalid := toNat_valid c
  have hchar : ∀ n, n = c.toNat → Char.ofNat n = c := fun n hn => by rw [hn, Char.ofNat_toNat]
  have hc : c.val.toNat = c.toNat := rfl
  rw [String.utf8EncodeChar, hc]
  generalize c.toNat = v at *
  split_ifs with h₁ h₂ h₃
  · -- one byte
    rw [List.cons_append, run_cons _ _ (by omega), step_clear, start, if_pos (by omega),
      hchar v rfl]
    rfl
  · -- two bytes
    rw [List.cons_append, List.cons_append, run_cons _ _ (by omega), step_clear, start,
      if_neg (by omega), if_pos (by omega), run_cons _ _ (by omega),
      step_last rfl (by dsimp only; omega) (by dsimp only; omega), hchar _ (by dsimp only; omega)]
    rfl
  · -- three bytes, of which the second is bounded more closely after 0xE0 and 0xED
    rw [List.cons_append, List.cons_append, List.cons_append, run_cons _ _ (by omega), step_clear,
      start, if_neg (by omega), if_neg (by omega), if_pos (by omega),
      run_cons _ _ (by omega), step_inside (by dsimp only; omega)
        (by dsimp only; split_ifs <;> omega) (by dsimp only; split_ifs <;> omega),
      run_cons _ _ (by omega), step_last rfl (by dsimp only; omega) (by dsimp only; omega),
      hchar _ (by dsimp only; omega)]
    rfl
  · -- four bytes, of which the second is bounded more closely after 0xF0 and 0xF4
    rw [List.cons_append, List.cons_append, List.cons_append, List.cons_append,
      run_cons _ _ (by omega), step_clear, start, if_neg (by omega), if_neg (by omega),
      if_neg (by omega), if_pos (by omega), run_cons _ _ (by omega),
      step_inside (by dsimp only; omega) (by dsimp only; split_ifs <;> omega)
        (by dsimp only; split_ifs <;> omega),
      run_cons _ _ (by omega), step_inside (by dsimp only; omega) (by dsimp only; omega)
        (by dsimp only; omega),
      run_cons _ _ (by omega), step_last rfl (by dsimp only; omega) (by dsimp only; omega),
      hchar _ (by dsimp only; omega)]
    rfl

theorem decode_encode (s : String) : decode (encode s) = s := by
  have hrun : ∀ cs : List Char, run clear (cs.flatMap String.utf8EncodeChar) = cs := fun cs => by
    induction cs with
    | nil => rfl
    | cons c cs ih => rw [List.flatMap_cons, run_utf8EncodeChar, ih]
  rw [decode, encode, hrun, String.ofList_toList]

theorem encode_ne_nil {s : String} (h : s ≠ "") : encode s ≠ [] := fun hs => h <| by
  rw [← decode_encode s, hs]
  rfl

end Utf8

end Foundation
