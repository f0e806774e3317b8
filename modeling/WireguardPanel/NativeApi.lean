import WireguardPanel.Foundation.Stream
import WireguardPanel.Foundation.Utf8
import WireguardPanel.Platform

/-!
# The native API of RouterOS

The words and sentences that the native client sends and receives.

* `encodeSentence`, `decodeSentence`: sentences as bytes.
* `attributeWords`, `parseAttributes`: attributes as words.
* `exchange`: what the listener of a connection makes of the bytes that arrive.
* `decodeSentence_encodeSentence`: what has been encoded is decoded, and nothing
  before its last byte.
* `exchange_eq`: how the bytes of a reply are cut into pieces does not matter.
-/

namespace WireguardPanel

open Foundation

/-! ## Words -/

/-- `encodeLength`. The last format takes 32 bits, and `writeUInt32BE` throws on more. -/
def encodeLength (length : ℕ) : Except AppError (List UInt8) :=
  if length < 0x80 then .ok [.ofNat length]
  else if length < 0x4000 then .ok [.ofNat ((length >>> 8) ||| 0x80), .ofNat (length &&& 0xff)]
  else if length < 0x200000 then
    .ok [.ofNat ((length >>> 16) ||| 0xc0), .ofNat ((length >>> 8) &&& 0xff),
      .ofNat (length &&& 0xff)]
  else if length < 0x10000000 then
    .ok [.ofNat ((length >>> 24) ||| 0xe0), .ofNat ((length >>> 16) &&& 0xff),
      .ofNat ((length >>> 8) &&& 0xff), .ofNat (length &&& 0xff)]
  else if length < 0x100000000 then
    .ok [0xf0, .ofNat (length >>> 24), .ofNat (length >>> 16), .ofNat (length >>> 8),
      .ofNat length]
  else .error (.error "The value of \"value\" is out of range.")

/-- `encodeWord`. -/
def encodeWord (word : String) : Except AppError (List UInt8) := do
  let body := Utf8.encode word
  return (← encodeLength body.length) ++ body

/-- The words of a sentence as bytes. -/
def encodeWords : List String → Except AppError (List UInt8)
  | [] => .ok []
  | word :: words => do return (← encodeWord word) ++ (← encodeWords words)

/-- `encodeSentence`. -/
def encodeSentence (words : List String) : Except AppError (List UInt8) := do
  return (← encodeWords words) ++ [0]

/-- `decodeLength`, on the bytes from the offset on: the length and the number
    of bytes that it takes. -/
def decodeLength : List UInt8 → Except AppError (Option (ℕ × ℕ))
  | [] => .ok none
  | first :: rest =>
    if first &&& 0x80 = 0 then .ok (some (first.toNat, 1))
    else if first &&& 0xc0 = 0x80 then
      match rest with
      | b :: _ => .ok (some (((first &&& 0x3f).toNat <<< 8) + b.toNat, 2))
      | _ => .ok none
    else if first &&& 0xe0 = 0xc0 then
      match rest with
      | b :: c :: _ => .ok (some (((first &&& 0x1f).toNat <<< 16) + (b.toNat <<< 8) + c.toNat, 3))
      | _ => .ok none
    else if first &&& 0xf0 = 0xe0 then
      match rest with
      | b :: c :: d :: _ => .ok (some ((first &&& 0x0f).toNat * 0x1000000 + (b.toNat <<< 16) +
          (c.toNat <<< 8) + d.toNat, 4))
      | _ => .ok none
    else if first = 0xf0 then
      match rest with
      | b :: c :: d :: e :: _ => .ok (some (b.toNat * 0x1000000 + (c.toNat <<< 16) +
          (d.toNat <<< 8) + e.toNat, 5))
      | _ => .ok none
    else .error (.error "Unsupported RouterOS API word length.")

/-- The loop of `decodeSentence`, on the bytes from the offset on. Every word
    takes a byte, so a buffer has no more words than bytes. -/
def decodeWords : ℕ → List UInt8 → ℕ → List String → Except AppError (Option (List String × ℕ))
  | 0, _, _, _ => .ok none
  | fuel + 1, rest, offset, words =>
    match decodeLength rest with
    | .error e => .error e
    | .ok none => .ok none
    | .ok (some (length, bytes)) =>
      if length = 0 then .ok (some (words, offset + bytes))
      else if rest.length < bytes + length then .ok none
      else decodeWords fuel (rest.drop (bytes + length)) (offset + bytes + length)
        (words ++ [Utf8.decode ((rest.drop bytes).take length)])

/-- `decodeSentence`: the words and the number of bytes that they take. -/
def decodeSentence (buffer : List UInt8) : Except AppError (Option (List String × ℕ)) :=
  decodeWords (buffer.length + 1) buffer 0 []

/-! ## Attributes -/

/-- The values of attributes. A number is given by the text that it is written as. -/
inductive AttributeValue
  | text (value : String)
  | number (literal : String)
  | boolean (value : Bool)
  | undefined
  deriving DecidableEq

/-- The text that is sent for a value. -/
def AttributeValue.written : AttributeValue → Option String
  | text value => some value
  | number literal => some literal
  | boolean value => some (if value then "yes" else "no")
  | undefined => none

/-- `attributeWords`. -/
def attributeWords (attributes : List (String × AttributeValue)) : List String :=
  attributes.filterMap fun entry =>
    entry.2.written.map fun value => "=" ++ entry.1 ++ "=" ++ value

/-- The properties of an object, in the order in which they were made. -/
abbrev AttributeRecord := List (String × String)

/-- The assignment of a text to a property of an object. The property
    `__proto__` is inherited, and its setter ignores texts. -/
def AttributeRecord.assign (record : AttributeRecord) (key value : String) : AttributeRecord :=
  if key = "__proto__" then record
  else if ∃ entry ∈ record, entry.1 = key then
    record.map fun entry => if entry.1 = key then (key, value) else entry
  else record ++ [(key, value)]

/-- The step of `parseAttributes`. -/
def parseAttribute (record : AttributeRecord) (word : String) : AttributeRecord :=
  let normalized := if word.toList.head? = some '=' then word.toList.tail else word.toList
  if '=' ∈ normalized then
    record.assign (String.ofList (normalized.takeWhile (· ≠ '=')))
      (String.ofList (normalized.dropWhile (· ≠ '=')).tail)
  else record.assign (String.ofList normalized) ""

/-- `parseAttributes`. -/
def parseAttributes (words : List String) : AttributeRecord := words.foldl parseAttribute []

/-! ## Replies -/

/-- The error of a `!trap` or `!fatal` sentence. -/
def trapError (row : AttributeRecord) : AppError :=
  let message := ((row.lookup "message").filter (· ≠ "")).getD "RouterOS rejected the command."
  let folded := message.map Char.toLower
  .routerConnection
    (if Text.includes folded "invalid user" ∨ Text.includes folded "not logged in"
      then .authFailed else .routerError) message

/-- The reaction of the listener of `exchange` to a sentence: it goes on with
    more records, or resolves or rejects. -/
def onSentence (records : List AttributeRecord) (words : List String) :
    List AttributeRecord ⊕ Except AppError (List AttributeRecord) :=
  let kind := words.head?
  let row := parseAttributes words.tail
  let records := if kind = some "!re" then records ++ [row] else records
  if kind = some "!trap" ∨ kind = some "!fatal" then .inr (.error (trapError row))
  else if kind = some "!done" then .inr (.ok (if row ≠ [] then records ++ [row] else records))
  else .inl records

/-! ## Lengths -/

/-- The first byte of a length in the format of two bytes. -/
theorem lead_two : ∀ q < 0x40, UInt8.ofNat (q ||| 0x80) &&& 0x80 ≠ 0 ∧
    UInt8.ofNat (q ||| 0x80) &&& 0xc0 = 0x80 ∧ (UInt8.ofNat (q ||| 0x80) &&& 0x3f).toNat = q := by
  decide

/-- The first byte of a length in the format of three bytes. -/
theorem lead_three : ∀ q < 0x20, UInt8.ofNat (q ||| 0xc0) &&& 0x80 ≠ 0 ∧
    UInt8.ofNat (q ||| 0xc0) &&& 0xc0 ≠ 0x80 ∧ UInt8.ofNat (q ||| 0xc0) &&& 0xe0 = 0xc0 ∧
    (UInt8.ofNat (q ||| 0xc0) &&& 0x1f).toNat = q := by
  decide

/-- The first byte of a length in the format of four bytes. -/
theorem lead_four : ∀ q < 0x10, UInt8.ofNat (q ||| 0xe0) &&& 0x80 ≠ 0 ∧
    UInt8.ofNat (q ||| 0xe0) &&& 0xc0 ≠ 0x80 ∧ UInt8.ofNat (q ||| 0xe0) &&& 0xe0 ≠ 0xc0 ∧
    UInt8.ofNat (q ||| 0xe0) &&& 0xf0 = 0xe0 ∧ (UInt8.ofNat (q ||| 0xe0) &&& 0x0f).toNat = q := by
  decide

/-- The first byte of a length of one byte. -/
theorem lead_one : ∀ q < 0x80, UInt8.ofNat q &&& 0x80 = 0 ∧ (UInt8.ofNat q).toNat = q := by
  decide

/-- A length is read back, whatever follows it. -/
theorem decodeLength_encodeLength {length : ℕ} {bytes : List UInt8}
    (h : encodeLength length = .ok bytes) (rest : List UInt8) :
    decodeLength (bytes ++ rest) = .ok (some (length, bytes.length)) := by
  have hmask : ∀ n : ℕ, n &&& 0xff = n % 0x100 := fun n => Nat.and_two_pow_sub_one_eq_mod n 8
  have hbyte : ∀ n : ℕ, (UInt8.ofNat n).toNat = n % 0x100 := fun n => UInt8.toNat_ofNat'
  have hright : ∀ n k : ℕ, n >>> k = n / 2 ^ k := Nat.shiftRight_eq_div_pow
  have hleft : ∀ n k : ℕ, n <<< k = n * 2 ^ k := Nat.shiftLeft_eq
  have hread : ∀ {n m : ℕ}, n = length → (Except.ok (some (n, m)) : Except AppError _) =
      .ok (some (length, m)) := fun h => by rw [h]
  unfold encodeLength at h
  split_ifs at h with h₁ h₂ h₃ h₄ h₅ <;> cases h
  · obtain ⟨hlead, hvalue⟩ := lead_one length h₁
    simp only [List.cons_append, decodeLength, if_pos hlead, hvalue]
    rfl
  · obtain ⟨hlead, htag, hvalue⟩ := lead_two (length >>> 8) (by rw [hright]; omega)
    simp only [List.cons_append, decodeLength, if_neg hlead, if_pos htag, hvalue, hbyte, hmask]
    exact hread (by rw [hleft, hright]; omega)
  · obtain ⟨hlead, htwo, htag, hvalue⟩ := lead_three (length >>> 16) (by rw [hright]; omega)
    simp only [List.cons_append, decodeLength, if_neg hlead, if_neg htwo, if_pos htag, hvalue,
      hbyte, hmask]
    exact hread (by simp only [hleft, hright]; omega)
  · obtain ⟨hlead, htwo, hthree, htag, hvalue⟩ :=
      lead_four (length >>> 24) (by rw [hright]; omega)
    simp only [List.cons_append, decodeLength, if_neg hlead, if_neg htwo, if_neg hthree,
      if_pos htag, hvalue, hbyte, hmask]
    exact hread (by simp only [hleft, hright]; omega)
  · have htags : (0xf0 : UInt8) &&& 0x80 ≠ 0 ∧ (0xf0 : UInt8) &&& 0xc0 ≠ 0x80 ∧
        (0xf0 : UInt8) &&& 0xe0 ≠ 0xc0 ∧ (0xf0 : UInt8) &&& 0xf0 ≠ 0xe0 := by decide
    obtain ⟨hlead, htwo, hthree, hfour⟩ := htags
    simp only [List.cons_append, decodeLength, if_neg hlead, if_neg htwo, if_neg hthree,
      if_neg hfour, if_true, hbyte]
    exact hread (by simp only [hleft, hright]; omega)

/-- More bytes do not change a length that is complete. -/
theorem decodeLength_append {bytes : List UInt8} (h : decodeLength bytes ≠ .ok none)
    (rest : List UInt8) : decodeLength (bytes ++ rest) = decodeLength bytes := by
  cases bytes with
  | nil => exact absurd rfl h
  | cons first tail =>
    simp only [List.cons_append, decodeLength] at h ⊢
    split_ifs at h ⊢ <;> rcases tail with _ | ⟨b, _ | ⟨c, _ | ⟨d, _ | ⟨e, tail⟩⟩⟩⟩ <;>
      first | rfl | exact absurd rfl h

/-- A length takes some of the bytes that are there. -/
theorem decodeLength_bounds {bytes : List UInt8} {length n : ℕ}
    (h : decodeLength bytes = .ok (some (length, n))) : 0 < n ∧ n ≤ bytes.length := by
  unfold decodeLength at h
  split at h
  · cases h
  · split_ifs at h
    · cases h
      exact ⟨Nat.one_pos, Nat.le_add_left 1 _⟩
    all_goals
      split at h
      · cases h
        simp only [List.length_cons]
        omega
      · cases h

/-! ## Sentences -/

/-- More bytes do not change a sentence that is complete. -/
theorem decodeWords_append {fuel fuel' : ℕ} {bytes : List UInt8} {offset : ℕ} {words : List String}
    (hfuel : bytes.length < fuel) (hfuel' : bytes.length < fuel')
    (h : decodeWords fuel bytes offset words ≠ .ok none) (rest : List UInt8) :
    decodeWords fuel' (bytes ++ rest) offset words = decodeWords fuel bytes offset words := by
  induction fuel generalizing fuel' bytes offset words with
  | zero => omega
  | succ fuel ih =>
    obtain ⟨fuel', rfl⟩ : ∃ k, fuel' = k + 1 := ⟨fuel' - 1, by omega⟩
    rw [decodeWords] at h
    rw [decodeWords, decodeWords]
    rcases hlength : decodeLength bytes with e | _ | ⟨length, n⟩
    · rw [decodeLength_append (by simp [hlength]), hlength]
    · simp [hlength] at h
    · obtain ⟨hpos, hle⟩ := decodeLength_bounds hlength
      rw [decodeLength_append (by simp [hlength]), hlength]
      simp only [hlength] at h ⊢
      by_cases hzero : length = 0
      · rw [if_pos hzero, if_pos hzero]
      · rw [if_neg hzero] at h
        rw [if_neg hzero, if_neg hzero]
        by_cases hshort : bytes.length < n + length
        · exact absurd (if_pos hshort) h
        · have hdrop : (bytes.drop (n + length)).length = bytes.length - (n + length) :=
            List.length_drop
          have hword : length ≤ (bytes.drop n).length := by
            rw [List.length_drop]
            omega
          rw [if_neg hshort] at h
          rw [if_neg hshort, if_neg (by rw [List.length_append]; omega),
            List.drop_append_of_le_length (by omega), List.drop_append_of_le_length hle,
            List.take_append_of_le_length hword]
          exact ih (by omega) (by omega) h

/-- A sentence takes some of the bytes that are there. -/
theorem decodeWords_bounds {fuel : ℕ} {bytes : List UInt8} {offset : ℕ} {words found : List String}
    {n : ℕ} (h : decodeWords fuel bytes offset words = .ok (some (found, n))) :
    offset < n ∧ n ≤ offset + bytes.length := by
  induction fuel generalizing bytes offset words with
  | zero => cases h
  | succ fuel ih =>
    rw [decodeWords] at h
    rcases hlength : decodeLength bytes with e | _ | ⟨length, k⟩ <;> simp only [hlength] at h
    · cases h
    · cases h
    · obtain ⟨hpos, hle⟩ := decodeLength_bounds hlength
      split_ifs at h with hzero hshort
      · cases h
        omega
      · cases h
      · obtain ⟨hlow, hhigh⟩ := ih h
        rw [List.length_drop] at hhigh
        omega

/-- Sentences as the items of a stream of bytes. -/
def sentenceDecoder : Decoder UInt8 AppError (List String) where
  decode := decodeSentence
  decode_nil := rfl
  consumes h := by simpa using decodeWords_bounds h
  stable h rest := decodeWords_append (Nat.lt_succ_self _)
    (by rw [List.length_append]; omega) h rest

/-! ## Decoding what has been encoded -/

theorem encodeWords_cons {word : String} {words : List String} {bytes : List UInt8}
    (h : encodeWords (word :: words) = .ok bytes) :
    ∃ length rest, encodeLength (Utf8.encode word).length = .ok length ∧
      encodeWords words = .ok rest ∧ bytes = length ++ (Utf8.encode word ++ rest) := by
  obtain ⟨first, hfirst, h⟩ := except_bind_ok.1 h
  obtain ⟨rest, hrest, h⟩ := except_bind_ok.1 h
  obtain ⟨length, hlength, hfirst⟩ := except_bind_ok.1 hfirst
  cases h
  cases hfirst
  exact ⟨length, rest, hlength, hrest, List.append_assoc _ _ _⟩

/-- The words of a sentence are read back one after the other. -/
theorem decodeWords_encodeWords {words : List String} {bytes : List UInt8}
    (hwords : ∀ word ∈ words, word ≠ "") (h : encodeWords words = .ok bytes) (rest : List UInt8)
    {fuel offset : ℕ} {seen : List String} (hfuel : (bytes ++ 0 :: rest).length < fuel) :
    decodeWords fuel (bytes ++ 0 :: rest) offset seen =
      .ok (some (seen ++ words, offset + bytes.length + 1)) := by
  induction words generalizing bytes fuel offset seen with
  | nil =>
    cases h
    obtain ⟨fuel, rfl⟩ : ∃ k, fuel = k + 1 := ⟨fuel - 1, by omega⟩
    simp [decodeWords, decodeLength]
  | cons word words ih =>
    obtain ⟨hword, hwords⟩ := List.forall_mem_cons.1 hwords
    obtain ⟨length, more, hlength, hmore, rfl⟩ := encodeWords_cons h
    obtain ⟨fuel, rfl⟩ : ∃ k, fuel = k + 1 := ⟨fuel - 1, by omega⟩
    have hread := decodeLength_encodeLength hlength (Utf8.encode word ++ (more ++ 0 :: rest))
    obtain ⟨hpos, -⟩ := decodeLength_bounds hread
    have hbody : (Utf8.encode word).length ≠ 0 := fun hnil =>
      Utf8.encode_ne_nil hword (List.length_eq_zero_iff.1 hnil)
    have hrest : (length ++ (Utf8.encode word ++ (more ++ 0 :: rest))).drop
        (length.length + (Utf8.encode word).length) = more ++ 0 :: rest := by
      rw [← List.append_assoc, ← List.length_append, List.drop_left]
    rw [List.append_assoc, List.append_assoc] at hfuel ⊢
    simp only [List.length_append] at hfuel ⊢
    rw [decodeWords, hread]
    simp only [List.length_append]
    rw [if_neg hbody, if_neg (by omega), hrest, List.drop_left, List.take_left, Utf8.decode_encode,
      ih hwords hmore (by rw [List.length_append]; omega), List.append_assoc]
    simp only [List.singleton_append, Except.ok.injEq, Option.some.injEq, Prod.mk.injEq, true_and]
    omega

theorem encodeSentence_ok {words : List String} {bytes : List UInt8}
    (h : encodeSentence words = .ok bytes) :
    ∃ body, encodeWords words = .ok body ∧ bytes = body ++ [0] := by
  obtain ⟨body, hbody, h⟩ := except_bind_ok.1 h
  cases h
  exact ⟨body, hbody, rfl⟩

/-- A sentence is read back, whatever follows it. -/
theorem decodeSentence_encodeSentence {words : List String} {bytes : List UInt8}
    (hwords : ∀ word ∈ words, word ≠ "") (h : encodeSentence words = .ok bytes)
    (rest : List UInt8) :
    decodeSentence (bytes ++ rest) = .ok (some (words, bytes.length)) := by
  obtain ⟨body, hbody, rfl⟩ := encodeSentence_ok h
  rw [List.append_assoc, List.singleton_append, decodeSentence,
    decodeWords_encodeWords hwords hbody rest (Nat.lt_succ_self _), List.nil_append, zero_add,
    List.length_append, List.length_singleton]

/-- Nothing is read before the last byte of a sentence: what would be read
    before it would be read again from all of its bytes, with less of them. -/
theorem decodeSentence_prefix {words : List String} {bytes front : List UInt8}
    (hwords : ∀ word ∈ words, word ≠ "") (h : encodeSentence words = .ok bytes)
    (hfront : front <+: bytes) (hne : front ≠ bytes) : decodeSentence front = .ok none := by
  obtain ⟨back, rfl⟩ := hfront
  by_contra hsome
  have hread := decodeSentence_encodeSentence hwords h []
  have hstable : decodeSentence (front ++ back) = decodeSentence front :=
    sentenceDecoder.stable hsome back
  rw [List.append_nil, hstable] at hread
  obtain ⟨-, hle⟩ := sentenceDecoder.consumes hread
  rw [List.length_append] at hle
  have hback : back = [] := List.length_eq_zero_iff.1 (by omega)
  exact hne (by rw [hback, List.append_nil])

/-- Words of less than four gigabytes have an encoding. -/
theorem exists_encodeSentence {words : List String}
    (h : ∀ word ∈ words, (Utf8.encode word).length < 2 ^ 32) :
    ∃ bytes, encodeSentence words = .ok bytes := by
  have hlength : ∀ n < 2 ^ 32, ∃ bytes, encodeLength n = .ok bytes := fun n hn => by
    unfold encodeLength
    split_ifs with h₁ h₂ h₃ h₄ h₅
    all_goals first | exact ⟨_, rfl⟩ | exact absurd hn h₅
  have hbody : ∃ body, encodeWords words = .ok body := by
    induction words with
    | nil => exact ⟨[], rfl⟩
    | cons word words ih =>
      obtain ⟨hword, hwords⟩ := List.forall_mem_cons.1 h
      obtain ⟨body, hbody⟩ := ih hwords
      obtain ⟨length, hlength⟩ := hlength _ hword
      refine ⟨length ++ Utf8.encode word ++ body, ?_⟩
      rw [encodeWords, encodeWord, hlength, hbody]
      rfl
  obtain ⟨body, hbody⟩ := hbody
  refine ⟨body ++ [0], ?_⟩
  rw [encodeSentence, hbody]
  rfl

/-! ## Reading attributes back -/

/-- The attributes that are sent. -/
def writtenAttributes (attributes : List (String × AttributeValue)) : AttributeRecord :=
  attributes.filterMap fun entry => entry.2.written.map fun value => (entry.1, value)

/-- The word of an attribute assigns its value to its key. -/
theorem parseAttribute_word {key : String} (hkey : '=' ∉ key.toList) (value : String)
    (record : AttributeRecord) :
    parseAttribute record ("=" ++ key ++ "=" ++ value) = record.assign key value := by
  have hword :
      ("=" ++ key ++ "=" ++ value).toList = '=' :: (key.toList ++ '=' :: value.toList) := by
    simp [String.toList_append]
  have hspan : ∀ c ∈ key.toList, decide (c ≠ '=') = true := fun c hc =>
    decide_eq_true fun h => hkey (h ▸ hc)
  rw [parseAttribute, hword]
  simp only [List.head?_cons, List.tail_cons, if_true, List.mem_append, List.mem_cons, true_or,
    or_true]
  rw [List.takeWhile_append_of_pos hspan, List.dropWhile_append_of_pos hspan]
  simp

theorem AttributeRecord.assign_new {record : AttributeRecord} {key value : String}
    (h : ∀ entry ∈ record, entry.1 ≠ key) :
    record.assign key value = record ++ [(key, value)].filter fun entry =>
    entry.1 ≠ "__proto__" := by
  unfold AttributeRecord.assign
  split_ifs with hproto hold
  · simp [hproto]
  · obtain ⟨entry, hentry, hsame⟩ := hold
    exact absurd hsame (h entry hentry)
  · simp [hproto]

/-- All attributes are read back but one that is called `__proto__`. -/
theorem foldl_parseAttribute {attributes : List (String × AttributeValue)}
    {record : AttributeRecord} (hkeys : (attributes.map Prod.fst).Nodup)
    (hkey : ∀ entry ∈ attributes, '=' ∉ entry.1.toList)
    (hrecord : ∀ entry ∈ record, entry.1 ∉ attributes.map Prod.fst) :
    (attributeWords attributes).foldl parseAttribute record =
      record ++ (writtenAttributes attributes).filter fun entry => entry.1 ≠ "__proto__" := by
  induction attributes generalizing record with
  | nil => simp [attributeWords, writtenAttributes]
  | cons first attributes ih =>
    obtain ⟨key, value⟩ := first
    obtain ⟨hkey, hrest⟩ := List.forall_mem_cons.1 hkey
    rw [List.map_cons, List.nodup_cons] at hkeys
    have hold : ∀ entry ∈ record, entry.1 ≠ key ∧ entry.1 ∉ attributes.map Prod.fst :=
      fun entry hentry => by simpa using hrecord entry hentry
    cases hwritten : value.written with
    | none =>
      have hskip := ih hkeys.2 hrest fun entry hentry => (hold entry hentry).2
      simpa [attributeWords, writtenAttributes, hwritten] using hskip
    | some text =>
      have hnew : record.assign key text = record ++ [(key, text)].filter fun entry =>
          entry.1 ≠ "__proto__" :=
        AttributeRecord.assign_new fun entry hentry => (hold entry hentry).1
      have hapart : ∀ entry ∈ record.assign key text, entry.1 ∉ attributes.map Prod.fst := by
        intro entry hentry
        rw [hnew, List.mem_append, List.mem_filter, List.mem_singleton] at hentry
        rcases hentry with hentry | ⟨rfl, -⟩
        · exact (hold entry hentry).2
        · exact hkeys.1
      have hnext := ih hkeys.2 hrest hapart
      have hwords : attributeWords ((key, value) :: attributes) =
          ("=" ++ key ++ "=" ++ text) :: attributeWords attributes := by
        simp [attributeWords, hwritten]
      have hattributes : writtenAttributes ((key, value) :: attributes) =
          [(key, text)] ++ writtenAttributes attributes := by
        simp [writtenAttributes, hwritten]
      rw [hwords, List.foldl_cons, parseAttribute_word hkey, hnext, hnew, hattributes,
        List.filter_append, List.append_assoc]

/-- Sentences are read back, and attributes just when none that is sent is
    called `__proto__`. -/
theorem wire_roundTrip_iff {words : List String}
    (hwords : ∀ word ∈ words, word ≠ "" ∧ (Utf8.encode word).length < 2 ^ 32)
    {attributes : List (String × AttributeValue)} (hkeys : (attributes.map Prod.fst).Nodup)
    (hkey : ∀ entry ∈ attributes, '=' ∉ entry.1.toList) :
    (∃ bytes, encodeSentence words = .ok bytes ∧
      (∀ rest, decodeSentence (bytes ++ rest) = .ok (some (words, bytes.length))) ∧
      ∀ front, front <+: bytes → front ≠ bytes → decodeSentence front = .ok none) ∧
    (parseAttributes (attributeWords attributes) = writtenAttributes attributes ↔
      ∀ entry ∈ attributes, entry.2 ≠ .undefined → entry.1 ≠ "__proto__") := by
  have hnonempty : ∀ word ∈ words, word ≠ "" := fun word hword => (hwords word hword).1
  obtain ⟨bytes, hbytes⟩ := exists_encodeSentence fun word hword => (hwords word hword).2
  refine ⟨⟨bytes, hbytes, decodeSentence_encodeSentence hnonempty hbytes,
    fun front => decodeSentence_prefix hnonempty hbytes⟩, ?_⟩
  have hsent : ∀ value : AttributeValue, value ≠ .undefined ↔ ∃ text, value.written = some text :=
    fun value => by cases value <;> simp [AttributeValue.written]
  rw [parseAttributes, foldl_parseAttribute hkeys hkey fun _ h => absurd h List.not_mem_nil,
    List.nil_append, List.filter_eq_self]
  simp only [writtenAttributes, List.mem_filterMap, Option.map_eq_some_iff, decide_eq_true_eq]
  constructor
  · intro h entry hentry hvalue
    obtain ⟨text, htext⟩ := (hsent _).1 hvalue
    exact h (entry.1, text) ⟨entry, hentry, text, htext, rfl⟩
  · rintro h _ ⟨entry, hentry, text, htext, rfl⟩
    exact h entry hentry ((hsent _).2 ⟨text, htext⟩)

/-- A command with two attributes, of which one is not set. -/
theorem wire_roundTrip_command :
    (∃ bytes, encodeSentence ["/interface/wireguard/peers/remove", "=.id=*1"] = .ok bytes ∧
      (∀ rest, decodeSentence (bytes ++ rest) =
        .ok (some (["/interface/wireguard/peers/remove", "=.id=*1"], bytes.length))) ∧
      ∀ front, front <+: bytes → front ≠ bytes → decodeSentence front = .ok none) ∧
    (parseAttributes (attributeWords [(".id", .text "*1"), ("comment", .undefined)]) =
        writtenAttributes [(".id", .text "*1"), ("comment", .undefined)] ↔
      ∀ entry ∈ [(".id", AttributeValue.text "*1"), ("comment", .undefined)],
        entry.2 ≠ .undefined → entry.1 ≠ "__proto__") :=
  wire_roundTrip_iff (by decide +kernel) (by decide +kernel) (by decide +kernel)

/-- An attribute that is called `__proto__` is lost. -/
theorem parseAttributes_proto :
    parseAttributes (attributeWords [("__proto__", .text "x")]) ≠
      writtenAttributes [("__proto__", .text "x")] := by
  decide +kernel

/-! ## Replies in pieces -/

/-- What the listener of `exchange` has come to after the pieces of a reply:
    it waits, or has resolved or rejected. `failed` is an exception in it. -/
def exchange (pieces : List (List UInt8)) :
    Receiver UInt8 AppError (List AttributeRecord) (Except AppError (List AttributeRecord)) :=
  pieces.foldl (sentenceDecoder.receive onSentence) (.waiting [] [])

/-- A sentence that ends a reply. -/
def IsLast (words : List String) : Prop :=
  words.head? = some "!done" ∨ words.head? = some "!trap" ∨ words.head? = some "!fatal"

instance (words : List String) : Decidable (IsLast words) :=
  inferInstanceAs (Decidable (_ ∨ _ ∨ _))

/-- The records of the sentences `!re`. -/
def replyRecords (sentences : List (List String)) : List AttributeRecord :=
  (sentences.filter fun words => words.head? = some "!re").map fun words =>
    parseAttributes words.tail

/-- How a reply ends with its last sentence. -/
def replyResult (records : List AttributeRecord) (last : List String) :
    Except AppError (List AttributeRecord) :=
  let row := parseAttributes last.tail
  if last.head? = some "!done" then .ok (if row ≠ [] then records ++ [row] else records)
  else .error (trapError row)

/-- What a reply is meant to come to, of which some bytes of a further sentence
    have arrived. -/
def replyOutcome (sentences : List (List String)) (rest : List UInt8) :
    Receiver UInt8 AppError (List AttributeRecord) (Except AppError (List AttributeRecord)) :=
  let before := sentences.takeWhile fun words => ¬IsLast words
  match (sentences.dropWhile fun words => ¬IsLast words).head? with
  | none => .waiting (replyRecords before) rest
  | some last => .stopped (replyResult (replyRecords before) last)

/-- A sentence whose words have an encoding that can be read back. -/
def WellFormed (words : List String) : Prop :=
  ∀ word ∈ words, word ≠ "" ∧ (Utf8.encode word).length < 2 ^ 32

instance (words : List String) : Decidable (WellFormed words) :=
  inferInstanceAs (Decidable (∀ word ∈ words, _))

/-- The bytes of a sentence. -/
def sentenceBytes (words : List String) : List UInt8 := (encodeSentence words).toOption.getD []

theorem WellFormed.encodeSentence {words : List String} (h : WellFormed words) :
    encodeSentence words = .ok (sentenceBytes words) := by
  obtain ⟨bytes, hbytes⟩ := exists_encodeSentence fun word hword => (h word hword).2
  rw [sentenceBytes, hbytes]
  rfl

/-- The listener goes on with the records of the sentences that it has read,
    until the last sentence of the reply. -/
theorem consume_onSentence (records : List AttributeRecord) (sentences : List (List String)) :
    consume onSentence records sentences =
      match (sentences.dropWhile fun words => ¬IsLast words).head? with
      | none => .inl (records ++ replyRecords (sentences.takeWhile fun words => ¬IsLast words))
      | some last => .inr (replyResult
          (records ++ replyRecords (sentences.takeWhile fun words => ¬IsLast words)) last) := by
  induction sentences generalizing records with
  | nil => simp [consume, replyRecords]
  | cons words sentences ih =>
    by_cases hlast : IsLast words
    · have hkind : words.head? ≠ some "!re" := by
        rcases hlast with h | h | h <;> simp [h]
      rw [consume, List.dropWhile_cons_of_neg (by simpa using hlast),
        List.takeWhile_cons_of_neg (by simpa using hlast)]
      have hreact : onSentence records words = .inr (replyResult records words) := by
        unfold onSentence replyResult
        rcases hlast with h | h | h <;> simp [h]
      simp [hreact, replyRecords]
    · obtain ⟨hdone, htrap, hfatal⟩ : words.head? ≠ some "!done" ∧ words.head? ≠ some "!trap" ∧
          words.head? ≠ some "!fatal" := by simpa [IsLast, not_or] using hlast
      have hreact : onSentence records words = .inl (records ++ replyRecords [words]) := by
        by_cases hre : words.head? = some "!re" <;>
          simp [onSentence, replyRecords, hre, hdone, htrap, hfatal]
      have hsplit : ∀ rest, replyRecords (words :: rest) =
          replyRecords [words] ++ replyRecords rest := fun rest => by
        by_cases hre : words.head? = some "!re" <;> simp [replyRecords, hre]
      rw [consume, hreact, List.dropWhile_cons_of_pos (by simpa using hlast),
        List.takeWhile_cons_of_pos (by simpa using hlast),
        hsplit (sentences.takeWhile fun words => ¬IsLast words), ← List.append_assoc]
      exact ih _

/-- However the bytes of a reply are cut into pieces, and wherever they end in a
    further sentence, `exchange` comes to what the reply is meant to come to, as
    it does when all bytes arrive in one piece. -/
theorem exchange_eq {sentences : List (List String)} (hsentences : ∀ words ∈ sentences,
    WellFormed words) {next : List String} (hnext : WellFormed next) {front : List UInt8}
    (hfront : front <+: sentenceBytes next) (hne : front ≠ sentenceBytes next)
    {pieces : List (List UInt8)}
    (hpieces : pieces.flatten = sentences.flatMap sentenceBytes ++ front) :
    exchange pieces = exchange [pieces.flatten] ∧
      exchange pieces = replyOutcome sentences front := by
  have hall : ∀ pieces, exchange pieces = sentenceDecoder.receive onSentence (.waiting [] [])
      pieces.flatten := fun pieces => Decoder.foldl_receive [] pieces
  refine ⟨by rw [hall, hall, List.flatten_singleton], ?_⟩
  have hencode : ∀ words ∈ sentences, ∀ rest, sentenceDecoder.decode (sentenceBytes words ++ rest) =
      .ok (some (words, (sentenceBytes words).length)) := fun words hwords rest =>
    have hwf := hsentences words hwords
    decodeSentence_encodeSentence (fun word hword => (hwf word hword).1) hwf.encodeSentence rest
  have htail : sentenceDecoder.decode front = .ok none :=
    decodeSentence_prefix (fun word hword => (hnext word hword).1) hnext.encodeSentence hfront hne
  rw [hall, hpieces, Decoder.receive, List.nil_append,
    Decoder.drain_flatMap hencode htail (Nat.lt_succ_self _), consume_onSentence, replyOutcome]
  cases (sentences.dropWhile fun words => ¬IsLast words).head? <;> rfl

/-- A reply of two sentences in two pieces, the first of which ends inside a word. -/
theorem exchange_eq_twoPieces :
    exchange [sentenceBytes ["!re", "=name=wg1"] ++ [5, 33], [100, 111, 110, 101, 0]] =
        exchange [[sentenceBytes ["!re", "=name=wg1"] ++ [5, 33],
          [100, 111, 110, 101, 0]].flatten] ∧
      exchange [sentenceBytes ["!re", "=name=wg1"] ++ [5, 33], [100, 111, 110, 101, 0]] =
        replyOutcome [["!re", "=name=wg1"], ["!done"]] [] :=
  have hnext : WellFormed [] := by decide +kernel
  exchange_eq (by decide +kernel) hnext (by decide +kernel) (by decide +kernel)
    (by decide +kernel)

end WireguardPanel
