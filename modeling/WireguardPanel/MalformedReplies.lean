import Mathlib.Data.List.TakeWhile
import WireguardPanel.NativeApi

/-!
# Malformed replies

What the listener of `exchange` makes of bytes that are not a reply. A byte that
begins no length is an exception in the listener, which nothing catches.

* `WordBytes`, `SentenceBytes`: the bytes of words and of sentences, in any of
  the formats of a length.
* `Malformed`: such a byte stands where a word of the reply is to begin.
* `exchange_handled_iff`: the listener throws just when the bytes are malformed.
-/

namespace WireguardPanel

open Foundation

/-! ## The bytes of a reply -/

/-- The bytes are words, each of them behind its length. -/
inductive WordBytes : List UInt8 → List String → Prop
  | nil : WordBytes [] []
  | cons {length body rest : List UInt8} {words : List String}
      (hlength : decodeLength length = .ok (some (body.length, length.length))) (hbody : body ≠ [])
      (hrest : WordBytes rest words) :
      WordBytes (length ++ body ++ rest) (Utf8.decode body :: words)

/-- The bytes are a sentence: its words, and a length of zero. -/
def SentenceBytes (bytes : List UInt8) (words : List String) : Prop :=
  ∃ body zero, bytes = body ++ zero ∧ WordBytes body words ∧
    decodeLength zero = .ok (some (0, zero.length))

/-- The bytes are sentences, none of which ends a reply. -/
inductive OpenBytes : List UInt8 → Prop
  | nil : OpenBytes []
  | cons {bytes rest : List UInt8} {words : List String} (hsentence : SentenceBytes bytes words)
      (hopen : ¬IsLast words) (hrest : OpenBytes rest) : OpenBytes (bytes ++ rest)

/-- Before a reply ends, a byte that begins no length stands where a word is to
    begin. -/
def Malformed (bytes : List UInt8) : Prop :=
  ∃ sentences front words byte rest, bytes = sentences ++ (front ++ byte :: rest) ∧
    OpenBytes sentences ∧ WordBytes front words ∧ 0xf0 < byte

/-! ## Lengths -/

/-- The bytes that have the tag of no format are those above `0xf0`. -/
theorem lead_none : ∀ q < 0x100, (UInt8.ofNat q &&& 0x80 ≠ 0 ∧ UInt8.ofNat q &&& 0xc0 ≠ 0x80 ∧
    UInt8.ofNat q &&& 0xe0 ≠ 0xc0 ∧ UInt8.ofNat q &&& 0xf0 ≠ 0xe0 ∧ UInt8.ofNat q ≠ 0xf0) ↔
    0xf0 < UInt8.ofNat q := by
  decide +kernel

/-- The bytes that begin no length. -/
theorem decodeLength_eq_error_iff {bytes : List UInt8} :
    (∃ e, decodeLength bytes = .error e) ↔ ∃ byte rest, bytes = byte :: rest ∧ 0xf0 < byte := by
  cases bytes with
  | nil =>
    refine iff_of_false ?_ ?_
    · rintro ⟨e, he⟩
      cases he
    · rintro ⟨byte, rest, h, -⟩
      cases h
  | cons first tail =>
    have hcons : (∃ byte rest, first :: tail = byte :: rest ∧ 0xf0 < byte) ↔ 0xf0 < first := by
      constructor
      · rintro ⟨byte, rest, heq, hlt⟩
        cases heq
        exact hlt
      · exact fun hlt => ⟨first, tail, rfl, hlt⟩
    have hlead := lead_none first.toNat first.toNat_lt
    rw [UInt8.ofNat_toNat] at hlead
    rw [hcons, ← hlead]
    simp only [decodeLength]
    split_ifs with h₁ h₂ h₃ h₄ h₅
    · simp [h₁]
    · cases tail <;> simp [h₂]
    · rcases tail with _ | ⟨b, _ | ⟨c, tail⟩⟩ <;> simp [h₃]
    · rcases tail with _ | ⟨b, _ | ⟨c, _ | ⟨d, tail⟩⟩⟩ <;> simp [h₄]
    · rcases tail with _ | ⟨b, _ | ⟨c, _ | ⟨d, _ | ⟨e, tail⟩⟩⟩⟩ <;> simp [h₅]
    · simp [h₁, h₂, h₃, h₄, h₅]

/-- A length is read from its own bytes. -/
theorem decodeLength_take {bytes : List UInt8} {length n : ℕ}
    (h : decodeLength bytes = .ok (some (length, n))) :
    decodeLength (bytes.take n) = .ok (some (length, n)) := by
  unfold decodeLength at h
  split at h
  · cases h
  · split_ifs at h with h₁ h₂ h₃ h₄ h₅
    · cases h
      simp [decodeLength, h₁]
    all_goals
      split at h
      · cases h
        simp_all [decodeLength]
      · cases h

/-! ## Sentences -/

theorem WordBytes.length_le {bytes : List UInt8} {words : List String} (h : WordBytes bytes words) :
    words.length ≤ bytes.length := by
  induction h with
  | nil => exact le_refl _
  | @cons length body rest words hlength hbody hrest ih =>
    obtain ⟨hpos, -⟩ := decodeLength_bounds hlength
    simp only [List.length_cons, List.length_append]
    omega

/-- Words are read one after the other, whatever follows them. -/
theorem decodeWords_wordBytes {front : List UInt8} {words : List String}
    (h : WordBytes front words) (rest : List UInt8) {fuel offset : ℕ} {seen : List String} :
    decodeWords (words.length + fuel) (front ++ rest) offset seen =
      decodeWords fuel rest (offset + front.length) (seen ++ words) := by
  induction h generalizing offset seen with
  | nil => simp
  | @cons length body tail words hlength hbody hrest ih =>
    have hread : decodeLength (length ++ (body ++ (tail ++ rest))) =
        .ok (some (body.length, length.length)) := by
      rw [decodeLength_append (by simp [hlength]), hlength]
    have hnonzero : body.length ≠ 0 := fun hzero => hbody (List.length_eq_zero_iff.1 hzero)
    have hdrop : (length ++ (body ++ (tail ++ rest))).drop (length.length + body.length) =
        tail ++ rest := by
      rw [← List.append_assoc, ← List.length_append, List.drop_left]
    rw [List.length_cons, Nat.add_right_comm, decodeWords, List.append_assoc, List.append_assoc,
      hread]
    simp only [List.length_append]
    rw [if_neg hnonzero, if_neg (by omega), hdrop, List.drop_left, List.take_left, ih]
    simp only [List.append_assoc, List.singleton_append, Nat.add_assoc]

/-- What the decoder finds: words up to a length of zero, or up to a byte that
    begins no length. -/
inductive Decoded (bytes : List UInt8) (offset : ℕ) (seen : List String) :
    Except AppError (Option (List String × ℕ)) → Prop
  | incomplete : Decoded bytes offset seen (.ok none)
  | sentence {body zero rest : List UInt8} {words : List String}
      (hbytes : bytes = body ++ zero ++ rest) (hbody : WordBytes body words)
      (hzero : decodeLength zero = .ok (some (0, zero.length))) :
      Decoded bytes offset seen (.ok (some (seen ++ words, offset + (body ++ zero).length)))
  | malformed {front rest : List UInt8} {words : List String} {byte : UInt8} {e : AppError}
      (hbytes : bytes = front ++ byte :: rest) (hfront : WordBytes front words)
      (hbyte : 0xf0 < byte) : Decoded bytes offset seen (.error e)

theorem decoded_decodeWords {fuel : ℕ} {bytes : List UInt8} {offset : ℕ} {seen : List String} :
    Decoded bytes offset seen (decodeWords fuel bytes offset seen) := by
  induction fuel generalizing bytes offset seen with
  | zero => exact .incomplete
  | succ fuel ih =>
    rw [decodeWords]
    rcases hlength : decodeLength bytes with e | _ | ⟨length, n⟩
    · obtain ⟨byte, rest, rfl, hbyte⟩ := decodeLength_eq_error_iff.1 ⟨e, hlength⟩
      exact .malformed (List.nil_append _).symm .nil hbyte
    · exact .incomplete
    · obtain ⟨hpos, hle⟩ := decodeLength_bounds hlength
      have htake : (bytes.take n).length = n := List.length_take_of_le hle
      have hread := decodeLength_take hlength
      by_cases hzero : length = 0
      · simp only [if_pos hzero]
        have hfound : Decoded bytes offset seen
            (.ok (some (seen ++ [], offset + ([] ++ bytes.take n).length))) :=
          .sentence (by rw [List.nil_append, List.take_append_drop]) .nil
            (by rw [htake, hread, hzero])
        rwa [List.append_nil, List.nil_append, htake] at hfound
      · simp only [if_neg hzero]
        by_cases hshort : bytes.length < n + length
        · rw [if_pos hshort]
          exact .incomplete
        · rw [if_neg hshort]
          -- The first word, and what is left behind it.
          have hbody : ((bytes.drop n).take length).length = length := by
            rw [List.length_take_of_le]
            rw [List.length_drop]
            omega
          have hsplit : bytes = bytes.take n ++ (bytes.drop n).take length ++
              bytes.drop (n + length) := by
            rw [List.append_assoc, ← List.drop_drop, List.take_append_drop, List.take_append_drop]
          have hword : ∀ {front words}, WordBytes front words →
              WordBytes (bytes.take n ++ (bytes.drop n).take length ++ front)
                (Utf8.decode ((bytes.drop n).take length) :: words) := fun hfront =>
            .cons (by rw [hbody, htake, hread]) (fun hnil => hzero (by rw [← hbody, hnil]; rfl))
              hfront
          generalize hrest : bytes.drop (n + length) = rest at ih hsplit ⊢
          generalize hfirst : bytes.take n ++ (bytes.drop n).take length = first at hsplit hword
          have hcount : first.length = n + length := by
            rw [← hfirst, List.length_append, htake, hbody]
          generalize Utf8.decode ((bytes.drop n).take length) = word at ih hword ⊢
          have hnext : Decoded rest (offset + n + length) (seen ++ [word])
              (decodeWords fuel rest (offset + n + length) (seen ++ [word])) := ih
          generalize decodeWords fuel rest (offset + n + length) (seen ++ [word]) = found at hnext ⊢
          cases hnext with
          | incomplete => exact .incomplete
          | @sentence body zero tail words hbytes hbody' hzero' =>
            have hall : bytes = first ++ body ++ zero ++ tail := by
              rw [hsplit, hbytes]
              simp only [List.append_assoc]
            have hfound : Decoded bytes offset seen
                (.ok (some (seen ++ word :: words, offset + (first ++ body ++ zero).length))) :=
              .sentence hall (hword hbody') hzero'
            rw [List.append_assoc, List.length_append, hcount] at hfound
            simpa only [List.append_assoc, List.singleton_append, Nat.add_assoc] using hfound
          | @malformed front tail words byte e hbytes hfront hbyte =>
            exact .malformed (by rw [hsplit, hbytes, List.append_assoc]) (hword hfront) hbyte

theorem sentenceBytes_of_decodeSentence {buffer : List UInt8} {words : List String} {n : ℕ}
    (h : decodeSentence buffer = .ok (some (words, n))) : SentenceBytes (buffer.take n) words := by
  have hdecoded : Decoded buffer 0 [] (decodeSentence buffer) := decoded_decodeWords
  rw [h] at hdecoded
  generalize hresult : (Except.ok (some (words, n)) : Except AppError _) = result at hdecoded
  cases hdecoded with
  | incomplete => cases hresult
  | malformed => cases hresult
  | @sentence body zero rest found hbytes hbody hzero =>
    obtain ⟨hfound, hn⟩ : words = found ∧ n = (body ++ zero).length := by simpa using hresult
    refine ⟨body, zero, ?_, hfound ▸ hbody, hzero⟩
    rw [hbytes, hn, List.take_left]

theorem SentenceBytes.decodeSentence {bytes : List UInt8} {words : List String}
    (h : SentenceBytes bytes words) (rest : List UInt8) :
    decodeSentence (bytes ++ rest) = .ok (some (words, bytes.length)) := by
  obtain ⟨body, zero, rfl, hbody, hzero⟩ := h
  have hfuel : (body ++ zero ++ rest).length + 1 =
      words.length + ((body ++ zero ++ rest).length - words.length + 1) := by
    have hwords := hbody.length_le
    simp only [List.length_append]
    omega
  rw [WireguardPanel.decodeSentence, hfuel, List.append_assoc, decodeWords_wordBytes hbody,
    decodeWords, decodeLength_append (by simp [hzero]), hzero]
  simp

/-- The bytes that are met with an error. -/
theorem decodeSentence_eq_error_iff {buffer : List UInt8} :
    (∃ e, decodeSentence buffer = .error e) ↔ ∃ front words byte rest,
      buffer = front ++ byte :: rest ∧ WordBytes front words ∧ 0xf0 < byte := by
  constructor
  · rintro ⟨e, herror⟩
    have hdecoded : Decoded buffer 0 [] (decodeSentence buffer) := decoded_decodeWords
    rw [herror] at hdecoded
    generalize hresult : (Except.error e : Except AppError (Option (List String × ℕ))) = result
      at hdecoded
    cases hdecoded with
    | incomplete => cases hresult
    | sentence => cases hresult
    | malformed hbytes hfront hbyte => exact ⟨_, _, _, _, hbytes, hfront, hbyte⟩
  · rintro ⟨front, words, byte, rest, rfl, hfront, hbyte⟩
    obtain ⟨e, herror⟩ := decodeLength_eq_error_iff.2 ⟨byte, rest, rfl, hbyte⟩
    have hfuel : (front ++ byte :: rest).length + 1 =
        words.length + ((front ++ byte :: rest).length - words.length + 1) := by
      have hwords := hfront.length_le
      rw [List.length_append]
      omega
    refine ⟨e, ?_⟩
    rw [decodeSentence, hfuel, decodeWords_wordBytes hfront, decodeWords, herror]

/-! ## Replies -/

/-- The sentences that are cut off the front of a buffer, none of which ends a
    reply, are their bytes. -/
theorem openBytes_of_reads {buffer rest : List UInt8} {sentences : List (List String)}
    (h : sentenceDecoder.Reads buffer sentences rest) (hopen : ∀ words ∈ sentences, ¬IsLast words) :
    ∃ bytes, buffer = bytes ++ rest ∧ OpenBytes bytes := by
  induction h with
  | nil => exact ⟨[], rfl, .nil⟩
  | @cons buffer words n sentences rest hdecode hrest ih =>
    obtain ⟨hwords, hopen⟩ := List.forall_mem_cons.1 hopen
    obtain ⟨bytes, hbytes, hall⟩ := ih hopen
    refine ⟨buffer.take n ++ bytes, ?_, .cons (sentenceBytes_of_decodeSentence hdecode) hwords hall⟩
    rw [List.append_assoc, ← hbytes, List.take_append_drop]

theorem OpenBytes.reads {bytes : List UInt8} (h : OpenBytes bytes) (rest : List UInt8) :
    ∃ sentences, sentenceDecoder.Reads (bytes ++ rest) sentences rest ∧
      ∀ words ∈ sentences, ¬IsLast words := by
  induction h with
  | nil => exact ⟨[], .nil, fun _ hmem => absurd hmem List.not_mem_nil⟩
  | @cons bytes tail words hsentence hopen _ ih =>
    obtain ⟨sentences, hreads, hall⟩ := ih
    have hdecode := hsentence.decodeSentence (tail ++ rest)
    refine ⟨words :: sentences, ?_, List.forall_mem_cons.2 ⟨hopen, hall⟩⟩
    rw [List.append_assoc]
    refine .cons hdecode ?_
    rwa [List.drop_left]

/-- The listener waits just when none of the sentences ends the reply. -/
theorem consume_onSentence_iff {records : List AttributeRecord} {sentences : List (List String)} :
    (∃ records', consume onSentence records sentences = .inl records') ↔
      ∀ words ∈ sentences, ¬IsLast words := by
  have hnone : (sentences.dropWhile fun words => ¬IsLast words).head? = none ↔
      ∀ words ∈ sentences, ¬IsLast words := by
    rw [List.head?_eq_none_iff, List.dropWhile_eq_nil_iff]
    exact forall₂_congr fun words _ => decide_eq_true_iff
  rw [consume_onSentence, ← hnone]
  cases (sentences.dropWhile fun words => ¬IsLast words).head? <;> simp

/-- The listener of `exchange` throws just when the bytes are malformed. -/
theorem exchange_failed_iff {pieces : List (List UInt8)} :
    (∃ e, exchange pieces = .failed e) ↔ Malformed pieces.flatten := by
  have hexchange : exchange pieces = sentenceDecoder.drain onSentence (pieces.flatten.length + 1) []
      pieces.flatten := Decoder.foldl_receive [] pieces
  simp only [hexchange, Decoder.drain_eq_failed_iff (Nat.lt_succ_self _)]
  constructor
  · rintro ⟨e, sentences, rest, records, hreads, hconsume, herror⟩
    obtain ⟨bytes, hbytes, hopen⟩ :=
      openBytes_of_reads hreads (consume_onSentence_iff.1 ⟨records, hconsume⟩)
    obtain ⟨front, words, byte, tail, rfl, hfront, hbyte⟩ :=
      decodeSentence_eq_error_iff.1 ⟨e, herror⟩
    exact ⟨bytes, front, words, byte, tail, hbytes, hopen, hfront, hbyte⟩
  · rintro ⟨bytes, front, words, byte, tail, hbytes, hopen, hfront, hbyte⟩
    obtain ⟨sentences, hreads, hall⟩ := hopen.reads (front ++ byte :: tail)
    obtain ⟨records, hconsume⟩ := consume_onSentence_iff.2 hall
    obtain ⟨e, herror⟩ :=
      decodeSentence_eq_error_iff.2 ⟨front, words, byte, tail, rfl, hfront, hbyte⟩
    exact ⟨e, sentences, _, records, hbytes ▸ hreads, hconsume, herror⟩

/-- After each piece the call is waiting, has resolved or has been rejected just
    when the bytes are not malformed. -/
theorem exchange_handled_iff (pieces : List (List UInt8)) :
    (∀ front, front <+: pieces → ∀ e, exchange front ≠ .failed e) ↔ ¬Malformed pieces.flatten := by
  rw [← exchange_failed_iff, not_exists]
  constructor
  · exact fun h => h pieces (List.prefix_refl _)
  · rintro h front ⟨back, rfl⟩ e hfailed
    refine h e ?_
    -- A listener that has thrown is not heard of again.
    have hstuck : ∀ more : List (List UInt8),
        more.foldl (sentenceDecoder.receive onSentence) (.failed e) = .failed e := fun more => by
      induction more with
      | nil => rfl
      | cons piece more ih => exact ih
    rw [exchange, List.foldl_append]
    exact (congrArg (back.foldl _) hfailed).trans (hstuck back)

/-- The listener throws at a byte that begins no length. -/
theorem exists_exchange_failed :
    ¬∀ pieces front : List (List UInt8), front <+: pieces → ∀ e, exchange front ≠ .failed e :=
  fun h => h [[0xff]] _ (List.prefix_refl _) (.error "Unsupported RouterOS API word length.")
    (by decide +kernel)

end WireguardPanel
