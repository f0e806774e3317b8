import WireguardPanel.Foundation.Double
import WireguardPanel.Foundation.Pattern
import WireguardPanel.Foundation.Text

/-!
# Durations of a router

The two forms in which a router writes a duration: `2d22h7m7s` and `2d22:07:07`.

* `parseRouterDurationSeconds`: the seconds of a duration. Numbers are doubles,
  and `none` is the number `Infinity`.
* `mem_tokenPattern`, `mem_clockPattern`: what the two patterns match.
* `clock_unique`: a text is the clock form of one duration at most.
* `parse_tokens`, `parse_clock`: what is read from each form.
* `parseRouterDurationSeconds_spec`: durations are read as their seconds, and
  other texts are not read.

`toLowerCase` is any function on texts that leaves ASCII texts without capital
letters as they are.
-/

namespace WireguardPanel

open Foundation Pattern

/-! ## Numbers -/

/-- `x * y`. -/
def times (x y : Option ℚ) : Option ℚ := x.bind fun x => y.bind fun y => Double.ofRat (x * y)

/-- `x + y`. -/
def plus (x y : Option ℚ) : Option ℚ := x.bind fun x => y.bind fun y => Double.ofRat (x + y)

/-- `Number` of digits, with digits after a point. -/
def decimalNumber (whole : List Char) (fraction : Option (List Char)) : Option ℚ :=
  match fraction with
  | none => Double.ofRat (digitsValue whole)
  | some fraction =>
    Double.ofRat (digitsValue whole + digitsValue fraction / 10 ^ fraction.length)

/-! ## The units -/

/-- The units, in the order in which they are tried. -/
inductive DurationUnit
  | ms
  | w
  | d
  | h
  | m
  | s
  deriving DecidableEq

/-- The text of a unit. -/
def DurationUnit.text : DurationUnit → List Char
  | .ms => ['m', 's']
  | .w => ['w']
  | .d => ['d']
  | .h => ['h']
  | .m => ['m']
  | .s => ['s']

/-- The seconds of a unit, as far as they are whole. -/
def DurationUnit.seconds : DurationUnit → ℕ
  | .ms => 0
  | .w => 604800
  | .d => 86400
  | .h => 3600
  | .m => 60
  | .s => 1

/-- The `factors`. -/
def DurationUnit.factor : DurationUnit → Option ℚ
  | .ms => Double.ofRat (1 / 1000)
  | unit => some unit.seconds

/-- A match of `tokenPattern`. -/
structure DurationToken where
  whole : List Char
  fraction : Option (List Char)
  unit : DurationUnit

/-- `(\d+(?:\.\d+)?)(ms|w|d|h|m|s)`. -/
def tokenPattern : Pattern DurationToken :=
  followedBy digits fun whole =>
  followedBy (optional (digitsAfter '.')) fun fraction =>
  followedBy (oneOf ([.ms, .w, .d, .h, .m, .s].map fun unit : DurationUnit =>
    followedBy (literal unit.text) fun _ => constant unit)) fun unit =>
  constant ⟨whole, fraction, unit⟩

/-- `Number(match[1]) * factors[match[2]]`. -/
def DurationToken.value (token : DurationToken) : Option ℚ :=
  times (decimalNumber token.whole token.fraction) token.unit.factor

/-! ## The clock -/

/-- What the clock form captures. -/
structure RouterClockParts where
  weeks : Option (List Char)
  days : Option (List Char)
  hours : Option (List Char)
  minutes : List Char
  seconds : List Char
  fraction : Option (List Char)

/-- `^(?:(\d+)w)?(?:(\d+)d)?(?:(\d+):)?(\d{1,2}):(\d{2})(?:\.(\d+))?$`. -/
def clockPattern : Pattern RouterClockParts :=
  followedBy (optional (digitsBefore 'w')) fun weeks =>
  followedBy (optional (digitsBefore 'd')) fun days =>
  followedBy (optional (digitsBefore ':')) fun hours =>
  followedBy (digitsBetween 1 2) fun minutes =>
  followedBy (literal [':']) fun _ =>
  followedBy (digitsBetween 2 2) fun seconds =>
  followedBy (optional (digitsAfter '.')) fun fraction =>
  constant ⟨weeks, days, hours, minutes, seconds, fraction⟩

/-- The seconds of a clock. A part that is missing is `0`. -/
def RouterClockParts.value (clock : RouterClockParts) : Option ℚ :=
  let number := fun ds => decimalNumber ds none
  plus (plus (plus (plus (plus
    (times (number (clock.weeks.getD ['0'])) (some 604800))
    (times (number (clock.days.getD ['0'])) (some 86400)))
    (times (number (clock.hours.getD ['0'])) (some 3600)))
    (times (number clock.minutes) (some 60)))
    (number clock.seconds))
    (decimalNumber ['0'] (some (clock.fraction.getD ['0'])))

/-! ## The function -/

/-- `parseRouterDurationSeconds`, of a value that may not be a text. -/
def parseRouterDurationSeconds (toLowerCase : String → String) (value : Option String) :
    Option (Option ℚ) :=
  match value with
  | none => none
  | some value =>
    let raw := (toLowerCase (Text.trim value)).toList
    if raw = [] then none
    else
      let found := matchAll tokenPattern 0 raw
      let total := found.foldl (fun total token => plus total token.1.value) (some 0)
      if found.flatMap Prod.snd = raw ∧ total.isSome then some total
      else (matchWhole clockPattern raw).map RouterClockParts.value

/-! ## The two forms -/

/-- The digits after a point, if there are any. -/
def fractionText : Option (List Char) → List Char
  | none => []
  | some ds => '.' :: ds

/-- Digits with a mark after them, if there are any. -/
def markedText (mark : Char) : Option (List Char) → List Char
  | none => []
  | some ds => ds ++ [mark]

/-- The text of a number with a unit. -/
def DurationToken.text (token : DurationToken) : List Char :=
  token.whole ++ (fractionText token.fraction ++ token.unit.text)

/-- The numbers are written in digits. -/
def DurationToken.WellFormed (token : DurationToken) : Prop :=
  IsDigits token.whole ∧ ∀ ds ∈ token.fraction, IsDigits ds

/-- The text of a clock. -/
def RouterClockParts.text (clock : RouterClockParts) : List Char :=
  markedText 'w' clock.weeks ++ (markedText 'd' clock.days ++ (markedText ':' clock.hours ++
    (clock.minutes ++ ':' :: (clock.seconds ++ fractionText clock.fraction))))

/-- The numbers are written in digits: one or two for the minutes, and two for
    the seconds. -/
structure RouterClockParts.WellFormed (clock : RouterClockParts) : Prop where
  weeks : ∀ ds ∈ clock.weeks, IsDigits ds
  days : ∀ ds ∈ clock.days, IsDigits ds
  hours : ∀ ds ∈ clock.hours, IsDigits ds
  minutes : IsDigits clock.minutes ∧ 1 ≤ clock.minutes.length ∧ clock.minutes.length ≤ 2
  seconds : IsDigits clock.seconds ∧ 2 ≤ clock.seconds.length ∧ clock.seconds.length ≤ 2
  fraction : ∀ ds ∈ clock.fraction, IsDigits ds

/-- A row of numbers with units that is not empty. -/
def IsTokenSequence (raw : List Char) : Prop :=
  ∃ tokens : List DurationToken, tokens ≠ [] ∧ (∀ token ∈ tokens, token.WellFormed) ∧
    raw = tokens.flatMap DurationToken.text

/-- A complete clock form. -/
def IsClock (raw : List Char) : Prop :=
  ∃ clock : RouterClockParts, clock.WellFormed ∧ raw = clock.text

theorem mem_optional_before {mark : Char} {o : Option (List Char)} {cs rest : List Char} :
    (o, rest) ∈ optional (digitsBefore mark) cs ↔
      (∀ ds ∈ o, IsDigits ds) ∧ cs = markedText mark o ++ rest := by
  rw [mem_optional]
  cases o with
  | none => simp [markedText, eq_comm]
  | some ds => simp [markedText]

theorem mem_optional_after {o : Option (List Char)} {cs rest : List Char} :
    (o, rest) ∈ optional (digitsAfter '.') cs ↔
      (∀ ds ∈ o, IsDigits ds) ∧ cs = fractionText o ++ rest := by
  rw [mem_optional]
  cases o with
  | none => simp [fractionText, eq_comm]
  | some ds => simp [fractionText]

/-- The matches of the pattern of numbers with units. -/
theorem mem_tokenPattern {token : DurationToken} {cs rest : List Char} :
    (token, rest) ∈ tokenPattern cs ↔ token.WellFormed ∧ cs = token.text ++ rest := by
  have hunit : ∀ {unit : DurationUnit} {cs rest : List Char},
      (unit, rest) ∈ oneOf ([.ms, .w, .d, .h, .m, .s].map fun unit : DurationUnit =>
        followedBy (literal unit.text) fun _ => constant unit) cs ↔ cs = unit.text ++ rest := by
    intro unit cs rest
    simp only [oneOf, List.mem_flatMap, List.mem_map, exists_exists_and_eq_and, mem_followedBy,
      mem_literal, mem_constant]
    constructor
    · rintro ⟨_, -, _, _, ⟨-, rfl⟩, rfl, rfl⟩
      rfl
    · rintro rfl
      exact ⟨unit, by cases unit <;> decide, _, rest, ⟨rfl, rfl⟩, rfl, rfl⟩
  simp only [tokenPattern, mem_followedBy, mem_digits, mem_optional_after, hunit, mem_constant]
  constructor
  · rintro ⟨whole, _, ⟨hwhole, rfl⟩, fraction, _, ⟨hfraction, rfl⟩, unit, _, rfl, rfl, rfl⟩
    exact ⟨⟨hwhole, hfraction⟩, by simp [DurationToken.text]⟩
  · rintro ⟨⟨hwhole, hfraction⟩, rfl⟩
    exact ⟨token.whole, _, ⟨hwhole, by rw [DurationToken.text, List.append_assoc]⟩,
      token.fraction, _, ⟨hfraction, by rw [List.append_assoc]⟩, token.unit, rest, rfl, rfl, rfl⟩

/-- The matches of the clock that reach the end. -/
theorem mem_clockPattern {clock : RouterClockParts} {cs : List Char} :
    (clock, []) ∈ clockPattern cs ↔ clock.WellFormed ∧ cs = clock.text := by
  simp only [clockPattern, mem_followedBy, mem_optional_before, mem_optional_after, mem_literal,
    mem_digitsBetween, mem_constant]
  constructor
  · rintro ⟨weeks, _, ⟨hweeks, rfl⟩, days, _, ⟨hdays, rfl⟩, hours, _, ⟨hhours, rfl⟩, minutes, _,
      ⟨hminutes, hminutes', rfl⟩, _, _, ⟨-, rfl⟩, seconds, _,
        ⟨hseconds, hseconds', rfl⟩, fraction, _,
      ⟨hfraction, rfl⟩, rfl, rfl⟩
    exact ⟨⟨hweeks, hdays, hhours, ⟨hminutes, hminutes'⟩, ⟨hseconds, hseconds'⟩, hfraction⟩, by
      simp [RouterClockParts.text]⟩
  · rintro ⟨hform, rfl⟩
    exact ⟨clock.weeks, _, ⟨hform.weeks, rfl⟩, clock.days, _, ⟨hform.days, rfl⟩, clock.hours, _,
      ⟨hform.hours, rfl⟩, clock.minutes, _, ⟨hform.minutes.1, hform.minutes.2, rfl⟩,
        _, _, ⟨rfl, rfl⟩,
      clock.seconds, _, ⟨hform.seconds.1, hform.seconds.2, rfl⟩, clock.fraction, _,
      ⟨hform.fraction, (List.append_nil _).symm⟩, rfl, rfl⟩

/-! ## Texts in neither form -/

/-- A text that consists of matches is a row of numbers with units. -/
theorem isTokenSequence_of_matchAll {raw : List Char} (hne : raw ≠ [])
    (h : (matchAll tokenPattern 0 raw).flatMap Prod.snd = raw) : IsTokenSequence raw := by
  have hmatch : ∀ m ∈ matchAll tokenPattern 0 raw, m.1.WellFormed ∧ m.2 = m.1.text := fun m hm => by
    obtain ⟨rest, hrest⟩ := exists_rest_of_mem_matchAll
      (fun hmem => ⟨_, (mem_tokenPattern.1 hmem).2.symm⟩) hm
    obtain ⟨hform, heq⟩ := mem_tokenPattern.1 hrest
    exact ⟨hform, List.append_cancel_right heq⟩
  refine ⟨(matchAll tokenPattern 0 raw).map Prod.fst, fun hnil => hne ?_,
    fun token htoken => ?_, ?_⟩
  · rw [← h, List.map_eq_nil_iff.1 hnil, List.flatMap_nil]
  · obtain ⟨m, hm, rfl⟩ := List.mem_map.1 htoken
    exact (hmatch m hm).1
  · rw [List.flatMap_map]
    exact h.symm.trans (List.flatMap_congr fun m hm => (hmatch m hm).2)

/-- A text that is read has one of the two forms. -/
theorem form_of_parse {toLowerCase : String → String} {value : String} {result : Option ℚ}
    (h : parseRouterDurationSeconds toLowerCase (some value) = some result) :
    IsTokenSequence (toLowerCase (Text.trim value)).toList ∨
      IsClock (toLowerCase (Text.trim value)).toList := by
  simp only [parseRouterDurationSeconds] at h
  split_ifs at h with hempty hfound
  · exact .inl (isTokenSequence_of_matchAll hempty hfound.1)
  · obtain ⟨clock, hclock, -⟩ := Option.map_eq_some_iff.1 h
    obtain ⟨hform, htext⟩ := mem_clockPattern.1 (mem_of_matchWhole hclock)
    exact .inr ⟨clock, hform, htext⟩

/-! ## Characters -/

/-- The characters of a duration. -/
def IsDurationChar (c : Char) : Prop :=
  c.isDigit = true ∨ c ∈ ['w', 'd', 'h', 'm', 's', '.', ':']

/-- An ASCII character that is not a capital letter. -/
def IsSmallAscii (c : Char) : Prop := c.toNat < 128 ∧ ¬(65 ≤ c.toNat ∧ c.toNat ≤ 90)

theorem isSmallAscii_of_durationChar {c : Char} (h : IsDurationChar c) : IsSmallAscii c := by
  rcases h with hdigit | hmem
  · have hbounds := Text.isDigit_bounds hdigit
    exact ⟨by omega, by omega⟩
  · simp only [List.mem_cons, List.not_mem_nil, or_false] at hmem
    rcases hmem with rfl | rfl | rfl | rfl | rfl | rfl | rfl <;> exact ⟨by decide, by decide⟩

theorem not_isSpace_of_durationChar {c : Char} (h : IsDurationChar c) : Text.isSpace c = false := by
  rcases h with hdigit | hmem
  · exact Text.isSpace_of_isDigit hdigit
  · simp only [List.mem_cons, List.not_mem_nil, or_false] at hmem
    rcases hmem with rfl | rfl | rfl | rfl | rfl | rfl | rfl <;> decide

theorem durationChar_of_markedText {mark : Char} {o : Option (List Char)}
    (hmark : mark ∈ ['w', 'd', 'h', 'm', 's', '.', ':']) (ho : ∀ ds ∈ o, IsDigits ds) :
    ∀ c ∈ markedText mark o, IsDurationChar c := by
  intro c hc
  cases o with
  | none => exact absurd hc List.not_mem_nil
  | some ds =>
    rcases List.mem_append.1 hc with hds | hmem
    · exact .inl ((ho ds rfl).2 c hds)
    · exact .inr (List.mem_singleton.1 hmem ▸ hmark)

theorem durationChar_of_fractionText {o : Option (List Char)} (ho : ∀ ds ∈ o, IsDigits ds) :
    ∀ c ∈ fractionText o, c.isDigit = true ∨ c = '.' := by
  intro c hc
  cases o with
  | none => exact absurd hc List.not_mem_nil
  | some ds =>
    rcases List.mem_cons.1 hc with hmem | hds
    · exact .inr hmem
    · exact .inl ((ho ds rfl).2 c hds)

theorem durationChar_of_token {token : DurationToken} (h : token.WellFormed) :
    ∀ c ∈ token.text, IsDurationChar c ∧ c ≠ ':' := by
  intro c hc
  have hdigit : c.isDigit = true → IsDurationChar c ∧ c ≠ ':' := fun hdigit =>
    ⟨.inl hdigit, fun heq => absurd (heq ▸ hdigit) (by decide)⟩
  rcases List.mem_append.1 hc with hwhole | hc
  · exact hdigit (h.1.2 c hwhole)
  · rcases List.mem_append.1 hc with hfraction | hunit
    · rcases durationChar_of_fractionText h.2 c hfraction with hds | rfl
      · exact hdigit hds
      · exact ⟨.inr (by decide), by decide⟩
    · have hmem : c ∈ ['m', 's', 'w', 'd', 'h'] := by
        revert hunit
        cases token.unit <;> simp only [DurationUnit.text, List.mem_cons, List.not_mem_nil] <;>
          tauto
      simp only [List.mem_cons, List.not_mem_nil, or_false] at hmem
      rcases hmem with rfl | rfl | rfl | rfl | rfl <;> exact ⟨.inr (by decide), by decide⟩

theorem durationChar_of_clock {clock : RouterClockParts} (h : clock.WellFormed) :
    ∀ c ∈ clock.text, IsDurationChar c := by
  intro c hc
  simp only [RouterClockParts.text, List.mem_append, List.mem_cons] at hc
  rcases hc with hc | hc | hc | hc | rfl | hc | hc
  · exact durationChar_of_markedText (by decide) h.weeks c hc
  · exact durationChar_of_markedText (by decide) h.days c hc
  · exact durationChar_of_markedText (by decide) h.hours c hc
  · exact .inl (h.minutes.1.2 c hc)
  · exact .inr (by decide)
  · exact .inl (h.seconds.1.2 c hc)
  · rcases durationChar_of_fractionText h.fraction c hc with hds | rfl
    · exact .inl hds
    · exact .inr (by decide)

/-- A duration is neither trimmed nor put into lower case. -/
theorem toList_lowered {toLowerCase : String → String}
    (hlower : ∀ text : String, (∀ c ∈ text.toList, IsSmallAscii c) → toLowerCase text = text)
    {raw : List Char} (h : ∀ c ∈ raw, IsDurationChar c) :
    (toLowerCase (Text.trim (String.ofList raw))).toList = raw := by
  have htrim : Text.trim (String.ofList raw) = String.ofList raw :=
    Text.trim_eq_self fun c hc =>
      not_isSpace_of_durationChar (h c (by rwa [String.toList_ofList] at hc))
  rw [htrim, hlower, String.toList_ofList]
  exact fun c hc => isSmallAscii_of_durationChar (h c (by rwa [String.toList_ofList] at hc))

/-! ## Numbers with units -/

theorem head?_unit_text (unit : DurationUnit) (rest : List Char) :
    ∀ c ∈ (unit.text ++ rest).head?, c.isDigit = false ∧ c ≠ '.' := by
  intro c hc
  cases unit <;> exact Option.some.inj hc ▸ ⟨by decide, by decide⟩

/-- The preferred match at a token that is followed by another one or by nothing. -/
theorem head?_token {token : DurationToken} (h : token.WellFormed) {rest : List Char}
    (hrest : ∀ c ∈ rest.head?, c.isDigit = true) :
    (tokenPattern (token.text ++ rest)).head? = some (token, rest) := by
  have hunitHead := head?_unit_text token.unit rest
  have hunit : (oneOf ([.ms, .w, .d, .h, .m, .s].map fun unit : DurationUnit =>
      followedBy (literal unit.text) fun _ => constant unit) (token.unit.text ++ rest)).head? =
        some (token.unit, rest) := by
    -- Only `m` could be taken for the beginning of another unit.
    have hms : literal ['m', 's'] ('m' :: rest) = [] := by
      cases rest with
      | nil => rfl
      | cons c rest =>
        have hc : 's' ≠ c := fun heq => absurd (hrest 's' (heq ▸ rfl)) (by decide)
        simp [literal, hc]
    cases token.unit with
    | m =>
      change ((literal ['m', 's'] ('m' :: rest)).flatMap _ ++ _).head? = _
      rw [hms]
      rfl
    | ms => rfl
    | w => rfl
    | d => rfl
    | h => rfl
    | s => rfl
  rw [DurationToken.text, List.append_assoc, List.append_assoc, tokenPattern]
  cases hfraction : token.fraction with
  | none =>
    refine head?_followedBy (head?_digits h.1 fun c hc => (hunitHead c hc).1)
      (head?_followedBy (head?_optional_none (digitsAfter_of_ne fun heq =>
        (hunitHead '.' heq).2 rfl)) (head?_followedBy hunit ?_))
    rw [← hfraction]
    rfl
  | some ds =>
    have hpoint : ∀ c ∈ (fractionText (some ds) ++ (token.unit.text ++ rest)).head?,
        c.isDigit = false := by
      intro c hc
      rw [← Option.some.inj hc]
      decide
    refine head?_followedBy (head?_digits h.1 hpoint)
      (head?_followedBy (head?_optional_some (head?_digitsAfter (h.2 ds hfraction)
        fun c hc => (hunitHead c hc).1)) (head?_followedBy hunit ?_))
    rw [← hfraction]
    rfl

/-- The text of tokens begins with a digit. -/
theorem head?_tokens {tokens : List DurationToken} (h : ∀ token ∈ tokens, token.WellFormed) :
    ∀ c ∈ (tokens.flatMap DurationToken.text).head?, c.isDigit = true := by
  cases tokens with
  | nil => exact nofun
  | cons token tokens =>
    obtain ⟨⟨hne, hdigits⟩, -⟩ := h token List.mem_cons_self
    obtain ⟨d, more, hd⟩ := List.exists_cons_of_ne_nil hne
    intro c hc
    rw [List.flatMap_cons, DurationToken.text, hd] at hc
    rw [← Option.some.inj hc]
    exact hdigits d (hd ▸ List.mem_cons_self)

theorem text_ne_nil {token : DurationToken} (h : token.WellFormed) : token.text ≠ [] := by
  simp [DurationToken.text, h.1.1]

/-- The tokens are what the pattern finds. -/
theorem matchAll_tokens {tokens : List DurationToken} (h : ∀ token ∈ tokens, token.WellFormed) :
    matchAll tokenPattern 0 (tokens.flatMap DurationToken.text) =
      tokens.map fun token => (token, token.text) := by
  induction tokens with
  | nil => rfl
  | cons token tokens ih =>
    obtain ⟨htoken, hrest⟩ := List.forall_mem_cons.1 h
    rw [List.flatMap_cons, List.map_cons, ← ih hrest]
    exact matchAll_append (text_ne_nil htoken) (head?_token htoken (head?_tokens hrest))

/-- The unit form of parts. -/
def unitForm (parts : List (List Char × DurationUnit)) : List Char :=
  parts.flatMap fun part => part.1 ++ part.2.text

/-- A whole number and a unit, which is not `ms`. -/
def IsPart (part : List Char × DurationUnit) : Prop := IsDigits part.1 ∧ part.2 ≠ .ms

instance (part : List Char × DurationUnit) : Decidable (IsPart part) :=
  inferInstanceAs (Decidable (IsDigits part.1 ∧ part.2 ≠ .ms))

/-- A part as a token. -/
def partToken (part : List Char × DurationUnit) : DurationToken := ⟨part.1, none, part.2⟩

theorem unitForm_eq (parts : List (List Char × DurationUnit)) :
    unitForm parts = (parts.map partToken).flatMap DurationToken.text := by
  rw [unitForm, List.flatMap_map]
  rfl

theorem wellFormed_partTokens {parts : List (List Char × DurationUnit)}
    (h : ∀ part ∈ parts, IsPart part) : ∀ token ∈ parts.map partToken, token.WellFormed := by
  intro token htoken
  obtain ⟨part, hpart, rfl⟩ := List.mem_map.1 htoken
  exact ⟨(h part hpart).1, nofun⟩

/-! ## Sums -/

theorem times_natCast {m n : ℕ} (h : m * n < 2 ^ 53) :
    times (some (m : ℚ)) (some (n : ℚ)) = some ((m * n : ℕ) : ℚ) := by
  rw [times, Option.bind_some, Option.bind_some, ← Nat.cast_mul, Double.ofRat_natCast h]

theorem plus_natCast {m n : ℕ} (h : m + n < 2 ^ 53) :
    plus (some (m : ℚ)) (some (n : ℚ)) = some ((m + n : ℕ) : ℚ) := by
  rw [plus, Option.bind_some, Option.bind_some, ← Nat.cast_add, Double.ofRat_natCast h]

theorem decimalNumber_none {ds : List Char} (h : digitsValue ds < 2 ^ 53) :
    decimalNumber ds none = some (digitsValue ds : ℚ) := Double.ofRat_natCast h

/-- A product of whole numbers is exact, also if a factor is the default. -/
theorem times_decimalNumber {ds : List Char} {n : ℕ} (hn : 0 < n)
    (h : digitsValue ds * n < 2 ^ 53) :
    times (decimalNumber ds none) (some (n : ℚ)) = some ((digitsValue ds * n : ℕ) : ℚ) := by
  rw [decimalNumber_none ((Nat.le_mul_of_pos_right _ hn).trans_lt h), times_natCast h]

/-- The seconds of parts. -/
def unitSeconds (parts : List (List Char × DurationUnit)) : ℕ :=
  (parts.map fun part => digitsValue part.1 * part.2.seconds).sum

theorem unitSeconds_cons (part : List Char × DurationUnit)
    (parts : List (List Char × DurationUnit)) :
    unitSeconds (part :: parts) = digitsValue part.1 * part.2.seconds + unitSeconds parts := by
  rw [unitSeconds, List.map_cons, List.sum_cons, unitSeconds]

theorem value_partToken {part : List Char × DurationUnit} (h : part.2 ≠ .ms)
    (hsmall : digitsValue part.1 * part.2.seconds < 2 ^ 53) :
    (partToken part).value = some ((digitsValue part.1 * part.2.seconds : ℕ) : ℚ) := by
  have hpos : 0 < part.2.seconds := by
    cases hcase : part.2 <;> simp_all [DurationUnit.seconds]
  have hfactor : part.2.factor = some (part.2.seconds : ℚ) := by
    cases hcase : part.2 <;> simp_all [DurationUnit.factor]
  have hunit : (partToken part).unit = part.2 := rfl
  rw [DurationToken.value, hunit, hfactor]
  exact times_decimalNumber hpos hsmall

theorem foldl_plus {parts : List (List Char × DurationUnit)} (h : ∀ part ∈ parts, IsPart part)
    {n : ℕ} (hn : n + unitSeconds parts < 2 ^ 53) :
    (parts.map partToken).foldl (fun total token => plus total token.value) (some (n : ℚ)) =
      some ((n + unitSeconds parts : ℕ) : ℚ) := by
  induction parts generalizing n with
  | nil => rfl
  | cons part parts ih =>
    obtain ⟨⟨-, hunit⟩, hparts⟩ := List.forall_mem_cons.1 h
    rw [unitSeconds_cons] at hn ⊢
    rw [List.map_cons, List.foldl_cons, value_partToken hunit (by omega), plus_natCast (by omega),
      ih hparts (by omega), Nat.add_assoc]

/-- Tokens are read as their sum if it is finite. -/
theorem parse_tokens {toLowerCase : String → String}
    (hlower : ∀ text : String, (∀ c ∈ text.toList, IsSmallAscii c) → toLowerCase text = text)
    {tokens : List DurationToken} (hne : tokens ≠ []) (h : ∀ token ∈ tokens, token.WellFormed)
    {total : ℚ}
    (htotal : tokens.foldl (fun total token => plus total token.value) (some 0) = some total) :
    parseRouterDurationSeconds toLowerCase
      (some (String.ofList (tokens.flatMap DurationToken.text))) =
      some (some total) := by
  have hchars : ∀ c ∈ tokens.flatMap DurationToken.text, IsDurationChar c := fun c hc => by
    obtain ⟨token, htoken, hc⟩ := List.mem_flatMap.1 hc
    exact (durationChar_of_token (h token htoken) c hc).1
  have hraw : tokens.flatMap DurationToken.text ≠ [] := by
    obtain ⟨token, rest, rfl⟩ := List.exists_cons_of_ne_nil hne
    rw [List.flatMap_cons]
    exact List.append_ne_nil_of_left_ne_nil (text_ne_nil (h token List.mem_cons_self)) _
  simp only [parseRouterDurationSeconds, toList_lowered hlower hchars, if_neg hraw,
    matchAll_tokens h,
    List.foldl_map, htotal]
  rw [if_pos]
  refine ⟨?_, rfl⟩
  rw [List.flatMap_map]

/-- Numbers with units are read as their sum. -/
theorem parse_unitForm {toLowerCase : String → String}
    (hlower : ∀ text : String, (∀ c ∈ text.toList, IsSmallAscii c) → toLowerCase text = text)
    {parts : List (List Char × DurationUnit)} (hne : parts ≠ []) (h : ∀ part ∈ parts, IsPart part)
    (hsmall : unitSeconds parts < 2 ^ 53) :
    parseRouterDurationSeconds toLowerCase (some (String.ofList (unitForm parts))) =
      some (some (unitSeconds parts : ℚ)) := by
  have htotal := foldl_plus (n := 0) h (by rwa [Nat.zero_add])
  rw [Nat.zero_add, Nat.cast_zero] at htotal
  rw [unitForm_eq]
  exact parse_tokens hlower (by simpa using hne) (wellFormed_partTokens h) htotal

/-! ## Clocks -/

/-- A mark that comes nowhere else in a text shows where the digits before it end. -/
theorem markedText_append_inj {mark : Char} {o o' : Option (List Char)} {back back' : List Char}
    (hmark : mark.isDigit = false) (ho : ∀ ds ∈ o, IsDigits ds) (ho' : ∀ ds ∈ o', IsDigits ds)
    (hback : mark ∉ back) (hback' : mark ∉ back')
    (h : markedText mark o ++ back = markedText mark o' ++ back') : o = o' ∧ back = back' := by
  cases o with
  | none =>
    cases o' with
    | none => exact ⟨rfl, h⟩
    | some ds =>
      have hmem : mark ∈ markedText mark (some ds) ++ back' := by simp [markedText]
      rw [← h] at hmem
      exact absurd hmem hback
  | some ds =>
    cases o' with
    | none =>
      have hmem : mark ∈ markedText mark (some ds) ++ back := by simp [markedText]
      rw [h] at hmem
      exact absurd hmem hback'
    | some ds' =>
      simp only [markedText, List.append_assoc, List.singleton_append] at h
      obtain ⟨rfl, rfl⟩ := Text.append_cons_inj (not_mem_of_isDigits (ho ds rfl) hmark)
        (not_mem_of_isDigits (ho' ds' rfl) hmark) h
      exact ⟨rfl, rfl⟩

theorem fractionText_injective : Function.Injective fractionText := by
  intro o o' h
  cases o <;> cases o' <;> simp_all [fractionText]

/-- What comes after the days. -/
def timeText (clock : RouterClockParts) : List Char :=
  markedText ':' clock.hours ++
    (clock.minutes ++ ':' :: (clock.seconds ++ fractionText clock.fraction))

/-- The time of a clock has neither weeks nor days. -/
theorem char_of_timeText {clock : RouterClockParts} (h : clock.WellFormed) {c : Char}
    (hc : c ∈ timeText clock) : c.isDigit = true ∨ c = ':' ∨ c = '.' := by
  simp only [timeText, List.mem_append, List.mem_cons] at hc
  rcases hc with hc | hc | rfl | hc | hc
  · cases hhours : clock.hours with
    | none => exact absurd (hhours ▸ hc) List.not_mem_nil
    | some ds =>
      rw [hhours] at hc
      rcases List.mem_append.1 hc with hds | hmark
      · exact .inl ((h.hours ds hhours).2 c hds)
      · exact .inr (.inl (List.mem_singleton.1 hmark))
  · exact .inl (h.minutes.1.2 c hc)
  · exact .inr (.inl rfl)
  · exact .inl (h.seconds.1.2 c hc)
  · rcases durationChar_of_fractionText h.fraction c hc with hds | hpoint
    · exact .inl hds
    · exact .inr (.inr hpoint)

/-- Where the hours end is seen at the colon that is left after them. -/
theorem hours_unique {o o' : Option (List Char)} {minutes minutes' tail tail' : List Char}
    (ho : ∀ ds ∈ o, IsDigits ds) (ho' : ∀ ds ∈ o', IsDigits ds) (hminutes : ':' ∉ minutes)
    (hminutes' : ':' ∉ minutes') (htail : ':' ∉ tail) (htail' : ':' ∉ tail')
    (h : markedText ':' o ++ (minutes ++ ':' :: tail) =
      markedText ':' o' ++ (minutes' ++ ':' :: tail')) :
    o = o' ∧ minutes = minutes' ∧ tail = tail' := by
  have hnot : ∀ {ds : List Char}, IsDigits ds → ':' ∉ ds := fun hds =>
    not_mem_of_isDigits hds (by decide)
  cases o with
  | none =>
    cases o' with
    | none =>
      obtain ⟨rfl, rfl⟩ := Text.append_cons_inj hminutes hminutes' h
      exact ⟨rfl, rfl, rfl⟩
    | some ds' =>
      simp only [markedText, List.append_assoc, List.singleton_append, List.nil_append] at h
      obtain ⟨-, heq⟩ := Text.append_cons_inj hminutes (hnot (ho' ds' rfl)) h
      exact absurd (heq ▸ List.mem_append_right _ List.mem_cons_self) htail
  | some ds =>
    cases o' with
    | none =>
      simp only [markedText, List.append_assoc, List.singleton_append, List.nil_append] at h
      obtain ⟨-, heq⟩ := Text.append_cons_inj (hnot (ho ds rfl)) hminutes' h
      exact absurd (heq ▸ List.mem_append_right _ List.mem_cons_self) htail'
    | some ds' =>
      simp only [markedText, List.append_assoc, List.singleton_append] at h
      obtain ⟨rfl, heq⟩ := Text.append_cons_inj (hnot (ho ds rfl)) (hnot (ho' ds' rfl)) h
      obtain ⟨rfl, rfl⟩ := Text.append_cons_inj hminutes hminutes' heq
      exact ⟨rfl, rfl, rfl⟩

theorem not_mem_timeText {mark : Char} {clock : RouterClockParts} (h : clock.WellFormed)
    (hmark : mark ∈ ['w', 'd']) : mark ∉ timeText clock := by
  intro hmem
  have hchar := char_of_timeText h hmem
  simp only [List.mem_cons, List.not_mem_nil, or_false] at hmark
  rcases hmark with rfl | rfl <;> exact absurd hchar (by decide)

theorem not_mem_daysText {clock : RouterClockParts} (h : clock.WellFormed) :
    'w' ∉ markedText 'd' clock.days ++ timeText clock := by
  intro hmem
  rcases List.mem_append.1 hmem with hdays | htime
  · cases hcase : clock.days with
    | none => exact absurd (hcase ▸ hdays) List.not_mem_nil
    | some ds =>
      rw [hcase] at hdays
      rcases List.mem_append.1 hdays with hds | hmark
      · exact absurd ((h.days ds hcase).2 _ hds) (by decide)
      · exact absurd (List.mem_singleton.1 hmark) (by decide)
  · exact not_mem_timeText h (by decide) htime

theorem colon_not_mem_secondsText {clock : RouterClockParts} (h : clock.WellFormed) :
    ':' ∉ clock.seconds ++ fractionText clock.fraction := by
  intro hmem
  rcases List.mem_append.1 hmem with hseconds | hfraction
  · exact not_mem_of_isDigits h.seconds.1 (by decide) hseconds
  · exact absurd (durationChar_of_fractionText h.fraction _ hfraction) (by decide)

theorem head?_fractionText (o : Option (List Char)) :
    ∀ c ∈ (fractionText o).head?, c.isDigit = false := by
  intro c hc
  cases o with
  | none => exact absurd hc nofun
  | some ds => exact Option.some.inj hc ▸ by decide

/-- A text is the clock form of one duration at most. -/
theorem clock_unique {clock clock' : RouterClockParts} (h : clock.WellFormed)
    (h' : clock'.WellFormed) (heq : clock.text = clock'.text) : clock = clock' := by
  obtain ⟨hweeks, heq⟩ := markedText_append_inj (by decide) h.weeks h'.weeks (not_mem_daysText h)
    (not_mem_daysText h') heq
  obtain ⟨hdays, heq⟩ := markedText_append_inj (by decide) h.days h'.days
    (not_mem_timeText h (by decide)) (not_mem_timeText h' (by decide)) heq
  obtain ⟨hhours, hminutes, heq⟩ := hours_unique h.hours h'.hours
    (not_mem_of_isDigits h.minutes.1 (by decide)) (not_mem_of_isDigits h'.minutes.1 (by decide))
    (colon_not_mem_secondsText h) (colon_not_mem_secondsText h') heq
  obtain ⟨hseconds, heq⟩ := digits_append_inj h.seconds.1 h'.seconds.1 (head?_fractionText _)
    (head?_fractionText _) heq
  have hfraction := fractionText_injective heq
  cases clock
  cases clock'
  simp only [RouterClockParts.mk.injEq]
  exact ⟨hweeks, hdays, hhours, hminutes, hseconds, hfraction⟩

/-- A clock is matched as it was written. -/
theorem matchWhole_clock {clock : RouterClockParts} (h : clock.WellFormed) :
    matchWhole clockPattern clock.text = some clock :=
  matchWhole_eq_some (mem_clockPattern.2 ⟨h, rfl⟩) fun clock' hclock' => by
    obtain ⟨hform, htext⟩ := mem_clockPattern.1 hclock'
    exact clock_unique hform h htext.symm

/-- The seconds of a clock without a fraction. -/
def RouterClockParts.wholeSeconds (clock : RouterClockParts) : ℕ :=
  digitsValue (clock.weeks.getD ['0']) * 604800 + digitsValue (clock.days.getD ['0']) * 86400 +
    digitsValue (clock.hours.getD ['0']) * 3600 + digitsValue clock.minutes * 60 +
    digitsValue clock.seconds

/-- A sum of whole numbers is exact, and so are its parts. -/
theorem plus_parts {a b c d e : ℕ} (h : a + b + c + d + e < 2 ^ 53) :
    plus (plus (plus (plus (plus (some (a : ℚ)) (some (b : ℚ))) (some (c : ℚ))) (some (d : ℚ)))
      (some (e : ℚ))) (some ((0 : ℕ) : ℚ)) = some ((a + b + c + d + e : ℕ) : ℚ) := by
  rw [plus_natCast (by omega), plus_natCast (by omega), plus_natCast (by omega),
    plus_natCast (by omega), plus_natCast (by omega), Nat.add_zero]

theorem value_clock {clock : RouterClockParts} (hfraction : clock.fraction = none)
    (hsmall : clock.wholeSeconds < 2 ^ 53) : clock.value = some (clock.wholeSeconds : ℚ) := by
  have hnoFraction :
      decimalNumber ['0'] (some (clock.fraction.getD ['0'])) = some ((0 : ℕ) : ℚ) := by
    rw [hfraction, decimalNumber, ← Double.ofRat_natCast (n := 0) (by decide)]
    have hzero : digitsValue ['0'] = 0 := rfl
    simp [hzero]
  have hparts : ∀ {a b c d e : ℕ}, a + b + c + d + e < 2 ^ 53 →
      a < 2 ^ 53 ∧ b < 2 ^ 53 ∧ c < 2 ^ 53 ∧ d < 2 ^ 53 ∧ e < 2 ^ 53 := by omega
  obtain ⟨hweeks, hdays, hhours, hminutes, hseconds⟩ := hparts hsmall
  have hweeksValue := times_decimalNumber (by decide) hweeks
  have hdaysValue := times_decimalNumber (by decide) hdays
  have hhoursValue := times_decimalNumber (by decide) hhours
  have hminutesValue := times_decimalNumber (by decide) hminutes
  rw [Nat.cast_ofNat] at hweeksValue hdaysValue hhoursValue hminutesValue
  simp only [RouterClockParts.value, hweeksValue, hdaysValue, hhoursValue, hminutesValue,
    decimalNumber_none hseconds, hnoFraction]
  exact plus_parts hsmall

/-- A text with a colon is no row of numbers with units. -/
theorem not_isTokenSequence_of_colon {raw : List Char} (h : ':' ∈ raw) : ¬IsTokenSequence raw := by
  rintro ⟨tokens, -, htokens, rfl⟩
  obtain ⟨token, htoken, hmem⟩ := List.mem_flatMap.1 h
  exact (durationChar_of_token (htokens token htoken) _ hmem).2 rfl

/-- A clock is read as its seconds. -/
theorem parse_clock {toLowerCase : String → String}
    (hlower : ∀ text : String, (∀ c ∈ text.toList, IsSmallAscii c) → toLowerCase text = text)
    {clock : RouterClockParts} (h : clock.WellFormed) (hfraction : clock.fraction = none)
    (hsmall : clock.wholeSeconds < 2 ^ 53) :
    parseRouterDurationSeconds toLowerCase (some (String.ofList clock.text)) =
      some (some (clock.wholeSeconds : ℚ)) := by
  have hcolon : ':' ∈ clock.text := by simp [RouterClockParts.text]
  have hne : clock.text ≠ [] := List.ne_nil_of_mem hcolon
  have hnot : ¬((matchAll tokenPattern 0 clock.text).flatMap Prod.snd = clock.text) := fun heq =>
    not_isTokenSequence_of_colon hcolon (isTokenSequence_of_matchAll hne heq)
  simp only [parseRouterDurationSeconds, toList_lowered hlower (durationChar_of_clock h),
    if_neg hne, matchWhole_clock h, hnot, false_and, if_false, Option.map_some,
      value_clock hfraction hsmall]

/-- Durations below `2 ^ 53` are read as their seconds in both forms, and texts
    that have neither form are not read. -/
theorem parseRouterDurationSeconds_spec (toLowerCase : String → String)
    (hlower : ∀ text : String, (∀ c ∈ text.toList, IsSmallAscii c) → toLowerCase text = text)
    (n : ℕ) (hn : n < 2 ^ 53) :
    (∀ parts : List (List Char × DurationUnit), parts ≠ [] → (∀ part ∈ parts, IsPart part) →
        unitSeconds parts = n →
        parseRouterDurationSeconds toLowerCase (some (String.ofList (unitForm parts))) =
          some (some (n : ℚ))) ∧
      (∀ clock : RouterClockParts, clock.WellFormed → clock.fraction = none →
        clock.wholeSeconds = n →
        parseRouterDurationSeconds toLowerCase (some (String.ofList clock.text)) =
          some (some (n : ℚ))) ∧
      ∀ value : String, ¬IsTokenSequence (toLowerCase (Text.trim value)).toList →
        ¬IsClock (toLowerCase (Text.trim value)).toList →
        parseRouterDurationSeconds toLowerCase (some value) = none := by
  refine ⟨fun parts hne hparts hsum => ?_, fun clock hclock hfraction hsum => ?_,
    fun value htokens hclock => ?_⟩
  · subst hsum
    exact parse_unitForm hlower hne hparts hn
  · subst hsum
    exact parse_clock hlower hclock hfraction hn
  · cases hresult : parseRouterDurationSeconds toLowerCase (some value) with
    | none => rfl
    | some result => exact absurd (form_of_parse hresult) (not_or.2 ⟨htokens, hclock⟩)

/-- A function on texts as `toLowerCase` is on ASCII texts. -/
def asciiLowerCase (text : String) : String := String.ofList (text.toList.map Char.toLower)

theorem asciiLowerCase_eq_self {text : String} (h : ∀ c ∈ text.toList, IsSmallAscii c) :
    asciiLowerCase text = text := by
  have hmap : text.toList.map Char.toLower = text.toList := by
    refine (List.map_congr_left fun c hc => ?_).trans (List.map_id _)
    have hno : ¬(c.val ≥ 'A'.val ∧ c.val ≤ 'Z'.val) := by
      rintro ⟨hlow, hhigh⟩
      rw [ge_iff_le, UInt32.le_iff_toNat_le] at hlow
      rw [UInt32.le_iff_toNat_le] at hhigh
      exact (h c hc).2 ⟨hlow, hhigh⟩
    exact dif_neg hno
  rw [asciiLowerCase, hmap, String.ofList_toList]

/-- Two spellings of two days, 22 hours, seven minutes and seven seconds. -/
theorem parseRouterDurationSeconds_spec_days :
    parseRouterDurationSeconds asciiLowerCase (some "2d22h7m7s") = some (some 252427) ∧
      parseRouterDurationSeconds asciiLowerCase (some "2d22:07:07") = some (some 252427) ∧
      parseRouterDurationSeconds asciiLowerCase (some "never") = none := by
  have hspec := parseRouterDurationSeconds_spec asciiLowerCase (fun _ h => asciiLowerCase_eq_self h)
    252427 (by decide)
  refine ⟨?_, ?_, ?_⟩
  · exact hspec.1 [(['2'], .d), (['2', '2'], .h), (['7'], .m), (['7'], .s)] (by decide) (by decide)
      (by decide)
  · exact hspec.2.1 ⟨none, some ['2'], some ['2', '2'], ['0', '7'], ['0', '7'], none⟩
      ⟨nofun, by decide, by decide, by decide, by decide, nofun⟩ rfl (by decide)
  · have hletter : 'n' ∈ (asciiLowerCase (Text.trim "never")).toList := by decide
    have hnot : ¬IsDurationChar 'n' := by simp [IsDurationChar]
    refine hspec.2.2 "never" ?_ ?_
    · rintro ⟨tokens, -, htokens, heq⟩
      obtain ⟨token, htoken, hmem⟩ := List.mem_flatMap.1 (heq ▸ hletter)
      exact hnot (durationChar_of_token (htokens token htoken) _ hmem).1
    · rintro ⟨clock, hclock, heq⟩
      exact hnot (durationChar_of_clock hclock _ (heq ▸ hletter))

end WireguardPanel
