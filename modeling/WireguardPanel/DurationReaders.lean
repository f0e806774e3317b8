import WireguardPanel.Bandwidth
import WireguardPanel.QuotaInput
import WireguardPanel.RouterDurations

/-!
# Durations without patterns

`parseRouterDurationSeconds` reads a duration with regular expressions. A reader that goes
through the text from the left to the right can be evaluated, and reads the same.

* `readDuration`: this reader.
* `sumDuration_eq`: numbers with units are the matches of their pattern.
* `clockDuration_eq`: a clock is the match of its pattern.
* `readDuration_eq`: the readers agree on every text.
-/

namespace WireguardPanel

open Foundation Pattern

/-! ## A reader without patterns -/

/-- A sum of two numbers, where `none` is infinite. -/
def addNumber (x y : Option ℚ) : Option ℚ := do
  let x ← x
  let y ← y
  Double.ofRat (x + y)

/-- A product of two numbers. -/
def mulNumber (x y : Option ℚ) : Option ℚ := do
  let x ← x
  let y ← y
  Double.ofRat (x * y)

/-- The factor of a unit of time and what follows the unit. -/
def durationUnit : List Char → Option (Option ℚ × List Char)
  | 'm' :: 's' :: rest => some (Double.ofRat (1 / 1000), rest)
  | 'w' :: rest => some (some 604800, rest)
  | 'd' :: rest => some (some 86400, rest)
  | 'h' :: rest => some (some 3600, rest)
  | 'm' :: rest => some (some 60, rest)
  | 's' :: rest => some (some 1, rest)
  | _ => none

/-- The sum of the numbers with units that a text consists of, with a bound on
    their number. -/
def sumDuration : ℕ → Option ℚ → List Char → Option (Option ℚ)
  | _, total, [] => some total
  | 0, _, _ => none
  | fuel + 1, total, raw =>
    let isNumber := fun c : Char => c.isDigit || c == '.'
    match decimalValue (raw.takeWhile isNumber), durationUnit (raw.dropWhile isNumber) with
    | some number, some (factor, rest) =>
      sumDuration fuel (addNumber total (mulNumber (Double.ofRat number) factor)) rest
    | _, _ => none

/-- The number before a unit that may be left out, and what follows the unit. -/
def clockUnit (unit : Char) (raw : List Char) : Option ℚ × List Char :=
  match Text.parseDigits (String.ofList (raw.takeWhile Char.isDigit)),
    raw.dropWhile Char.isDigit with
  | some n, c :: rest => if c = unit then (Double.ofRat n, rest) else (some 0, raw)
  | _, _ => (some 0, raw)

/-- The seconds of a clock time, two digits with a fraction or without one. -/
def clockSeconds (raw : List Char) : Option (Option ℚ × Option ℚ) :=
  match raw.splitOn '.' with
  | [seconds] => (twoDigits seconds).map fun n => (Double.ofRat n, some 0)
  | [seconds, fraction] =>
    match twoDigits seconds, Text.parseDigits (String.ofList fraction) with
    | some n, some m => some (Double.ofRat n, Double.ofRat (m / 10 ^ fraction.length))
    | _, _ => none
  | _ => none
where
  /-- The value of exactly two digits. -/
  twoDigits (raw : List Char) : Option ℕ :=
    if raw.length = 2 then Text.parseDigits (String.ofList raw) else none

/-- The value of one or two digits. -/
def clockMinutes (raw : List Char) : Option ℕ :=
  if raw.length ≤ 2 then Text.parseDigits (String.ofList raw) else none

/-- A time such as `1w2d03:04:05.6`. -/
def clockDuration (raw : List Char) : Option (Option ℚ) :=
  let (weeks, raw) := clockUnit 'w' raw
  let (days, raw) := clockUnit 'd' raw
  let (hours, minutes, seconds) :=
    match raw.splitOn ':' with
    | [hours, minutes, seconds] => (Text.parseDigits (String.ofList hours), minutes, seconds)
    | [minutes, seconds] => (some 0, minutes, seconds)
    | _ => (none, [], [])
  match hours, clockMinutes minutes, clockSeconds seconds with
  | some hours, some minutes, some (seconds, fraction) =>
    let total := addNumber (mulNumber weeks (some 604800)) (mulNumber days (some 86400))
    let total := addNumber total (mulNumber (Double.ofRat hours) (some 3600))
    let total := addNumber total (mulNumber (Double.ofRat minutes) (some 60))
    some (addNumber (addNumber total seconds) fraction)
  | _, _, _ => none

/-- What `parseRouterDurationSeconds` reads of a text. The inner `none` is an infinite
    number of seconds. -/
def readDuration (value : String) : Option (Option ℚ) :=
  let raw := (lowered value).toList
  if raw = [] then none
  else
    match sumDuration raw.length (some 0) raw with
    | some (some total) => some (some total)
    | _ => clockDuration raw

example : readDuration "1m30s" = some (some 90) := by decide +kernel

example : readDuration "00:01:30" = some (some 90) := by decide +kernel

example : readDuration "01:30" = some (some 90) := by decide +kernel

/-! ## Numbers -/

theorem parseDigits_ofList (ds : List Char) :
    Text.parseDigits (String.ofList ds) = if IsDigits ds then some (digitsValue ds) else none := by
  rw [Text.parseDigits, String.toList_ofList]
  refine if_congr ?_ rfl rfl
  rw [List.all_eq_true, IsDigits]

theorem isDigits_of_parseDigits {ds : List Char} {n : ℕ}
    (h : Text.parseDigits (String.ofList ds) = some n) : IsDigits ds ∧ n = digitsValue ds := by
  rw [parseDigits_ofList] at h
  split_ifs at h with hds
  exact ⟨hds, (Option.some.inj h).symm⟩

/-- A number in digits, with a fraction or without one. -/
theorem decimalValue_text {whole : List Char} {fraction : Option (List Char)}
    (hwhole : IsDigits whole) (hfraction : ∀ ds ∈ fraction, IsDigits ds) :
    (decimalValue (whole ++ fractionText fraction)).bind Double.ofRat =
        decimalNumber whole fraction ∧
      (decimalValue (whole ++ fractionText fraction)).isSome := by
  have hpoint : '.' ∉ whole := not_mem_of_isDigits hwhole (by decide)
  cases fraction with
  | none =>
    rw [fractionText, List.append_nil, decimalValue, List.splitOn_eq_singleton hpoint]
    simp only [parseDigits_ofList, if_pos hwhole, Option.map_some]
    exact ⟨rfl, rfl⟩
  | some ds =>
    have hds := hfraction ds rfl
    rw [fractionText, decimalValue, List.splitOn_append_cons_self_of_not_mem hpoint,
      List.splitOn_eq_singleton (not_mem_of_isDigits hds (by decide))]
    simp only [parseDigits_ofList, if_pos hwhole, if_pos hds]
    exact ⟨rfl, rfl⟩

theorem exists_text_of_decimalValue {number : List Char} {value : ℚ}
    (h : decimalValue number = some value) : ∃ whole fraction, IsDigits whole ∧
      (∀ ds ∈ fraction, IsDigits ds) ∧ number = whole ++ fractionText fraction := by
  have hjoin : ['.'].intercalate (number.splitOn '.') = number := List.intercalate_splitOn '.'
  rw [decimalValue] at h
  split at h
  · next whole hsplit =>
    rw [hsplit] at hjoin
    obtain ⟨n, hn, -⟩ := Option.map_eq_some_iff.1 h
    exact ⟨whole, none, (isDigits_of_parseDigits hn).1, by simp, by
      simpa [fractionText, List.intercalate] using hjoin.symm⟩
  · next whole fraction hsplit =>
    rw [hsplit] at hjoin
    split at h
    · next n m hn hm =>
      refine ⟨whole, some fraction, (isDigits_of_parseDigits hn).1, fun ds hds => ?_, ?_⟩
      · rw [← Option.some.inj hds]
        exact (isDigits_of_parseDigits hm).1
      · simpa [fractionText, List.intercalate] using hjoin.symm
    · exact absurd h (by simp)
  · exact absurd h (by simp)

/-! ## Numbers with units -/

theorem durationUnit_text {unit : DurationUnit} {rest : List Char}
    (hrest : ∀ c ∈ rest.head?, c.isDigit = true) :
    durationUnit (unit.text ++ rest) = some (unit.factor, rest) := by
  cases unit with
  | m =>
    cases rest with
    | nil => simp [durationUnit, DurationUnit.text, DurationUnit.factor, DurationUnit.seconds]
    | cons c rest =>
      have hc : c ≠ 's' := fun heq => absurd (hrest 's' (heq ▸ rfl)) (by decide)
      simp [durationUnit, DurationUnit.text, DurationUnit.factor, DurationUnit.seconds, hc]
  | ms => simp [durationUnit, DurationUnit.text, DurationUnit.factor]
  | w => simp [durationUnit, DurationUnit.text, DurationUnit.factor, DurationUnit.seconds]
  | d => simp [durationUnit, DurationUnit.text, DurationUnit.factor, DurationUnit.seconds]
  | h => simp [durationUnit, DurationUnit.text, DurationUnit.factor, DurationUnit.seconds]
  | s => simp [durationUnit, DurationUnit.text, DurationUnit.factor, DurationUnit.seconds]

theorem exists_text_of_durationUnit {cs rest : List Char} {factor : Option ℚ}
    (h : durationUnit cs = some (factor, rest)) :
    ∃ unit : DurationUnit, cs = unit.text ++ rest := by
  unfold durationUnit at h
  split at h
  · exact ⟨.ms, by simp_all [DurationUnit.text]⟩
  · exact ⟨.w, by simp_all [DurationUnit.text]⟩
  · exact ⟨.d, by simp_all [DurationUnit.text]⟩
  · exact ⟨.h, by simp_all [DurationUnit.text]⟩
  · exact ⟨.m, by simp_all [DurationUnit.text]⟩
  · exact ⟨.s, by simp_all [DurationUnit.text]⟩
  · exact absurd h (by simp)

/-- The characters of a number. -/
def isNumberChar (c : Char) : Bool := c.isDigit || c == '.'

theorem isNumberChar_of_text {whole : List Char} {fraction : Option (List Char)}
    (hwhole : IsDigits whole) (hfraction : ∀ ds ∈ fraction, IsDigits ds) :
    ∀ c ∈ whole ++ fractionText fraction, isNumberChar c = true := by
  intro c hc
  rcases List.mem_append.1 hc with hc | hc
  · rw [isNumberChar, hwhole.2 c hc, Bool.true_or]
  · rcases durationChar_of_fractionText hfraction c hc with hds | rfl
    · rw [isNumberChar, hds, Bool.true_or]
    · rfl

/-- What the reader takes for a number, and what it leaves for a unit. -/
theorem split_token {token : DurationToken} (h : token.WellFormed) (rest : List Char) :
    (token.text ++ rest).takeWhile isNumberChar = token.whole ++ fractionText token.fraction ∧
      (token.text ++ rest).dropWhile isNumberChar = token.unit.text ++ rest := by
  have hnumber := isNumberChar_of_text h.1 h.2
  have hunit : ∃ c more, token.unit.text = c :: more ∧ ¬isNumberChar c = true := by
    cases token.unit <;> exact ⟨_, _, rfl, by decide⟩
  obtain ⟨c, more, htext, hc⟩ := hunit
  have hsplit : token.text ++ rest =
      (token.whole ++ fractionText token.fraction) ++ (c :: (more ++ rest)) := by
    rw [DurationToken.text, htext]
    simp
  rw [hsplit, List.takeWhile_append_of_pos hnumber, List.dropWhile_append_of_pos hnumber,
    List.takeWhile_cons_of_neg hc, List.dropWhile_cons_of_neg hc, List.append_nil, htext]
  exact ⟨rfl, rfl⟩

/-- One token is read and added. -/
theorem sumDuration_token {token : DurationToken} (h : token.WellFormed) {rest : List Char}
    (hrest : ∀ c ∈ rest.head?, c.isDigit = true) (fuel : ℕ) (total : Option ℚ) :
    sumDuration (fuel + 1) total (token.text ++ rest) =
      sumDuration fuel (plus total token.value) rest := by
  have hchar : (fun c : Char => c.isDigit || c == '.') = isNumberChar := rfl
  obtain ⟨hread, hleft⟩ := split_token h rest
  obtain ⟨hnumber, hsome⟩ := decimalValue_text h.1 h.2
  obtain ⟨number, hvalue⟩ := Option.isSome_iff_exists.1 hsome
  have htoken : token.value = mulNumber (Double.ofRat number) token.unit.factor := by
    rw [DurationToken.value, ← hnumber, hvalue]
    rfl
  obtain ⟨c, more, hcons⟩ := List.exists_cons_of_ne_nil
    (List.append_ne_nil_of_left_ne_nil (text_ne_nil h) rest)
  rw [hcons] at hread hleft ⊢
  simp only [sumDuration, hchar, hread, hleft, hvalue, durationUnit_text hrest, htoken]
  rfl

theorem sumDuration_tokens {tokens : List DurationToken}
    (h : ∀ token ∈ tokens, token.WellFormed) {fuel : ℕ}
    (hfuel : (tokens.flatMap DurationToken.text).length ≤ fuel) (total : Option ℚ) :
    sumDuration fuel total (tokens.flatMap DurationToken.text) =
      some (tokens.foldl (fun total token => plus total token.value) total) := by
  induction tokens generalizing fuel total with
  | nil => cases fuel <;> rfl
  | cons token tokens ih =>
    obtain ⟨htoken, hrest⟩ := List.forall_mem_cons.1 h
    rw [List.flatMap_cons] at hfuel ⊢
    have hpos := List.length_pos_of_ne_nil (text_ne_nil htoken)
    rw [List.length_append] at hfuel
    obtain ⟨fuel, rfl⟩ : ∃ k, fuel = k + 1 := ⟨fuel - 1, by omega⟩
    rw [sumDuration_token htoken (head?_tokens hrest), ih hrest (by omega), List.foldl_cons]

/-- What the reader of numbers with units reads consists of them. -/
theorem exists_tokens_of_sumDuration {fuel : ℕ} {total result : Option ℚ} {raw : List Char}
    (h : sumDuration fuel total raw = some result) : ∃ tokens : List DurationToken,
      (∀ token ∈ tokens, token.WellFormed) ∧ raw = tokens.flatMap DurationToken.text := by
  induction fuel generalizing total raw with
  | zero =>
    cases raw with
    | nil => exact ⟨[], List.forall_mem_nil _, rfl⟩
    | cons c raw => exact absurd h (by simp [sumDuration])
  | succ fuel ih =>
    cases raw with
    | nil => exact ⟨[], List.forall_mem_nil _, rfl⟩
    | cons c raw =>
      simp only [sumDuration] at h
      split at h
      · next number factor rest hnumber hunit =>
        obtain ⟨whole, fraction, hwhole, hfraction, hread⟩ := exists_text_of_decimalValue hnumber
        obtain ⟨unit, hleft⟩ := exists_text_of_durationUnit hunit
        obtain ⟨tokens, htokens, rfl⟩ := ih h
        refine ⟨⟨whole, fraction, unit⟩ :: tokens,
          List.forall_mem_cons.2 ⟨⟨hwhole, hfraction⟩, htokens⟩, ?_⟩
        rw [← List.takeWhile_append_dropWhile (p := fun c : Char => c.isDigit || c == '.')
          (l := c :: raw), hread, hleft]
        simp [DurationToken.text]
      · exact absurd h (by simp)

/-! ## Clocks -/

/-- A marked number that may be left out, before a text without the mark. -/
theorem clockUnit_text {mark : Char} {o : Option (List Char)} {rest : List Char}
    (hmark : mark.isDigit = false) (ho : ∀ ds ∈ o, IsDigits ds) (hrest : mark ∉ rest) :
    clockUnit mark (markedText mark o ++ rest) = (decimalNumber (o.getD ['0']) none, rest) := by
  cases o with
  | some ds =>
    have hds := ho ds rfl
    have hsplit : markedText mark (some ds) ++ rest = ds ++ mark :: rest := by simp [markedText]
    have hstop : ¬mark.isDigit = true := by simp [hmark]
    rw [hsplit, clockUnit, List.takeWhile_append_of_pos hds.2, List.dropWhile_append_of_pos hds.2,
      List.takeWhile_cons_of_neg hstop, List.dropWhile_cons_of_neg hstop, List.append_nil,
      parseDigits_ofList, if_pos hds]
    exact if_pos rfl
  | none =>
    have hnone : clockUnit mark rest = (some 0, rest) := by
      unfold clockUnit
      split
      · next n c later hdigits hleft =>
        have hmem : c ∈ rest := (List.dropWhile_suffix _).subset (hleft ▸ List.mem_cons_self)
        have hne : c ≠ mark := fun heq => hrest (heq ▸ hmem)
        exact if_neg hne
      · rfl
    have hzero : digitsValue ['0'] = 0 := rfl
    rw [markedText, List.nil_append, hnone, Option.getD_none, decimalNumber, hzero,
      Double.ofRat_natCast (by decide), Nat.cast_zero]

/-- A marked number is taken away, or nothing is. -/
theorem exists_text_of_clockUnit (mark : Char) (raw : List Char) : ∃ o : Option (List Char),
    (∀ ds ∈ o, IsDigits ds) ∧ raw = markedText mark o ++ (clockUnit mark raw).2 := by
  unfold clockUnit
  split
  · next n c rest hdigits hleft =>
    split_ifs with hc
    · refine ⟨some (raw.takeWhile Char.isDigit), fun ds hds => ?_, ?_⟩
      · rw [← Option.some.inj hds]
        exact (isDigits_of_parseDigits hdigits).1
      · rw [markedText, ← hc, List.append_assoc, List.singleton_append, ← hleft,
          List.takeWhile_append_dropWhile]
    · exact ⟨none, by simp, rfl⟩
  · exact ⟨none, by simp, rfl⟩

theorem clockMinutes_eq_some {raw : List Char} {n : ℕ} : clockMinutes raw = some n ↔
    (IsDigits raw ∧ 1 ≤ raw.length ∧ raw.length ≤ 2) ∧ n = digitsValue raw := by
  rw [clockMinutes, parseDigits_ofList]
  constructor
  · intro h
    split_ifs at h with hlength hdigits
    exact ⟨⟨hdigits, List.length_pos_of_ne_nil hdigits.1, hlength⟩, (Option.some.inj h).symm⟩
  · rintro ⟨⟨hdigits, -, hlength⟩, rfl⟩
    rw [if_pos hlength, if_pos hdigits]

theorem twoDigits_eq_some {raw : List Char} {n : ℕ} : clockSeconds.twoDigits raw = some n ↔
    (IsDigits raw ∧ 2 ≤ raw.length ∧ raw.length ≤ 2) ∧ n = digitsValue raw := by
  rw [clockSeconds.twoDigits, parseDigits_ofList]
  constructor
  · intro h
    split_ifs at h with hlength hdigits
    exact ⟨⟨hdigits, hlength.ge, hlength.le⟩, (Option.some.inj h).symm⟩
  · rintro ⟨⟨hdigits, hlow, hhigh⟩, rfl⟩
    rw [if_pos (hhigh.antisymm hlow), if_pos hdigits]

theorem clockSeconds_text {seconds : List Char} {fraction : Option (List Char)}
    (hseconds : IsDigits seconds ∧ 2 ≤ seconds.length ∧ seconds.length ≤ 2)
    (hfraction : ∀ ds ∈ fraction, IsDigits ds) :
    clockSeconds (seconds ++ fractionText fraction) =
      some (decimalNumber seconds none, decimalNumber ['0'] (some (fraction.getD ['0']))) := by
  have hpoint : '.' ∉ seconds := not_mem_of_isDigits hseconds.1 (by decide)
  have htwo := twoDigits_eq_some.2 ⟨hseconds, rfl⟩
  have hzero : digitsValue ['0'] = 0 := rfl
  cases fraction with
  | none =>
    have hnone : decimalNumber ['0'] (some ['0']) = some 0 := by
      have hexact := Double.ofRat_natCast (n := 0) (by decide)
      rw [Nat.cast_zero] at hexact
      simp [decimalNumber, hzero, hexact]
    rw [fractionText, List.append_nil, clockSeconds, List.splitOn_eq_singleton hpoint]
    simp only [htwo, Option.getD_none, hnone]
    rfl
  | some ds =>
    have hds := hfraction ds rfl
    have hpart :
        decimalNumber ['0'] (some ds) = Double.ofRat (digitsValue ds / 10 ^ ds.length) := by
      rw [decimalNumber, hzero, Nat.cast_zero, zero_add]
    rw [fractionText, clockSeconds, List.splitOn_append_cons_self_of_not_mem hpoint,
      List.splitOn_eq_singleton (not_mem_of_isDigits hds (by decide))]
    simp only [htwo, parseDigits_ofList, if_pos hds, Option.getD_some, hpart]
    rfl

theorem exists_text_of_clockSeconds {raw : List Char} {value : Option ℚ × Option ℚ}
    (h : clockSeconds raw = some value) : ∃ seconds fraction,
      (IsDigits seconds ∧ 2 ≤ seconds.length ∧ seconds.length ≤ 2) ∧
      (∀ ds ∈ fraction, IsDigits ds) ∧ raw = seconds ++ fractionText fraction := by
  have hjoin : ['.'].intercalate (raw.splitOn '.') = raw := List.intercalate_splitOn '.'
  rw [clockSeconds] at h
  split at h
  · next seconds hsplit =>
    rw [hsplit] at hjoin
    obtain ⟨value, hvalue, -⟩ := Option.map_eq_some_iff.1 h
    obtain ⟨n, hn, -⟩ := Option.bind_eq_some_iff.1 hvalue
    exact ⟨seconds, none, (twoDigits_eq_some.1 hn).1, by simp, by
      simpa [fractionText, List.intercalate] using hjoin.symm⟩
  · next seconds fraction hsplit =>
    rw [hsplit] at hjoin
    split at h
    · next n m hn hm =>
      refine ⟨seconds, some fraction, (twoDigits_eq_some.1 hn).1, fun ds hds => ?_, ?_⟩
      · rw [← Option.some.inj hds]
        exact (isDigits_of_parseDigits hm).1
      · simpa [fractionText, List.intercalate] using hjoin.symm
    · exact absurd h (by simp)
  · exact absurd h (by simp)

/-- A clock is read as its seconds. -/
theorem clockDuration_text {clock : RouterClockParts} (h : clock.WellFormed) :
    clockDuration clock.text = some clock.value := by
  have hweeks := clockUnit_text (by decide) h.weeks (not_mem_daysText h)
  have hnoDay : 'd' ∉ timeText clock := not_mem_timeText h (by decide)
  have hdays := clockUnit_text (by decide) h.days hnoDay
  have hminutes := clockMinutes_eq_some.2 ⟨h.minutes, rfl⟩
  have hseconds := clockSeconds_text h.seconds h.fraction
  have hcolon : ':' ∉ clock.minutes := not_mem_of_isDigits h.minutes.1 (by decide)
  have htail := colon_not_mem_secondsText h
  have htext : clock.text =
      markedText 'w' clock.weeks ++ (markedText 'd' clock.days ++ timeText clock) := rfl
  rw [htext, clockDuration, hweeks]
  simp only [hdays]
  cases hhours : clock.hours with
  | none =>
    have hsplit : (timeText clock).splitOn ':' =
        [clock.minutes, clock.seconds ++ fractionText clock.fraction] := by
      rw [timeText, hhours, markedText, List.nil_append,
        List.splitOn_append_cons_self_of_not_mem hcolon, List.splitOn_eq_singleton htail]
    simp only [hsplit, hminutes, hseconds]
    rw [RouterClockParts.value, hhours]
    rfl
  | some ds =>
    have hds := h.hours ds hhours
    have hsplit : (timeText clock).splitOn ':' =
        [ds, clock.minutes, clock.seconds ++ fractionText clock.fraction] := by
      rw [timeText, hhours, markedText, List.append_assoc, List.singleton_append,
        List.splitOn_append_cons_self_of_not_mem (not_mem_of_isDigits hds (by decide)),
        List.splitOn_append_cons_self_of_not_mem hcolon, List.splitOn_eq_singleton htail]
    simp only [hsplit, parseDigits_ofList, if_pos hds, hminutes, hseconds]
    rw [RouterClockParts.value, hhours]
    rfl

/-- What the reader of clocks reads is a clock. -/
theorem isClock_of_clockDuration {raw : List Char} {value : Option ℚ}
    (h : clockDuration raw = some value) : IsClock raw := by
  obtain ⟨weeks, hweeks, hraw⟩ := exists_text_of_clockUnit 'w' raw
  obtain ⟨days, hdays, hrest⟩ := exists_text_of_clockUnit 'd' (clockUnit 'w' raw).2
  simp only [clockDuration] at h
  generalize (clockUnit 'd' (clockUnit 'w' raw).2).2 = time at h hrest
  have hjoin : [':'].intercalate (time.splitOn ':') = time := List.intercalate_splitOn ':'
  have hclock : ∀ (hours : Option (List Char)) {minutes seconds : List Char} {n : ℕ}
      {read : Option ℚ × Option ℚ}, (∀ ds ∈ hours, IsDigits ds) → clockMinutes minutes = some n →
      clockSeconds seconds = some read →
      time = markedText ':' hours ++ (minutes ++ ':' :: seconds) → IsClock raw := by
    intro hours minutes seconds n read hhours hminutes hseconds htime
    obtain ⟨seconds, fraction, hdigits, hfraction, rfl⟩ := exists_text_of_clockSeconds hseconds
    exact ⟨⟨weeks, days, hours, minutes, seconds, fraction⟩,
      ⟨hweeks, hdays, hhours, (clockMinutes_eq_some.1 hminutes).1, hdigits, hfraction⟩, by
        rw [hraw, hrest, htime, RouterClockParts.text]⟩
  split at h
  · next hours minutes seconds hhours hminutes hseconds =>
    split at hhours
    · next front middle back hsplit =>
      rw [hsplit] at hjoin hminutes hseconds
      refine hclock (some front) (fun ds hds => ?_) hminutes hseconds ?_
      · rw [← Option.some.inj hds]
        exact (isDigits_of_parseDigits hhours).1
      · simpa [markedText, List.intercalate] using hjoin.symm
    · next middle back hsplit =>
      rw [hsplit] at hjoin hminutes hseconds
      refine hclock none (by simp) hminutes hseconds ?_
      simpa [markedText, List.intercalate] using hjoin.symm
    · exact absurd hhours (by simp)
  · exact absurd h (by simp)

/-! ## The readers agree -/

/-- The reader of clocks finds what the pattern of clocks does. -/
theorem clockDuration_eq (raw : List Char) :
    clockDuration raw = (matchWhole clockPattern raw).map RouterClockParts.value := by
  cases hmatch : matchWhole clockPattern raw with
  | some clock =>
    obtain ⟨hform, rfl⟩ := mem_clockPattern.1 (mem_of_matchWhole hmatch)
    exact clockDuration_text hform
  | none =>
    cases hread : clockDuration raw with
    | none => rfl
    | some value =>
      obtain ⟨clock, hform, rfl⟩ := isClock_of_clockDuration hread
      exact absurd (hmatch.symm.trans (matchWhole_clock hform)) (by simp)

/-- The reader of numbers with units finds what their pattern does. -/
theorem sumDuration_eq {raw : List Char} (hne : raw ≠ []) :
    sumDuration raw.length (some 0) raw =
      if (matchAll tokenPattern 0 raw).flatMap Prod.snd = raw then
        some ((matchAll tokenPattern 0 raw).foldl (fun total token => plus total token.1.value)
          (some 0))
      else none := by
  split_ifs with hfound
  · obtain ⟨tokens, -, htokens, rfl⟩ := isTokenSequence_of_matchAll hne hfound
    rw [sumDuration_tokens htokens le_rfl, matchAll_tokens htokens, List.foldl_map]
  · cases hread : sumDuration raw.length (some 0) raw with
    | none => rfl
    | some total =>
      obtain ⟨tokens, htokens, rfl⟩ := exists_tokens_of_sumDuration hread
      refine absurd ?_ hfound
      rw [matchAll_tokens htokens, List.flatMap_map]

/-- The two readers of durations are the same function. -/
theorem readDuration_eq (value : String) :
    readDuration value = parseRouterDurationSeconds asciiLowerCase (some value) := by
  have hraw : (lowered value).toList = (asciiLowerCase (Text.trim value)).toList := by
    simp [lowered, asciiLowerCase]
  simp only [readDuration, parseRouterDurationSeconds, hraw]
  generalize (asciiLowerCase (Text.trim value)).toList = raw
  by_cases hempty : raw = []
  · rw [if_pos hempty, if_pos hempty]
  · rw [if_neg hempty, if_neg hempty, sumDuration_eq hempty, clockDuration_eq]
    by_cases hfound : (matchAll tokenPattern 0 raw).flatMap Prod.snd = raw
    · rw [if_pos hfound]
      cases (matchAll tokenPattern 0 raw).foldl (fun total token => plus total token.1.value)
          (some 0) with
      | none => exact (if_neg fun hand => Bool.false_ne_true hand.2).symm
      | some total => exact (if_pos ⟨hfound, rfl⟩).symm
    · rw [if_neg hfound, if_neg fun hand => hfound hand.1]

end WireguardPanel
