import WireguardPanel.Foundation.Double
import WireguardPanel.Foundation.Pattern
import WireguardPanel.QuotaWindow

/-!
# The clock of a router

How far the clock of a router is ahead, from the date and the time that it shows
and the name of its time zone.

* `routerClockDifferenceSeconds`: the difference. The local time is taken for a
  moment, at which the time zone is asked for its offset.
* `IsRight`: the router shows the local time of a moment.
* `routerClockDifferenceSeconds_of_isRight`: the difference for a clock that is
  right. `routerClockDifferenceSeconds_iff`: it is that of the moment just when
  the time zone shifts the local time as it has shifted the moment.
* `shiftKept_iff`: for offsets in whole seconds, when the offset is the same at
  both.
-/

namespace WireguardPanel

open Foundation Pattern Gregorian

/-- `RouterClock`. -/
structure RouterClock where
  date : String
  time : String
  timeZoneName : Option String

/-! ## Dates -/

/-- The characters `\w`. -/
def isWordChar (c : Char) : Bool := c.isAlphanum || c == '_'

/-- `(\d{4})-(\d{2})-(\d{2})`. -/
def isoDatePattern : Pattern (List Char × List Char × List Char) :=
  followedBy (exactly Char.isDigit 4) fun year =>
  followedBy (literal ['-']) fun _ =>
  followedBy (exactly Char.isDigit 2) fun month =>
  followedBy (literal ['-']) fun _ =>
  followedBy (exactly Char.isDigit 2) fun day =>
  constant (year, month, day)

/-- `(\w{3})\/(\d{1,2})\/(\d{4})`. -/
def slashDatePattern : Pattern (List Char × List Char × List Char) :=
  followedBy (exactly isWordChar 3) fun month =>
  followedBy (literal ['/']) fun _ =>
  followedBy (digitsBetween 1 2) fun day =>
  followedBy (literal ['/']) fun _ =>
  followedBy (exactly Char.isDigit 4) fun year =>
  constant (month, day, year)

/-- `(\d{2}):(\d{2}):(\d{2})`. -/
def timePattern : Pattern (List Char × List Char × List Char) :=
  followedBy (exactly Char.isDigit 2) fun hour =>
  followedBy (literal [':']) fun _ =>
  followedBy (exactly Char.isDigit 2) fun minute =>
  followedBy (literal [':']) fun _ =>
  followedBy (exactly Char.isDigit 2) fun second =>
  constant (hour, minute, second)

/-- The names of the months. -/
def monthNames : List (List Char) :=
  ["jan", "feb", "mar", "apr", "may", "jun", "jul", "aug", "sep", "oct", "nov", "dec"].map
    String.toList

/-- The number of a month, in two digits. -/
def monthNumber (name : List Char) : Option (List Char) :=
  (monthNames.findIdx? (· = name)).map fun index => padded 2 (index + 1)

/-- `normalizeRouterDate`. -/
def normalizeRouterDate (value : String) : Option String :=
  let raw := Text.trim value
  if (matchWhole isoDatePattern raw.toList).isSome then some raw
  else
    match matchWhole slashDatePattern raw.toList with
    | none => none
    | some (month, day, year) =>
      (monthNumber (month.map Char.toLower)).map fun number => String.ofList
        (year ++ '-' :: (number ++ '-' :: (List.replicate (2 - day.length) '0' ++ day)))

/-- The parts of a date and a time in UTC. -/
def isoInstantPattern : Pattern LocalParts :=
  followedBy isoDatePattern fun date =>
  followedBy (literal ['T']) fun _ =>
  followedBy timePattern fun time =>
  followedBy (literal ['Z']) fun _ =>
  constant ⟨digitsValue date.1, digitsValue date.2.1, digitsValue date.2.2, digitsValue time.1,
    digitsValue time.2.1, digitsValue time.2.2⟩

/-- The moment of parts, whose year is taken as it is. -/
def partsInstant (parts : LocalParts) : ℤ :=
  makeDay parts.year parts.month parts.day * 86400000 + parts.hour * 3600000 +
    parts.minute * 60000 + parts.second * 1000

/-- `new Date(text).getTime()` of a date and a time in UTC. A day that the month
    does not have is one of the next month, and midnight may be hour 24 of the
    day before. -/
def isoInstant (text : String) : Option ℤ :=
  match matchWhole isoInstantPattern text.toList with
  | none => none
  | some parts =>
    if (1 ≤ parts.month ∧ parts.month ≤ 12) ∧ (1 ≤ parts.day ∧ parts.day ≤ 31) ∧
        parts.minute ≤ 59 ∧ parts.second ≤ 59 ∧
        (parts.hour ≤ 23 ∨ (parts.hour = 24 ∧ parts.minute = 0 ∧ parts.second = 0)) then
      some (partsInstant parts)
    else none

/-! ## The difference -/

/-- The parts that `Intl.DateTimeFormat` renders. It counts the years before the
    year 1 backwards. -/
def renderedParts (t : ℤ) : LocalParts :=
  { utcParts t with
    year := if (utcParts t).year ≤ 0 then 1 - (utcParts t).year else (utcParts t).year }

/-- `routerClockDifferenceSeconds`. The quotient of two numbers of milliseconds is
    rounded as the exact one is. -/
def routerClockDifferenceSeconds (P : Platform) (clock : RouterClock) (observedAt : ℤ) :
    Option ℤ :=
  match normalizeRouterDate clock.date with
  | none => none
  | some date =>
    if timePattern clock.time.toList = [] then none
    else
      match isoInstant (date ++ "T" ++ String.ofList (clock.time.toList.take 8) ++ "Z") with
      | none => none
      | some components =>
        let difference := fun instant : ℤ =>
          Double.round (((instant - observedAt : ℤ) : ℚ) / 1000)
        if clock.timeZoneName.getD "" = "" then some (difference components)
        else
          match P.timeZone (clock.timeZoneName.getD "") with
          | none => none
          | some offset =>
            let represented := dateUtc (renderedParts (components + offset components))
            some (difference (components - (represented - components)))

/-! ## A clock that is right -/

/-- The date as `2026-01-02`. -/
def isoDate (year month day : ℕ) : List Char :=
  padded 4 year ++ '-' :: (padded 2 month ++ '-' :: padded 2 day)

/-- The date as `jan/02/2026`. -/
def slashDate (year month day : ℕ) : List Char :=
  monthNames.getD (month - 1) [] ++ '/' :: (padded 2 day ++ '/' :: padded 4 year)

/-- The time as `03:04:05`. -/
def clockTime (hour minute second : ℕ) : List Char :=
  padded 2 hour ++ ':' :: (padded 2 minute ++ ':' :: padded 2 second)

/-- The clock shows the local time of the moment `t`, with four digits for the
    year. -/
structure IsRight (offset : ℤ → ℤ) (t : ℤ) (clock : RouterClock) : Prop where
  year : 0 ≤ (utcParts (t + offset t)).year ∧ (utcParts (t + offset t)).year ≤ 9999
  date : ∃ text ∈ [isoDate, slashDate], clock.date = String.ofList (text
    (utcParts (t + offset t)).year.toNat (utcParts (t + offset t)).month.toNat
    (utcParts (t + offset t)).day.toNat)
  time : clock.time = String.ofList (clockTime (utcParts (t + offset t)).hour.toNat
    (utcParts (t + offset t)).minute.toNat (utcParts (t + offset t)).second.toNat)

/-- The local time of a moment in whole seconds, as if it were UTC. -/
def localSecond (offset : ℤ → ℤ) (t : ℤ) : ℤ := (t + offset t) - (t + offset t) % 1000

/-! ## Reading the texts -/

theorem isoDatePattern_isoDate (year month day : ℕ) (rest : List Char) :
    isoDatePattern (isoDate year month day ++ rest) =
      [((padded 4 year, padded 2 month, padded 2 day), rest)] := by
  have hdigits : ∀ {k n}, ∀ c ∈ padded k n, c.isDigit = true := fun _ hc => isDigit_of_mem_padded hc
  rw [isoDate, List.append_assoc, List.cons_append, List.append_assoc, List.cons_append,
    isoDatePattern, followedBy_of_eq (exactly_append (length_padded 4 year) hdigits _),
    followedBy_of_eq (literal_cons _ _),
    followedBy_of_eq (exactly_append (length_padded 2 month) hdigits _),
    followedBy_of_eq (literal_cons _ _),
    followedBy_of_eq (exactly_append (length_padded 2 day) hdigits _)]
  rfl

theorem timePattern_clockTime (hour minute second : ℕ) (rest : List Char) :
    timePattern (clockTime hour minute second ++ rest) =
      [((padded 2 hour, padded 2 minute, padded 2 second), rest)] := by
  have hdigits : ∀ {k n}, ∀ c ∈ padded k n, c.isDigit = true := fun _ hc => isDigit_of_mem_padded hc
  rw [clockTime, List.append_assoc, List.cons_append, List.append_assoc, List.cons_append,
    timePattern, followedBy_of_eq (exactly_append (length_padded 2 hour) hdigits _),
    followedBy_of_eq (literal_cons _ _),
    followedBy_of_eq (exactly_append (length_padded 2 minute) hdigits _),
    followedBy_of_eq (literal_cons _ _),
    followedBy_of_eq (exactly_append (length_padded 2 second) hdigits _)]
  rfl

/-- One or two digits before a character that is none. -/
theorem digitsBetween_padded (n : ℕ) {c : Char} (hc : c.isDigit = false) (rest : List Char) :
    digitsBetween 1 2 (padded 2 n ++ c :: rest) =
      [(padded 2 n, c :: rest), ([Nat.digitChar (n / 10 % 10)],
        Nat.digitChar (n % 10) :: c :: rest)] := by
  have hdigit : ∀ m, (Nat.digitChar (m % 10)).isDigit = true := fun m => by
    have hall : ∀ m < 10, (Nat.digitChar m).isDigit = true := by decide
    exact hall _ (Nat.mod_lt m (by decide))
  simp [digitsBetween, digits, padded, hdigit, hc]

/-- The name of a month is a word of three small letters, which is found again. -/
theorem monthNames_spec {month : ℕ} (h : 1 ≤ month) (h' : month ≤ 12) :
    ∃ a b c, monthNames.getD (month - 1) [] = [a, b, c] ∧
      (∀ d ∈ [a, b, c], isWordChar d = true ∧ d.isDigit = false ∧ Text.isSpace d = false ∧
        d.toLower = d) ∧
      monthNumber [a, b, c] = some (padded 2 month) := by
  have hall : ∀ m < 12, (monthNames.getD m []).length = 3 ∧
      ((monthNames.getD m []).all fun d =>
        isWordChar d && !d.isDigit && !Text.isSpace d && d.toLower == d) = true ∧
      monthNumber (monthNames.getD m []) = some (padded 2 (m + 1)) := by decide
  obtain ⟨hlength, hchars, hnumber⟩ := hall (month - 1) (by omega)
  obtain ⟨a, b, c, hname⟩ := List.length_eq_three.1 hlength
  rw [hname] at hchars hnumber
  rw [Nat.sub_add_cancel h] at hnumber
  refine ⟨a, b, c, hname, fun d hd => ?_, hnumber⟩
  have hd' := List.all_eq_true.1 hchars d hd
  simp only [Bool.and_eq_true, Bool.not_eq_true', beq_iff_eq] at hd'
  exact ⟨hd'.1.1.1, hd'.1.1.2, hd'.1.2, hd'.2⟩

theorem slashDatePattern_slashDate (year day : ℕ) {month : ℕ} (hmonth : 1 ≤ month)
    (hmonth' : month ≤ 12) :
    slashDatePattern (slashDate year month day) =
      [((monthNames.getD (month - 1) [], padded 2 day, padded 4 year), [])] := by
  obtain ⟨a, b, c, hname, hchars, -⟩ := monthNames_spec hmonth hmonth'
  have hyear := exactly_append (length_padded 4 year)
    (fun c hc => isDigit_of_mem_padded hc : ∀ c ∈ padded 4 year, c.isDigit = true) []
  rw [List.append_nil] at hyear
  have hdigit : ∀ m < 10, Nat.digitChar m ≠ '/' := by decide
  have hslash : literal ['/'] (Nat.digitChar (day % 10) :: '/' :: padded 4 year) = [] := by
    simp [literal, (hdigit _ (Nat.mod_lt day (by decide))).symm]
  have hthree : [a, b, c].length = 3 := rfl
  rw [slashDate, slashDatePattern, hname,
    followedBy_of_eq (exactly_append hthree (fun d hd => (hchars d hd).1) _),
    followedBy_of_eq (literal_cons _ _), followedBy, digitsBetween_padded day (by decide)]
  -- A day of one digit would have to be followed by a slash.
  simp only [List.flatMap_cons, List.flatMap_nil, List.append_nil,
    followedBy_of_eq (literal_cons _ _), followedBy_of_eq hyear]
  rw [followedBy, hslash]
  rfl

/-- A date in the other form is not taken for one in the first form. -/
theorem isoDatePattern_slashDate (year day : ℕ) {month : ℕ} (hmonth : 1 ≤ month)
    (hmonth' : month ≤ 12) :
    isoDatePattern (slashDate year month day) = [] := by
  obtain ⟨a, b, c, hname, hchars, -⟩ := monthNames_spec hmonth hmonth'
  rw [slashDate, hname, isoDatePattern, followedBy, List.cons_append,
    exactly_cons_of_not (hchars a List.mem_cons_self).2.1]
  rfl

/-- Both forms of a date are brought into the first one. -/
theorem normalizeRouterDate_date (year day : ℕ) {month : ℕ} (hmonth : 1 ≤ month)
    (hmonth' : month ≤ 12)
    {text : ℕ → ℕ → ℕ → List Char} (htext : text ∈ [isoDate, slashDate]) :
    normalizeRouterDate (String.ofList (text year month day)) =
      some (String.ofList (isoDate year month day)) := by
  obtain ⟨a, b, c, hname, hchars, hnumber⟩ := monthNames_spec hmonth hmonth'
  have hpadded : ∀ {k n : ℕ}, ∀ d ∈ padded k n, Text.isSpace d = false := fun d hd =>
    Text.isSpace_of_isDigit (isDigit_of_mem_padded hd)
  have htrim : ∀ cs : List Char, (∀ d ∈ cs, Text.isSpace d = false) →
      Text.trim (String.ofList cs) = String.ofList cs := fun cs hcs =>
    Text.trim_eq_self fun d hd => hcs d (by rwa [String.toList_ofList] at hd)
  simp only [List.mem_cons, List.not_mem_nil, or_false] at htext
  rcases htext with rfl | rfl
  · have hspace : ∀ d ∈ isoDate year month day, Text.isSpace d = false := by
      intro d hd
      simp only [isoDate, List.mem_append, List.mem_cons] at hd
      rcases hd with hd | rfl | hd | rfl | hd
      · exact hpadded d hd
      · decide
      · exact hpadded d hd
      · decide
      · exact hpadded d hd
    have hmatch := isoDatePattern_isoDate year month day []
    rw [List.append_nil] at hmatch
    rw [normalizeRouterDate, htrim _ hspace]
    simp only [String.toList_ofList, matchWhole_of_eq hmatch, Option.isSome_some, if_true]
  · have hspace : ∀ d ∈ slashDate year month day, Text.isSpace d = false := by
      intro d hd
      rw [slashDate, hname] at hd
      rcases List.mem_append.1 hd with hd | hd
      · exact (hchars d hd).2.2.1
      · simp only [List.mem_append, List.mem_cons] at hd
        rcases hd with rfl | hd | rfl | hd
        · decide
        · exact hpadded d hd
        · decide
        · exact hpadded d hd
    have hlower : [a, b, c].map Char.toLower = [a, b, c] :=
      (List.map_congr_left fun d hd => (hchars d hd).2.2.2).trans (List.map_id' _)
    rw [normalizeRouterDate, htrim _ hspace]
    simp only [String.toList_ofList,
      matchWhole_of_nil (isoDatePattern_slashDate year day hmonth hmonth'),
      matchWhole_of_eq (slashDatePattern_slashDate year day hmonth hmonth'),
      Option.isSome_none, Bool.false_eq_true, if_false, hname, hlower, hnumber, Option.map_some,
      length_padded, Nat.sub_self, List.replicate_zero, List.nil_append]
    rfl

/-! ## The moment that is shown -/

theorem isoInstant_isoDate {year month day hour minute second : ℕ} (hyear : year ≤ 9999)
    (hmonth : 1 ≤ month) (hmonth' : month ≤ 12) (hday : 1 ≤ day) (hday' : day ≤ 31)
    (hhour : hour ≤ 23) (hminute : minute ≤ 59) (hsecond : second ≤ 59) :
    isoInstant (String.ofList (isoDate year month day) ++ "T" ++
      String.ofList ((clockTime hour minute second).take 8) ++ "Z") =
        some (partsInstant ⟨year, month, day, hour, minute, second⟩) := by
  have hlength : (clockTime hour minute second).length = 8 := by
    simp [clockTime]
  have htext : (String.ofList (isoDate year month day) ++ "T" ++
      String.ofList ((clockTime hour minute second).take 8) ++ "Z").toList =
        isoDate year month day ++ 'T' :: (clockTime hour minute second ++ ['Z']) := by
    rw [List.take_of_length_le hlength.le]
    simp
  have hmatch : isoInstantPattern (isoDate year month day ++
      'T' :: (clockTime hour minute second ++ ['Z'])) =
        [(⟨year, month, day, hour, minute, second⟩, [])] := by
    rw [isoInstantPattern, followedBy_of_eq (isoDatePattern_isoDate year month day _),
      followedBy_of_eq (literal_cons _ _),
        followedBy_of_eq (timePattern_clockTime hour minute second _),
      followedBy_of_eq (literal_cons _ _)]
    simp only [constant, digitsValue_padded (show year < 10 ^ 4 by omega),
      digitsValue_padded (show month < 10 ^ 2 by omega),
      digitsValue_padded (show day < 10 ^ 2 by omega),
      digitsValue_padded (show hour < 10 ^ 2 by omega),
      digitsValue_padded (show minute < 10 ^ 2 by omega),
      digitsValue_padded (show second < 10 ^ 2 by omega)]
  simp only [isoInstant, htext, matchWhole_of_eq hmatch]
  exact if_pos ⟨by omega, by omega, by omega, by omega, by omega⟩

/-- The parts of a moment are within their bounds, and they are its seconds. -/
theorem partsInstant_utcParts (t : ℤ) : partsInstant (utcParts t) = t - t % 1000 := by
  have hday := makeDay_civil (t / 86400000)
  simp only [partsInstant, utcParts, hday]
  omega

theorem utcParts_bounds (t : ℤ) :
    (1 ≤ (utcParts t).month ∧ (utcParts t).month ≤ 12) ∧
      (1 ≤ (utcParts t).day ∧ (utcParts t).day ≤ 31) ∧
      (0 ≤ (utcParts t).hour ∧ (utcParts t).hour ≤ 23) ∧
      (0 ≤ (utcParts t).minute ∧ (utcParts t).minute ≤ 59) ∧
      0 ≤ (utcParts t).second ∧ (utcParts t).second ≤ 59 := by
  have hdate := civil_bounds (t / 86400000)
  simp only [utcParts]
  omega

/-- The difference for a clock that is right: the local time is taken for a
    moment, and then corrected by the shift of the time zone there. -/
theorem routerClockDifferenceSeconds_of_isRight {P : Platform} {name : String} {offset : ℤ → ℤ}
    {t : ℤ} {clock : RouterClock} (hname : name ≠ "") (hzone : P.timeZone name = some offset)
    (hclock : clock.timeZoneName = some name) (h : IsRight offset t clock) (observedAt : ℤ) :
    routerClockDifferenceSeconds P clock observedAt = some (Double.round
      (((localSecond offset t -
        (dateUtc (renderedParts (localSecond offset t + offset (localSecond offset t))) -
          localSecond offset t) - observedAt : ℤ) : ℚ) / 1000)) := by
  obtain ⟨hyear, ⟨text, htext, hdate⟩, htime⟩ := h
  set parts := utcParts (t + offset t) with hparts
  obtain ⟨⟨hmonth, hmonth'⟩, ⟨hday, hday'⟩, ⟨hhour, hhour'⟩, ⟨hminute, hminute'⟩, hsecond,
    hsecond'⟩ := utcParts_bounds (t + offset t)
  rw [← hparts] at hmonth hmonth' hday hday' hhour hhour' hminute hminute' hsecond hsecond'
  have hmonthNat : 1 ≤ parts.month.toNat ∧ parts.month.toNat ≤ 12 := by omega
  have hdayNat : 1 ≤ parts.day.toNat ∧ parts.day.toNat ≤ 31 := by omega
  have hyearNat : parts.year.toNat ≤ 9999 := by omega
  have htimeNat : parts.hour.toNat ≤ 23 ∧ parts.minute.toNat ≤ 59 ∧ parts.second.toNat ≤ 59 := by
    omega
  have hnormal := normalizeRouterDate_date parts.year.toNat parts.day.toNat hmonthNat.1 hmonthNat.2
    htext
  have hshown := timePattern_clockTime parts.hour.toNat parts.minute.toNat parts.second.toNat []
  rw [List.append_nil] at hshown
  have hinstant := isoInstant_isoDate hyearNat hmonthNat.1 hmonthNat.2 hdayNat.1 hdayNat.2
    htimeNat.1 htimeNat.2.1 htimeNat.2.2
  have hsame : partsInstant ⟨parts.year.toNat, parts.month.toNat, parts.day.toNat,
      parts.hour.toNat, parts.minute.toNat, parts.second.toNat⟩ = localSecond offset t := by
    rw [Int.toNat_of_nonneg hyear.1, Int.toNat_of_nonneg (by omega), Int.toNat_of_nonneg (by omega),
      Int.toNat_of_nonneg hhour, Int.toNat_of_nonneg hminute, Int.toNat_of_nonneg hsecond]
    exact partsInstant_utcParts (t + offset t)
  rw [hsame] at hinstant
  rw [routerClockDifferenceSeconds, hdate, hnormal, htime, hclock]
  simp only [String.toList_ofList, hshown, hinstant, Option.getD_some, hname, hzone, if_false,
    List.cons_ne_nil]

/-! ## When the difference is right -/

/-- The time zone shifts the local time of a moment, taken for a moment, as it
    has shifted the moment. `Date.UTC` reads the years before the year 100 as
    others. -/
def ShiftKept (offset : ℤ → ℤ) (t : ℤ) : Prop :=
  let shown := localSecond offset t
  (if 100 ≤ (utcParts (shown + offset shown)).year then localSecond offset shown
    else dateUtc (renderedParts (shown + offset shown))) - shown = shown - t

instance (offset : ℤ → ℤ) (t : ℤ) : Decidable (ShiftKept offset t) :=
  inferInstanceAs (Decidable (_ = _))

theorem dateUtc_renderedParts {u : ℤ} (h : 100 ≤ (utcParts u).year) :
    dateUtc (renderedParts u) = u - u % 1000 := by
  have hcentury : ¬InFirstCentury (u / 86400000) := fun hin => by
    have hyear := inFirstCentury_iff.1 hin
    simp only [utcParts] at h
    omega
  have hparts : renderedParts u = utcParts u := by
    rw [renderedParts, if_neg (by omega)]
  rw [hparts, dateUtc_utcParts hcentury]

theorem dateUtc_renderedParts_mod (u : ℤ) : dateUtc (renderedParts u) % 1000 = 0 := by
  simp only [dateUtc]
  omega

/-- Moments that are whole seconds apart have different differences. -/
theorem round_eq_iff {i t observedAt : ℤ} (h : (i - t) % 1000 = 0) :
    Double.round (((i - observedAt : ℤ) : ℚ) / 1000) =
      Double.round (((t - observedAt : ℤ) : ℚ) / 1000) ↔ i = t := by
  obtain ⟨k, hk⟩ := Int.dvd_of_emod_eq_zero h
  have hquotient : ((i - observedAt : ℤ) : ℚ) / 1000 + 1 / 2 =
      ((t - observedAt : ℤ) : ℚ) / 1000 + 1 / 2 + (k : ℤ) := by
    have hi : i = t + 1000 * k := by omega
    rw [hi]
    push_cast
    ring
  rw [Double.round, Double.round, hquotient, Int.floor_add_intCast]
  omega

theorem difference_eq_iff {P : Platform} {name : String} {offset : ℤ → ℤ} {t : ℤ}
    {clock : RouterClock} (hname : name ≠ "") (hzone : P.timeZone name = some offset)
    (hclock : clock.timeZoneName = some name) (h : IsRight offset t clock) (ht : t % 1000 = 0)
    (observedAt : ℤ) :
    routerClockDifferenceSeconds P clock observedAt =
      some (Double.round (((t - observedAt : ℤ) : ℚ) / 1000)) ↔ ShiftKept offset t := by
  set shown := localSecond offset t with hshown
  have hwhole : shown % 1000 = 0 := by
    rw [hshown, localSecond]
    omega
  have hread : (if 100 ≤ (utcParts (shown + offset shown)).year then localSecond offset shown
      else dateUtc (renderedParts (shown + offset shown))) =
        dateUtc (renderedParts (shown + offset shown)) := by
    split_ifs with hyear
    · exact (dateUtc_renderedParts hyear).symm
    · rfl
  have hmod := dateUtc_renderedParts_mod (shown + offset shown)
  rw [routerClockDifferenceSeconds_of_isRight hname hzone hclock h, ← hshown, Option.some_inj,
    round_eq_iff (by omega), ShiftKept, ← hshown]
  simp only [hread]
  omega

/-- With offsets in whole seconds, the offset has to be the same at both moments. -/
theorem shiftKept_iff {offset : ℤ → ℤ} {t : ℤ} (hoffset : ∀ s, offset s % 1000 = 0)
    (ht : t % 1000 = 0) (hyear : 100 ≤ (utcParts (t + offset t + offset (t + offset t))).year) :
    ShiftKept offset t ↔ offset (t + offset t) = offset t := by
  have hlocal : localSecond offset t = t + offset t := by
    have := hoffset t
    rw [localSecond]
    omega
  have hagain : localSecond offset (t + offset t) = t + offset t + offset (t + offset t) := by
    have := hoffset t
    have := hoffset (t + offset t)
    rw [localSecond]
    omega
  simp only [ShiftKept, hlocal, if_pos hyear, hagain]
  omega

/-- For a clock that is right, the difference is that of the moment just when the
    shift is kept. -/
theorem routerClockDifferenceSeconds_iff (P : Platform) (name : String) (offset : ℤ → ℤ) (t : ℤ)
    (clock : RouterClock) (observedAt : ℤ) (hname : name ≠ "")
    (hzone : P.timeZone name = some offset) (hclock : clock.timeZoneName = some name)
    (ht : t % 1000 = 0) (hright : IsRight offset t clock) :
    (routerClockDifferenceSeconds P clock observedAt =
        some (Double.round (((t - observedAt : ℤ) : ℚ) / 1000)) ↔ ShiftKept offset t) ∧
      ((∀ s, offset s % 1000 = 0) →
        100 ≤ (utcParts (t + offset t + offset (t + offset t))).year →
          (ShiftKept offset t ↔ offset (t + offset t) = offset t)) :=
  ⟨difference_eq_iff hname hzone hclock hright ht observedAt, fun hoffset hyear =>
    shiftKept_iff hoffset ht hyear⟩

/-! ## A lost hour -/

/-- The moment at which the clocks of `Europe/Helsinki` are put forward in 2026. -/
def springForward : ℤ := makeDay 2026 3 29 * 86400000 + 3600000

/-- A time zone two hours ahead of UTC, and three hours from then on. -/
def summerTime (t : ℤ) : ℤ := if t < springForward then 7200000 else 10800000

/-- A platform on which every time zone is `summerTime`. -/
def summerPlatform : Platform := { Platform.plain with timeZone := fun _ => some summerTime }

/-- The clock an hour before. -/
def lastHour : RouterClock := ⟨"2026-03-29", "02:00:00", some "Europe/Helsinki"⟩

theorem isRight_lastHour : IsRight summerTime (springForward - 3600000) lastHour :=
  ⟨by decide, ⟨isoDate, by simp, by decide⟩, by decide⟩

theorem routerClockDifferenceSeconds_iff_lastHour :
    routerClockDifferenceSeconds summerPlatform lastHour (springForward - 3600000) =
        some (Double.round
          (((springForward - 3600000 - (springForward - 3600000) : ℤ) : ℚ) / 1000)) ↔
      ShiftKept summerTime (springForward - 3600000) :=
  (routerClockDifferenceSeconds_iff summerPlatform "Europe/Helsinki" summerTime
    (springForward - 3600000) lastHour (springForward - 3600000) (by decide) rfl rfl (by decide)
    isRight_lastHour).1

/-- The jumps of a time zone are at least a week apart. -/
def JumpsApart (offset : ℤ → ℤ) : Prop :=
  ∀ s t, offset (s - 1) ≠ offset s → offset (t - 1) ≠ offset t → s < t → s + 604800000 ≤ t

/-- No other moment has the same local time. -/
def Unambiguous (offset : ℤ → ℤ) (t : ℤ) : Prop := ∀ s, s + offset s = t + offset t → s = t

/-- In the hour before the clocks are put forward, a clock that is right counts
    as an hour slow. -/
theorem routerClockDifferenceSeconds_slow :
    ¬∀ (P : Platform) (name : String) (offset : ℤ → ℤ) (t : ℤ) (clock : RouterClock)
      (observedAt : ℤ), name ≠ "" → P.timeZone name = some offset → JumpsApart offset →
        clock.timeZoneName = some name → t % 1000 = 0 → Unambiguous offset t →
        IsRight offset t clock → routerClockDifferenceSeconds P clock observedAt =
          some (Double.round (((t - observedAt : ℤ) : ℚ) / 1000)) := by
  intro h
  have hjump : ∀ s, summerTime (s - 1) ≠ summerTime s → s = springForward := by
    intro s hs
    simp only [summerTime] at hs
    split_ifs at hs <;> omega
  have happart : JumpsApart summerTime := fun s t hs ht hst => by
    rw [hjump s hs, hjump t ht] at hst
    exact absurd hst (lt_irrefl _)
  have hunambiguous : Unambiguous summerTime (springForward - 3600000) := fun s hs => by
    simp only [summerTime] at hs
    split_ifs at hs <;> omega
  have hresult := h summerPlatform "Europe/Helsinki" summerTime (springForward - 3600000) lastHour 0
    (by decide) rfl happart rfl (by decide) hunambiguous isRight_lastHour
  have hkept := (difference_eq_iff (by decide) rfl rfl isRight_lastHour (by decide) 0).1 hresult
  exact absurd hkept (by decide)

end WireguardPanel
