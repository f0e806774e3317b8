import WireguardPanel.Foundation.Double
import WireguardPanel.Ipv4
import WireguardPanel.Quota

/-!
# How a traffic limit is entered

The conversions of an amount and a unit to bytes: that of the peer form
(`toQuotaBytes`), of the bulk file (`parseQuota`) and of a peer profile
(`profileQuotaBytes`). The first one takes a unit for a power of 1024, the other
two for a power of 1000, so they never agree (`quota_conversions_differ`).
-/

namespace WireguardPanel

open Foundation

/-- The units of a traffic limit. -/
inductive QuotaUnit
  | mb
  | gb
  | tb
  deriving DecidableEq

/-- The text of a unit. -/
def QuotaUnit.text : QuotaUnit → String
  | .mb => "MB"
  | .gb => "GB"
  | .tb => "TB"

/-! ## The peer form -/

/-- `UNIT_BYTES`. -/
def QuotaUnit.bytes : QuotaUnit → ℕ
  | .mb => 1024 ^ 2
  | .gb => 1024 ^ 3
  | .tb => 1024 ^ 4

/-- `toQuotaBytes`, where `none` is an amount that is not finite. -/
def toQuotaBytes (value : Option ℚ) (unit : QuotaUnit) : Except AppError ℤ :=
  match value with
  | none => .error (.error "Traffic limit must be greater than zero.")
  | some value =>
    if value ≤ 0 then .error (.error "Traffic limit must be greater than zero.")
    else
      match (Double.ofRat (value * unit.bytes)).map Double.round with
      | none => .error (.error "Traffic limit is too large.")
      | some bytes =>
        if 2 ^ 53 ≤ bytes ∨ bytes ≤ 0 then .error (.error "Traffic limit is too large.")
        else .ok bytes

/-- The fields of the peer form that `quotaBytesFromInput` reads. -/
structure QuotaFields where
  quotaEnabled : Bool
  quotaValue : Option ℚ
  quotaUnit : QuotaUnit

/-- `quotaBytesFromInput`. -/
def quotaBytesFromInput (value : QuotaFields) : Except AppError (Option ℤ) :=
  match value.quotaValue with
  | none => .ok none
  | some amount =>
    if value.quotaEnabled ∧ amount ≠ 0 then some <$> toQuotaBytes (some amount) value.quotaUnit
    else .ok none

/-! ## The bulk file -/

/-- `BigInt` of a number that is whole unless it is infinite. -/
def bigInt : Option ℤ → Except AppError ℤ
  | none => .error (.error
      "The number Infinity cannot be converted to a BigInt because it is not an integer")
  | some n => .ok n

/-- The value of a decimal number, as the pattern `\d+(?:\.\d+)?` admits it. -/
def decimalValue (number : List Char) : Option ℚ :=
  match number.splitOn '.' with
  | [whole] => (Text.parseDigits (String.ofList whole)).map (Nat.cast : ℕ → ℚ)
  | [whole, fraction] =>
    match Text.parseDigits (String.ofList whole), Text.parseDigits (String.ofList fraction) with
    | some n, some m => some (n + m / 10 ^ fraction.length)
    | _, _ => none
  | _ => none

/-- The multipliers of `parseQuota`. -/
def quotaMultiplier (unit : String) : Option ℕ :=
  if unit = "mb" then some (10 ^ 6)
  else if unit = "gb" then some (10 ^ 9)
  else if unit = "tb" then some (10 ^ 12)
  else none

/-- The number and the multiplier of a limit such as `100 GB`. -/
def parseQuotaText (raw : List Char) : Option (ℚ × ℕ) :=
  let isNumber := fun c : Char => c.isDigit || c == '.'
  let unit := (raw.dropWhile isNumber).dropWhile Text.isSpace
  match decimalValue (raw.takeWhile isNumber),
    quotaMultiplier (String.ofList (unit.map Char.toLower)) with
  | some number, some multiplier => some (number, multiplier)
  | _, _ => none

/-- The columns of a profile that `parseQuota` reads. -/
structure QuotaProfile where
  quotaLimitBytes : Option ℤ
  quotaPeriod : Option QuotaPeriod

/-- What `parseQuota` returns. -/
structure ParsedQuota where
  bytes : Option ℤ
  period : Option QuotaPeriod
  deriving DecidableEq

/-- `parseQuota`. -/
def parseQuota (value : Option String) (profile : Option QuotaProfile) :
    Except AppError ParsedQuota :=
  let raw := (value.map Text.trim).getD ""
  if raw = "" then
    match profile with
    | some ⟨some limit, period⟩ => .ok ⟨some limit, some (period.getD .monthly)⟩
    | _ => .ok ⟨none, none⟩
  else if raw.map Char.toLower = "unlimited" then .ok ⟨none, none⟩
  else
    match parseQuotaText raw.toList with
    | none => .error (.error "Quota must be unlimited or a value such as 100GB.")
    | some (number, multiplier) => do
      let bytes ← bigInt (((Double.ofRat number).bind fun number =>
        Double.ofRat (number * multiplier)).map Double.round)
      return ⟨some bytes, some ((profile.bind QuotaProfile.quotaPeriod).getD .monthly)⟩

/-! ## The peer profile -/

/-- The limit in bytes of a new peer profile. -/
def profileQuotaBytes (quotaGb : Option ℚ) : Except AppError (Option ℤ) :=
  match quotaGb with
  | none => .ok none
  | some quotaGb =>
    if quotaGb = 0 then .ok none
    else some <$> bigInt ((Double.ofRat (quotaGb * 10 ^ 9)).map Double.round)

/-! ## An amount with a unit -/

/-- The multiplier that `parseQuota` and, for `GB`, the peer profile use. -/
def QuotaUnit.decimalBytes : QuotaUnit → ℕ
  | .mb => 10 ^ 6
  | .gb => 10 ^ 9
  | .tb => 10 ^ 12

theorem QuotaUnit.decimalBytes_lt (unit : QuotaUnit) : unit.decimalBytes < unit.bytes := by
  cases unit <;> decide

/-- The peer form accepts a whole amount as long as the product is exact. -/
theorem toQuotaBytes_eq {v : ℕ} {unit : QuotaUnit} {bytes : ℤ}
    (h : toQuotaBytes (some v) unit = .ok bytes) :
    bytes = (v * unit.bytes : ℕ) ∧ v * unit.bytes < 2 ^ 53 := by
  have hproduct : (v : ℚ) * unit.bytes = ((v * unit.bytes : ℕ) : ℚ) := by push_cast; rfl
  simp only [toQuotaBytes, hproduct] at h
  by_cases hlarge : 2 ^ 53 ≤ v * unit.bytes
  · cases hdouble : Double.ofRat ((v * unit.bytes : ℕ) : ℚ) with
    | none =>
      simp only [hdouble, Option.map_none] at h
      split_ifs at h
    | some y =>
      have hround : (2 ^ 53 : ℤ) ≤ Double.round y := Double.le_round (by
        exact_mod_cast Double.le_of_ofRat_natCast hlarge hdouble)
      simp only [hdouble, Option.map_some, hround, true_or, if_true] at h
      split_ifs at h
  · rw [Double.ofRat_natCast (by omega)] at h
    simp only [Option.map_some, Double.round_natCast] at h
    split_ifs at h
    exact ⟨(Except.ok.inj h).symm, by omega⟩

section Text

variable (v : ℕ) (unit : QuotaUnit)

/-- The characters of an amount, a space and a unit. -/
theorem toList_amount :
    (toString v ++ " " ++ unit.text).toList = (toString v).toList ++ ' ' :: unit.text.toList := by
  simp [String.toList_append]

theorem toLower_of_isDigit {c : Char} (h : c.isDigit = true) : c.toLower = c := by
  have hval : 48 ≤ c.val ∧ c.val ≤ 57 := by simpa [Char.isDigit] using h
  refine dif_neg fun hupper => ?_
  have hle := UInt32.le_iff_toNat_le.1 hval.2
  have hge := UInt32.le_iff_toNat_le.1 hupper.1
  exact absurd (hge.trans hle) (by decide)

/-- The text of an amount starts with a digit. -/
theorem exists_cons_amount : ∃ c cs, (toString v).toList = c :: cs ∧ c.isDigit = true := by
  rcases hcs : (toString v).toList with _ | ⟨c, cs⟩
  · have hparse := Text.parseDigits_toString v
    rw [Text.parseDigits, hcs] at hparse
    simp at hparse
  · exact ⟨c, cs, rfl, Text.isDigit_toString (by rw [hcs]; exact List.mem_cons_self)⟩

theorem trim_amount :
    Text.trim (toString v ++ " " ++ unit.text) = toString v ++ " " ++ unit.text := by
  obtain ⟨c, cs, hcs, hdigit⟩ := exists_cons_amount v
  have hlist := toList_amount v unit
  rw [hcs] at hlist
  refine Text.trim_eq_of_ends (fun d hd => ?_) (fun d hd => ?_)
  · rw [hlist, List.cons_append, List.head?_cons, Option.mem_some] at hd
    exact hd ▸ (isDigit_spec hdigit).1
  · have hend : (c :: cs ++ ' ' :: unit.text.toList).getLast? = some 'B' := by
      rw [List.getLast?_append]
      cases unit <;> rfl
    rw [hlist, hend, Option.mem_some] at hd
    exact hd ▸ rfl

theorem parseQuotaText_amount :
    parseQuotaText (toString v ++ " " ++ unit.text).toList = some ((v : ℚ), unit.decimalBytes) := by
  have hnumber : ∀ c ∈ (toString v).toList, (c.isDigit || c == '.') = true := fun c hc => by
    rw [Text.isDigit_toString hc, Bool.true_or]
  have hdots : '.' ∉ (toString v).toList := fun hdot =>
    absurd (Text.isDigit_toString hdot) (by decide)
  have htake : ((toString v).toList ++ ' ' :: unit.text.toList).takeWhile
      (fun c => c.isDigit || c == '.') = (toString v).toList := by
    rw [List.takeWhile_append_of_pos hnumber]
    simp
  have hdrop : ((toString v).toList ++ ' ' :: unit.text.toList).dropWhile
      (fun c => c.isDigit || c == '.') = ' ' :: unit.text.toList := by
    rw [List.dropWhile_append_of_pos hnumber]
    simp
  have hunit : quotaMultiplier (String.ofList
      (((' ' :: unit.text.toList).dropWhile Text.isSpace).map Char.toLower)) =
        some unit.decimalBytes := by
    cases unit <;> decide
  have hvalue : decimalValue (toString v).toList = some (v : ℚ) := by
    simp only [decimalValue, List.splitOn_eq_singleton hdots, String.ofList_toList,
      Text.parseDigits_toString, Option.map_some]
  simp only [parseQuotaText, toList_amount, htake, hdrop, hunit, hvalue]

/-- The bulk file reads a whole amount whose product is exact. -/
theorem parseQuota_amount (profile : Option QuotaProfile) (h : v * unit.decimalBytes < 2 ^ 53) :
    ∃ period, parseQuota (some (toString v ++ " " ++ unit.text)) profile =
      .ok ⟨some (v * unit.decimalBytes : ℕ), some period⟩ := by
  obtain ⟨c, cs, hcs, hdigit⟩ := exists_cons_amount v
  have hlist := toList_amount v unit
  rw [hcs] at hlist
  have hempty : toString v ++ " " ++ unit.text ≠ "" := fun heq => by
    rw [heq] at hlist
    exact absurd hlist (by simp)
  have hunlimited : (toString v ++ " " ++ unit.text).map Char.toLower ≠ "unlimited" := fun heq => by
    have hhead := congrArg (fun s : String => s.toList.head?) heq
    simp only [String.toList_map, hlist, List.cons_append, List.map_cons, List.head?_cons,
      toLower_of_isDigit hdigit] at hhead
    have hletter : c = 'u' := Option.some.inj hhead
    exact absurd hdigit (by rw [hletter]; decide)
  have hpos : 0 < unit.decimalBytes := by cases unit <;> decide
  have hv : v < 2 ^ 53 := (Nat.le_mul_of_pos_right v hpos).trans_lt h
  have hproduct : (v : ℚ) * unit.decimalBytes = ((v * unit.decimalBytes : ℕ) : ℚ) := by
    push_cast
    rfl
  refine ⟨(profile.bind QuotaProfile.quotaPeriod).getD .monthly, ?_⟩
  simp only [parseQuota, Option.map_some, trim_amount, Option.getD_some, hempty, hunlimited,
    if_false, parseQuotaText_amount, Double.ofRat_natCast hv, Option.bind_some, hproduct,
    Double.ofRat_natCast h, Double.round_natCast, bigInt]
  rfl

end Text

/-- A peer profile reads a whole amount whose product is exact. -/
theorem profileQuotaBytes_amount {v : ℕ} (hv : 0 < v) (h : v * QuotaUnit.gb.decimalBytes < 2 ^ 53) :
    profileQuotaBytes (some v) = .ok (some (v * QuotaUnit.gb.decimalBytes : ℕ)) := by
  have hne : (v : ℚ) ≠ 0 := by exact_mod_cast hv.ne'
  have hgiga : QuotaUnit.gb.decimalBytes = 10 ^ 9 := rfl
  have hproduct : (v : ℚ) * 10 ^ 9 = ((v * 10 ^ 9 : ℕ) : ℚ) := by
    rw [Nat.cast_mul, Nat.cast_pow, Nat.cast_ofNat]
  rw [hgiga] at h ⊢
  simp only [profileQuotaBytes, if_neg hne, hproduct, Double.ofRat_natCast h]
  rw [Option.map_some, Double.round_natCast]
  rfl

/-- The peer form never agrees with the two other ways, which agree with each
    other. -/
theorem quota_conversions_differ (profile : Option QuotaProfile) (v : ℕ) (unit : QuotaUnit)
    (bytes : ℤ) (hv : 0 < v) (haccepted : toQuotaBytes (some v) unit = .ok bytes) :
    ∃ parsed, parseQuota (some (toString v ++ " " ++ unit.text)) profile = .ok parsed ∧
      parsed.bytes ≠ some bytes ∧
      (unit = .gb → profileQuotaBytes (some v) = .ok parsed.bytes ∧
        profileQuotaBytes (some v) ≠ .ok (some bytes)) := by
  obtain ⟨rfl, hexact⟩ := toQuotaBytes_eq haccepted
  have hless : v * unit.decimalBytes < v * unit.bytes :=
    Nat.mul_lt_mul_of_pos_left unit.decimalBytes_lt hv
  obtain ⟨period, hparsed⟩ := parseQuota_amount v unit profile (hless.trans hexact)
  have hdiffer : some ((v * unit.decimalBytes : ℕ) : ℤ) ≠ some ((v * unit.bytes : ℕ) : ℤ) := by
    intro heq
    have := Option.some.inj heq
    omega
  refine ⟨_, hparsed, hdiffer, ?_⟩
  rintro rfl
  have hprofile := profileQuotaBytes_amount hv (hless.trans hexact)
  refine ⟨hprofile, fun heq => hdiffer ?_⟩
  rw [hprofile] at heq
  exact Except.ok.inj heq

/-- A limit of one gigabyte. -/
theorem quota_conversions_differ_gigabyte :
    ∃ parsed, parseQuota (some "1 GB") none = .ok parsed ∧
      parsed.bytes ≠ some 1073741824 ∧
      (QuotaUnit.gb = .gb → profileQuotaBytes (some 1) = .ok parsed.bytes ∧
        profileQuotaBytes (some 1) ≠ .ok (some 1073741824)) :=
  quota_conversions_differ none 1 .gb 1073741824 (by decide) (by decide +kernel)

/-- A limit of one gigabyte is the same limit in the peer form only. -/
theorem not_quota_conversions_agree :
    ¬∀ (v : ℕ) (unit : QuotaUnit) (bytes : ℤ) (parsed : ParsedQuota), 0 < v →
      toQuotaBytes (some v) unit = .ok bytes →
      parseQuota (some (toString v ++ " " ++ unit.text)) none = .ok parsed →
      parsed.bytes = some bytes ∧
        (unit = .gb → profileQuotaBytes (some v) = .ok (some bytes)) := by
  intro h
  have hagree := h 1 .gb 1073741824 ⟨some 1000000000, some .monthly⟩ (by decide)
    (by decide +kernel) (by decide +kernel)
  exact absurd hagree.1 (by decide)

end WireguardPanel
