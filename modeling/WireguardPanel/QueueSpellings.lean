import WireguardPanel.DurationReaders

/-!
# Spellings of a Simple Queue

RouterOS stores the rates and times of a queue as numbers and prints them in a
spelling of its own choice.

* `RateText`, `TimeText`: the spellings of a rate and of a time.
* `RemoteSimpleQueue.Shows`: a listed queue that shows what was asked for.
* `normalizeRatePair_of_shows`: the spellings of a rate have one normal form.
* `queueMatchesDesired_shows_iff`: those of a time have not, so a queue is
  recognised if and only if its burst time is spelled as it was given.
-/

namespace WireguardPanel

open Foundation

/-! ## What RouterOS shows -/

/-- The suffixes of a rate with their factors. -/
def rateSuffixes : List (List Char × ℕ) :=
  [([], 1), (['k'], 10 ^ 3), (['M'], 10 ^ 6), (['G'], 10 ^ 9)]

/-- A spelling of a rate: a whole number with a suffix or without one. -/
def RateText (text : String) (rate : ℕ) : Prop :=
  ∃ m, ∃ suffix ∈ rateSuffixes,
    text.toList = (toString m).toList ++ suffix.1 ∧ m * suffix.2 = rate

/-- A spelling of a time. -/
def TimeText (text : String) (seconds : ℕ) : Prop :=
  parseRouterDurationSeconds asciiLowerCase (some text) = some (some (seconds : ℚ))

instance (text : String) (seconds : ℕ) : Decidable (TimeText text seconds) :=
  decidable_of_iff (readDuration text = some (some (seconds : ℚ))) (by
    rw [readDuration_eq, TimeText])

/-- The text `upload/download`. -/
def IsPair (text upload download : String) : Prop :=
  text = upload ++ "/" ++ download ∧ '/' ∉ upload.toList ∧ '/' ∉ download.toList

/-- A pair that shows the rates of the pair that was given. -/
def ShowsRates (shown given : String) : Prop :=
  ∃ a b upload download, given = toString a ++ "/" ++ toString b ∧
    IsPair shown upload download ∧ RateText upload a ∧ RateText download b

/-- A pair that shows the times of the pair that was given. -/
def ShowsTimes (shown given : String) : Prop :=
  ∃ a b upload download, given = toString a ++ "s/" ++ toString b ++ "s" ∧
    IsPair shown upload download ∧ TimeText upload a ∧ TimeText download b

/-- A listed queue that RouterOS stores as it was asked to. -/
structure RemoteSimpleQueue.Shows (queue : RemoteSimpleQueue) (desired : DesiredSimpleQueue) :
    Prop where
  name : queue.name = desired.name
  target : queue.target = desired.target
  disabled : queue.disabled = desired.disabled
  comment : queue.comment = desired.comment
  maxLimit : ShowsRates queue.maxLimit desired.maxLimit
  burstLimit : ShowsRates queue.burstLimit desired.burstLimit
  burstThreshold : ShowsRates queue.burstThreshold desired.burstThreshold
  burstTime : ShowsTimes queue.burstTime desired.burstTime

/-! ## Pairs -/

/-- The first two pieces of a text are those of the trimmed text, up to white space. -/
theorem splitPair_of_split {text upload download : String} {rest : List String} (missing : String)
    (h : Text.split '/' text = upload :: download :: rest) :
    lowered (splitPair missing text).1 = lowered upload ∧
      lowered (splitPair missing text).2 = lowered download := by
  have hslash : '/' ∈ text.toList := by
    by_contra hnone
    rw [Text.split_eq_singleton hnone] at h
    cases h
  obtain ⟨front, back, hlist, hfront, hsplit⟩ := Text.splitOn_of_mem hslash
  rw [Text.split, hsplit, List.map_cons] at h
  obtain ⟨rfl, hback⟩ := List.cons.inj h
  have hdrop : (front ++ '/' :: back).dropWhile Text.isSpace =
      front.dropWhile Text.isSpace ++ '/' :: back := by
    rw [List.dropWhile_append]
    split_ifs with hempty
    · rw [List.isEmpty_iff.1 hempty]
      rfl
    · rfl
  have hfront' : '/' ∉ front.dropWhile Text.isSpace := fun hmem =>
    hfront (List.dropWhile_subset _ hmem)
  have hpieces : Text.split '/' (Text.trim text) =
      String.ofList (front.dropWhile Text.isSpace) ::
        ((Text.trimRight back).splitOn '/').map String.ofList := by
    rw [Text.trim, hlist, hdrop, Text.trimRight_append_cons (by decide), Text.split,
      String.toList_ofList, List.splitOn_append_cons_self, List.splitOn_eq_singleton hfront']
    rfl
  have htrim : ∀ cs : List Char, Text.trim (String.ofList (cs.dropWhile Text.isSpace)) =
      Text.trim (String.ofList cs) := fun cs => by
    have hcs := Text.trim_ofList_dropWhile (String.ofList cs)
    rwa [String.toList_ofList] at hcs
  -- The second piece ends at another separator, or at the end of the text.
  obtain ⟨second, rest', hsecond, hlowered⟩ : ∃ second rest',
      ((Text.trimRight back).splitOn '/').map String.ofList = second :: rest' ∧
        Text.trim second = Text.trim download := by
    by_cases hmore : '/' ∈ back
    · obtain ⟨middle, last, rfl, hmiddle, hsplit'⟩ := Text.splitOn_of_mem hmore
      rw [hsplit', List.map_cons] at hback
      obtain ⟨rfl, -⟩ := List.cons.inj hback
      refine ⟨String.ofList middle, ((Text.trimRight last).splitOn '/').map String.ofList, ?_, rfl⟩
      rw [Text.trimRight_append_cons (by decide), List.splitOn_append_cons_self,
        List.splitOn_eq_singleton hmiddle]
      rfl
    · rw [List.splitOn_eq_singleton hmore] at hback
      obtain ⟨rfl, -⟩ := List.cons.inj hback
      have hend : '/' ∉ Text.trimRight back := fun hmem =>
        hmore ((List.rdropWhile_prefix _ _).subset hmem)
      refine ⟨String.ofList (Text.trimRight back), [], ?_, ?_⟩
      · rw [List.splitOn_eq_singleton hend]
        rfl
      · have hback := Text.trim_ofList_trimRight (String.ofList back)
        rwa [String.toList_ofList] at hback
  simp only [splitPair, hpieces, hsecond, lowered, htrim, hlowered, and_self]

/-- A pair splits into its halves, up to white space. -/
theorem splitPair_of_isPair {text upload download : String} (missing : String)
    (h : IsPair text upload download) :
    lowered (splitPair missing text).1 = lowered upload ∧
      lowered (splitPair missing text).2 = lowered download := by
  obtain ⟨rfl, hupload, hdownload⟩ := h
  have hlist : (upload ++ "/" ++ download).toList = upload.toList ++ '/' :: download.toList := by
    simp [String.toList_append]
  have hsplit : Text.split '/' (upload ++ "/" ++ download) = [upload, download] := by
    rw [Text.split, hlist, List.splitOn_append_cons_self, List.splitOn_eq_singleton hupload,
      List.splitOn_eq_singleton hdownload]
    simp
  exact splitPair_of_split missing hsplit

/-! ## Rates -/

theorem rateFactor_of_isDigit {c : Char} (h : c.isDigit = true) : rateFactor c = none := by
  unfold rateFactor
  split
  all_goals first | rfl | exact absurd h (by decide)

/-- Decimal digits are the number of a rate, whatever its factor is. -/
theorem splitOn_digits (m : ℕ) : (toString m).toList.splitOn '.' = [(toString m).toList] :=
  List.splitOn_eq_singleton fun hdot => absurd (Text.isDigit_toString hdot) (by decide)

theorem parseRateText_suffix (m : ℕ) {suffix : List Char × ℕ} (h : suffix ∈ rateSuffixes) :
    parseRateText ((toString m).toList ++ suffix.1.map Char.toLower) =
      some (toString m, suffix.2) := by
  obtain ⟨c, cs, hcs, -⟩ := exists_cons_amount m
  have hall : (toString m).toList.all Char.isDigit = true :=
    List.all_eq_true.2 fun d hd => Text.isDigit_toString hd
  have hne : (toString m).toList ≠ [] := by
    rw [hcs]
    exact List.cons_ne_nil c cs
  have hlast : ((toString m).toList.getLast?).bind rateFactor = none := by
    rw [List.getLast?_eq_some_getLast hne, Option.bind_some]
    exact rateFactor_of_isDigit (Text.isDigit_toString (List.getLast_mem hne))
  simp only [rateSuffixes, List.mem_cons, List.not_mem_nil, or_false] at h
  rcases h with rfl | rfl | rfl | rfl
  · simp only [parseRateText, List.map_nil, List.append_nil, hlast, splitOn_digits, hne, hall,
      ne_eq, not_false_eq_true, and_self, if_true, String.ofList_toList]
  all_goals
    simp only [parseRateText, List.map_cons, List.map_nil, List.getLast?_concat, Option.bind_some,
      List.dropLast_concat]
    simp only [show Char.toLower 'k' = 'k' from rfl, show Char.toLower 'M' = 'm' from rfl,
      show Char.toLower 'G' = 'g' from rfl, rateFactor, splitOn_digits, hne, hall, ne_eq,
      not_false_eq_true, and_self, if_true, String.ofList_toList]
    rfl

/-- What is relied on of number arithmetic: a product of whole numbers below
    `2 ^ 53` is exact. -/
def Platform.ScalesExactly (P : Platform) : Prop :=
  ∀ text n factor, Text.parseDigits text = some n → n * factor < 2 ^ 53 →
    P.scaledText text factor = toString (n * factor)

variable {P : Platform}

theorem lowered_toString (n : ℕ) : lowered (toString n) = toString n := by
  have hspace : ∀ c ∈ (toString n).toList, Text.isSpace c = false := fun c hc =>
    (isDigit_spec (Text.isDigit_toString hc)).1
  rw [lowered, Text.trim_eq_self hspace, ← String.toList_inj, String.toList_map]
  exact (List.map_congr_left fun c hc => toLower_of_isDigit (Text.isDigit_toString hc)).trans
    (List.map_id' _)

theorem normalizeRosRate_congr {s t : String} (h : lowered s = lowered t) :
    normalizeRosRate P s = normalizeRosRate P t := by
  rw [normalizeRosRate, normalizeRosRate, h]

/-- The normal form of every spelling of a rate is the plain number. -/
theorem normalizeRosRate_of_rateText (hscale : P.ScalesExactly) {text : String} {rate : ℕ}
    (h : RateText text rate) (hrate : rate < 2 ^ 53) :
    normalizeRosRate P text = toString rate := by
  obtain ⟨m, suffix, hsuffix, htext, rfl⟩ := h
  have hspace : ∀ c ∈ text.toList, Text.isSpace c = false := by
    intro c hc
    rw [htext, List.mem_append] at hc
    rcases hc with hdigit | hletter
    · exact (isDigit_spec (Text.isDigit_toString hdigit)).1
    · simp only [rateSuffixes, List.mem_cons, List.not_mem_nil, or_false] at hsuffix
      rcases hsuffix with rfl | rfl | rfl | rfl <;> simp at hletter <;> subst hletter <;> rfl
  have hdigits : (toString m).toList.map Char.toLower = (toString m).toList :=
    (List.map_congr_left fun c hc => toLower_of_isDigit (Text.isDigit_toString hc)).trans
      (List.map_id' _)
  have hlowered : (lowered text).toList = (toString m).toList ++ suffix.1.map Char.toLower := by
    rw [lowered, Text.trim_eq_self hspace, String.toList_map, htext, List.map_append, hdigits]
  simp only [normalizeRosRate, hlowered, parseRateText_suffix m hsuffix]
  exact hscale _ _ _ (Text.parseDigits_toString m) hrate

theorem rateText_toString (n : ℕ) : RateText (toString n) n :=
  ⟨n, ([], 1), by simp [rateSuffixes], by simp, by simp⟩

theorem isPair_toString (a b : ℕ) :
    IsPair (toString a ++ "/" ++ toString b) (toString a) (toString b) := by
  have hslash : ∀ n : ℕ, '/' ∉ (toString n).toList := fun n hmem =>
    absurd (Text.isDigit_toString hmem) (by decide)
  exact ⟨rfl, hslash a, hslash b⟩

/-- The normal form of a pair whose halves spell two rates. -/
theorem normalizeRatePair_of_isPair (hscale : P.ScalesExactly) {text upload download : String}
    (h : IsPair text upload download) {a b : ℕ} (hupload : RateText upload a)
    (hdownload : RateText download b) (ha : a < 2 ^ 53) (hb : b < 2 ^ 53) :
    normalizeRatePair P text = toString a ++ "/" ++ toString b := by
  obtain ⟨hfirst, hsecond⟩ := splitPair_of_isPair "0" h
  simp only [normalizeRatePair, normalizeRosRate_congr hfirst, normalizeRosRate_congr hsecond,
    normalizeRosRate_of_rateText hscale hupload ha,
      normalizeRosRate_of_rateText hscale hdownload hb]

/-! ## The desired queue -/

/-- All the rates of a policy. -/
def EffectiveBandwidthPolicy.rates (policy : EffectiveBandwidthPolicy) : List (Option ℕ) :=
  [policy.downloadBps, policy.uploadBps, policy.burstDownloadBps, policy.burstUploadBps,
    policy.burstThresholdDownloadBps, policy.burstThresholdUploadBps]

/-- The seconds of a burst, or zero without one. -/
def EffectiveBandwidthPolicy.burstSeconds (policy : EffectiveBandwidthPolicy) : ℕ :=
  if truthy policy.burstDownloadBps && truthy policy.burstUploadBps &&
    truthy policy.burstTimeSeconds then policy.burstTimeSeconds.getD 0 else 0

/-- A pair of plain rates below `2 ^ 53`. -/
def PlainRates (given : String) : Prop :=
  ∃ a b : ℕ, a < 2 ^ 53 ∧ b < 2 ^ 53 ∧ given = toString a ++ "/" ++ toString b

theorem plainRates_rosRate {upload download : Option ℕ} (hupload : upload.getD 0 < 2 ^ 53)
    (hdownload : download.getD 0 < 2 ^ 53) :
    PlainRates (rosRate upload ++ "/" ++ rosRate download) :=
  ⟨upload.getD 0, download.getD 0, hupload, hdownload, rfl⟩

theorem plainRates_zero : PlainRates "0/0" := ⟨0, 0, by decide, by decide, rfl⟩

/-- The limits of a desired queue are plain rates, and its burst time is a plain
    number of seconds. -/
theorem desiredSimpleQueue_spec {peer : QueuePeer} {policy : EffectiveBandwidthPolicy}
    {desired : DesiredSimpleQueue} (h : desiredSimpleQueue peer policy = some desired)
    (hrates : ∀ rate ∈ policy.rates, rate.getD 0 < 2 ^ 53) :
    (PlainRates desired.maxLimit ∧ PlainRates desired.burstLimit ∧
      PlainRates desired.burstThreshold) ∧
      desired.burstTime =
        toString policy.burstSeconds ++ "s/" ++ toString policy.burstSeconds ++ "s" := by
  simp only [EffectiveBandwidthPolicy.rates, List.forall_mem_cons] at hrates
  obtain ⟨hdown, hup, hburstDown, hburstUp, hthresholdDown, hthresholdUp, -⟩ := hrates
  have hor : ∀ {x y : Option ℕ}, x.getD 0 < 2 ^ 53 → y.getD 0 < 2 ^ 53 →
      (x.or y).getD 0 < 2 ^ 53 := by
    rintro (_ | x) y hx hy
    · exact hy
    · exact hx
  unfold desiredSimpleQueue at h
  split_ifs at h
  cases h
  by_cases hburst : (truthy policy.burstDownloadBps && truthy policy.burstUploadBps &&
    truthy policy.burstTimeSeconds) = true
  · simp only [EffectiveBandwidthPolicy.burstSeconds, if_pos hburst]
    exact ⟨⟨plainRates_rosRate hup hdown, plainRates_rosRate hburstUp hburstDown,
      plainRates_rosRate (hor hthresholdUp hup) (hor hthresholdDown hdown)⟩, trivial⟩
  · simp only [EffectiveBandwidthPolicy.burstSeconds, if_neg hburst]
    exact ⟨⟨plainRates_rosRate hup hdown, plainRates_zero, plainRates_zero⟩, rfl⟩

/-- A pair shows the rates of one pair only. -/
theorem normalizeRatePair_of_shows (hscale : P.ScalesExactly) {shown given : String}
    (hgiven : PlainRates given) (h : ShowsRates shown given) :
    normalizeRatePair P shown = normalizeRatePair P given := by
  obtain ⟨a, b, ha, hb, hplain⟩ := hgiven
  obtain ⟨a', b', upload, download, hplain', hpair, hupload, hdownload⟩ := h
  obtain ⟨-, hslash, -⟩ := isPair_toString a b
  obtain ⟨-, hslash', -⟩ := isPair_toString a' b'
  have hlist := congrArg String.toList (hplain.symm.trans hplain')
  simp only [String.toList_append, List.append_assoc] at hlist
  obtain ⟨hfirst, hsecond⟩ := Text.append_cons_inj hslash hslash' hlist
  have ha' := Text.toString_nat_injective (String.toList_inj.1 hfirst)
  have hb' := Text.toString_nat_injective (String.toList_inj.1 hsecond)
  subst ha' hb'
  rw [normalizeRatePair_of_isPair hscale hpair hupload hdownload ha hb, hplain,
    normalizeRatePair_of_isPair hscale (isPair_toString a b) (rateText_toString a)
      (rateText_toString b) ha hb]

/-! ## Recognising a shown queue -/

/-- The digests of two queues are those of different texts if the queues are
    different. -/
def Platform.Distinguishes (P : Platform) (queue desired : DesiredSimpleQueue) : Prop :=
  simpleQueueFingerprint P queue = simpleQueueFingerprint P desired →
    (simpleQueueState P queue).stringify = (simpleQueueState P desired).stringify

theorem queueMatchesDesired_iff {queue : RemoteSimpleQueue} {desired : DesiredSimpleQueue}
    (hdigest : P.Distinguishes (attributes queue) desired) :
    queueMatchesDesired P queue desired = true ↔
      simpleQueueState P (attributes queue) = simpleQueueState P desired := by
  rw [queueMatchesDesired, decide_eq_true_iff]
  constructor
  · exact fun heq => Json.stringify_inj.1 (hdigest heq)
  · intro heq
    rw [simpleQueueFingerprint, heq, ← simpleQueueFingerprint]

/-- Both halves of a burst time are, up to white space and case, the number of
    seconds followed by `s`. -/
def SecondsSpelled (text : String) (seconds : ℕ) : Prop :=
  ∃ upload download, IsPair text upload download ∧ lowered upload = toString seconds ++ "s" ∧
    lowered download = toString seconds ++ "s"

theorem slash_of_toLower {c : Char} (h : c.toLower = '/') : c = '/' := by
  unfold Char.toLower at h
  split_ifs at h with hupper
  · have hval := congrArg (fun d : Char => d.val.toNat) h
    have hlo := UInt32.le_iff_toNat_le.1 hupper.1
    have hhi := UInt32.le_iff_toNat_le.1 hupper.2
    simp at hval hlo hhi
    omega
  · exact h

theorem not_mem_lowered {text : String} (h : '/' ∉ text.toList) : '/' ∉ (lowered text).toList := by
  intro hmem
  rw [lowered, String.toList_map] at hmem
  obtain ⟨c, hc, hslash⟩ := List.mem_map.1 hmem
  exact h (slash_of_toLower hslash ▸ Text.mem_trim hc)

/-- The normal forms of two pairs of times agree if their halves do. -/
theorem normalizeTimePair_eq_iff {s t upload download upload' download' : String}
    (hs : IsPair s upload download) (ht : IsPair t upload' download') :
    normalizeTimePair s = normalizeTimePair t ↔
      lowered upload = lowered upload' ∧ lowered download = lowered download' := by
  obtain ⟨hfirst, hsecond⟩ := splitPair_of_isPair "0s" hs
  obtain ⟨hfirst', hsecond'⟩ := splitPair_of_isPair "0s" ht
  simp only [normalizeTimePair, hfirst, hsecond, hfirst', hsecond']
  constructor
  · intro heq
    have hlist := congrArg String.toList heq
    simp only [String.toList_append, List.append_assoc] at hlist
    obtain ⟨hupload, hdownload⟩ := Text.append_cons_inj (not_mem_lowered hs.2.1)
      (not_mem_lowered ht.2.1) hlist
    exact ⟨String.toList_inj.1 hupload, String.toList_inj.1 hdownload⟩
  · rintro ⟨hupload, hdownload⟩
    rw [hupload, hdownload]

theorem isPair_seconds (n : ℕ) :
    IsPair (toString n ++ "s/" ++ toString n ++ "s") (toString n ++ "s") (toString n ++ "s") := by
  have hslash : '/' ∉ (toString n ++ "s").toList := by
    rw [String.toList_append, List.mem_append]
    rintro (hmem | hmem)
    · exact absurd (Text.isDigit_toString hmem) (by decide)
    · exact absurd hmem (by decide)
  refine ⟨?_, hslash, hslash⟩
  rw [← String.toList_inj]
  simp [String.toList_append]

theorem lowered_seconds (n : ℕ) : lowered (toString n ++ "s") = toString n ++ "s" := by
  have hspace : ∀ c ∈ (toString n ++ "s").toList, Text.isSpace c = false := fun c hc => by
    rw [String.toList_append, List.mem_append] at hc
    rcases hc with hdigit | hletter
    · exact (isDigit_spec (Text.isDigit_toString hdigit)).1
    · rw [List.mem_singleton.1 hletter]
      rfl
  have hdigits : (toString n).toList.map Char.toLower = (toString n).toList :=
    (List.map_congr_left fun c hc => toLower_of_isDigit (Text.isDigit_toString hc)).trans
      (List.map_id' _)
  rw [lowered, Text.trim_eq_self hspace, ← String.toList_inj, String.toList_map,
    String.toList_append, List.map_append, hdigits]
  rfl

/-- A listed queue that RouterOS stores as it was asked to is recognised if and
    only if it shows the burst time as a plain number of seconds. -/
theorem queueMatchesDesired_shows_iff (P : Platform) (hscale : P.ScalesExactly) (peer : QueuePeer)
    (policy : EffectiveBandwidthPolicy) (desired : DesiredSimpleQueue) (queue : RemoteSimpleQueue)
    (hrates : ∀ rate ∈ policy.rates, rate.getD 0 < 2 ^ 53)
    (hdesired : desiredSimpleQueue peer policy = some desired) (hshows : queue.Shows desired)
    (hdigest : P.Distinguishes (attributes queue) desired) :
    queueMatchesDesired P queue desired = true ↔
      SecondsSpelled queue.burstTime policy.burstSeconds := by
  obtain ⟨⟨hmax, hburst, hthreshold⟩, hseconds⟩ := desiredSimpleQueue_spec hdesired hrates
  obtain ⟨-, -, upload, download, -, hpair, -, -⟩ := hshows.burstTime
  -- apart from the burst time the normal forms agree
  have hstate : simpleQueueState P (attributes queue) = simpleQueueState P desired ↔
      normalizeTimePair queue.burstTime = normalizeTimePair desired.burstTime := by
    simp only [simpleQueueState, attributes, hshows.name, hshows.target, hshows.disabled,
      hshows.comment, normalizeRatePair_of_shows hscale hmax hshows.maxLimit,
      normalizeRatePair_of_shows hscale hburst hshows.burstLimit,
      normalizeRatePair_of_shows hscale hthreshold hshows.burstThreshold, Json.obj.injEq,
      List.cons.injEq, Prod.mk.injEq, Json.str.injEq, true_and, and_true]
  have htimes : normalizeTimePair queue.burstTime = normalizeTimePair desired.burstTime ↔
      lowered upload = toString policy.burstSeconds ++ "s" ∧
        lowered download = toString policy.burstSeconds ++ "s" := by
    rw [hseconds, normalizeTimePair_eq_iff hpair (isPair_seconds _), lowered_seconds]
  rw [queueMatchesDesired_iff hdigest, hstate, htimes]
  constructor
  · exact fun h => ⟨upload, download, hpair, h⟩
  · rintro ⟨upload', download', hpair', hspelled⟩
    have hlist := congrArg String.toList (hpair.1.symm.trans hpair'.1)
    simp only [String.toList_append, List.append_assoc] at hlist
    obtain ⟨hfirst, hsecond⟩ := Text.append_cons_inj hpair.2.1 hpair'.2.1 hlist
    rw [String.toList_inj.1 hfirst, String.toList_inj.1 hsecond]
    exact hspelled

theorem scalesExactly_plain : Platform.plain.ScalesExactly := fun text n factor htext _ => by
  simp only [Platform.plain, htext, Option.getD_some]

/-- A policy with a burst of one and a half minutes. -/
def burstPolicy : EffectiveBandwidthPolicy where
  source := .peer
  sourceName := "peer"
  downloadBps := some 20000000
  uploadBps := some 10000000
  burstDownloadBps := some 40000000
  burstUploadBps := some 20000000
  burstTimeSeconds := some 90

/-- The queue for `burstPolicy`, with its rates and its burst time as RouterOS
    prints them. -/
def shownQueue (burstTime : String) : RemoteSimpleQueue where
  id := "*1"
  name := "wgc-p1-laptop"
  target := "10.0.0.2/32"
  maxLimit := "10M/20M"
  burstLimit := "20M/40M"
  burstThreshold := "10M/20M"
  burstTime := burstTime
  disabled := false
  comment := "wireguard-control:peer:p1"
  isDynamic := false
  invalid := false

/-- The queue that is asked for. -/
def burstQueue : DesiredSimpleQueue where
  name := "wgc-p1-laptop"
  target := "10.0.0.2/32"
  maxLimit := "10000000/20000000"
  burstLimit := "20000000/40000000"
  burstThreshold := "10000000/20000000"
  burstTime := "90s/90s"
  disabled := false
  comment := "wireguard-control:peer:p1"

theorem showsRates_millions (a b : ℕ) :
    ShowsRates (toString a ++ "M" ++ "/" ++ (toString b ++ "M"))
      (toString (a * 10 ^ 6) ++ "/" ++ toString (b * 10 ^ 6)) := by
  have hslash : ∀ n : ℕ, '/' ∉ (toString n ++ "M").toList := fun n hmem => by
    rw [String.toList_append, List.mem_append] at hmem
    rcases hmem with hmem | hmem
    · exact absurd (Text.isDigit_toString hmem) (by decide)
    · exact absurd hmem (by decide)
  exact ⟨a * 10 ^ 6, b * 10 ^ 6, toString a ++ "M", toString b ++ "M", rfl,
    ⟨rfl, hslash a, hslash b⟩,
    ⟨a, (['M'], 10 ^ 6), by simp [rateSuffixes], String.toList_append, rfl⟩,
    ⟨b, (['M'], 10 ^ 6), by simp [rateSuffixes], String.toList_append, rfl⟩⟩

theorem shows_shownQueue {text half : String} (hpair : IsPair text half half)
    (htime : TimeText half 90) : (shownQueue text).Shows burstQueue where
  name := rfl
  target := rfl
  disabled := rfl
  comment := rfl
  maxLimit := showsRates_millions 10 20
  burstLimit := showsRates_millions 20 40
  burstThreshold := showsRates_millions 10 20
  burstTime := ⟨90, 90, half, half, rfl, hpair, htime, htime⟩

theorem distinguishes_plain (queue desired : DesiredSimpleQueue) :
    Platform.plain.Distinguishes queue desired := fun h => String.ofList_injective h

/-- A burst time shown as it was given. -/
theorem queueMatchesDesired_shows_iff_ninety :
    queueMatchesDesired Platform.plain (shownQueue "90s/90s") burstQueue = true ↔
      SecondsSpelled "90s/90s" 90 :=
  queueMatchesDesired_shows_iff Platform.plain scalesExactly_plain ⟨"p1", "laptop", "10.0.0.2"⟩
    burstPolicy burstQueue (shownQueue "90s/90s") (by decide) (by decide +kernel)
    (shows_shownQueue (show IsPair "90s/90s" "90s" "90s" from ⟨rfl, by decide, by decide⟩)
      (by decide +kernel))
    (distinguishes_plain _ _)

/-- A burst time of 90 seconds that is shown as `1m30s` is not recognised. -/
theorem not_queueMatchesDesired_minutes :
    ¬∀ (P : Platform) (peer : QueuePeer) (policy : EffectiveBandwidthPolicy)
      (desired : DesiredSimpleQueue) (queue : RemoteSimpleQueue), P.ScalesExactly →
      (∀ rate ∈ policy.rates, rate.getD 0 < 2 ^ 53) →
      (∀ seconds ∈ policy.burstTimeSeconds, 1 ≤ seconds ∧ seconds ≤ 3600) →
      desiredSimpleQueue peer policy = some desired → queue.Shows desired →
      queueMatchesDesired P queue desired = true := by
  intro h
  have hmatches := h Platform.plain ⟨"p1", "laptop", "10.0.0.2"⟩ burstPolicy burstQueue
    (shownQueue "1m30s/1m30s") scalesExactly_plain (by decide) (by decide) (by decide +kernel)
    (shows_shownQueue (show IsPair "1m30s/1m30s" "1m30s" "1m30s" from ⟨rfl, by decide, by decide⟩)
      (by decide +kernel))
  exact absurd hmatches (by decide +kernel)

end WireguardPanel
