import WireguardPanel.LoginAttempts

/-!
# Logins one after the other

The attempt window of an identity starts with a failure and runs for fifteen
minutes; the next failure starts another one. A time interval of fifteen minutes
may lie across two windows.

* `Logins.OneByOne`: a request comes when the one before has recorded its failure.
* `Logins.Spread`: what the window that is running says about an interval.
* `verifications_le_eight`: an interval has eight verifications at most, three
  of them in the window before the one that has the others.
-/

namespace WireguardPanel

open Foundation

/-- The request has recorded its failure, and has verified its password within
    fifteen minutes from `start`. -/
def LoginRequest.recordedIn (start : ℤ) : LoginRequest → Bool
  | .admitted | .verified .. => false
  | .ended verifiedAt _ => decide (start ≤ verifiedAt ∧ verifiedAt < start + attemptWindow)

/-- What a row says about `count` verifications within fifteen minutes from `start`:
    its window has all of them, or all but three, or it has started after them. -/
def LoginAttemptRow.Covers (row : LoginAttemptRow) (start : ℤ) (count : ℕ) : Prop :=
  (count ≤ row.attemptCount ∧ count ≤ 5 ∧
    (start ≤ row.windowStartedAt ∨ count < row.attemptCount)) ∨
  (count ≤ row.attemptCount + 3 ∧ count ≤ 8 ∧ start ≤ row.windowStartedAt) ∨
  (count ≤ 8 ∧ start + attemptWindow ≤ row.windowStartedAt)

/-- A failure whose request came when the identity was not blocked any more. -/
theorem LoginAttemptRow.Covers.record {row : LoginAttemptRow} {start now verifiedAt : ℤ}
    {count : ℕ} (h : row.Covers start count) (hbefore : verifiedAt ≤ now)
    (hlater : row.windowStartedAt ≤ verifiedAt) (hpositive : 1 ≤ row.attemptCount)
    (hordered : 1 ≤ count → start ≤ verifiedAt)
    (hfive : 5 ≤ row.attemptCount → row.windowStartedAt + attemptWindow ≤ verifiedAt ∧
      (1 ≤ count → start + attemptWindow ≤ verifiedAt)) :
    (recordLoginFailure (some row) now).Covers start
      (count + if start ≤ verifiedAt ∧ verifiedAt < start + attemptWindow then 1 else 0) := by
  unfold Covers at h ⊢
  by_cases hstarts : startsWindow (some row) now
  · -- The window before has counted four failures at most, and if it has
    -- started in the interval then the interval is over.
    obtain ⟨hcount, hstart⟩ := recordLoginFailure_starts hstarts
    have hover : row.windowStartedAt < now - attemptWindow := hstarts row rfl
    rw [hcount, hstart]
    split_ifs <;> omega
  · obtain ⟨_, ⟨⟩, hrunning, hcount, hstart, -⟩ := recordLoginFailure_counts hstarts
    rw [hcount, hstart]
    split_ifs <;> omega

namespace Logins

/-- Every password is wrong, and the requests come one after the other. -/
def OneByOne (a : LoginStep) (s : Logins) : Prop :=
  match a with
  | .verify _ correct => correct = false
  | .check => s.pending = 0
  | _ => True

instance : (a : LoginStep) → (s : Logins) → Decidable (OneByOne a s)
  | .verify _ correct, _ => inferInstanceAs (Decidable (correct = false))
  | .check, s => inferInstanceAs (Decidable (s.pending = 0))
  | .wait _, _ | .record _, _ | .clear _, _ => .isTrue trivial

/-- The verifications within fifteen minutes from `start` whose failure is recorded. -/
def recorded (s : Logins) (start : ℤ) : ℕ := s.requests.countP (LoginRequest.recordedIn start)

/-! ## One request at a time -/

/-- How the row, and the request that is not yet recorded, stand to each other. -/
structure Sequential (s : Logins) : Prop where
  wrong : ∀ verifiedAt, .verified verifiedAt true ∉ s.requests
  single : s.pending ≤ 1
  past : ∀ r ∈ s.requests, r.Before s.now
  unrecorded : s.row = none → ∀ verifiedAt endedAt, .ended verifiedAt endedAt ∉ s.requests
  counts : ∀ row ∈ s.row, 1 ≤ row.attemptCount ∧ row.windowStartedAt ≤ s.now
  later : ∀ row ∈ s.row, ∀ verifiedAt correct, .verified verifiedAt correct ∈ s.requests →
    row.windowStartedAt ≤ verifiedAt
  ordered : ∀ verifiedAt endedAt t correct, .ended verifiedAt endedAt ∈ s.requests →
    .verified t correct ∈ s.requests → verifiedAt ≤ t
  /-- The fifth failure blocks the identity, for fifteen minutes from it. -/
  blocked : ∀ row ∈ s.row, 5 ≤ row.attemptCount → ∃ blockedUntil,
    row.blockedUntil = some blockedUntil ∧ row.windowStartedAt + attemptWindow ≤ blockedUntil ∧
    (∀ verifiedAt endedAt, .ended verifiedAt endedAt ∈ s.requests →
      verifiedAt + attemptWindow ≤ blockedUntil) ∧
    (.admitted ∈ s.requests → blockedUntil ≤ s.now) ∧
    ∀ verifiedAt correct, .verified verifiedAt correct ∈ s.requests → blockedUntil ≤ verifiedAt

/-- What the window that is running says about the fifteen minutes from `start`. -/
def Spread (s : Logins) (start : ℤ) : Prop := ∀ row ∈ s.row, row.Covers start (s.recorded start)

variable {s s' : Logins}

theorem Sequential.fresh (now : ℤ) : (Logins.fresh now).Sequential where
  wrong _ := List.not_mem_nil
  single := Nat.zero_le 1
  past _ := nofun
  unrecorded _ _ _ := List.not_mem_nil
  counts _ := nofun
  later _ := nofun
  ordered _ _ _ _ := nofun
  blocked _ := nofun

theorem Sequential.wait (h : s.Sequential) (time : ℕ) :
    Sequential { s with now := s.now + time } := by
  have hlater : s.now ≤ s.now + time := by omega
  refine { h with
    past := fun r hr => Before.mono (h.past r hr) hlater
    counts := fun row hrow => ⟨(h.counts row hrow).1, (h.counts row hrow).2.trans hlater⟩
    blocked := fun row hrow hfive => ?_ }
  obtain ⟨blockedUntil, hblocked, hwindow, hended, hadmitted, hverified⟩ := h.blocked row hrow hfive
  exact ⟨blockedUntil, hblocked, hwindow, hended, fun hmem => (hadmitted hmem).trans hlater,
    hverified⟩

/-- Nobody is between the check and the record of the failure. -/
theorem not_mem_of_pending (h : s.pending = 0) :
    .admitted ∉ s.requests ∧ ∀ verifiedAt correct, .verified verifiedAt correct ∉ s.requests := by
  have hnone := List.countP_eq_zero.1 h
  exact ⟨fun hmem => hnone _ hmem rfl, fun _ _ hmem => hnone _ hmem rfl⟩

theorem Sequential.check (h : s.Sequential) (hfree : ¬loginBlocked s.row s.now)
    (hfirst : s.pending = 0) : Sequential { s with requests := s.requests ++ [.admitted] } := by
  have hmem : ∀ {r : LoginRequest}, r ∈ s.requests ++ [.admitted] →
      r ∈ s.requests ∨ r = .admitted := fun {r} hr =>
    (List.mem_append.1 hr).imp_right List.mem_singleton.1
  have hverified : ∀ {t correct}, .verified t correct ∉ s.requests ++ [.admitted] :=
    fun {t correct} ht => ((hmem ht).elim ((not_mem_of_pending hfirst).2 t correct)) nofun
  have hended : ∀ {t e}, .ended t e ∈ s.requests ++ [.admitted] → .ended t e ∈ s.requests :=
    fun {t e} ht => (hmem ht).resolve_right nofun
  -- No other request is between its check and its end.
  refine {
    wrong := fun t => hverified
    single := ?_
    past := fun r hr => ?_
    unrecorded := fun hrow t e ht => h.unrecorded hrow t e (hended ht)
    counts := h.counts
    later := fun row _ t correct ht => absurd ht hverified
    ordered := fun _ _ t correct _ ht => absurd ht hverified
    blocked := fun row hrow hfive => ?_ }
  · change (s.requests ++ [LoginRequest.admitted]).countP LoginRequest.pending ≤ 1
    rw [List.countP_append]
    change s.pending + 1 ≤ 1
    omega
  · rcases hmem hr with hr | rfl
    · exact h.past r hr
    · trivial
  · obtain ⟨blockedUntil, hblocked, hwindow, hold, -, -⟩ := h.blocked row hrow hfive
    refine ⟨blockedUntil, hblocked, hwindow, fun t e ht => hold t e (hended ht), fun _ => ?_,
      fun t correct ht => absurd ht hverified⟩
    by_contra hlate
    exact hfree ⟨row, hrow, blockedUntil, hblocked, not_le.1 hlate⟩

/-- The one request that is not yet recorded is the one at `i`. -/
theorem Sequential.eq_of_pending (h : s.Sequential) {i : ℕ} {r b : LoginRequest}
    (hi : s.requests[i]? = some r) (hr : r.pending = true) (hb : b.pending = false) :
    (s.requests.set i b).countP LoginRequest.pending = 0 := by
  have hcount := countP_set_add LoginRequest.pending b hi
  rw [hr, hb] at hcount
  have hsingle := h.single
  unfold pending at hsingle
  simp only [reduceIte, Bool.false_eq_true] at hcount
  omega

theorem Sequential.verify (h : s.Sequential) {i : ℕ} (hi : s.requests[i]? = some .admitted) :
    Sequential { s with requests := s.requests.set i (.verified s.now false) } := by
  have hmem : ∀ {r : LoginRequest}, r ∈ s.requests.set i (.verified s.now false) →
      r = .verified s.now false ∨ r ∈ s.requests :=
        fun {r} hr => (List.mem_or_eq_of_mem_set hr).symm
  have hadmitted : LoginRequest.admitted ∈ s.requests := List.mem_of_getElem? hi
  have hended : ∀ {t e}, .ended t e ∈ s.requests.set i (.verified s.now false) →
      .ended t e ∈ s.requests := fun {t e} ht => (hmem ht).resolve_left nofun
  refine { h with
    wrong := fun t ht => (hmem ht).elim nofun (h.wrong t)
    single := ?_
    past := fun r hr => ?_
    unrecorded := fun hrow t e ht => h.unrecorded hrow t e (hended ht)
    later := fun row hrow t correct ht => ?_
    ordered := fun t e t' correct ht ht' => ?_
    blocked := fun row hrow hfive => ?_ }
  · refine le_trans (le_of_eq ?_) h.single
    have hcount := countP_set_add LoginRequest.pending (.verified s.now false) hi
    exact Nat.add_right_cancel hcount
  · rcases hmem hr with rfl | hr
    · exact le_refl s.now
    · exact h.past r hr
  · rcases hmem ht with ht | ht
    · cases ht
      exact (h.counts row hrow).2
    · exact h.later row hrow t correct ht
  · rcases hmem ht' with ht' | ht'
    · cases ht'
      have hbefore : t ≤ e ∧ e ≤ s.now := h.past _ (hended ht)
      exact hbefore.1.trans hbefore.2
    · exact h.ordered t e t' correct (hended ht) ht'
  · obtain ⟨blockedUntil, hblocked, hwindow, hold, hnow, hverified⟩ := h.blocked row hrow hfive
    refine ⟨blockedUntil, hblocked, hwindow, fun t e ht => hold t e (hended ht), fun _ =>
      hnow hadmitted, fun t correct ht => ?_⟩
    rcases hmem ht with ht | ht
    · cases ht
      exact hnow hadmitted
    · exact hverified t correct ht

theorem Sequential.record (h : s.Sequential) {i : ℕ} {verifiedAt : ℤ}
    (hi : s.requests[i]? = some (.verified verifiedAt false)) :
    Sequential { s with
      row := some (recordLoginFailure s.row s.now)
      requests := s.requests.set i (.ended verifiedAt s.now)
      windows := if startsWindow s.row s.now then s.now :: s.windows else s.windows } := by
  have hmem : ∀ {r : LoginRequest}, r ∈ s.requests.set i (.ended verifiedAt s.now) →
      r = .ended verifiedAt s.now ∨ r ∈ s.requests :=
        fun {r} hr => (List.mem_or_eq_of_mem_set hr).symm
  have hfirst : (s.requests.set i (.ended verifiedAt s.now)).countP LoginRequest.pending = 0 :=
    h.eq_of_pending hi rfl rfl
  have hnone := @not_mem_of_pending { s with
    requests := s.requests.set i (.ended verifiedAt s.now) } hfirst
  have hpast : ∀ r ∈ s.requests.set i (.ended verifiedAt s.now), r.Before s.now := fun r hr => by
    rcases hmem hr with rfl | hr
    · exact ⟨h.past _ (List.mem_of_getElem? hi), le_refl s.now⟩
    · exact h.past r hr
  refine {
    wrong := fun t ht => hnone.2 t true ht
    single := hfirst.le.trans (Nat.zero_le 1)
    past := hpast
    unrecorded := nofun
    counts := ?_
    later := fun _ _ t correct ht => absurd ht (hnone.2 t correct)
    ordered := fun _ _ t correct _ ht => absurd ht (hnone.2 t correct)
    blocked := ?_ }
  · rintro _ ⟨⟩
    by_cases hstarts : startsWindow s.row s.now
    · obtain ⟨hcount, hstart⟩ := recordLoginFailure_starts hstarts
      exact ⟨hcount.ge, hstart.le⟩
    · obtain ⟨row, hrow, -, hcount, hstart, -⟩ := recordLoginFailure_counts hstarts
      rw [hcount, hstart]
      exact ⟨Nat.le_add_left 1 _, (h.counts row hrow).2⟩
  -- The fifth failure blocks, from its own time on.
  · rintro _ ⟨⟩ hfive
    by_cases hstarts : startsWindow s.row s.now
    · rw [(recordLoginFailure_starts hstarts).1] at hfive
      omega
    · obtain ⟨row, hrow, -, hcount, hstart, hblocks⟩ := recordLoginFailure_counts hstarts
      rw [hcount] at hfive
      have hstarted := (h.counts row hrow).2
      refine ⟨_, hblocks hfive, ?_, fun t e ht => ?_, fun hmem => absurd hmem hnone.1,
        fun t correct ht => absurd ht (hnone.2 t correct)⟩
      · rw [hstart]
        omega
      · have hbefore : t ≤ e ∧ e ≤ s.now := hpast _ ht
        omega

/-! ## Fifteen minutes -/

/-- A step at which no failure is recorded leaves what the window says. -/
theorem Spread.of_recorded_eq {start : ℤ} (h : s.Spread start) (hrow : s'.row = s.row)
    (hrecorded : s'.recorded start = s.recorded start) : s'.Spread start := by
  intro row hmem
  rw [hrecorded]
  exact h row (hrow ▸ hmem)

/-- A request that records its failure is one more of those that are recorded. -/
theorem recorded_record {start verifiedAt now : ℤ} {i : ℕ}
    (hi : s.requests[i]? = some (.verified verifiedAt false)) :
    (s.requests.set i (.ended verifiedAt now)).countP (LoginRequest.recordedIn start) =
      s.recorded start +
        if start ≤ verifiedAt ∧ verifiedAt < start + attemptWindow then 1 else 0 := by
  have hcount := countP_set_add (LoginRequest.recordedIn start) (.ended verifiedAt now) hi
  simp only [LoginRequest.recordedIn, decide_eq_true_eq, Bool.false_eq_true, if_false,
    Nat.add_zero] at hcount
  exact hcount

theorem Sequential.recorded_eq_zero (h : s.Sequential) (hrow : s.row = none) {start : ℤ} :
    s.recorded start = 0 := by
  refine List.countP_eq_zero.2 ?_
  rintro (_ | _ | ⟨t, e⟩) hr hin
  · cases hin
  · cases hin
  · exact h.unrecorded hrow t e hr

theorem Spread.record {start : ℤ} (h : s.Spread start) (hs : s.Sequential) {i : ℕ}
    {verifiedAt : ℤ} (hi : s.requests[i]? = some (.verified verifiedAt false)) :
    Spread { s with
      row := some (recordLoginFailure s.row s.now)
      requests := s.requests.set i (.ended verifiedAt s.now)
      windows := if startsWindow s.row s.now then s.now :: s.windows else s.windows } start := by
  rintro _ ⟨⟩
  have hmem := List.mem_of_getElem? hi
  have hbefore : verifiedAt ≤ s.now := hs.past _ hmem
  change LoginAttemptRow.Covers _ start ((s.requests.set i _).countP _)
  rw [recorded_record hi]
  cases hrow : s.row with
  | none =>
    rw [hs.recorded_eq_zero hrow]
    have hcount : (recordLoginFailure none s.now).attemptCount = 1 := rfl
    have hstart : (recordLoginFailure none s.now).windowStartedAt = s.now := rfl
    refine .inl ?_
    rw [hcount, hstart]
    split_ifs <;> omega
  -- A failure in the window counts on, and one after it begins a window.
  | some row =>
    -- Every verification in the interval came before this one.
    have hsome : ∀ p : ℤ → Prop, (∀ t e, .ended t e ∈ s.requests → start ≤ t → p t) →
        1 ≤ s.recorded start → ∃ t, start ≤ t ∧ p t := fun p hp hsome => by
      obtain ⟨r, hr, hin⟩ := List.countP_pos_iff.1 hsome
      cases r with
      | admitted | verified => cases hin
      | ended t e =>
        have hstart := (of_decide_eq_true hin).1
        exact ⟨t, hstart, hp t e hr hstart⟩
    refine (h row hrow).record hbefore (hs.later row hrow _ _ hmem) (hs.counts row hrow).1
      (fun hone => ?_) fun hfive => ?_
    · obtain ⟨t, hstart, ht⟩ := hsome (· ≤ verifiedAt)
        (fun t e ht _ => hs.ordered t e _ _ ht hmem) hone
      exact hstart.trans ht
    · obtain ⟨blockedUntil, -, hwindow, hended, -, hverified⟩ := hs.blocked row hrow hfive
      have hfree := hverified _ _ hmem
      refine ⟨hwindow.trans hfree, fun hone => ?_⟩
      obtain ⟨t, hstart, ht⟩ := hsome (· + attemptWindow ≤ blockedUntil)
        (fun t e ht _ => hended t e ht) hone
      omega

/-- The request that has not yet recorded its failure is one more. -/
theorem Sequential.verifications_le (h : s.Sequential) (start : ℤ) :
    s.verifications start ≤ s.recorded start + 1 := by
  have hle : s.verifications start ≤ s.pending + s.recorded start := by
    unfold verifications pending recorded
    induction s.requests with
    | nil => exact Nat.le_refl _
    | cons r requests ih =>
      simp only [List.countP_cons]
      cases r with
      | admitted => simp [LoginRequest.verifiedIn, LoginRequest.pending]; omega
      | verified => simp only [LoginRequest.pending, if_true]; split_ifs <;> omega
      | ended t e =>
        rw [show LoginRequest.verifiedIn start (.ended t e) =
          LoginRequest.recordedIn start (.ended t e) from rfl]
        omega
  have hsingle := h.single
  omega

theorem Spread.recorded_le {start : ℤ} (h : s.Spread start) (hs : s.Sequential) :
    s.recorded start ≤ 8 := by
  cases hrow : s.row with
  | none => exact (hs.recorded_eq_zero hrow).le.trans (Nat.zero_le 8)
  | some row =>
    rcases h row hrow with ⟨-, hfive, -⟩ | ⟨-, height, -⟩ | ⟨height, -⟩
    · exact hfive.trans (by decide)
    · exact height
    · exact height

/-- An interval has eight verifications at most: there are no more when the last
    one is recorded. -/
theorem Spread.verifications_le {start : ℤ} (h : s.Spread start) (hs : s.Sequential) :
    s.verifications start ≤ 8 := by
  by_cases hlast : ∃ verifiedAt, .verified verifiedAt false ∈ s.requests ∧
      start ≤ verifiedAt ∧ verifiedAt < start + attemptWindow
  · obtain ⟨verifiedAt, hmem, hin⟩ := hlast
    obtain ⟨i, hi⟩ := List.mem_iff_getElem?.1 hmem
    have hrecorded := (h.record hs hi).recorded_le (hs.record hi)
    unfold recorded at hrecorded
    rw [recorded_record hi, if_pos hin] at hrecorded
    exact (hs.verifications_le start).trans hrecorded
  · refine le_trans (List.countP_mono_left ?_) (h.recorded_le hs)
    rintro (_ | ⟨t, correct⟩ | ⟨t, e⟩) hr hin
    · cases hin
    · cases correct with
      | true => exact absurd hr (hs.wrong t)
      | false => exact absurd ⟨t, hr, of_decide_eq_true hin⟩ hlast
    · exact hin

/-- A step of one request after the other keeps what the window says. -/
theorem Spread.next {a : LoginStep} {start : ℤ} (h : s.Spread start) (hs : s.Sequential)
    (honly : OneByOne a s) (hnext : next a s = some s') : s'.Spread start ∧ s'.Sequential := by
  cases a with
  | wait time =>
    cases hnext
    exact ⟨h.of_recorded_eq rfl rfl, hs.wait time⟩
  | check =>
    simp only [Logins.next] at hnext
    split_ifs at hnext with hblocked
    · cases hnext
      exact ⟨h, hs⟩
    · cases hnext
      refine ⟨h.of_recorded_eq rfl ?_, hs.check hblocked honly⟩
      exact List.countP_append
  | verify i correct =>
    cases correct with
    | true => cases honly
    | false =>
      simp only [Logins.next] at hnext
      split at hnext
      · rename_i hi
        cases hnext
        refine ⟨h.of_recorded_eq rfl ?_, hs.verify hi⟩
        exact countP_set_add (LoginRequest.recordedIn start) (.verified s.now false) hi
      · cases hnext
  | record i =>
    simp only [Logins.next] at hnext
    split at hnext
    · rename_i hi
      cases hnext
      exact ⟨h.record hs hi, hs.record hi⟩
    · cases hnext
  | clear i =>
    simp only [Logins.next] at hnext
    split at hnext
    · rename_i hi
      exact absurd (List.mem_of_getElem? hi) (hs.wrong _)
    · cases hnext

end Logins

/-- In every run of wrong passwords, one request after the other, a time interval
    of fifteen minutes has at most eight verifications. -/
theorem verifications_le_eight {now : ℤ} {s : Logins}
    (h : Logins.system.Reaches Logins.OneByOne (.fresh now) s) (start : ℤ) :
    s.verifications start ≤ 8 := by
  have hkept := h.invariant (I := fun s => s.Spread start ∧ s.Sequential)
    ⟨nofun, Logins.Sequential.fresh now⟩ fun _ _ _ hkept honly hnext =>
      hkept.1.next hkept.2 honly hnext
  exact hkept.1.verifications_le hkept.2

/-- Nine failures: the first one begins a window, three more lie at the end of it, and the
    next window takes five a second later. -/
def nineLogins : List LoginStep :=
  wrongLogin 0 ++ [.wait 899500] ++ (List.range 3).flatMap (fun i => wrongLogin (i + 1)) ++
    [.wait 1000] ++ (List.range 5).flatMap fun i => wrongLogin (i + 4)

theorem exists_reaches_nineLogins : ∃ s : Logins,
    Logins.system.Reaches Logins.OneByOne (.fresh 0) s ∧ s.requests.length = 9 ∧
      s.verifications 899500 = 8 := by
  have hrun : (System.run (System.guarded Logins.OneByOne Logins.next) nineLogins (.fresh 0)).map
      (fun s => (s.requests.length, s.verifications 899500)) = some (9, 8) := by decide
  obtain ⟨s, hrun, hcounts⟩ := Option.map_eq_some_iff.1 hrun
  exact ⟨s, System.reaches_of_guarded_run hrun, congrArg Prod.fst hcounts,
    congrArg Prod.snd hcounts⟩

/-- Eight of the nine failures lie within fifteen minutes, and no other interval has more. -/
theorem verifications_le_eight_nineLogins :
    ∃ s : Logins, s.requests.length = 9 ∧ s.verifications 899500 = 8 ∧
      ∀ start, s.verifications start ≤ 8 := by
  obtain ⟨s, hreaches, hnine, height⟩ := exists_reaches_nineLogins
  exact ⟨s, hnine, height, verifications_le_eight hreaches⟩

/-- Five are not the most that there can be. -/
theorem exists_verifications_eight :
    ¬∀ (now : ℤ) (s : Logins), Logins.system.Reaches Logins.OneByOne (.fresh now) s →
      ∀ start, s.verifications start ≤ 5 := by
  intro h
  obtain ⟨s, hreaches, -, height⟩ := exists_reaches_nineLogins
  have hfive := h 0 s hreaches 899500
  omega

end WireguardPanel
