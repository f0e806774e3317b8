import WireguardPanel.GlobalBandwidth

/-!
# The limits on the page of peers

The page of peers computes the limits of each peer in its `SELECT`, next to
`getEffectivePeerBandwidth`, which the services use.

* `effectiveDownloadBps`, `effectiveUploadBps`: the limits that are shown.
* `Database.Shows`: when the page and the services take the same limits.
* `shownLimits_eq_iff`: just then the shown limits are those of the policy.
-/

namespace WireguardPanel

open Foundation

/-! ## The `SELECT` of the page -/

/-- The value of the setting `bandwidth_defaults`. -/
structure StoredBandwidthDefaults where
  mode : GlobalBandwidthMode
  downloadBps : Option ℕ
  uploadBps : Option ℕ

/-- The global default as the services read it. -/
def StoredBandwidthDefaults.limits (value : StoredBandwidthDefaults) : Option (ℕ × ℕ) :=
  match value.mode with
  | .unlimited => none
  | .custom => value.downloadBps.bind fun downloadBps => value.uploadBps.map (downloadBps, ·)

/-- What the `SELECT` joins to a peer. -/
structure PageRow where
  peer : PeerRow
  router : RouterRow
  /-- `bp`, the bandwidth profile of the peer. -/
  profile : Option BandwidthProfileRow
  /-- `bpp`, the bandwidth profile of its peer profile. -/
  inherited : Option BandwidthProfileRow
  /-- `g`, the global default. -/
  defaults : Option StoredBandwidthDefaults

/-- The bandwidth profile that a `LEFT JOIN` finds. -/
def Database.bandwidthProfile (db : Database) (id : Option String) : Option BandwidthProfileRow :=
  id.bind fun id => db.bandwidthProfiles.find? fun p => p.id = id

/-- The joins of the `SELECT`. -/
def Database.pageRow (db : Database) (defaults : Option StoredBandwidthDefaults)
    (row : PolicyPeerRow) : PageRow where
  peer := row.peer
  router := row.router
  profile := db.bandwidthProfile row.peer.bandwidth.bandwidthProfileId
  inherited := db.bandwidthProfile row.peerProfileBandwidthId
  defaults := defaults

/-- The `CASE` of a limit, with the columns that it reads. -/
def effectiveLimit (own : BandwidthColumns → Option ℕ) (ofProfile : BandwidthProfileRow → Option ℕ)
    (ofRouter : RouterRow → Option ℕ) (ofDefaults : StoredBandwidthDefaults → Option ℕ)
    (row : PageRow) : Option ℕ :=
  match row.peer.bandwidth.bandwidthMode with
  | .unlimited => none
  | .custom => own row.peer.bandwidth
  | .profile => row.profile.bind ofProfile
  | .default =>
    match row.inherited with
    | some profile => ofProfile profile
    | none =>
      match row.router.defaultBandwidthMode with
      | .custom => ofRouter row.router
      | .unlimited => none
      | .global => row.defaults.bind ofDefaults

/-- `effective_download_bps`. -/
def effectiveDownloadBps : PageRow → Option ℕ :=
  effectiveLimit BandwidthColumns.downloadLimitBps BandwidthProfileRow.downloadBps
    RouterRow.defaultDownloadBps StoredBandwidthDefaults.downloadBps

/-- `effective_upload_bps`. -/
def effectiveUploadBps : PageRow → Option ℕ :=
  effectiveLimit BandwidthColumns.uploadLimitBps BandwidthProfileRow.uploadBps
    RouterRow.defaultUploadBps StoredBandwidthDefaults.uploadBps

/-! ## Limits -/

/-- A limit for each direction, or none. -/
abbrev Limits := Option ℕ × Option ℕ

def BandwidthProfileRow.limits (profile : BandwidthProfileRow) : Limits :=
  (profile.downloadBps, profile.uploadBps)

def EffectiveBandwidthPolicy.limits (policy : EffectiveBandwidthPolicy) : Limits :=
  (policy.downloadBps, policy.uploadBps)

def StoredBandwidthDefaults.stored (value : StoredBandwidthDefaults) : Limits :=
  (value.downloadBps, value.uploadBps)

/-- The limits that the page shows. -/
def PageRow.limits (row : PageRow) : Limits := (effectiveDownloadBps row, effectiveUploadBps row)

/-- No limit in either direction. -/
def Limits.none : Limits := (Option.none, Option.none)

/-- Both limits, or neither. -/
def Limits.Paired (limits : Limits) : Prop := limits.1.isSome = limits.2.isSome

/-- The limits of a profile that has both, as the services take them. -/
def Limits.whole (limits : Limits) : Limits :=
  if limits.1.isSome ∧ limits.2.isSome then limits else .none

theorem Limits.eq_whole_iff {limits : Limits} : limits = limits.whole ↔ limits.Paired := by
  obtain ⟨_ | _, _ | _⟩ := limits <;> simp [whole, Paired, none]

/-- The limits that are stored for the peers without a policy. -/
def PageRow.storedDefault (row : PageRow) : Limits :=
  match row.router.defaultBandwidthMode with
  | .custom => (row.router.defaultDownloadBps, row.router.defaultUploadBps)
  | .unlimited => .none
  | .global => row.defaults.elim .none StoredBandwidthDefaults.stored

theorem PageRow.limits_profile {row : PageRow}
    (hmode : row.peer.bandwidth.bandwidthMode = .profile) :
    row.limits = row.profile.elim .none BandwidthProfileRow.limits := by
  simp only [limits, effectiveDownloadBps, effectiveUploadBps, effectiveLimit, hmode]
  cases row.profile <;> rfl

theorem PageRow.limits_default {row : PageRow}
    (hmode : row.peer.bandwidth.bandwidthMode = .default) :
    row.limits = row.inherited.elim row.storedDefault BandwidthProfileRow.limits := by
  simp only [limits, effectiveDownloadBps, effectiveUploadBps, effectiveLimit, hmode]
  cases row.inherited with
  | some profile => rfl
  | none =>
    unfold storedDefault
    cases row.router.defaultBandwidthMode with
    | custom | unlimited => rfl
    | global => cases row.defaults <;> rfl

theorem profilePolicy_limits (profile : BandwidthProfileRow) :
    (profilePolicy profile).limits = profile.limits.whole := by
  unfold profilePolicy Limits.whole
  split_ifs with h h' h'
  · rfl
  · exact absurd h h'
  · exact absurd h' h
  · rfl

/-! ## Agreement -/

/-- The limits of a peer without a policy, as the services take them. -/
def PageRow.default (row : PageRow) : Limits :=
  match row.router.defaultBandwidthMode with
  | .custom => (row.router.defaultDownloadBps, row.router.defaultUploadBps)
  | .unlimited => .none
  | .global => (row.defaults.bind StoredBandwidthDefaults.limits).elim .none
      fun limits => (some limits.1, some limits.2)

/-- The page takes the same limits as the services, which have found the enabled
    profile `found`. -/
def PageRow.Agrees (row : PageRow) (found : Option BandwidthProfileRow) : Prop :=
  match row.peer.bandwidth.bandwidthMode with
  | .unlimited | .custom => True
  | .profile =>
    match found with
    | some profile => profile.limits.Paired
    -- The page does not look whether the profile is enabled.
    | none => row.profile.elim .none BandwidthProfileRow.limits = row.default
  | .default =>
    match found with
    | some profile =>
      -- In this mode the page does not read the profile of the peer itself.
      if row.peer.bandwidth.bandwidthProfileId = none then profile.limits.Paired
      else row.inherited.elim row.storedDefault BandwidthProfileRow.limits = profile.limits.whole
    | none => row.inherited.elim row.storedDefault BandwidthProfileRow.limits = row.default

/-- The page and the services take the same limits for a peer. -/
def Database.Shows (db : Database) (defaults : Option StoredBandwidthDefaults)
    (row : PolicyPeerRow) : Prop :=
  (db.pageRow defaults row).Agrees (row.bandwidthProfile.bind db.enabledProfile)

variable {db : Database} {defaults : Option StoredBandwidthDefaults} {row : PolicyPeerRow}

/-- An enabled profile is the one that a join finds. -/
theorem bandwidthProfile_of_enabled
    (hkeys : (db.bandwidthProfiles.map BandwidthProfileRow.id).Nodup) {id : String}
    {profile : BandwidthProfileRow} (h : db.enabledProfile id = some profile) :
    db.bandwidthProfile (some id) = some profile := by
  unfold Database.enabledProfile at h
  have hmem := List.mem_of_find?_eq_some h
  have hsome := List.find?_some h
  have hid : profile.id = id := (of_decide_eq_true hsome).1
  change db.bandwidthProfiles.find? (fun p => p.id = id) = some profile
  cases hfound : db.bandwidthProfiles.find? (fun p => p.id = id) with
  | none => exact absurd (decide_eq_true hid) (List.find?_eq_none.1 hfound profile hmem)
  | some other =>
    have hsome := List.find?_some hfound
    have hother : other.id = id := of_decide_eq_true hsome
    rw [List.inj_on_of_nodup_map hkeys (List.mem_of_find?_eq_some hfound) hmem
      (hother.trans hid.symm)]

theorem routerPolicy_limits
    (hdefaults : db.settings.bandwidthDefaults = defaults.bind StoredBandwidthDefaults.limits) :
    (db.routerPolicy row.router).limits = (db.pageRow defaults row).default := by
  unfold Database.routerPolicy PageRow.default
  change _ = match row.router.defaultBandwidthMode with
    | .custom => _
    | .unlimited => _
    | .global => _
  cases row.router.defaultBandwidthMode with
  | custom | unlimited => rfl
  | global =>
    dsimp only
    rw [hdefaults]
    change _ = (defaults.bind StoredBandwidthDefaults.limits).elim _ _
    cases defaults.bind StoredBandwidthDefaults.limits <;> rfl

theorem rowPolicy_limits (hmode : row.peer.bandwidth.bandwidthMode = .profile ∨
    row.peer.bandwidth.bandwidthMode = .default) : (db.rowPolicy row).limits =
      (row.bandwidthProfile.bind db.enabledProfile).elim (db.routerPolicy row.router).limits
        (Limits.whole ∘ BandwidthProfileRow.limits) := by
  unfold Database.rowPolicy
  rcases hmode with hmode | hmode <;>
  · rw [hmode]
    dsimp only
    cases row.bandwidthProfile.bind db.enabledProfile with
    | none => rfl
    | some profile => exact profilePolicy_limits profile

/-- The limits of the page are those of the policy if and only if both take the
    same. -/
theorem limits_pageRow_iff
    (hkeys : (db.bandwidthProfiles.map BandwidthProfileRow.id).Nodup)
    (hdefaults : db.settings.bandwidthDefaults = defaults.bind StoredBandwidthDefaults.limits) :
    (db.pageRow defaults row).limits = (db.rowPolicy row).limits ↔ db.Shows defaults row := by
  have hpeer : (db.pageRow defaults row).peer = row.peer := rfl
  unfold Database.Shows PageRow.Agrees
  rw [hpeer]
  cases hmode : row.peer.bandwidth.bandwidthMode with
  | unlimited | custom =>
    refine iff_of_true ?_ trivial
    unfold Database.rowPolicy
    simp only [PageRow.limits, effectiveDownloadBps, effectiveUploadBps, effectiveLimit,
      Database.pageRow, hmode]
    rfl
  | profile =>
    rw [rowPolicy_limits (.inl hmode), PageRow.limits_profile hmode, routerPolicy_limits hdefaults]
    cases hfound : row.bandwidthProfile.bind db.enabledProfile with
    | none => exact Iff.rfl
    | some profile =>
      -- The page reads the enabled profile that the services find.
      have hread : (db.pageRow defaults row).profile = some profile := by
        obtain ⟨id, hid, henabled⟩ := Option.bind_eq_some_iff.1 hfound
        unfold PolicyPeerRow.bandwidthProfile at hid
        rw [if_pos hmode] at hid
        change db.bandwidthProfile row.peer.bandwidth.bandwidthProfileId = _
        rw [filled_eq_some hid]
        exact bandwidthProfile_of_enabled hkeys henabled
      rw [hread]
      exact Limits.eq_whole_iff
  | default =>
    rw [rowPolicy_limits (.inr hmode), PageRow.limits_default hmode, routerPolicy_limits hdefaults]
    cases hfound : row.bandwidthProfile.bind db.enabledProfile with
    | none => exact Iff.rfl
    | some profile =>
      dsimp only
      split_ifs with hown
      · have hread : (db.pageRow defaults row).inherited = some profile := by
          obtain ⟨id, hid, henabled⟩ := Option.bind_eq_some_iff.1 hfound
          unfold PolicyPeerRow.bandwidthProfile at hid
          rw [if_neg (by rw [hmode]; decide), hown, Option.none_or] at hid
          change db.bandwidthProfile row.peerProfileBandwidthId = _
          rw [filled_eq_some hid]
          exact bandwidthProfile_of_enabled hkeys henabled
        rw [hread]
        exact Limits.eq_whole_iff
      · exact Iff.rfl

section Runs

variable {P : Platform} {faults : Call → Fault → Prop} {ℓ : Type} {l l' : ℓ} {w w' : World}

/-- For every peer, the limits that the page shows are the limits of the policy
    that `getEffectivePeerBandwidth` returns if and only if both take the same. -/
theorem shownLimits_eq_iff {peerId : String} {policy : EffectiveBandwidthPolicy}
    (hkeys : (w.db.bandwidthProfiles.map BandwidthProfileRow.id).Nodup)
    (hdefaults : w.db.settings.bandwidthDefaults =
      defaults.bind StoredBandwidthDefaults.limits)
    (hrow : w.db.policyPeer peerId = some row)
    (h : (getEffectivePeerBandwidth peerId : Service ℓ _).Returns (World.environment P faults) l w
      policy l' w') :
    (effectiveDownloadBps (w.db.pageRow defaults row) = policy.downloadBps ∧
        effectiveUploadBps (w.db.pageRow defaults row) = policy.uploadBps) ↔
      w.db.Shows defaults row := by
  obtain ⟨row', hrow', rfl, -⟩ := returns_getEffectivePeerBandwidth h
  obtain rfl := Option.some.inj (hrow.symm.trans hrow')
  exact Prod.ext_iff.symm.trans (limits_pageRow_iff hkeys hdefaults)

end Runs

/-- The installation whose peer has a profile, once that is enabled. -/
def enabledProfileWorld : World :=
  { disabledProfileWorld with
    db := { disabledProfileWorld.db with
      bandwidthProfiles := disabledProfileWorld.db.bandwidthProfiles.map fun profile =>
        { profile with enabled := true } } }

/-- The page shows the limits of the profile, which the policy of the peer has. -/
theorem shownLimits_eq_iff_enabled :
    ∃ policy, (getEffectivePeerBandwidth "p1" : Service Unit _).Returns
        (World.environment Platform.plain fun _ _ => True) () enabledProfileWorld policy ()
        enabledProfileWorld ∧
      effectiveDownloadBps (enabledProfileWorld.db.pageRow none
        ⟨disabledProfilePeer, plainRouter, none⟩) = policy.downloadBps ∧
      policy.downloadBps = some 50000000 := by
  have hrow : enabledProfileWorld.db.policyPeer "p1" =
    some ⟨disabledProfilePeer, plainRouter, none⟩ := rfl
  have hreturns : (getEffectivePeerBandwidth "p1" : Service Unit _).Returns
      (World.environment Platform.plain fun _ _ => True) () enabledProfileWorld _ ()
      enabledProfileWorld := exists_returns_getEffectivePeerBandwidth hrow fun _ => trivial
  have hshows : enabledProfileWorld.db.Shows none ⟨disabledProfilePeer, plainRouter, none⟩ := by
    change Limits.Paired (some 50000000, some 50000000)
    rfl
  exact ⟨_, hreturns, ((shownLimits_eq_iff (by decide) rfl hrow hreturns).2 hshows).1, rfl⟩

/-- The page shows the limits of a profile that is disabled, and the peer has none. -/
theorem exists_shownLimits_ne :
    ¬∀ (w : World) (defaults : Option StoredBandwidthDefaults) (row : PolicyPeerRow)
      (peerId : String) (policy : EffectiveBandwidthPolicy),
      (w.db.bandwidthProfiles.map BandwidthProfileRow.id).Nodup →
      w.db.settings.bandwidthDefaults = defaults.bind StoredBandwidthDefaults.limits →
      w.db.policyPeer peerId = some row →
      (getEffectivePeerBandwidth peerId : Service Unit _).Returns
        (World.environment Platform.plain fun _ _ => True) () w policy () w →
      effectiveDownloadBps (w.db.pageRow defaults row) = policy.downloadBps ∧
        effectiveUploadBps (w.db.pageRow defaults row) = policy.uploadBps := by
  intro h
  have hrow : disabledProfileWorld.db.policyPeer "p1" =
    some ⟨disabledProfilePeer, plainRouter, none⟩ := rfl
  have hlimits := h disabledProfileWorld none _ "p1" _ (by decide) rfl hrow
    (exists_returns_getEffectivePeerBandwidth hrow fun _ => trivial)
  exact absurd hlimits.1 (by decide)

end WireguardPanel
