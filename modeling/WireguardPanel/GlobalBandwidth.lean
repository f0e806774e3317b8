import WireguardPanel.PeerService

/-!
# The global default of the bandwidth

`updateGlobalBandwidth` changes the global default. "New users only" keeps the
peers that inherit it as they are: they get the present default as a policy of
their own before it changes.

* `applyPeerBandwidth`, `setPeerBandwidthPolicy`, `updateGlobalBandwidth`: the
  services.
* `Database.rowPolicy`: the policy of a peer, read off the database
  (`returns_getEffectivePeerBandwidth`).
* `updateGlobalBandwidth_keeps_iff`: when no queue changes.
-/

namespace WireguardPanel

open Foundation

/-! ## The services -/

section Services

variable {ℓ : Type} (P : Platform)

/-- What an error says about the bandwidth of a peer. -/
def AppError.bandwidthSyncState : AppError → BandwidthSyncState
  | .bandwidthConflict .. => .conflict
  | _ => .error

/-- `applyPeerBandwidth`. -/
def applyPeerBandwidth (peerId : String) (force : Bool) : Service ℓ BandwidthApplyResult := do
  let row ← loadPeer peerId
  match filled row.clientIp with
  | none => throw (.error "A client IP is required before bandwidth shaping can be configured.")
  | some clientIp => do
    let router ← routerClient P row.routerId
    tryCatch (do
        let policy ← getEffectivePeerBandwidth peerId
        let result ←
          applyPeerBandwidthRemote P router.id { id := row.id, name := row.name, clientIp }
          policy force
        persistBandwidthResult P row.routerId row.id policy result
        return result)
      fun e => do
        executeAnyway (.updatePeer peerId (.bandwidth none e.bandwidthSyncState))
        throw e

/-- A mode as it is written. -/
def BandwidthMode.text : BandwidthMode → String
  | .default => "default"
  | .unlimited => "unlimited"
  | .custom => "custom"
  | .profile => "profile"

/-- `validateBandwidthMutation`. -/
def validateBandwidthMutation (input : BandwidthPolicyMutation) : Service ℓ Unit := do
  if input.mode = .custom ∧ (¬truthy input.downloadBps ∨ ¬truthy input.uploadBps) then
    throw (.error "Custom bandwidth requires download and upload limits.")
  if input.mode = .profile ∧ (filled input.profileId).isNone then
    throw (.error "Select a bandwidth profile.")

/-- The part of `setPeerBandwidthPolicy` whose failure is caught. -/
def applyPolicy (peerId : String) (input : BandwidthPolicyMutation) (operationId : String) :
    Service ℓ BandwidthApplyResult := do
  Service.execute (.updatePeer peerId (.policy input))
  Service.execute (.operationStep operationId)
  let result ← applyPeerBandwidth P peerId true
  Service.execute (.operationStep operationId)
  Service.execute (.finishOperation operationId .completed none)
  return result

/-- `setPeerBandwidthPolicy`. -/
def setPeerBandwidthPolicy (peerId : String) (input : BandwidthPolicyMutation) :
    Service ℓ BandwidthApplyResult := do
  validateBandwidthMutation input
  let row ← Service.query fun db => db.peer peerId
  let row ← Service.orThrow row "Peer not found."
  if let some profileId := filled input.profileId then
    let profile ← Service.query fun db => db.enabledProfile profileId
    let _ ← Service.orThrow profile "Bandwidth profile not found or disabled."
  let operationId ← Service.execute (.startOperation "bandwidth_update" (some row.routerId)
    (some peerId) (.obj [("mode", .str input.mode.text),
      ("profileId", input.profileId.elim .null .str)]))
  tryCatch (applyPolicy P peerId input operationId) fun e => do
    executeAnyway (.updatePeer peerId (.lifecycle .needsReconciliation none (some .error)))
    executeAnyway (.failOperation operationId .needsReconciliation none)
    throw e

/-- What `updateGlobalBandwidth` returns. -/
structure GlobalBandwidthResult where
  affected : ℕ
  updated : ℕ
  retained : ℕ
  failed : List String

/-- `updateGlobalBandwidth`. -/
def updateGlobalBandwidth (input : GlobalBandwidthInput) : Service ℓ GlobalBandwidthResult := do
  if input.mode = .custom ∧ (¬truthy input.downloadBps ∨ ¬truthy input.uploadBps) then
    throw (.error "Global custom bandwidth requires download and upload limits.")
  let prepared ← Service.execute (.prepareGlobalBandwidth input)
  if prepared.unchanged = true ∨ input.applyExisting = false then
    return {
      affected := prepared.affected.length, updated := 0, retained := prepared.retained
      failed := [] }
  else do
    let results ← prepared.affected.mapM fun peerId => do
      let result ← Procedure.attempt (applyPeerBandwidth P peerId true)
      return (peerId, result.toBool)
    return {
      affected := prepared.affected.length
      updated := results.countP Prod.snd
      retained := 0
      failed := (results.filter fun result => !result.2).map Prod.fst }

end Services

/-! ## The policy of a peer -/

/-- The global default as a policy. -/
def globalPolicy (defaults : Option (ℕ × ℕ)) : EffectiveBandwidthPolicy :=
  match defaults with
  | some (downloadBps, uploadBps) => {
      source := .global
      sourceName := "Global default"
      downloadBps := some downloadBps
      uploadBps := some uploadBps }
  | none => unlimitedPolicy "Global default"

/-- The policy of a peer without one of its own. -/
def Database.routerPolicy (db : Database) (router : RouterRow) : EffectiveBandwidthPolicy :=
  match router.defaultBandwidthMode with
  | .unlimited => unlimitedPolicy "Router default"
  | .custom => {
      source := .router
      sourceName := "Router default"
      downloadBps := router.defaultDownloadBps
      uploadBps := router.defaultUploadBps }
  | .global => globalPolicy db.settings.bandwidthDefaults

/-- The policy that applies to a peer, from the peer down to the settings. -/
def Database.rowPolicy (db : Database) (row : PolicyPeerRow) : EffectiveBandwidthPolicy :=
  match row.peer.bandwidth.bandwidthMode with
  | .unlimited => unlimitedPolicy "Peer override"
  | .custom => peerPolicy row.peer.bandwidth
  | .default | .profile =>
    (row.bandwidthProfile.bind db.enabledProfile).elim (db.routerPolicy row.router) profilePolicy

section Runs

variable {P : Platform} {faults : Call → Fault → Prop} {ℓ : Type} {l l' : ℓ} {w w' : World}

theorem returns_defaultPolicy {router : RouterRow} {policy : EffectiveBandwidthPolicy}
    (h : (defaultPolicy router : Service ℓ _).Returns (World.environment P faults) l w policy l'
      w') : policy = w.db.routerPolicy router ∧ w = w' := by
  unfold defaultPolicy at h
  unfold Database.routerPolicy
  cases hmode : router.defaultBandwidthMode with
  | unlimited | custom =>
    rw [hmode] at h
    obtain ⟨rfl, -, rfl⟩ := Procedure.returns_pure.1 h
    exact ⟨rfl, rfl⟩
  | global =>
    rw [hmode] at h
    obtain ⟨defaults, l₁, w₁, hquery, h⟩ := Procedure.returns_bind.1 h
    obtain ⟨rfl, rfl, rfl⟩ := Service.returns_query hquery
    unfold globalPolicy
    dsimp only
    cases hdefaults : w.db.settings.bandwidthDefaults with
    | none =>
      rw [hdefaults] at h
      obtain ⟨rfl, -, rfl⟩ := Procedure.returns_pure.1 h
      exact ⟨rfl, rfl⟩
    | some limits =>
      rw [hdefaults] at h
      obtain ⟨rfl, -, rfl⟩ := Procedure.returns_pure.1 h
      exact ⟨rfl, rfl⟩

/-- What `getEffectivePeerBandwidth` returns is read off the database. -/
theorem returns_getEffectivePeerBandwidth {peerId : String} {policy : EffectiveBandwidthPolicy}
    (h : (getEffectivePeerBandwidth peerId : Service ℓ _).Returns (World.environment P faults) l w
      policy l' w') :
    ∃ row, w.db.policyPeer peerId = some row ∧ policy = w.db.rowPolicy row ∧ w = w' := by
  obtain ⟨_, l₁, w₁, hquery, h⟩ := Procedure.returns_bind.1 h
  obtain ⟨rfl, rfl, rfl⟩ := Service.returns_query hquery
  obtain ⟨row, l₁, w₁, hthrow, h⟩ := Procedure.returns_bind.1 h
  obtain ⟨hrow, rfl, rfl⟩ := Service.returns_orThrow hthrow
  refine ⟨row, hrow, ?_⟩
  unfold Database.rowPolicy
  cases hmode : row.peer.bandwidth.bandwidthMode with
  | unlimited | custom =>
    rw [hmode] at h
    obtain ⟨rfl, -, rfl⟩ := Procedure.returns_pure.1 h
    exact ⟨rfl, rfl⟩
  | default | profile =>
    rw [hmode] at h
    dsimp only at h ⊢
    cases hprofile : row.bandwidthProfile with
    | none =>
      rw [hprofile] at h
      exact returns_defaultPolicy h
    | some profileId =>
      rw [hprofile] at h
      obtain ⟨profile, l₁, w₁, hquery, h⟩ := Procedure.returns_bind.1 h
      obtain ⟨rfl, rfl, rfl⟩ := Service.returns_query hquery
      rw [Option.bind_some]
      cases henabled : w.db.enabledProfile profileId with
      | none =>
        rw [henabled] at h
        exact returns_defaultPolicy h
      | some profile =>
        rw [henabled] at h
        obtain ⟨rfl, -, rfl⟩ := Procedure.returns_pure.1 h
        exact ⟨rfl, rfl⟩

/-- And it returns, if no query fails. -/
theorem exists_returns_getEffectivePeerBandwidth {peerId : String} {row : PolicyPeerRow}
    (hrow : w.db.policyPeer peerId = some row) (hnone : ∀ c, faults c .none) :
    (getEffectivePeerBandwidth peerId : Service ℓ _).Returns (World.environment P faults) l w
      (w.db.rowPolicy row) l w := by
  have hquery : ∀ {α : Type} (read : Database → α), (Service.query read : Service ℓ α).Returns
      (World.environment P faults) l w (read w.db) l w := fun read =>
    Procedure.returns_call.2 ⟨⟨{}, hnone _, rfl⟩, rfl⟩
  have hdefault : (defaultPolicy row.router : Service ℓ _).Returns (World.environment P faults) l w
      (w.db.routerPolicy row.router) l w := by
    unfold defaultPolicy Database.routerPolicy
    cases row.router.defaultBandwidthMode with
    | unlimited | custom => exact Procedure.returns_pure.2 ⟨rfl, rfl, rfl⟩
    | global =>
      refine Procedure.returns_bind.2 ⟨_, l, w, hquery _, ?_⟩
      unfold globalPolicy
      dsimp only
      cases w.db.settings.bandwidthDefaults <;> exact Procedure.returns_pure.2 ⟨rfl, rfl, rfl⟩
  refine Procedure.returns_bind.2 ⟨_, l, w, hquery _, ?_⟩
  refine Procedure.returns_bind.2 ⟨row, l, w, ?_, ?_⟩
  · rw [hrow]
    exact Procedure.returns_pure.2 ⟨rfl, rfl, rfl⟩
  · unfold Database.rowPolicy
    cases row.peer.bandwidth.bandwidthMode with
    | unlimited | custom => exact Procedure.returns_pure.2 ⟨rfl, rfl, rfl⟩
    | default | profile =>
      dsimp only
      cases row.bandwidthProfile with
      | none => exact hdefault
      | some profileId =>
        refine Procedure.returns_bind.2 ⟨_, l, w, hquery _, ?_⟩
        rw [Option.bind_some]
        cases w.db.enabledProfile profileId with
        | none => exact hdefault
        | some profile => exact Procedure.returns_pure.2 ⟨rfl, rfl, rfl⟩

end Runs

/-! ## Queues -/

/-- The queue that a policy asks for. -/
def PeerRow.desiredQueue (p : PeerRow) (policy : EffectiveBandwidthPolicy) :
    Option DesiredSimpleQueue :=
  desiredSimpleQueue { id := p.id, name := p.name, clientIp := p.clientIp.getD "" } policy

/-- The limits of a global default, if it sets both. -/
def globalLimits (defaults : Option (ℕ × ℕ)) : Option (ℕ × ℕ) :=
  defaults.filter fun limits => limits.1 ≠ 0 ∧ limits.2 ≠ 0

theorem desiredQueue_globalPolicy (p : PeerRow) (defaults : Option (ℕ × ℕ)) :
    p.desiredQueue (globalPolicy defaults) =
      (globalLimits defaults).bind fun limits => p.desiredQueue (globalPolicy (some limits)) := by
  rcases defaults with _ | ⟨downloadBps, uploadBps⟩
  · rfl
  · by_cases hlimits : downloadBps ≠ 0 ∧ uploadBps ≠ 0
    · have hkeep : globalLimits (some (downloadBps, uploadBps)) = some (downloadBps, uploadBps) :=
        Option.filter_some_pos (decide_eq_true hlimits)
      rw [hkeep, Option.bind_some]
    · have hdrop : globalLimits (some (downloadBps, uploadBps)) = none :=
        Option.filter_some_neg (by simpa using hlimits)
      rw [hdrop]
      refine if_pos ?_
      rw [not_and_or, not_not, not_not] at hlimits
      rcases hlimits with rfl | rfl
      · exact .inl (show ¬truthy (some 0) = true by decide)
      · exact .inr (show ¬truthy (some 0) = true by decide)

/-- The limits stand in the queue. -/
theorem desiredQueue_globalPolicy_injective (p : PeerRow) {limits limits' : ℕ × ℕ}
    (hlimits : limits.1 ≠ 0 ∧ limits.2 ≠ 0) (hlimits' : limits'.1 ≠ 0 ∧ limits'.2 ≠ 0)
    (h : p.desiredQueue (globalPolicy (some limits)) =
      p.desiredQueue (globalPolicy (some limits'))) : limits = limits' := by
  have htext : ∀ {limits : ℕ × ℕ}, limits.1 ≠ 0 ∧ limits.2 ≠ 0 →
      (p.desiredQueue (globalPolicy (some limits))).map DesiredSimpleQueue.maxLimit =
        some (toString limits.2 ++ "/" ++ toString limits.1) := fun {limits} hlimits => by
    have hboth : ¬(¬truthy (some limits.1) ∨ ¬truthy (some limits.2)) := by
      simpa [truthy] using hlimits
    rw [PeerRow.desiredQueue, desiredSimpleQueue]
    exact congrArg (Option.map DesiredSimpleQueue.maxLimit) (if_neg hboth)
  have hmax := congrArg (Option.map DesiredSimpleQueue.maxLimit) h
  rw [htext hlimits, htext hlimits'] at hmax
  have hchars := congrArg String.toList (Option.some.inj hmax)
  simp only [String.toList_append, List.append_assoc] at hchars
  have hslash : ∀ n : ℕ, '/' ∉ (toString n).toList := fun n hmem =>
    absurd (Text.isDigit_toString hmem) (by decide)
  obtain ⟨hupload, hdownload⟩ := Text.append_cons_inj (hslash _) (hslash _) hchars
  exact Prod.ext (Text.toString_nat_injective (String.ext hdownload))
    (Text.toString_nat_injective (String.ext hupload))

/-- Two global defaults ask for the same queue just when their limits are the
    same. -/
theorem desiredQueue_globalPolicy_eq_iff (p : PeerRow) (defaults defaults' : Option (ℕ × ℕ)) :
    p.desiredQueue (globalPolicy defaults') = p.desiredQueue (globalPolicy defaults) ↔
      globalLimits defaults' = globalLimits defaults := by
  rw [desiredQueue_globalPolicy p defaults, desiredQueue_globalPolicy p defaults']
  refine ⟨fun h => ?_, fun h => by rw [h]⟩
  have hfilled : ∀ {defaults limits}, globalLimits defaults = some limits →
      limits.1 ≠ 0 ∧ limits.2 ≠ 0 := fun h =>
    of_decide_eq_true (Option.filter_eq_some_iff.1 h).2
  have hsome : ∀ {limits : ℕ × ℕ}, limits.1 ≠ 0 ∧ limits.2 ≠ 0 →
      p.desiredQueue (globalPolicy (some limits)) ≠ none := fun {limits} hlimits hnone => by
    have hboth : ¬(¬truthy (some limits.1) ∨ ¬truthy (some limits.2)) := by
      simpa [truthy] using hlimits
    rw [PeerRow.desiredQueue, desiredSimpleQueue] at hnone
    exact absurd ((if_neg hboth).symm.trans hnone) nofun
  cases hold : globalLimits defaults with
  | none =>
    cases hnew : globalLimits defaults' with
    | none => rfl
    | some limits =>
      rw [hold, hnew] at h
      exact absurd h (hsome (hfilled hnew))
  | some limits =>
    cases hnew : globalLimits defaults' with
    | none =>
      rw [hold, hnew] at h
      exact absurd h.symm (hsome (hfilled hold))
    | some limits' =>
      rw [hold, hnew] at h
      rw [desiredQueue_globalPolicy_injective p (hfilled hnew) (hfilled hold) h]

/-! ## The change of the default -/

/-- The peers after the change. -/
theorem prepareGlobalBandwidth_ok {input : GlobalBandwidthInput} {plan : GlobalBandwidthPlan}
    {db db' : Database} (happly : input.applyExisting = false)
    (h : prepareGlobalBandwidth input db = .ok (plan, db')) :
    (db.settings.bandwidthDefaults = input.next ∧ db' = db) ∨
      ∃ peers, db' = { db with
          peers, settings := { db.settings with bandwidthDefaults := input.next } } ∧
        peers.rows = db.peers.rows.map fun p =>
          if db.inheritsGlobal p then retainPolicy db.settings.bandwidthDefaults p else p := by
  rw [prepareGlobalBandwidth, Tx.get_bind] at h
  obtain ⟨-, h⟩ := Tx.require_bind_ok.1 h
  by_cases hsame : db.settings.bandwidthDefaults = input.next
  · rw [if_pos hsame] at h
    cases h
    exact .inl ⟨hsame, rfl⟩
  · rw [if_neg hsame] at h
    right
    obtain ⟨_, db₁, hretain, h⟩ := Tx.bind_eq_ok.1 h
    obtain ⟨peers, hupdate, hreturn⟩ := Tx.statement_bind_ok.1 hretain
    cases Tx.return_eq_ok.1 hreturn
    cases h
    refine ⟨peers, rfl, (Table.rows_update hupdate).trans (List.map_congr_left fun p hp => ?_)⟩
    -- The rows with these identifiers are those that were selected.
    have hids : p.id ∈ (if input.applyExisting = true then [] else
        ((db.peers.rows.filter fun p => db.inheritsGlobal p).insertionSort
          fun p q => p.name ≤ q.name).map PeerRow.id) ↔ db.inheritsGlobal p := by
      rw [happly, if_neg Bool.false_ne_true, List.mem_map]
      constructor
      · rintro ⟨q, hq, hid⟩
        obtain ⟨hq, hinherits⟩ := List.mem_filter.1 ((List.mem_insertionSort _).1 hq)
        rw [← db.peer_unique hq hp hid]
        exact of_decide_eq_true hinherits
      · exact fun hinherits => ⟨p, (List.mem_insertionSort _).2
          (List.mem_filter.2 ⟨hp, decide_eq_true hinherits⟩), rfl⟩
    exact if_congr hids rfl rfl

/-- No policy above the global default applies to a peer. -/
structure Database.FallsThrough (db : Database) (row : PolicyPeerRow) : Prop where
  mode : row.peer.bandwidth.bandwidthMode = .default ∨ row.peer.bandwidth.bandwidthMode = .profile
  profile : row.bandwidthProfile.bind db.enabledProfile = none
  router : row.router.defaultBandwidthMode = .global

theorem Database.FallsThrough.rowPolicy {db : Database} {row : PolicyPeerRow}
    (h : db.FallsThrough row) : db.rowPolicy row = globalPolicy db.settings.bandwidthDefaults := by
  unfold Database.rowPolicy
  rcases h.mode with hmode | hmode <;>
    rw [hmode] <;> dsimp only <;>
    rw [h.profile, Option.elim_none, Database.routerPolicy, h.router]

/-- The row that is read of a peer. -/
theorem Database.policyPeer_eq_some {db : Database} {peerId : String} {row : PolicyPeerRow}
    (h : db.policyPeer peerId = some row) : db.peer peerId = some row.peer ∧
      db.router row.peer.routerId = some row.router ∧
      row.peerProfileBandwidthId = (row.peer.bandwidth.profileId.bind fun id =>
        db.peerProfiles.find? fun p => p.id = id).bind PeerProfileRow.bandwidthProfileId := by
  obtain ⟨peer, hpeer, h⟩ := Option.bind_eq_some_iff.1 h
  obtain ⟨router, hrouter, h⟩ := Option.bind_eq_some_iff.1 h
  cases h
  exact ⟨hpeer, hrouter, rfl⟩

section Change

variable {db : Database} {peers : Table peerSchema} {next : Option (ℕ × ℕ)}

/-- The row of a peer after the change. -/
def Database.retained (db : Database) (p : PeerRow) : PeerRow :=
  if db.inheritsGlobal p then retainPolicy db.settings.bandwidthDefaults p else p

/-- The database after the change. -/
def Database.changed (db : Database) (peers : Table peerSchema) (next : Option (ℕ × ℕ)) :
    Database :=
  { db with peers, settings := { db.settings with bandwidthDefaults := next } }

theorem peer_changed (hrows : peers.rows = db.peers.rows.map db.retained) (peerId : String) :
    (db.changed peers next).peer peerId = (db.peer peerId).map db.retained := by
  have hid : ∀ p : PeerRow, (db.retained p).id = p.id := fun p => by
    unfold Database.retained
    split_ifs <;> rfl
  change peers.rows.find? _ = _
  rw [hrows, List.find?_map]
  exact congrArg (Option.map _) (congrArg (List.find? · _) (funext fun p => by simp [hid]))

theorem policyPeer_changed (hrows : peers.rows = db.peers.rows.map db.retained)
    (peerId : String) : (db.changed peers next).policyPeer peerId =
      (db.policyPeer peerId).map fun row => { row with peer := db.retained row.peer } := by
  have hkept : ∀ p : PeerRow, (db.retained p).routerId = p.routerId ∧
      (db.retained p).bandwidth.profileId = p.bandwidth.profileId := fun p => by
    unfold Database.retained
    split_ifs <;> exact ⟨rfl, rfl⟩
  unfold Database.policyPeer
  rw [peer_changed hrows]
  cases db.peer peerId with
  | none => rfl
  | some p =>
    change (db.router (db.retained p).routerId).bind _ = ((db.router p.routerId).bind _).map _
    rw [(hkept p).1]
    cases db.router p.routerId with
    | none => rfl
    | some router =>
      refine congrArg some ?_
      rw [(hkept p).2]
      rfl

theorem desiredQueue_retained (p : PeerRow) (policy : EffectiveBandwidthPolicy) :
    (db.retained p).desiredQueue policy = p.desiredQueue policy := by
  unfold Database.retained
  split_ifs <;> rfl

/-- A peer that keeps the default as its own policy keeps its queue. -/
theorem desiredQueue_retainPolicy {row : PolicyPeerRow} (h : db.inheritsGlobal row.peer)
    (hrow : db.policyPeer row.peer.id = some row) (p : PeerRow) :
    p.desiredQueue ((db.changed peers next).rowPolicy { row with peer := db.retained row.peer }) =
      p.desiredQueue (db.rowPolicy row) := by
  obtain ⟨hmode, hprofile, hpeerProfile, router, hrouter, hglobal⟩ := h
  obtain ⟨-, hrouter', hprofileId⟩ := Database.policyPeer_eq_some hrow
  cases hrouter.symm.trans hrouter'
  have hthrough : db.FallsThrough row := by
    refine ⟨.inl hmode, ?_, hglobal⟩
    rw [PolicyPeerRow.bandwidthProfile, if_neg (by rw [hmode]; decide), hprofile, hprofileId,
      hpeerProfile]
    rfl
  rw [hthrough.rowPolicy, Database.retained, if_pos ⟨hmode, hprofile, hpeerProfile, row.router,
    hrouter', hglobal⟩]
  unfold Database.rowPolicy
  cases hcurrent : db.settings.bandwidthDefaults with
  | none => rfl
  | some limits => rfl

/-- Nothing changes for a peer to which another policy applies. -/
theorem rowPolicy_changed {row : PolicyPeerRow} (h : ¬db.FallsThrough row) :
    (db.changed peers next).rowPolicy row = db.rowPolicy row := by
  unfold Database.rowPolicy
  cases hmode : row.peer.bandwidth.bandwidthMode with
  | unlimited | custom => rfl
  | default | profile =>
    change Option.elim (row.bandwidthProfile.bind db.enabledProfile) _ _ = _
    cases hprofile : row.bandwidthProfile.bind db.enabledProfile with
    | some profile => rfl
    | none =>
      rw [Option.elim_none, Option.elim_none]
      unfold Database.routerPolicy
      cases hrouter : row.router.defaultBandwidthMode with
      | unlimited | custom => rfl
      | global => exact absurd ⟨by simp [hmode], hprofile, hrouter⟩ h

end Change

/-- What `updateGlobalBandwidth` does for new users only. -/
theorem returns_updateGlobalBandwidth {P : Platform} {faults : Call → Fault → Prop} {ℓ : Type}
    {l l' : ℓ} {w w' : World} {input : GlobalBandwidthInput} {result : GlobalBandwidthResult}
    (happly : input.applyExisting = false)
    (h : (updateGlobalBandwidth P input).Returns (World.environment P faults) l w result l' w') :
    (w.db.settings.bandwidthDefaults = input.next ∧ w' = w) ∨
      ∃ peers, w' = { w with db := w.db.changed peers input.next } ∧
        peers.rows = w.db.peers.rows.map w.db.retained := by
  unfold updateGlobalBandwidth at h
  split_ifs at h
  · obtain ⟨_, _, _, hthrow, -⟩ := Procedure.returns_bind.1 h
    exact absurd hthrow Procedure.not_returns_throw
  · obtain ⟨plan, l₁, w₁, hexecute, h⟩ := Procedure.returns_bind.1 h
    obtain ⟨_, _, db, htx, rfl, rfl⟩ := Service.returns_execute hexecute
    rw [if_pos (.inr happly)] at h
    obtain ⟨-, -, rfl⟩ := Procedure.returns_pure.1 h
    rcases prepareGlobalBandwidth_ok happly htx with ⟨hsame, rfl⟩ | ⟨peers, rfl, hrows⟩
    · exact .inl ⟨hsame, rfl⟩
    · exact .inr ⟨peers, rfl, hrows⟩

/-- A peer that goes on to follow the default keeps its queue only if the limits
    of the default stay the same. -/
theorem globalLimits_eq_of_keeps {P : Platform} {w : World} {peers : Table peerSchema}
    {next : Option (ℕ × ℕ)} {peerId : String} {row : PolicyPeerRow}
    (hrows : peers.rows = w.db.peers.rows.map w.db.retained)
    (hrow : w.db.policyPeer peerId = some row) (hthrough : w.db.FallsThrough row)
    (hinherits : ¬w.db.inheritsGlobal row.peer)
    (hkeeps : ∀ p p' policy policy', w.db.peer peerId = some p →
      (w.db.changed peers next).peer peerId = some p' →
      (getEffectivePeerBandwidth peerId).Returns (World.environment P fun _ _ => True) () w policy
        () w →
      (getEffectivePeerBandwidth peerId).Returns (World.environment P fun _ _ => True) ()
        { w with db := w.db.changed peers next } policy' ()
        { w with db := w.db.changed peers next } →
      p'.desiredQueue policy' = p.desiredQueue policy) :
    globalLimits next = globalLimits w.db.settings.bandwidthDefaults := by
  have hrow' : (w.db.changed peers next).policyPeer peerId = some row := by
    rw [policyPeer_changed hrows, hrow, Option.map_some, Database.retained, if_neg hinherits]
  have hthrough' : (w.db.changed peers next).FallsThrough row :=
    ⟨hthrough.mode, hthrough.profile, hthrough.router⟩
  have hqueues := hkeeps row.peer row.peer _ _ (Database.policyPeer_eq_some hrow).1
    (Database.policyPeer_eq_some hrow').1
    (exists_returns_getEffectivePeerBandwidth hrow fun _ => trivial)
    (exists_returns_getEffectivePeerBandwidth hrow' fun _ => trivial)
  rw [hthrough.rowPolicy, hthrough'.rowPolicy, desiredQueue_globalPolicy_eq_iff] at hqueues
  exact hqueues

/-- The change of the global default for new users only keeps the queue of every
    peer if and only if it keeps the limits of the default, or every peer to
    which no other policy applies is one that inherits the default openly. -/
theorem updateGlobalBandwidth_keeps_iff {P : Platform} {faults : Call → Fault → Prop} {ℓ : Type}
    {l l' : ℓ} {w w' : World} {input : GlobalBandwidthInput} {result : GlobalBandwidthResult}
    (happly : input.applyExisting = false)
    (h : (updateGlobalBandwidth P input).Returns (World.environment P faults) l w result l' w') :
    (∀ peerId p p' policy policy', w.db.peer peerId = some p → w'.db.peer peerId = some p' →
        (getEffectivePeerBandwidth peerId).Returns (World.environment P fun _ _ => True) () w policy
          () w →
        (getEffectivePeerBandwidth peerId).Returns
          (World.environment P fun _ _ => True) () w' policy'
          () w' →
        p'.desiredQueue policy' = p.desiredQueue policy) ↔
      globalLimits input.next = globalLimits w.db.settings.bandwidthDefaults ∨
        ∀ peerId row, w.db.policyPeer peerId = some row → w.db.FallsThrough row →
          w.db.inheritsGlobal row.peer := by
  rcases returns_updateGlobalBandwidth happly h with ⟨hsame, rfl⟩ | ⟨peers, rfl, hrows⟩
  · refine iff_of_true (fun peerId p p' policy policy' hp hp' hpolicy hpolicy' => ?_) (.inl ?_)
    · cases hp.symm.trans hp'
      obtain ⟨row, hrow, rfl, -⟩ := returns_getEffectivePeerBandwidth hpolicy
      obtain ⟨row', hrow', rfl, -⟩ := returns_getEffectivePeerBandwidth hpolicy'
      cases hrow.symm.trans hrow'
      rfl
    · rw [hsame]
  · -- The queues before and after the change, by the row that is read.
    have hqueue : ∀ (peerId : String) (p p' : PeerRow) (policy policy' : EffectiveBandwidthPolicy),
        w.db.peer peerId = some p → (w.db.changed peers input.next).peer peerId = some p' →
        (getEffectivePeerBandwidth peerId).Returns (World.environment P fun _ _ => True) () w policy
          () w →
        (getEffectivePeerBandwidth peerId).Returns (World.environment P fun _ _ => True) ()
          { w with db := w.db.changed peers input.next } policy' ()
          { w with db := w.db.changed peers input.next } →
        ∃ row, w.db.policyPeer peerId = some row ∧ row.peer = p ∧ policy = w.db.rowPolicy row ∧
          p'.desiredQueue policy' = p.desiredQueue ((w.db.changed peers input.next).rowPolicy
            { row with peer := w.db.retained row.peer }) := by
      intro peerId p p' policy policy' hp hp' hpolicy hpolicy'
      obtain ⟨row, hrow, rfl, -⟩ := returns_getEffectivePeerBandwidth hpolicy
      obtain ⟨row', hrow', rfl, -⟩ := returns_getEffectivePeerBandwidth hpolicy'
      change (w.db.changed peers input.next).policyPeer peerId = _ at hrow'
      rw [policyPeer_changed hrows, hrow] at hrow'
      cases hrow'
      rw [peer_changed hrows, hp] at hp'
      cases hp'
      have hpeer := (Database.policyPeer_eq_some hrow).1
      exact ⟨row, hrow, Option.some.inj (hpeer.symm.trans hp), rfl, desiredQueue_retained p _⟩
    have hunchanged : ∀ row : PolicyPeerRow, ¬w.db.inheritsGlobal row.peer →
        ({ row with peer := w.db.retained row.peer } : PolicyPeerRow) = row := fun row hrow => by
      rw [Database.retained, if_neg hrow]
    constructor
    · intro hkeeps
      by_contra hneither
      obtain ⟨hlimits, hrest⟩ := not_or.1 hneither
      push Not at hrest
      obtain ⟨peerId, row, hrow, hthrough, hinherits⟩ := hrest
      exact hlimits (globalLimits_eq_of_keeps hrows hrow hthrough hinherits (hkeeps peerId))
    · intro hcondition peerId p p' policy policy' hp hp' hpolicy hpolicy'
      obtain ⟨row, hrow, rfl, rfl, hafter⟩ :=
        hqueue peerId p p' policy policy' hp hp' hpolicy hpolicy'
      rw [hafter]
      by_cases hinherits : w.db.inheritsGlobal row.peer
      · have hid : row.peer.id = peerId := (Database.peer_spec hp).2
        exact desiredQueue_retainPolicy hinherits (hid.symm ▸ hrow) row.peer
      · rw [hunchanged row hinherits]
        by_cases hthrough : w.db.FallsThrough row
        · have hthrough' : (w.db.changed peers input.next).FallsThrough row :=
            ⟨hthrough.mode, hthrough.profile, hthrough.router⟩
          rw [hthrough.rowPolicy, hthrough'.rowPolicy, desiredQueue_globalPolicy_eq_iff]
          exact hcondition.resolve_right fun hall => hinherits (hall peerId row hrow hthrough)
        · rw [rowPolicy_changed hthrough]

/-! ## A new default -/

/-- A default for new users only. -/
def newDefault : GlobalBandwidthInput where
  mode := .custom
  downloadBps := some 20000000
  uploadBps := some 10000000

/-- The change of the default of an installation. -/
theorem exists_updateGlobalBandwidth (w : World)
    (h : ((updateGlobalBandwidth Platform.plain newDefault).run
        Platform.plain [{}] w).isSome = true ∧
      ((updateGlobalBandwidth Platform.plain newDefault).run Platform.plain [{}] w).all
        (fun outcome => outcome.1.toBool) = true) :
    ∃ result w', (updateGlobalBandwidth Platform.plain newDefault).Returns
      (World.environment Platform.plain fun _ _ => True) () w result () w' := by
  obtain ⟨hsome, hall⟩ := h
  obtain ⟨⟨r, w'⟩, hrun⟩ := Option.isSome_iff_exists.1 hsome
  rw [hrun] at hall
  cases r with
  | error e => cases hall
  | ok result => exact ⟨result, w', Service.returns_of_run hrun⟩

/-- The peer of the installation inherits the default openly, and keeps its
    queue. -/
theorem updateGlobalBandwidth_keeps_iff_newDefault :
    ∃ result w', (updateGlobalBandwidth Platform.plain newDefault).Returns
        (World.environment Platform.plain fun _ _ => True) () limitedWorld result () w' ∧
      ∀ peerId p p' policy policy', limitedWorld.db.peer peerId = some p →
        w'.db.peer peerId = some p' →
        (getEffectivePeerBandwidth peerId).Returns
          (World.environment Platform.plain fun _ _ => True)
          () limitedWorld policy () limitedWorld →
        (getEffectivePeerBandwidth peerId).Returns
          (World.environment Platform.plain fun _ _ => True)
          () w' policy' () w' →
        p'.desiredQueue policy' = p.desiredQueue policy := by
  obtain ⟨result, w', hreturns⟩ := exists_updateGlobalBandwidth limitedWorld (by decide +kernel)
  refine ⟨result, w', hreturns, (updateGlobalBandwidth_keeps_iff rfl hreturns).2 (.inr ?_)⟩
  intro peerId row hrow _
  have hpeer := (Database.peer_spec (Database.policyPeer_eq_some hrow).1).1
  rw [List.mem_singleton.1 hpeer]
  decide

/-- A peer in the mode of a profile that is disabled. -/
def disabledProfilePeer : PeerRow :=
  { plainPeer with
    bandwidth := { plainPeer.bandwidth with
      bandwidthMode := .profile, bandwidthProfileId := some "b1" } }

def disabledProfileWorld : World where
  db := { plainDatabase disabledProfilePeer (by decide) with
    bandwidthProfiles := [{
      id := "b1", name := "Fast", downloadBps := some 50000000, uploadBps := some 50000000
      burstDownloadBps := none, burstUploadBps := none, burstThresholdDownloadBps := none
      burstThresholdUploadBps := none, burstTimeSeconds := none, enabled := false }] }
  routers _ := plainContent plainRemote

/-- The peer follows the default, but it is not among those that keep it. -/
theorem exists_updateGlobalBandwidth_not_keeps :
    ¬∀ (P : Platform) (input : GlobalBandwidthInput) (result : GlobalBandwidthResult)
      (w w' : World), input.applyExisting = false →
      (updateGlobalBandwidth P input).Returns
        (World.environment P fun _ _ => True) () w result () w' →
      ∀ peerId p p' policy policy', w.db.peer peerId = some p → w'.db.peer peerId = some p' →
        (getEffectivePeerBandwidth peerId).Returns (World.environment P fun _ _ => True) () w policy
          () w →
        (getEffectivePeerBandwidth peerId).Returns
          (World.environment P fun _ _ => True) () w' policy'
          () w' →
        p'.desiredQueue policy' = p.desiredQueue policy := by
  intro h
  obtain ⟨result, w', hreturns⟩ :=
    exists_updateGlobalBandwidth disabledProfileWorld (by decide +kernel)
  have hkeeps := h Platform.plain newDefault result disabledProfileWorld w' rfl hreturns "p1"
  rcases returns_updateGlobalBandwidth rfl hreturns with ⟨hsame, -⟩ | ⟨peers, rfl, hrows⟩
  · exact absurd hsame (by decide)
  · have hrow : disabledProfileWorld.db.policyPeer "p1" =
        some ⟨disabledProfilePeer, plainRouter, none⟩ := rfl
    exact absurd (globalLimits_eq_of_keeps hrows hrow ⟨.inr rfl, rfl, rfl⟩ (by decide) hkeeps)
      (by decide)

end WireguardPanel
