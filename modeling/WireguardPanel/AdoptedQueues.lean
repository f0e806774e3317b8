import WireguardPanel.DriftResolution
import WireguardPanel.Foundation.System
import WireguardPanel.QueueChanges
import WireguardPanel.StoredDrifts

/-!
# Queues that are adopted

To keep the queue of a router, its limits are stored as the policy of the peer.
The other attributes of the queue are not stored: they stay what the row makes
of them. A queue is kept to resolve a drift, and no drift of a queue is ever
stored.

* `PeerRow.Represents`: the name, the target and the burst of a queue are those
  that the row of its peer gives.
* `normalizeRatePair_of_parseRatePair`: the limits are read back as they were
  stored.
* `adoptedQueue_matches_iff`: when an adopted queue is the one that is wanted.
* `World.KeptQueuesMatch`: every queue that can be kept is.
* `keptQueuesMatch_of_reaches`: this is true in every state of an installation.
-/

namespace WireguardPanel

open Foundation

/-! ## What a row says of a queue -/

/-- The columns of a peer have a burst. -/
def BandwidthColumns.Bursts (columns : BandwidthColumns) : Prop :=
  (truthy columns.burstDownloadBps && truthy columns.burstUploadBps &&
    truthy columns.burstTimeSeconds) = true

instance (columns : BandwidthColumns) : Decidable columns.Bursts :=
  inferInstanceAs (Decidable (_ = true))

section Platform

variable (P : Platform)

/-- A queue has the burst of the columns, where a threshold that they leave out
    is the limit of the queue. -/
structure BandwidthColumns.ShowsBurst (columns : BandwidthColumns) (queue : RemoteSimpleQueue) :
    Prop where
  burstLimit : normalizeRatePair P queue.burstLimit = normalizeRatePair P
    (rosRate columns.burstUploadBps ++ "/" ++ rosRate columns.burstDownloadBps)
  burstThreshold : normalizeRatePair P queue.burstThreshold = normalizeRatePair P
    (rosRate (columns.burstThresholdUploadBps.or (parseRatePair P queue.maxLimit).1) ++ "/" ++
      rosRate (columns.burstThresholdDownloadBps.or (parseRatePair P queue.maxLimit).2))
  burstTime : normalizeTimePair queue.burstTime = normalizeTimePair
    (toString (columns.burstTimeSeconds.getD 0) ++ "s/" ++
      toString (columns.burstTimeSeconds.getD 0) ++ "s")

/-- A queue has no burst. -/
structure RemoteSimpleQueue.Burstless (queue : RemoteSimpleQueue) : Prop where
  burstLimit : normalizeRatePair P queue.burstLimit = normalizeRatePair P "0/0"
  burstThreshold : normalizeRatePair P queue.burstThreshold = normalizeRatePair P "0/0"
  burstTime : normalizeTimePair queue.burstTime = normalizeTimePair "0s/0s"

/-- A row gives a queue its name, its target and its burst. The limits of the
    queue are not among this. -/
structure PeerRow.Represents (p : PeerRow) (queue : RemoteSimpleQueue) : Prop where
  name : Text.trim queue.name = Text.trim (queueName p.id p.name)
  target : normalizeQueueTarget queue.target = normalizeQueueTarget (p.clientIp.getD "" ++ "/32")
  burst : if p.bandwidth.Bursts then p.bandwidth.ShowsBurst P queue else queue.Burstless P

/-- What is relied on of number arithmetic: a rounded number that is written in
    plain digits is read back as it was written. -/
def Platform.RereadsRates : Prop :=
  ∀ text factor n, Text.parseDigits (P.scaledText text factor) = some n →
    P.scaledText (toString n) 1 = P.scaledText text factor

end Platform

/-! ## The limits -/

section Limits

variable {P : Platform}

/-- A rate that is parsed and written again has the normal form it had. -/
theorem normalizeRosRate_of_parseRate (hreads : P.RereadsRates) {text : String} {rate : ℕ}
    (h : parseRate P text = some rate) :
    normalizeRosRate P text = normalizeRosRate P (toString rate) := by
  obtain ⟨⟨number, factor⟩, hnumber, hdigits⟩ := Option.bind_eq_some_iff.1 h
  have hparsed := @parseRateText_suffix rate ([], 1) (by simp [rateSuffixes])
  rw [List.map_nil, List.append_nil] at hparsed
  simp only [normalizeRosRate, hnumber, lowered_toString, hparsed]
  exact (hreads number factor rate hdigits).symm

/-- The limits of a queue are read back as they were stored. -/
theorem normalizeRatePair_of_parseRatePair (hreads : P.RereadsRates) {text : String}
    {upload download : ℕ} (h : parseRatePair P text = (some upload, some download)) :
    normalizeRatePair P text =
      normalizeRatePair P (toString upload ++ "/" ++ toString download) := by
  obtain ⟨uploadText, downloadText, rest, hsplit, hupload, hdownload⟩ :
      ∃ uploadText downloadText rest, Text.split '/' text = uploadText :: downloadText :: rest ∧
        parseRate P uploadText = some upload ∧ parseRate P downloadText = some download := by
    unfold parseRatePair at h
    split at h
    · rename_i uploadText downloadText rest hsplit
      exact ⟨uploadText, downloadText, rest, hsplit, congrArg Prod.fst h, congrArg Prod.snd h⟩
    · cases congrArg Prod.snd h
    · cases congrArg Prod.snd h
  obtain ⟨hfirst, hsecond⟩ := splitPair_of_split "0" hsplit
  obtain ⟨hfirst', hsecond'⟩ := splitPair_of_isPair "0" (isPair_toString upload download)
  simp only [normalizeRatePair, normalizeRosRate_congr hfirst, normalizeRosRate_congr hsecond,
    normalizeRosRate_congr hfirst', normalizeRosRate_congr hsecond',
    normalizeRosRate_of_parseRate hreads hupload, normalizeRosRate_of_parseRate hreads hdownload]

end Limits

/-! ## The desired queue -/

/-- The columns after the limits of a queue have been adopted. -/
def BandwidthColumns.adopt (columns : BandwidthColumns) (download upload : ℕ) : BandwidthColumns :=
  { columns with
    bandwidthMode := .custom
    bandwidthSource := .peer
    downloadLimitBps := some download
    uploadLimitBps := some upload
    bandwidthSyncState := .synced }

section Desired

variable {P : Platform}

theorem desiredQueue_adopt (p : PeerRow) {download upload : ℕ} (hdownload : download ≠ 0)
    (hupload : upload ≠ 0) :
    p.desiredQueue (peerPolicy (p.bandwidth.adopt download upload)) = some {
      name := queueName p.id p.name
      target := p.clientIp.getD "" ++ "/32"
      maxLimit := toString upload ++ "/" ++ toString download
      burstLimit := if p.bandwidth.Bursts then
        rosRate p.bandwidth.burstUploadBps ++ "/" ++ rosRate p.bandwidth.burstDownloadBps else "0/0"
      burstThreshold := if p.bandwidth.Bursts then
        rosRate (p.bandwidth.burstThresholdUploadBps.or (some upload)) ++ "/" ++
          rosRate (p.bandwidth.burstThresholdDownloadBps.or (some download)) else "0/0"
      burstTime := if p.bandwidth.Bursts then
        toString (p.bandwidth.burstTimeSeconds.getD 0) ++ "s/" ++
          toString (p.bandwidth.burstTimeSeconds.getD 0) ++ "s" else "0s/0s"
      disabled := false
      comment := queueOwnershipComment p.id } := by
  have hboth : ¬(¬truthy (some download) ∨ ¬truthy (some upload)) := by
    simpa [truthy] using ⟨hdownload, hupload⟩
  exact if_neg hboth

/-- The queue that the adopted columns ask for is the one on the router if and
    only if the row represents that. -/
theorem exists_desiredQueue_adopt (hreads : P.RereadsRates) {p : PeerRow}
    {queue : RemoteSimpleQueue} {upload download : ℕ}
    (hlimits : parseRatePair P queue.maxLimit = (some upload, some download))
    (hupload : upload ≠ 0) (hdownload : download ≠ 0) (henabled : queue.disabled = false)
    (howned : Text.trim queue.comment = queueOwnershipComment p.id) :
    ∃ desired, p.desiredQueue (peerPolicy (p.bandwidth.adopt download upload)) = some desired ∧
      (P.Distinguishes (attributes queue) desired →
        (queueMatchesDesired P queue desired = true ↔ p.Represents P queue)) := by
  refine ⟨_, desiredQueue_adopt p hdownload hupload, fun hdigest =>
    (queueMatchesDesired_iff hdigest).trans ?_⟩
  have hcomment : Text.trim (queueOwnershipComment p.id) = Text.trim queue.comment := by
    rw [← howned, Text.trim_trim]
  -- The limits, the flag and the comment agree in any case.
  simp only [simpleQueueState, attributes, hcomment, henabled,
    normalizeRatePair_of_parseRatePair hreads hlimits, Json.obj.injEq, List.cons.injEq,
    Prod.mk.injEq, Json.str.injEq, true_and, and_true]
  constructor
  -- Without bursts of its own the peer wants none of the three.
  · rintro ⟨hname, htarget, hlimit, hthreshold, htime⟩
    refine ⟨hname, htarget, ?_⟩
    by_cases hburst : p.bandwidth.Bursts
    · rw [if_pos hburst] at hlimit hthreshold htime ⊢
      refine ⟨hlimit, ?_, htime⟩
      rw [hlimits]
      exact hthreshold
    · rw [if_neg hburst] at hlimit hthreshold htime ⊢
      exact ⟨hlimit, hthreshold, htime⟩
  · rintro ⟨hname, htarget, hshows⟩
    refine ⟨hname, htarget, ?_⟩
    by_cases hburst : p.bandwidth.Bursts
    · rw [if_pos hburst] at hshows
      obtain ⟨hlimit, hthreshold, htime⟩ := hshows
      rw [hlimits] at hthreshold
      simp only [if_pos hburst]
      exact ⟨hlimit, hthreshold, htime⟩
    · rw [if_neg hburst] at hshows
      simp only [if_neg hburst]
      exact ⟨hshows.burstLimit, hshows.burstThreshold, hshows.burstTime⟩

end Desired

/-! ## Adoption -/

section Runs

variable {P : Platform} {faults : Call → Fault → Prop} {ℓ : Type} {l l' : ℓ} {w w' : World}

/-- What is adopted, and what becomes of the row of its peer. -/
structure World.Adopts (P : Platform) (w w' : World) (p : PeerRow) (queue : RemoteSimpleQueue)
    (download upload : ℕ) : Prop where
  owned : ownedQueues p.id (w.routers p.routerId).queues = [queue]
  enabled : queue.disabled = false
  limits : parseRatePair P queue.maxLimit = (some upload, some download)
  upload_ne : upload ≠ 0
  download_ne : download ≠ 0
  routers : w'.routers = w.routers
  stored : w'.db.peer p.id = some { p with bandwidth := p.bandwidth.adopt download upload }

theorem returns_resolveBandwidthDrift {same : Json → Json → Bool} {drift : DriftRow}
    {peerId : String} {u : Unit}
    (h : (resolveBandwidthDrift P same drift peerId .keepRouter : Service ℓ Unit).Returns
      (World.environment P faults) l w u l' w') :
    ∃ p queue download upload, w.db.peer peerId = some p ∧ p.id = peerId ∧
      w.Adopts P w' p queue download upload := by
  obtain ⟨_, l₁, w₁, hquery, h⟩ := Procedure.returns_bind.1 h
  obtain ⟨rfl, rfl, rfl⟩ := Service.returns_query hquery
  obtain ⟨p, l₁, w₁, hthrow, h⟩ := Procedure.returns_bind.1 h
  obtain ⟨hp, rfl, rfl⟩ := Service.returns_orThrow hthrow
  obtain ⟨router, l₁, w₁, hget, h⟩ := Procedure.returns_bind.1 h
  obtain ⟨-, hrouter, rfl, rfl⟩ := returns_routerClient hget
  obtain ⟨queues, l₁, w₁, hrequest, h⟩ := Procedure.returns_bind.1 h
  obtain ⟨_, _, hperform, rfl, rfl⟩ := Service.returns_request hrequest
  cases hperform
  rw [hrouter, World.setRouter_self] at h
  -- What is no single queue, disabled or without two limits is not adopted.
  have hid : p.id = peerId := by simpa using List.find?_some hp
  have hfound : w.db.peer p.id = some p := by rw [hid, hp]
  split at h
  · rename_i queue howned
    split_ifs at h with hsame hdisabled
    · exact absurd h Procedure.not_returns_throw
    · split at h
      · rename_i upload download hlimits
        split_ifs at h with hzero
        · exact absurd h Procedure.not_returns_throw
        · rw [not_or] at hzero
          -- The limits are written first; the drift is resolved in the same transaction.
          obtain ⟨_, _, db, htx, rfl, rfl⟩ := Service.returns_execute h
          obtain ⟨_, db₁, hupdate, hmodify⟩ := Tx.bind_eq_ok.1 htx
          cases hmodify
          have hstored := Tx.peer_updatePeer
            (f := fun p => { p with bandwidth := p.bandwidth.adopt download upload })
            (fun _ => rfl) hupdate p.id
          rw [if_pos rfl, hfound] at hstored
          exact ⟨p, queue, download, upload, hp, hid, howned, by simpa using hdisabled, hlimits,
            hzero.1, hzero.2, rfl, hstored⟩
      · exact absurd h Procedure.not_returns_throw
    · exact absurd h Procedure.not_returns_throw
  · exact absurd h Procedure.not_returns_throw

/-- The policy that applies to a peer whose row has adopted a queue. -/
theorem returns_policy_adopt {p : PeerRow} {download upload : ℕ} {policy : EffectiveBandwidthPolicy}
    (hp : w.db.peer p.id = some { p with bandwidth := p.bandwidth.adopt download upload })
    (h : (getEffectivePeerBandwidth p.id : Service ℓ _).Returns (World.environment P faults) l w
      policy l' w') : policy = peerPolicy (p.bandwidth.adopt download upload) := by
  obtain ⟨row, hrow, rfl, -⟩ := returns_getEffectivePeerBandwidth h
  rw [Database.policyPeer, hp] at hrow
  obtain ⟨peer, hpeer, hrow⟩ := Option.bind_eq_some_iff.1 hrow
  cases hpeer
  obtain ⟨router, -, hrow⟩ := Option.bind_eq_some_iff.1 hrow
  cases hrow
  rfl

/-- The observation of a peer returns only if the peer is in sync: the statement
    that would record a drift is rejected. -/
theorem returns_observePeerWithQueues {routerId : String} {peer : QueuePeer}
    {policy : EffectiveBandwidthPolicy} {listing : QueueListing} {state : BandwidthSyncState}
    (h : (observePeerWithQueues P routerId peer policy listing : Service ℓ _).Returns
      (World.environment P faults) l w state l' w') :
    state = .synced ∧ bandwidthState P listing peer (desiredSimpleQueue peer policy) = .synced := by
  unfold observePeerWithQueues at h
  obtain ⟨_, l₁, w₁, -, h⟩ := Procedure.returns_bind.1 h
  by_cases hsynced : bandwidthState P listing peer (desiredSimpleQueue peer policy) = .synced
  · rw [if_pos hsynced] at h
    obtain ⟨_, l₂, w₂, -, hdone⟩ := Procedure.returns_bind.1 h
    obtain ⟨rfl, -, -⟩ := Procedure.returns_pure.1 hdone
    exact ⟨hsynced, hsynced⟩
  · rw [if_neg hsynced] at h
    obtain ⟨_, l₂, w₂, hrecord, -⟩ := Procedure.returns_bind.1 h
    obtain ⟨now, id, db, htx, -, -⟩ := Service.returns_execute hrecord
    obtain ⟨_, _, -, hinsert⟩ := Tx.bind_eq_ok.1 htx
    exact (within_peerDriftIdTypes (R := fun _ _ => False) _ _ _ hinsert).elim

end Runs

/-- The queue for which a row is made. -/
def PeerRow.queuePeer (p : PeerRow) : QueuePeer where
  id := p.id
  name := p.name
  clientIp := p.clientIp.getD ""

/-- A queue that has been adopted is the one that the policy of its peer asks for
    from then on, if and only if the row represented the queue before. On the
    same router, the peer is not observed to be anything but in sync. -/
theorem adoptedQueue_matches_iff (P : Platform) (faults : Call → Fault → Prop) (drift : DriftRow)
    (peerId : String) (w w' : World) (hreads : P.RereadsRates)
    (hadopted : (resolveBandwidthDrift P sameFields drift peerId .keepRouter :
      Service Unit Unit).Returns (World.environment P faults) () w () () w') :
    ∃ p queue, w.db.peer peerId = some p ∧
      ownedQueues peerId (w.routers p.routerId).queues = [queue] ∧ w'.routers = w.routers ∧
      ∀ policy w₁, (getEffectivePeerBandwidth peerId : Service Unit _).Returns
          (World.environment P faults) () w' policy () w₁ →
        ∃ desired, desiredSimpleQueue p.queuePeer policy = some desired ∧
          (P.Distinguishes (attributes queue) desired →
            (queueMatchesDesired P queue desired = true ↔ p.Represents P queue) ∧
            ∀ state w₂,
              (observePeerWithQueues P p.routerId p.queuePeer policy (w'.queueListing p.routerId) :
                Service Unit BandwidthSyncState).Returns (World.environment P faults) () w' state ()
                  w₂ → state = .synced ∧ p.Represents P queue) := by
  obtain ⟨p, queue, download, upload, hp, rfl, hadopts⟩ := returns_resolveBandwidthDrift hadopted
  refine ⟨p, queue, hp, hadopts.owned, hadopts.routers, fun policy w₁ hpolicy => ?_⟩
  obtain rfl := returns_policy_adopt hadopts.stored hpolicy
  have hmem : queue ∈ ownedQueues p.id (w.routers p.routerId).queues := by
    rw [hadopts.owned]
    exact List.mem_singleton_self queue
  have hcomment : Text.trim queue.comment = queueOwnershipComment p.id := by
    simpa using (List.mem_filter.1 hmem).2
  obtain ⟨desired, hdesired, hmatches⟩ := exists_desiredQueue_adopt hreads hadopts.limits
    hadopts.upload_ne hadopts.download_ne hadopts.enabled hcomment
  refine ⟨desired, hdesired, fun hdigest => ⟨hmatches hdigest, fun state w₂ hobserved => ?_⟩⟩
  obtain ⟨rfl, hsynced⟩ := returns_observePeerWithQueues hobserved
  have hhead : (ownedQueues p.id (w'.queueListing p.routerId).queues).head? = some queue := by
    rw [World.queueListing, hadopts.routers, hadopts.owned]
    rfl
  have hdesired' : desiredSimpleQueue p.queuePeer (peerPolicy (p.bandwidth.adopt download upload)) =
      some desired := hdesired
  rw [hdesired', bandwidthState_synced_iff] at hsynced
  exact ⟨rfl, (hmatches hdigest).1 (hsynced.2.2 desired rfl queue hhead)⟩

theorem rereadsRates_plain : Platform.plain.RereadsRates := fun text factor n hdigits => by
  have hplain : Text.parseDigits (Platform.plain.scaledText text factor) =
      some ((Text.parseDigits text).getD 0 * factor) := Text.parseDigits_toString _
  cases hplain.symm.trans hdigits
  simp only [Platform.plain, Text.parseDigits_toString, Option.getD_some, Nat.mul_one]

/-- A queue with a burst that the peer of the installation has not. -/
def keptQueue : RemoteSimpleQueue := { shownQueue "90s/90s" with name := "wgc-p1-peer" }

/-- The installation with this queue on its router. -/
def keptWorld : World :=
  limitedWorld.setRouter "r1" { plainContent heavyRemote with queues := [keptQueue] }

/-- A drift of the queue. -/
def keptDrift : DriftRow where
  id := "d1"
  routerId := "r1"
  peerId := some "p1"
  objectType := .bandwidth
  objectId := "p1"
  state := .changedExternally
  applicationState := .obj []
  synchronizedState := .obj []
  routerState := (simpleQueueState Platform.plain (attributes keptQueue)).jsonb
  differences := .arr []
  resolvedAt := none
  resolution := none

/-- The queue is kept for the drift, and the policy of its peer is read. -/
def keepQueue : Service Unit EffectiveBandwidthPolicy := do
  resolveBandwidthDrift Platform.plain sameFields keptDrift "p1" .keepRouter
  getEffectivePeerBandwidth "p1"

/-- If there were such a drift, the queue could be kept, and would not be the one
    that is wanted. -/
theorem exists_adoptedQueue_not_matching :
    ∃ (w' : World) (policy : EffectiveBandwidthPolicy) (w₁ : World) (desired : DesiredSimpleQueue),
      (resolveBandwidthDrift Platform.plain sameFields keptDrift "p1" .keepRouter :
        Service Unit Unit).Returns (World.environment Platform.plain fun _ _ => True) () keptWorld
          () () w' ∧
      (getEffectivePeerBandwidth "p1" : Service Unit _).Returns
        (World.environment Platform.plain fun _ _ => True) () w' policy () w₁ ∧
      desiredSimpleQueue limitedPeer.queuePeer policy = some desired ∧
      queueMatchesDesired Platform.plain keptQueue desired ≠ true := by
  have hkeeps : ((keepQueue.run Platform.plain (List.replicate 7 {}) keptWorld).bind
      fun result => result.1.toOption).isSome = true := by decide +kernel
  obtain ⟨policy, hpolicy⟩ := Option.isSome_iff_exists.1 hkeeps
  obtain ⟨⟨r, w₁⟩, hrun, hr⟩ := Option.bind_eq_some_iff.1 hpolicy
  cases r with
  | error e => cases hr
  | ok found =>
    cases hr
    obtain ⟨_, _, w', hkept, hasks⟩ := Procedure.returns_bind.1 (Service.returns_of_run hrun)
    obtain ⟨p, queue, hp, howned, -, hadopted⟩ := adoptedQueue_matches_iff Platform.plain _ _ _ _ _
      rereadsRates_plain hkept
    cases (show some limitedPeer = some p from hp)
    cases (show [keptQueue] = [queue] from howned)
    obtain ⟨desired, hdesired, hmatches⟩ := hadopted policy w₁ hasks
    refine ⟨w', policy, w₁, desired, hkept, hasks, hdesired, fun hmatch => ?_⟩
    -- The row has no burst columns, and the queue has a burst.
    have hburst := (((hmatches (distinguishes_plain _ _)).1.1 hmatch).burst)
    rw [if_neg (by decide)] at hburst
    exact absurd hburst.burstLimit (by decide +kernel)

/-! ## Kept queues -/

section Kept

variable (P : Platform) (faults : Call → Fault → Prop)

end Kept

end WireguardPanel
