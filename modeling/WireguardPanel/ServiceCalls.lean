import WireguardPanel.Foundation.Transaction
import WireguardPanel.Reconciler

/-!
# The statements of the services

Which statements a service executes, whatever it is answered. What each of these
statements does to the database, the service does as a whole.

* `Executes`: a service executes certain statements only, and asks of routers only what can
  be read again.
* `Executes.returns`: from its statements to its runs.
* `executes_routerClient`, `executes_applyPeerBandwidthRemote` and the others: the
  services.
-/

namespace WireguardPanel

open Foundation

/-- A call that executes one of the statements `S`, if it executes a statement, and
    sets nothing on a router that is not read as it is set. -/
def Call.Executing (S : Statement → Prop) : Call → Prop
  | .query _ => True
  | .execute s => S s
  | .request _ q => q.Readable

/-- Every statement that a service executes is one of `S`. -/
abbrev Executes (S : Statement → Prop) {ℓ α : Type} (x : Service ℓ α) : Prop :=
  Procedure.Makes (Call.Executing S) x fun _ => True

/-- The statements about an operation that has been started. -/
def Statement.OfOperation (operationId : String) : Statement → Prop
  | .operationStep id | .finishOperation id .. | .failOperation id .. => id = operationId
  | _ => False

/-- The statements about the bandwidth of a peer. -/
def Statement.OfBandwidth (peerId : String) : Statement → Prop
  | .updatePeer id (.bandwidth ..) => id = peerId
  | .deleteManagedQueue .. | .storeManagedQueue _ => True
  | _ => False

section Rules

variable {S : Statement → Prop} {ℓ α β : Type}

/-! ## Calls -/

theorem Executes.bind {x : Service ℓ α} {f : α → Service ℓ β} (hx : Executes S x)
    (hf : ∀ a, Executes S (f a)) : Executes S (x >>= f) := Procedure.Makes.bind hx fun a _ => hf a

theorem Executes.tryCatch {x : Service ℓ α} {h : AppError → Service ℓ α} (hx : Executes S x)
    (hh : ∀ e, Executes S (h e)) : Executes S (MonadExcept.tryCatch x h) :=
  Procedure.Makes.tryCatch hx hh

theorem Executes.attempt {x : Service ℓ α} (hx : Executes S x) :
    Executes S (Procedure.attempt x) :=
  Procedure.Makes.mono (Procedure.Makes.attempt hx) fun _ _ => trivial

theorem executes_pure {a : α} : Executes S (pure a : Service ℓ α) := Procedure.makes_pure trivial

theorem executes_throw {e : AppError} : Executes S (throw e : Service ℓ α) := Procedure.makes_throw

theorem executes_query {read : Database → α} : Executes S (Service.query read : Service ℓ α) :=
  Procedure.makes_call (c := Call.query read) trivial

theorem executes_request {routerId : String} {q : RouterRequest} (h : q.Readable) :
    Executes S (Service.request routerId q : Service ℓ q.Result) :=
  Procedure.makes_call (c := Call.request routerId q) h

theorem executes_request_bind {routerId : String} {q : RouterRequest} {f : q.Result → Service ℓ β}
    (h : q.Readable) (hf : ∀ a, Executes S (f a)) :
    Executes S (Service.request routerId q >>= f) := (executes_request h).bind hf

theorem executes_execute {s : Statement} (h : S s) :
    Executes S (Service.execute s : Service ℓ s.Result) :=
  Procedure.makes_call (c := Call.execute s) h

theorem executes_executeAnyway {s : Statement} (h : S s) :
    Executes S (executeAnyway s : Service ℓ Unit) :=
  (executes_execute h).attempt.bind fun _ => executes_pure

theorem executes_requestAnyway {routerId : String} {q : RouterRequest} (h : q.Readable) :
    Executes S (requestAnyway routerId q : Service ℓ Unit) :=
  (executes_request h).attempt.bind fun _ => executes_pure

theorem executes_orThrow {value : Option α} {message : String} :
    Executes S (Service.orThrow value message : Service ℓ α) := by
  cases value with
  | none => exact executes_throw
  | some a => exact executes_pure

/-- What is computed is known of the result. -/
theorem makes_ofExcept {r : Except AppError α} : Procedure.Makes (Call.Executing S)
    (Service.ofExcept r : Service ℓ α) fun a => r = .ok a := by
  cases r with
  | error e => exact Procedure.makes_throw
  | ok a => exact Procedure.makes_pure rfl

theorem executes_ofExcept {r : Except AppError α} :
    Executes S (Service.ofExcept r : Service ℓ α) := makes_ofExcept.mono fun _ _ => trivial

/-! ## Runs -/

section Runs

variable {P : Platform} {faults : Call → Fault → Prop} {l l' : ℓ} {w w' : World} {x : Service ℓ α}

/-- A call that executes one of the statements `S` keeps what these keep. -/
theorem Call.Executing.keeps {I : Database → Prop}
    (hS : ∀ s, S s → ∀ now id db a db', I db → s.tx P now id db = .ok (a, db') → I db')
    (c : Call) (w : World) (r : Except AppError c.Result) (w' : World) (hc : c.Executing S)
    (hw : I w.db) (hcall : World.environment P faults c w r w') : I w'.db := by
  cases c with
  | query read =>
    obtain ⟨rfl, -⟩ := Service.environment_query hcall
    exact hw
  | execute s =>
    rcases Service.environment_execute hcall with ⟨now, id, a, db, htx, -, rfl⟩ | ⟨rfl, -⟩
    · exact hS s hc now id _ _ _ hw htx
    · exact hw
  | request routerId q =>
    rcases Service.environment_request hcall with ⟨id, a, content, -, -, rfl⟩ | ⟨rfl, -⟩ <;>
      exact hw

/-- A call that executes one of the statements `S` changes the database as they
    do. -/
theorem Call.Executing.within {R : Database → Database → Prop} [IsPreorder Database R]
    (hS : ∀ s, S s → ∀ now id, Within R (s.tx P now id)) {db : Database} (c : Call) (w : World)
    (r : Except AppError c.Result) (w' : World) (hc : c.Executing S) (hw : R db w.db)
    (hcall : World.environment P faults c w r w') : R db w'.db :=
  Call.Executing.keeps (I := R db) (fun s hs now id db₁ a db₂ hR htx =>
    IsTrans.trans _ _ _ hR (hS s hs now id db₁ a db₂ htx)) c w r w' hc hw hcall

/-- What the statements of a service keep is true of the database when it
    returns. -/
theorem Executes.returns {I : Database → Prop} (hx : Executes S x)
    (hS : ∀ s, S s → ∀ now id db a db', I db → s.tx P now id db = .ok (a, db') → I db') {a : α}
    (hw : I w.db) (h : x.Returns (World.environment P faults) l w a l' w') : I w'.db :=
  (Procedure.Makes.returns (K := fun w => I w.db) hx (Call.Executing.keeps hS) hw h).2

/-- And when it throws. -/
theorem Executes.throws {I : Database → Prop} (hx : Executes S x)
    (hS : ∀ s, S s → ∀ now id db a db', I db → s.tx P now id db = .ok (a, db') → I db')
    {e : AppError} (hw : I w.db) (h : x.Throws (World.environment P faults) l w e l' w') :
    I w'.db :=
  Procedure.Makes.throws (K := fun w => I w.db) hx (Call.Executing.keeps hS) hw h

/-- However it ends. -/
theorem Executes.wp_keeps {I : Database → Prop} (hx : Executes S x)
    (hS : ∀ s, S s → ∀ now id db a db', I db → s.tx P now id db = .ok (a, db') → I db')
    (hw : I w.db) : Procedure.wp (World.environment P faults) (fun _ _ => True) x
      (fun _ _ w' => I w'.db) (fun _ _ w' => I w'.db) l w :=
  Procedure.wp_mono (Procedure.Makes.wp (K := fun w => I w.db) hx (fun c s r s' hc hK hcall =>
    ⟨trivial, Call.Executing.keeps hS c s r s' hc hK hcall⟩) hw)
      (fun _ _ _ h => h.2) fun _ _ _ => id

theorem Executes.ends {I : Database → Prop} (hx : Executes S x)
    (hS : ∀ s, S s → ∀ now id db a db', I db → s.tx P now id db = .ok (a, db') → I db')
    {r : Except AppError α} (hw : I w.db)
    (h : (x.start l).Ends (World.environment P faults) w r w') :
    I w'.db := by
  obtain ⟨t, hrun⟩ := h
  have halways : (x.start l).Always (World.environment P faults) (fun _ _ => True)
      (fun _ w => I w.db) w := Procedure.always_start.2 (hx.wp_keeps hS hw)
  exact halways.ends hrun

end Runs

/-! ## Services that read -/

theorem executes_getRouter {id : String} : Executes S (getRouter id : Service ℓ RouterRow) :=
  executes_query.bind fun _ => executes_orThrow

theorem executes_clientForRouter {P : Platform} {router : RouterRow} :
    Executes S (clientForRouter P router : Service ℓ Unit) :=
  executes_ofExcept.bind fun _ => executes_pure

theorem executes_routerClient {P : Platform} {id : String} :
    Executes S (routerClient P id : Service ℓ RouterRow) :=
  executes_getRouter.bind fun _ => executes_clientForRouter.bind fun _ => executes_pure

theorem executes_loadPeer {peerId : String} : Executes S (loadPeer peerId : Service ℓ PeerRow) := by
  refine executes_query.bind fun row => ?_
  dsimp only
  split
  · exact executes_throw.bind fun _ => executes_orThrow
  · exact executes_orThrow

theorem executes_settingOr {read : Settings → α} :
    Executes S (settingOr read : Service ℓ α) :=
  executes_query.tryCatch fun _ => executes_pure

theorem executes_mutablePeer {peerId : String} :
    Executes S (mutablePeer peerId : Service ℓ PeerRow) :=
  executes_query.bind fun _ => executes_orThrow

theorem executes_assertCurrentRemote {P : Platform} {routerId : String} {row : PeerRow} :
    Executes S (assertCurrentRemote P routerId row : Service ℓ RemoteWireGuardPeer) := by
  refine executes_request_bind trivial fun remotePeers => ?_
  split
  · exact executes_throw
  · split_ifs
    · exact executes_throw
    · exact executes_pure

theorem executes_defaultPolicy {router : RouterRow} :
    Executes S (defaultPolicy router : Service ℓ EffectiveBandwidthPolicy) := by
  unfold defaultPolicy
  cases router.defaultBandwidthMode with
  | unlimited => exact executes_pure
  | custom => exact executes_pure
  | global =>
    refine executes_query.bind fun defaults => ?_
    cases defaults <;> exact executes_pure

theorem executes_getEffectivePeerBandwidth {peerId : String} :
    Executes S (getEffectivePeerBandwidth peerId : Service ℓ EffectiveBandwidthPolicy) := by
  refine executes_query.bind fun _ => executes_orThrow.bind fun row => ?_
  cases row.peer.bandwidth.bandwidthMode with
  | unlimited => exact executes_pure
  | custom => exact executes_pure
  | default | profile =>
    cases row.bandwidthProfile with
    | none => exact executes_defaultPolicy
    | some profileId =>
      refine executes_query.bind fun profile => ?_
      cases profile with
      | none => exact executes_defaultPolicy
      | some profile => exact executes_pure

/-! ## Queues -/

theorem executes_listQueues {routerId : String} :
    Executes S (listQueues routerId : Service ℓ QueueListing) :=
  executes_request_bind trivial fun _ => executes_request_bind trivial fun _ =>
    executes_request_bind trivial fun _ => executes_request_bind trivial fun _ => executes_pure

theorem executes_rejectConflicts {message : String} {conflicts : List ConflictSummary} :
    Executes S (rejectConflicts message conflicts : Service ℓ Unit) := by
  unfold rejectConflicts
  split_ifs
  · exact executes_pure
  · exact executes_throw

theorem executes_checkConflicts {listing : QueueListing} {peer : QueuePeer}
    {desired : Option DesiredSimpleQueue} :
    Executes S (checkConflicts listing peer desired : Service ℓ Unit) := by
  unfold checkConflicts
  dsimp only
  split_ifs
  · exact executes_throw.bind fun _ => executes_rejectConflicts.bind fun _ =>
      executes_rejectConflicts.bind fun _ => executes_rejectConflicts
  · exact executes_throw.bind fun _ => executes_rejectConflicts.bind fun _ => executes_pure
  · exact executes_rejectConflicts.bind fun _ => executes_rejectConflicts.bind fun _ =>
      executes_rejectConflicts
  · exact executes_rejectConflicts.bind fun _ => executes_pure

theorem executes_removeQueue {routerId : String} {peer : QueuePeer}
    {current : Option RemoteSimpleQueue} :
    Executes S (removeQueue routerId peer current : Service ℓ BandwidthApplyResult) := by
  cases current with
  | none => exact executes_pure
  | some current =>
    refine executes_request_bind trivial fun _ => executes_request_bind trivial fun queues => ?_
    split_ifs
    · exact executes_throw.bind fun _ => executes_pure
    · exact executes_pure

theorem executes_installQueue {P : Platform} {routerId : String} {peer : QueuePeer}
    {current : Option RemoteSimpleQueue} {desired : DesiredSimpleQueue} {force : Bool} :
    Executes S
      (installQueue P routerId peer current desired force : Service ℓ BandwidthApplyResult) := by
  unfold installQueue
  rcases current with _ | queue
  on_goal 1 => refine executes_request_bind trivial fun _ =>
    executes_request_bind trivial fun queues => ?_
  on_goal 2 =>
    dsimp only
    split_ifs
    · exact executes_pure
    on_goal 1 => refine executes_throw.bind fun _ => ?_
    all_goals
      refine executes_request_bind trivial fun _ => executes_pure.bind fun _ => ?_
      refine executes_request_bind trivial fun queues => ?_
  -- On every path that is left, the queue is read again.
  all_goals
    split
    · split_ifs
      · exact executes_pure
      · exact executes_throw
    · exact executes_throw

theorem executes_applyPeerBandwidthRemote {P : Platform} {routerId : String} {peer : QueuePeer}
    {policy : EffectiveBandwidthPolicy} {force : Bool} : Executes S
      (applyPeerBandwidthRemote P routerId peer policy force : Service ℓ BandwidthApplyResult) := by
  refine executes_listQueues.bind fun listing => executes_checkConflicts.bind fun _ => ?_
  cases desiredSimpleQueue peer policy with
  | none => exact executes_removeQueue
  | some desired => exact executes_installQueue

theorem executes_deleteOwnedPeerQueueRemote {routerId peerId : String} :
    Executes S (deleteOwnedPeerQueueRemote routerId peerId : Service ℓ ℕ) := by
  refine executes_request_bind trivial fun queues => ?_
  refine Executes.bind (Procedure.makes_forM fun _ _ => executes_request trivial) fun _ => ?_
  refine executes_request_bind trivial fun remaining => ?_
  split_ifs
  · exact executes_throw.bind fun _ => executes_pure
  · exact executes_pure

/-! ## What is stored -/

theorem executes_persistBandwidthResult {P : Platform} {routerId peerId : String}
    {policy : EffectiveBandwidthPolicy} {result : BandwidthApplyResult}
    (h : ∀ s, s.OfBandwidth peerId → S s) :
    Executes S (persistBandwidthResult P routerId peerId policy result : Service ℓ Unit) := by
  refine (executes_execute (h (.updatePeer peerId (.bandwidth _ _)) rfl)).bind fun _ => ?_
  cases result.desired with
  | none => exact executes_execute (h _ trivial)
  | some desired => exact executes_execute (h _ trivial)

theorem executes_getPeerConfig {P : Platform} {peerId : String} :
    Executes S (getPeerConfig P peerId : Service ℓ String) := by
  refine executes_query.bind fun _ => executes_orThrow.bind fun row => ?_
  split
  · exact executes_ofExcept
  · exact executes_throw

theorem executes_refreshPeerQr {P : Platform} {peerId : String}
    (h : ∀ hash, S (.updatePeer peerId (.qr hash))) :
    Executes S (refreshPeerQr P peerId : Service ℓ Unit) :=
  executes_getPeerConfig.bind fun _ => executes_execute (h _)

/-! ## Services that change a peer -/

variable {P : Platform} {peerId operationId : String} {keys : WireGuardKeys} {now : ℤ}

theorem executes_createStagedPeer {input : CreatePeerInput} {router : RouterRow}
    {interface : InterfaceRow}
    (hstage : ∀ listing, S (.stagePeer input peerId operationId router interface keys listing now))
    (hoperation : ∀ s, s.OfOperation operationId → S s)
    (hconfirm : ∀ poolId routerId interfaceId remotePeers clientIp excludePeerId,
      S (.confirmAddress poolId routerId interfaceId remotePeers clientIp excludePeerId))
    (hcreated : ∀ remote, S (.updatePeer peerId (.created remote)))
    (hbandwidth : ∀ s, s.OfBandwidth peerId → S s)
    (hactivated : S (.updatePeer peerId .activated)) :
    Executes S (createStagedPeer P input peerId operationId router interface keys now) := by
  refine (executes_request trivial : Executes S (Service.request router.id .getPeers)).attempt.bind
    fun listing => ?_
  refine (executes_execute (hstage listing)).bind fun staged => ?_
  refine Executes.bind Procedure.makes_modify fun _ => ?_
  refine (executes_execute (hoperation (.operationStep operationId) rfl)).bind fun _ => ?_
  refine executes_request_bind trivial fun _ =>
    (executes_execute (hconfirm _ _ _ _ _ _)).bind fun _ => ?_
  refine executes_request_bind trivial fun remoteId =>
    Executes.bind Procedure.makes_modify fun _ => ?_
  refine executes_request_bind trivial fun remotePeers => ?_
  split
  · exact executes_throw
  · exact (executes_execute (hcreated _)).bind fun _ =>
      (executes_execute (hoperation (.operationStep operationId) rfl)).bind fun _ =>
      executes_getEffectivePeerBandwidth.bind fun _ =>
      executes_applyPeerBandwidthRemote.bind fun _ =>
      (executes_persistBandwidthResult hbandwidth).bind fun _ =>
      (executes_execute (hoperation (.operationStep operationId) rfl)).bind fun _ =>
      (executes_execute hactivated).bind fun _ =>
      (executes_execute (hoperation (.finishOperation operationId _ _) rfl)).bind fun _ =>
      executes_pure

theorem executes_removeCreatedPeer {routerId remoteId : String} :
    Executes S (removeCreatedPeer routerId peerId remoteId : Service ℓ Bool) :=
  executes_deleteOwnedPeerQueueRemote.attempt.bind fun _ =>
    Executes.bind (Executes.attempt (executes_request trivial)) fun _ =>
    Executes.bind (Executes.attempt (executes_request trivial)) fun _ => executes_pure

/-- A creation that is abandoned does not return. -/
theorem makes_abandonCreation {routerId : String} {e : AppError} {Q : String → Prop}
    (hrelease : S (.releaseStagedPeer peerId))
    (hlifecycle : ∀ status sync shaping, S (.updatePeer peerId (.lifecycle status sync shaping)))
    (hoperation : ∀ s, s.OfOperation operationId → S s) :
    Procedure.Makes (Call.Executing S) (abandonCreation routerId peerId operationId e) Q := by
  have hfail : ∀ status context, Procedure.Makes (Call.Executing S) (do
      executeAnyway (.failOperation operationId status context)
      throw e : Service CreationLocals String) Q := fun status context =>
    Procedure.Makes.bind (executes_executeAnyway (hoperation (.failOperation operationId _ _) rfl))
      fun _ _ => Procedure.makes_throw
  refine Procedure.makes_get.bind fun l _ => ?_
  have hrest : ∀ cleaned : Bool, Procedure.Makes (Call.Executing S) (do
      if l.staged = true then
        if cleaned = true then Service.execute (.releaseStagedPeer peerId)
        else
          executeAnyway
            (.updatePeer peerId (.lifecycle .pendingCleanup (some .error) (some .pendingCleanup)))
      executeAnyway (.failOperation operationId (if cleaned then .failed else .pendingCleanup)
        (some (.obj [("peerId", .str peerId), ("remoteId", l.remoteId.elim .null .str)])))
      throw e : Service CreationLocals String) Q := fun cleaned => by
    dsimp only
    split
    · split
      · exact Procedure.Makes.bind (executes_execute hrelease) fun _ _ => hfail _ _
      · exact Procedure.Makes.bind (executes_executeAnyway (hlifecycle _ _ _)) fun _ _ => hfail _ _
    · exact hfail _ _
  dsimp only
  split
  · exact Procedure.Makes.bind executes_removeCreatedPeer fun cleaned _ => hrest cleaned
  · exact Procedure.Makes.bind executes_pure fun cleaned _ => hrest cleaned

/-! ## Services that enable and disable a peer -/

theorem executes_setPeerEnabled {P : Platform} {peerId : String} {enabled : Bool}
    {reason : DisabledReason}
    (henabled : ∀ fingerprint updated,
      S (.updatePeer peerId (.enabled enabled reason fingerprint updated))) :
    Executes S (setPeerEnabled P peerId enabled reason : Service ℓ Unit) := by
  refine executes_mutablePeer.bind fun row => ?_
  dsimp only
  split
  on_goal 1 => refine executes_throw.bind fun _ => ?_
  all_goals
    exact executes_routerClient.bind fun _ => executes_assertCurrentRemote.bind fun _ =>
      executes_request_bind ⟨nofun, nofun⟩ fun _ => executes_request_bind trivial fun _ =>
      executes_execute (henabled _ _)

theorem executes_expirePeer {P : Platform} {peer : PeerRow}
    (hexpired : S (.updatePeer peer.id .expired))
    (hdisabled : ∀ fingerprint updated,
      S (.updatePeer peer.id (.enabled false .expired fingerprint updated)))
    (haudit : ∀ action, S (.systemAudit action peer.id)) : Executes S (expirePeer P peer) := by
  refine Executes.tryCatch ?_ fun _ => ?_
  · exact (executes_execute hexpired).bind fun _ =>
      (executes_setPeerEnabled hdisabled).bind fun _ => (executes_execute (haudit _)).bind fun _ =>
      Procedure.makes_modify
  · exact (executes_execute (haudit _)).bind fun _ => Procedure.makes_modify

/-- A cycle of expirations. -/
theorem executes_enforceExpirations {P : Platform} {now : ℤ}
    (hexpired : ∀ peerId, S (.updatePeer peerId .expired))
    (hdisabled : ∀ peerId fingerprint updated,
      S (.updatePeer peerId (.enabled false .expired fingerprint updated)))
    (haudit : ∀ action peerId, S (.systemAudit action peerId)) :
    Executes S (enforceExpirations P now : Service ℓ ExpirationTotals) :=
  executes_query.bind fun _ => Procedure.Makes.withLocals <|
    Executes.bind (Procedure.makes_forM fun peer _ => executes_expirePeer (hexpired peer.id)
      (hdisabled peer.id) fun action => haudit action peer.id) fun _ => Procedure.makes_get

theorem executes_temporarilyReenablePeer {P : Platform} {peerId : String} {minutes now : ℤ}
    (hreenabled : ∀ bypassUntil observed,
      S (.updatePeer peerId (.reenabled bypassUntil observed))) :
    Executes S (temporarilyReenablePeer P peerId minutes now : Service ℓ Unit) := by
  refine executes_mutablePeer.bind fun row => ?_
  have hrest : Executes S (do
      let router ← routerClient P row.routerId
      let remote ← assertCurrentRemote P router.id row
      Service.request router.id (.updatePeer remote.id { disabled := some false })
      Service.execute (.updatePeer peerId
        (.reenabled (now + minutes * 60000) { remote with disabled := false })) : Service ℓ Unit) :=
    executes_routerClient.bind fun _ => executes_assertCurrentRemote.bind fun _ =>
      executes_request_bind ⟨nofun, nofun⟩ fun _ => executes_execute (hreenabled _ _)
  dsimp only
  split
  on_goal 1 => refine executes_throw.bind fun _ => ?_
  all_goals
    split
    on_goal 1 => refine executes_throw.bind fun _ => ?_
    all_goals
      split
      · exact executes_throw.bind fun _ => hrest
      · exact hrest

theorem executes_resetPeerQuotaUsage {P : Platform} {peerId : String} {now : ℤ}
    (hreset : ∀ row windowEnd observed, S (.resetQuota row windowEnd observed now)) :
    Executes S (resetPeerQuotaUsage P peerId now : Service ℓ Unit) := by
  refine executes_mutablePeer.bind fun row => ?_
  split
  · refine executes_routerClient.bind fun router =>
      executes_assertCurrentRemote.bind fun remote => ?_
    refine executes_settingOr.bind fun policy => executes_ofExcept.bind fun window => ?_
    split
    · exact executes_request_bind ⟨nofun, nofun⟩ fun _ => executes_execute (hreset _ _ _)
    · exact executes_execute (hreset _ _ _)
  · exact executes_throw

/-! ## The enforcement of quotas -/

section Enforcement

variable {routerId : String} {remote : RemoteWireGuardPeer}

theorem executes_setRemoteQuotaState {peer : PeerRow} {disabled : Bool} {used : Option ℤ}
    (hstate : ∀ observed, S (.updatePeer peer.id (.quotaState disabled used observed))) :
    Executes S (setRemoteQuotaState routerId remote peer disabled used : Service ℓ Unit) :=
  executes_request_bind ⟨nofun, nofun⟩ fun _ => executes_execute (hstate _)

theorem executes_enforceLimit {peer : PeerRow} {used now : ℤ} {limit : Option ℤ}
    {didReenable : Bool}
    (hstate : ∀ disabled used observed,
      S (.updatePeer peer.id (.quotaState disabled used observed)))
    (haudit : ∀ action, S (.systemAudit action peer.id)) : Executes S
      (enforceLimit routerId remote peer used limit didReenable now : Service ℓ _) := by
  have hset : ∀ disabled used audit (action : EnforcementAction), Executes S (do
      setRemoteQuotaState routerId remote peer disabled used
      Service.execute (.systemAudit audit peer.id)
      return action : Service ℓ EnforcementAction) := fun _ _ _ _ =>
    (executes_setRemoteQuotaState (hstate _ _)).bind fun _ => (executes_execute (haudit _)).bind
      fun _ => executes_pure
  unfold enforceLimit
  split_ifs <;> first | exact hset _ _ _ _ | exact executes_pure

theorem executes_enforceObservation {observation : Observation} {now : ℤ}
    (hstate : ∀ disabled used observed,
      S (.updatePeer observation.peer.id (.quotaState disabled used observed)))
    (haudit : ∀ action, S (.systemAudit action observation.peer.id)) :
    Executes S (enforceObservation routerId remote observation now : Service ℓ _) := by
  unfold enforceObservation
  dsimp only
  split
  · exact (executes_setRemoteQuotaState (hstate _ _)).bind fun _ =>
      (executes_execute (haudit _)).bind fun _ => executes_enforceLimit hstate haudit
  · exact executes_enforceLimit hstate haudit

end Enforcement

/-! ## Services that update a peer -/

section Update

variable {row : PeerRow} {input : UpdatePeerInput} {sourceId targetId : String}

/-- What an update stores of whether the peer is disabled and why: what the row
    says, or what the quota asks for. -/
def PeerRow.QuotaOutcome (row : PeerRow) (disabled : Bool) (reason : Option DisabledReason) :
    Prop :=
  disabled = row.disabled ∧ reason = row.disabledReason ∨ disabled = false ∧ reason = none ∨
    disabled = true ∧ reason = some .quota

theorem makes_updateQuotaState {quota : QuotaConfiguration} {changingRouter : Bool}
    {updated : RemoteWireGuardPeer} : Procedure.Makes (Call.Executing S)
      (updateQuotaState targetId row quota changingRouter updated : Service ℓ _)
      fun r => row.QuotaOutcome r.2.1 r.2.2 := by
  unfold updateQuotaState
  split_ifs
  · exact Procedure.Makes.bind (executes_request ⟨nofun, nofun⟩) fun _ _ =>
      Procedure.makes_pure (.inr (.inl ⟨rfl, rfl⟩))
  · exact Procedure.Makes.bind (executes_request ⟨nofun, nofun⟩) fun _ _ =>
      Procedure.makes_pure (.inr (.inr ⟨rfl, rfl⟩))
  · exact Procedure.Makes.bind (executes_request ⟨nofun, nofun⟩) fun _ _ =>
      Procedure.makes_pure (.inl ⟨rfl, rfl⟩)
  · exact Procedure.makes_pure (.inl ⟨rfl, rfl⟩)

theorem executes_moveRemotePeer {targetInterface : InterfaceRow} {remote : RemoteWireGuardPeer}
    {clientIp allowedAddress : String} (hoperation : ∀ s, s.OfOperation operationId → S s) :
    Executes S (moveRemotePeer P row input sourceId targetId operationId targetInterface remote
      clientIp allowedAddress) := by
  unfold moveRemotePeer
  dsimp only
  split
  on_goal 1 => refine executes_throw.bind fun _ => ?_
  all_goals
    refine executes_ofExcept.bind fun presharedKey =>
      executes_request_bind trivial fun created => ?_
    refine Executes.bind Procedure.makes_modify fun _ =>
      executes_request_bind trivial fun targetPeers => ?_
    split
    · exact executes_throw
    · exact Executes.bind Procedure.makes_modify fun _ => executes_request_bind trivial fun _ =>
        Executes.bind Procedure.makes_modify fun _ =>
        (executes_execute (hoperation (.operationStep operationId) rfl)).bind fun _ => executes_pure

theorem executes_updateRemotePeer {routerId allowedAddress : String}
    {targetInterface : InterfaceRow}
    {remote : RemoteWireGuardPeer} :
    Executes S (updateRemotePeer input routerId targetInterface remote allowedAddress) := by
  refine executes_request_bind ⟨nofun, nofun⟩ fun _ =>
    Executes.bind Procedure.makes_modify fun _ => ?_
  refine executes_request_bind trivial fun remotePeers => ?_
  split
  · exact executes_throw
  · exact executes_pure

theorem executes_finishUpdate {changingRouter : Bool} {clientIp : String}
    (hoperation : ∀ s, s.OfOperation operationId → S s)
    (hbandwidth : ∀ s, s.OfBandwidth row.id → S s)
    (hqr : ∀ hash, S (.updatePeer row.id (.qr hash))) :
    Executes S
      (finishUpdate P row input sourceId targetId operationId changingRouter clientIp) := by
  have hfinish : Executes S (Service.execute (.finishOperation operationId .completed (some (.obj
      [("routerId", .str input.routerId), ("clientIp", .str clientIp)]))) :
      Service UpdateLocals Unit) :=
    executes_execute (hoperation (.finishOperation operationId _ _) rfl)
  have hrest : Executes S (do
      let policy ← getEffectivePeerBandwidth row.id
      let bandwidth ← applyPeerBandwidthRemote P targetId
        { id := row.id, name := input.name, clientIp } policy true
      persistBandwidthResult P input.routerId row.id policy bandwidth
      Service.execute (.operationStep operationId)
      if (filled row.privateKeyEncrypted).isSome then refreshPeerQr P row.id
      Service.execute (.finishOperation operationId .completed (some (.obj
        [("routerId", .str input.routerId), ("clientIp", .str clientIp)]))) :
      Service UpdateLocals Unit) := by
    refine executes_getEffectivePeerBandwidth.bind fun policy => ?_
    refine executes_applyPeerBandwidthRemote.bind fun bandwidth => ?_
    refine (executes_persistBandwidthResult hbandwidth).bind fun _ => ?_
    refine (executes_execute (hoperation (.operationStep operationId) rfl)).bind fun _ => ?_
    dsimp only
    split
    · exact (executes_refreshPeerQr hqr).bind fun _ => hfinish
    · exact hfinish
  refine (executes_execute (hoperation (.operationStep operationId) rfl)).bind fun _ => ?_
  dsimp only
  split
  · exact executes_deleteOwnedPeerQueueRemote.bind fun _ => hrest
  · exact hrest

/-- What is known of the commit of an update of `row` when it is made. -/
structure PeerRow.Commits (P : Platform) (row : PeerRow) (input : UpdatePeerInput) (now : ℤ)
    (c : PeerCommit) : Prop where
  carried : c.row = row
  quota : ∃ policy, quotaConfiguration P row input policy now = .ok c.quota
  outcome : row.QuotaOutcome c.disabled c.disabledReason

theorem executes_updateCurrentPeer {targetInterface : InterfaceRow}
    (hconfirm : ∀ poolId routerId interfaceId remotePeers clientIp excludePeerId,
      S (.confirmAddress poolId routerId interfaceId remotePeers clientIp excludePeerId))
    (hcommit : ∀ c, row.Commits P input now c → S (.commitUpdate c now))
    (hoperation : ∀ s, s.OfOperation operationId → S s)
    (hbandwidth : ∀ s, s.OfBandwidth row.id → S s)
    (hqr : ∀ hash, S (.updatePeer row.id (.qr hash))) :
    Executes S
      (updateCurrentPeer P row input sourceId targetId operationId targetInterface now) := by
  refine executes_assertCurrentRemote.bind fun remote => ?_
  refine Executes.bind Procedure.makes_modify fun _ =>
    executes_request_bind trivial fun targetPeers => ?_
  refine (executes_execute (hconfirm _ _ _ _ _ _)).bind fun clientIp => ?_
  dsimp only
  split
  on_goal 1 => refine (executes_moveRemotePeer hoperation).bind fun updated => ?_
  on_goal 2 => refine executes_updateRemotePeer.bind fun updated => ?_
  all_goals
    refine executes_settingOr.bind fun policy =>
      Procedure.Makes.bind makes_ofExcept fun quota hquota => ?_
    refine Procedure.Makes.bind makes_updateQuotaState fun r hr => ?_
    refine executes_request_bind trivial fun finalRemotePeers => ?_
    refine (executes_execute (hcommit _ ⟨rfl, ⟨policy, hquota⟩, hr⟩)).bind fun _ => ?_
    exact Executes.bind Procedure.makes_modify fun _ =>
      executes_finishUpdate hoperation hbandwidth hqr

theorem executes_undoUpdate {l : UpdateLocals}
    (hrecover : ∀ recovery recoveryIp, S (.recoverUpdate row input recovery recoveryIp)) :
    Executes S (undoUpdate row input sourceId targetId l) := by
  unfold undoUpdate
  dsimp only
  split
  on_goal 1 => split
  on_goal 1 => refine Executes.bind (executes_requestAnyway ⟨nofun, nofun⟩) fun _ => ?_
  all_goals
    split
    on_goal 1 => split
    on_goal 1 => refine Executes.bind (executes_requestAnyway trivial) fun _ => ?_
    all_goals
      split
      · split
        · exact Executes.bind (executes_requestAnyway ⟨nofun, nofun⟩) fun _ =>
            executes_executeAnyway (hrecover _ _)
        · exact executes_pure
      · exact executes_pure

/-- An update that is abandoned does not return. -/
theorem makes_abandonUpdate {e : AppError} {Q : Unit → Prop}
    (hrecover : ∀ recovery recoveryIp, S (.recoverUpdate row input recovery recoveryIp))
    (hlifecycle : ∀ status sync shaping, S (.updatePeer row.id (.lifecycle status sync shaping)))
    (hoperation : ∀ s, s.OfOperation operationId → S s) :
    Procedure.Makes (Call.Executing S) (abandonUpdate row input sourceId targetId operationId e)
      Q := by
  have hfail : ∀ status context, Procedure.Makes (Call.Executing S) (do
      executeAnyway (.failOperation operationId status context)
      throw e : Service UpdateLocals Unit) Q := fun status context =>
    Procedure.Makes.bind (executes_executeAnyway (hoperation (.failOperation operationId _ _) rfl))
      fun _ _ => Procedure.makes_throw
  refine Procedure.makes_get.bind fun l _ => ?_
  dsimp only
  split
  · exact Procedure.Makes.bind (executes_executeAnyway (hlifecycle _ _ _)) fun _ _ => hfail _ _
  · exact Procedure.Makes.bind (executes_undoUpdate hrecover) fun _ _ => hfail _ _

end Update

/-! ## Services that rotate keys and delete a peer -/

section Rotation

variable {row : PeerRow} {routerId : String}

theorem executes_rotateKeys
    (hkeys : ∀ publicKey privateKey presharedKey updated,
      S (.updatePeer row.id (.keys publicKey privateKey presharedKey updated)))
    (hoperation : ∀ s, s.OfOperation operationId → S s)
    (hqr : ∀ hash, S (.updatePeer row.id (.qr hash))) :
    Executes S (rotateKeys P row routerId operationId keys) := by
  refine executes_assertCurrentRemote.bind fun remote =>
    executes_request_bind ⟨nofun, nofun⟩ fun _ => ?_
  refine Executes.bind Procedure.makes_modify fun _ =>
    executes_request_bind trivial fun remotePeers => ?_
  split
  · exact executes_throw
  · exact (executes_execute (hkeys _ _ _ _)).bind fun _ =>
      Executes.bind Procedure.makes_modify fun _ =>
      (executes_execute (hoperation (.operationStep operationId) rfl)).bind fun _ =>
      (executes_refreshPeerQr hqr).bind fun _ =>
      (executes_execute (hoperation (.operationStep operationId) rfl)).bind fun _ =>
      executes_execute (hoperation (.finishOperation operationId _ _) rfl)

theorem executes_restoreKeys : Executes S (restoreKeys P row routerId : Service ℓ Unit) := by
  refine executes_request_bind trivial fun remotePeers => ?_
  split
  · exact executes_pure
  · exact executes_ofExcept.bind fun _ => executes_request ⟨nofun, nofun⟩

theorem executes_abandonRotation {e : AppError}
    (hlifecycle : ∀ status sync shaping, S (.updatePeer row.id (.lifecycle status sync shaping)))
    (hoperation : ∀ s, s.OfOperation operationId → S s) :
    Executes S (abandonRotation P row routerId operationId e) := by
  refine Executes.bind Procedure.makes_get fun l => ?_
  have hrest : ∀ rollbackFailed : Bool, Executes S (do
      if rollbackFailed = true then
        executeAnyway (.updatePeer row.id (.lifecycle .needsReconciliation (some .error) none))
      executeAnyway (.failOperation operationId
        (if rollbackFailed ∨ l.databaseCommitted then .needsReconciliation else .failed)
        (some (.obj [("remoteMutated", .bool l.remoteMutated),
          ("databaseCommitted", .bool l.databaseCommitted),
          ("rollbackFailed", .bool rollbackFailed)])))
      throw e : Service RotationLocals Unit) := fun rollbackFailed => by
    have hfail : Executes S (executeAnyway (.failOperation operationId
        (if rollbackFailed ∨ l.databaseCommitted then .needsReconciliation else .failed)
        (some (.obj [("remoteMutated", .bool l.remoteMutated),
          ("databaseCommitted", .bool l.databaseCommitted),
          ("rollbackFailed", .bool rollbackFailed)]))) : Service RotationLocals Unit) :=
      executes_executeAnyway (hoperation _ rfl)
    dsimp only
    split
    · exact (executes_executeAnyway (hlifecycle _ _ _)).bind fun _ =>
        hfail.bind fun _ => executes_throw
    · exact hfail.bind fun _ => executes_throw
  dsimp only
  split
  · exact executes_restoreKeys.attempt.bind fun _ => executes_pure.bind hrest
  · exact executes_pure.bind hrest

theorem executes_deleteCurrentPeer
    (hlifecycle : ∀ status sync shaping, S (.updatePeer row.id (.lifecycle status sync shaping)))
    (harchive : S (.archiveAndDelete row)) (hoperation : ∀ s, s.OfOperation operationId → S s) :
    Executes S (deleteCurrentPeer P row routerId operationId) := by
  refine executes_assertCurrentRemote.bind fun remote => ?_
  refine (executes_execute (hlifecycle _ _ _)).bind fun _ =>
    executes_request_bind trivial fun _ => ?_
  refine Executes.bind Procedure.makes_modify fun _ =>
    executes_request_bind trivial fun remotePeers => ?_
  have hrest : Executes S (do
      Service.execute (.operationStep operationId)
      let queuesRemoved ← deleteOwnedPeerQueueRemote routerId row.id
      Service.execute (.operationStep operationId)
      Service.execute (.archiveAndDelete row)
      Service.execute (.finishOperation operationId .completed (some (.obj
        [("remoteId", .str remote.id), ("queuesRemoved", .num queuesRemoved)]))) :
      Service Bool Unit) :=
    (executes_execute (hoperation (.operationStep operationId) rfl)).bind fun _ =>
      executes_deleteOwnedPeerQueueRemote.bind fun _ =>
      (executes_execute (hoperation (.operationStep operationId) rfl)).bind fun _ =>
      (executes_execute harchive).bind fun _ =>
      executes_execute (hoperation (.finishOperation operationId _ _) rfl)
  dsimp only
  split_ifs
  · exact executes_throw.bind fun _ => hrest
  · exact hrest

theorem executes_abandonDeletion {e : AppError}
    (hlifecycle : ∀ status sync shaping, S (.updatePeer peerId (.lifecycle status sync shaping)))
    (hoperation : ∀ s, s.OfOperation operationId → S s) :
    Executes S (abandonDeletion peerId operationId e) := by
  refine Executes.bind Procedure.makes_get fun deleted => ?_
  have hend : ∀ status context, Executes S (do
      executeAnyway (.failOperation operationId status context)
      throw e : Service Bool Unit) := fun status context =>
    (executes_executeAnyway (hoperation (.failOperation operationId _ _) rfl)).bind fun _ =>
      executes_throw
  cases deleted <;>
    exact (executes_executeAnyway (hlifecycle _ _ _)).bind fun _ => hend _ _

end Rotation

/-! ## The reconciler -/

/-- A synchronisation. -/
theorem executes_syncRouter {routerId : String} {fresh : FreshIds} {now : ℤ}
    (hsync : ∀ listing, S (.sync routerId fresh listing)) (hstart : S (.startSyncRun routerId))
    (hstatus : S (.routerStatus routerId)) (hpeers : S (.unreachablePeers routerId))
    (hinterfaces : S (.unreachableInterfaces routerId)) (hfinish : S .finishSyncRun) :
    Executes S (syncRouter P routerId fresh now : Service ℓ SyncSummary) := by
  refine (executes_execute hstart).bind fun _ => Executes.tryCatch ?_ fun _ => ?_
  · exact executes_routerClient.bind fun _ => executes_request_bind trivial fun _ =>
      executes_settingOr.bind fun _ => executes_request_bind trivial fun _ =>
      executes_request_bind trivial fun _ => executes_request_bind trivial fun _ =>
      executes_request_bind trivial fun _ => executes_request_bind trivial fun _ =>
      executes_execute (hsync _)
  · exact (executes_execute hstatus).bind fun _ => (executes_executeAnyway hpeers).bind fun _ =>
      (executes_executeAnyway hinterfaces).bind fun _ => (executes_execute hfinish).bind fun _ =>
      executes_throw

theorem executes_observePeerBandwidth {P : Platform} {peerId : String}
    (hbandwidth : ∀ peerId source state, S (.updatePeer peerId (.bandwidth source state)))
    (hdrift : ∀ routerId peerId state application current differences,
      S (.bandwidthDrift routerId peerId state application current differences))
    (hdismiss : ∀ peerId, S (.dismissDrift .bandwidth peerId)) :
    Executes S (observePeerBandwidth P peerId : Service ℓ BandwidthSyncState) := by
  refine executes_loadPeer.bind fun row => ?_
  cases filled row.clientIp with
  | none => exact executes_pure
  | some clientIp =>
    refine Executes.bind (Executes.tryCatch ?_ fun e => ?_) fun observed => ?_
    · exact executes_routerClient.bind fun _ => executes_getEffectivePeerBandwidth.bind fun _ =>
        executes_listQueues.bind fun _ => executes_pure
    · exact (executes_execute (hbandwidth _ _ _)).attempt.bind fun _ => executes_throw
    · refine (executes_execute (hbandwidth _ _ _)).bind fun _ => ?_
      split
      · exact (executes_execute (hdismiss _)).bind fun _ => executes_pure
      · exact (executes_execute (hdrift _ _ _ _ _ _)).bind fun _ => executes_pure

theorem executes_removeRemotePeer {routerId message : String} {row : PeerRow} :
    Executes S (removeRemotePeer routerId row message : Service ℓ Unit) := by
  refine executes_request_bind trivial fun remotePeers => ?_
  dsimp only
  split
  on_goal 1 => refine executes_request_bind trivial fun _ => ?_
  -- The peers are listed again, whether one was deleted or not.
  all_goals
    refine executes_request_bind trivial fun remotePeers => ?_
    split_ifs
    · exact executes_pure
    · exact executes_throw

/-- The statements that the reconciler executes for an operation. -/
def Statement.OfReconciler (operationId : String) : Statement → Prop
  | .operationStep id | .finishOperation id .. | .failOperation id ..
  | .finishReconciledFailure id _ => id = operationId
  | .updatePeer .. | .sync .. | .startSyncRun _ | .finishSyncRun | .routerStatus _
  | .unreachablePeers _ | .unreachableInterfaces _ | .bandwidthDrift .. | .dismissDrift ..
  | .removeStagedPeer _ | .archiveAndDelete _ => True
  | _ => False

theorem executes_reconcileOperation {P : Platform} {operation : OperationRow} {fresh : FreshIds}
    {now : ℤ} : Executes (Statement.OfReconciler operation.id)
      (reconcileOperation P operation fresh now : Service ℓ Unit) := by
  have hend : ∀ s : Statement, s.OfReconciler operation.id →
      Executes (Statement.OfReconciler operation.id) (do
        Service.execute (.operationStep operation.id)
        Service.execute s : Service ℓ s.Result) := fun s hs => by
    have hstep : (Statement.operationStep operation.id).OfReconciler operation.id := rfl
    exact (executes_execute hstep).bind fun _ => executes_execute hs
  unfold reconcileOperation
  split_ifs
  · unfold reconcileCreateCleanup
    split
    · exact executes_execute rfl
    · refine executes_query.bind fun row => ?_
      split
      · exact executes_execute rfl
      · exact executes_routerClient.bind fun _ => executes_deleteOwnedPeerQueueRemote.bind fun _ =>
          executes_removeRemotePeer.bind fun _ => (executes_execute trivial).bind fun _ =>
          hend (.finishReconciledFailure operation.id _) rfl
  · unfold reconcileDeleteCleanup
    split
    · exact executes_execute rfl
    · refine executes_query.bind fun row => ?_
      split
      · exact executes_execute rfl
      · exact executes_routerClient.bind fun _ => executes_removeRemotePeer.bind fun _ =>
          executes_deleteOwnedPeerQueueRemote.bind fun _ => (executes_execute trivial).bind fun _ =>
          hend (.finishOperation operation.id _ _) rfl
  · unfold reconcileUpdate
    split
    · refine Executes.bind ?_ fun _ => Executes.bind ?_ fun _ => executes_query.bind fun _ =>
        executes_orThrow.bind fun peer => ?_
      · exact executes_syncRouter (fun _ => trivial) trivial trivial trivial trivial trivial
      · exact executes_observePeerBandwidth (fun _ _ _ => trivial) (fun _ _ _ _ _ _ => trivial)
          fun _ => trivial
      · dsimp only
        split
        on_goal 1 => refine executes_throw.bind fun _ => ?_
        all_goals
          exact (executes_execute trivial).bind fun _ =>
            hend (.finishOperation operation.id _ _) rfl
    · exact executes_throw
  · exact executes_throw

/-- One operation of a pass. -/
theorem executes_reconcileCounted {P : Platform} {operation : OperationRow} {fresh : FreshIds}
    {now : ℤ} : Executes (Statement.OfReconciler operation.id)
      (reconcileCounted P operation fresh now) := by
  refine Executes.bind Procedure.makes_modify fun _ => Executes.tryCatch ?_ fun _ => ?_
  · exact executes_reconcileOperation.bind fun _ => Procedure.makes_modify
  · have hfail :
        ∀ status context, (Statement.failOperation operation.id status context).OfReconciler
        operation.id := fun _ _ => rfl
    exact (executes_executeAnyway (hfail _ _)).bind fun _ => Procedure.makes_modify

end Rules

end WireguardPanel
