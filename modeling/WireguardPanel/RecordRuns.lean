import WireguardPanel.DisabledReasons
import WireguardPanel.Foundation.Sweep
import WireguardPanel.RouterRecords

/-!
# Installations with routers that hold records

What the operations on the peers of an installation ask of its routers can be read again. So an
installation with routers that hold records does nothing that it would not do with the routers
that the services take them for.

* `readable_service`: the requests of the operations.
* `reaches_content`: the runs.
-/

namespace WireguardPanel

open Foundation

section Requests

variable {P : Platform} {ℓ : Type} {same : Json → Json → Bool}

/-- A state that is applied to a peer says nothing of its endpoint. -/
theorem readable_of_peerApplication {state : Json} {input : UpdateRemotePeer} {id : String}
    (h : peerApplication state = .ok input) : (RouterRequest.updatePeer id input).Readable := by
  obtain ⟨interfaceName, -, h⟩ := except_bind_eq_ok.1 h
  obtain ⟨publicKey, -, h⟩ := except_bind_eq_ok.1 h
  obtain ⟨allowedAddress, -, h⟩ := except_bind_eq_ok.1 h
  obtain ⟨comment, -, h⟩ := except_bind_eq_ok.1 h
  obtain ⟨persistentKeepalive, -, h⟩ := except_bind_eq_ok.1 h
  cases h
  exact ⟨nofun, nofun⟩

theorem executes_resolvePeerDrift {drift : DriftRow} {peerId : String}
    {resolution : DriftResolution} : Executes (fun _ => True)
      (resolvePeerDrift P same drift peerId resolution : Service ℓ Unit) := by
  refine executes_query.bind fun _ => executes_orThrow.bind fun peer => ?_
  refine executes_routerClient.bind fun router =>
    executes_request_bind trivial fun remotePeers => ?_
  split
  · exact executes_throw
  · split
    · split
      -- What is sent is known from the state that it is made of.
      · refine Procedure.Makes.bind makes_ofExcept fun input hinput => ?_
        refine executes_request_bind (readable_of_peerApplication hinput) fun _ => ?_
        refine executes_request_bind trivial fun _ => ?_
        split
        · exact executes_throw
        · split
          · exact executes_execute trivial
          · exact executes_throw
      · unfold adoptPeerState
        split
        · exact executes_throw
        · refine executes_query.bind fun _ => executes_orThrow.bind fun interface => ?_
          split
          · exact executes_throw
          · split
            · exact executes_execute trivial
            · exact executes_throw
    · exact executes_throw

theorem readable_resolveDriftObject {drift : DriftRow} {resolution : DriftResolution} :
    Procedure.Makes Call.Readable (resolveDriftObject P same drift resolution : Service ℓ Unit)
      fun _ => True := by
  unfold resolveDriftObject
  split
  · exact executes_resolvePeerDrift.readable
  · exact Procedure.makes_throw
  · exact executesPairs_resolveBandwidthDrift.readable
  · exact Procedure.makes_throw
  · exact executesPairs_resolveInterfaceDrift.readable

theorem readable_resolveConfigurationDrift {driftId : String} {resolution : DriftResolution} :
    Procedure.Makes Call.Readable
      (resolveConfigurationDrift P same driftId resolution : Service ℓ Unit) fun _ => True := by
  have hopen : Executes (fun _ => True)
      (Service.query fun db => db.openDrift driftId : Service ℓ _) := executes_query
  have hfound : ∀ drift : Option DriftRow, Executes (fun _ => True)
      (Service.orThrow drift "Open configuration drift not found." : Service ℓ _) :=
    fun drift => executes_orThrow
  have hend : ∀ drift : DriftRow, Executes (fun _ => True)
      (Service.execute (.resolveDrift drift.id resolution) : Service ℓ _) :=
    fun drift => executes_execute trivial
  exact Procedure.Makes.bind hopen.readable fun drift _ =>
    Procedure.Makes.bind (hfound drift).readable fun drift _ =>
    Procedure.Makes.bind readable_resolveDriftObject fun _ _ => (hend drift).readable

theorem readable_updatePeer {peerId : String} {input : UpdatePeerInput} {now : ℤ} :
    Procedure.Makes Call.Readable (updatePeer P peerId input now : Service ℓ Unit)
      fun _ => True := by
  refine Executes.readable (S := fun _ => True) ?_
  refine Executes.bind (executes_query.bind fun _ => executes_orThrow) fun row => ?_
  refine (executes_execute trivial).bind fun operationId => executes_query.bind fun _ => ?_
  refine executes_orThrow.bind fun interface => executes_routerClient.bind fun sourceRouter => ?_
  -- The rest is the same whether the peer stays on its router or not.
  have hrest : ∀ targetId, Executes (fun _ => True) (Procedure.withLocals {}
      (tryCatch (updateCurrentPeer P row input sourceRouter.id targetId operationId interface now)
        (abandonUpdate row input sourceRouter.id targetId operationId)) : Service ℓ Unit) :=
    fun targetId => Procedure.Makes.withLocals (Executes.tryCatch
      (executes_updateCurrentPeer (fun _ _ _ _ _ _ => trivial) (fun _ _ => trivial)
        (fun _ _ => trivial) (fun _ _ => trivial) fun _ => trivial)
      fun _ => makes_abandonUpdate (fun _ _ => trivial) (fun _ _ _ => trivial) fun _ _ => trivial)
  dsimp only
  split
  · exact executes_routerClient.bind fun _ => hrest _
  · exact hrest _

/-- Every operation on the peers of an installation asks of the routers only what can be read
    again. -/
theorem readable_service (action : PeerAction) :
    Procedure.Makes Call.Readable (action.service P) fun _ => True := by
  cases action with
  | operation started =>
    cases started with
    | create => exact (executesPairs_createPeer.bind fun _ => executes_pure).readable
    | update => exact readable_updatePeer
    | delete => exact executesPairs_deletePeer.readable
    | regenerateKeys => exact executesPairs_regeneratePeerKeys.readable
  | setEnabled => exact executesPairs_setPeerEnabled.readable
  | enforceExpirations =>
    exact (executesPairs_enforceExpirations.bind fun _ => executes_pure).readable
  | pollTraffic => exact (executesPairs_pollRouterTraffic.bind fun _ => executes_pure).readable
  | resetQuotaUsage => exact executesPairs_resetPeerQuotaUsage.readable
  | temporarilyReenable => exact executesPairs_temporarilyReenablePeer.readable
  | setBandwidthPolicy =>
    exact (executesPairs_setPeerBandwidthPolicy.bind fun _ => executes_pure).readable
  | sync => exact (executesPairs_syncRouter.bind fun _ => executes_pure).readable
  | resolveDrift => exact readable_resolveConfigurationDrift

end Requests

/-! ## Runs of an installation -/

/-- The complete operations on the peers of an installation whose routers hold records, each
    reached by its own client. A step without an operation leaves the rows of the peers alone,
    stores no drift of a peer, and names no peer of a router. -/
def recordInstallation (P : Platform) (N : Readings) (api : String → RouterApiType) :
    System RecordWorld (Option PeerAction) where
  step
    | some action, W, W' => ∃ r, ((action.service P).start ()).Ends
        (RecordWorld.environment P N api fun _ _ => True) W r W'
    | none, W, W' => W'.db.peers = W.db.peers ∧ KeepsDrifts W.db W'.db ∧ W'.Unnamed

variable {P : Platform} {N : Readings} {api : String → RouterApiType} {W W' : RecordWorld}

/-- A step with such routers is one with the routers of the services. -/
theorem step_content {action : Option PeerAction} (hW : W.Unnamed)
    (hstep : (recordInstallation P N api).step action W W') :
    (installation P).step action (W.content N) (W'.content N) ∧ W'.Unnamed := by
  cases action with
  | none => exact ⟨⟨hstep.1, hstep.2.1⟩, hstep.2.2⟩
  | some action =>
    obtain ⟨r, hends⟩ := hstep
    have hmakes : ((action.service P).start ()).Makes Call.Readable fun _ => True :=
      Program.Makes.bind (readable_service action ()) fun _ _ => trivial
    obtain ⟨w', hends', rfl, hW'⟩ :=
      hends.refines (RecordWorld.refines_content fun _ _ => True) hmakes ⟨rfl, hW⟩
    exact ⟨⟨r, hends'⟩, hW'⟩

/-- What an installation with such routers reaches, it reaches with the routers of the services:
    whatever is true there of every run is true here. -/
theorem reaches_content (h : (recordInstallation P N api).Reaches (fun _ _ => True) W W')
    (hW : W.Unnamed) :
    (installation P).Reaches (fun _ _ => True) (W.content N) (W'.content N) ∧ W'.Unnamed := by
  -- The two worlds are related by what is read of the records.
  obtain ⟨w', hreach, rfl, hW'⟩ := h.simulated (T := installation P)
    (R := fun W w => w = W.content N ∧ W.Unnamed) ⟨rfl, hW⟩ fun action W w W' hrel hstep => by
      obtain ⟨rfl, hW⟩ := hrel
      obtain ⟨hstep', hW'⟩ := step_content hW hstep
      exact ⟨_, hstep', rfl, hW'⟩
  exact ⟨hreach, hW'⟩

/-! ### A run -/

/-- The peer of the small installation is disabled by hand, through the native client. -/
theorem reaches_content_setEnabled :
    ∃ W' : RecordWorld, ((W'.content plainReadings).routers "r1").remotePeers.map
        RemoteWireGuardPeer.disabled = [true] ∧
      (installation Platform.plain).Reaches (fun _ _ => True)
        (plainRecordWorld.content plainReadings) (W'.content plainReadings) ∧ W'.Unnamed := by
  have hshown : (Program.run (RecordWorld.answer Platform.plain plainReadings fun _ => .native)
      (((PeerAction.setEnabled "p1" false .manual).service Platform.plain).start ())
      (List.replicate 6 {}) plainRecordWorld).map (fun outcome =>
        ((outcome.2.content plainReadings).routers "r1").remotePeers.map
          RemoteWireGuardPeer.disabled) = some [true] := by
    decide +kernel
  obtain ⟨⟨r, W'⟩, hrun, hdisabled⟩ := Option.map_eq_some_iff.1 hshown
  have hreach : (recordInstallation Platform.plain plainReadings fun _ => .native).Reaches
      (fun _ _ => True) plainRecordWorld W' :=
    .tail (a := some (.setEnabled "p1" false .manual)) .refl trivial
      ⟨r, Program.ends_of_run (fun d _ _ _ => ⟨d, trivial, rfl⟩) hrun⟩
  exact ⟨W', hdisabled, reaches_content hreach plainRecordWorld_unnamed⟩

end WireguardPanel
