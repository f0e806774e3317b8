import WireguardPanel.OperationEnds
import WireguardPanel.PeerUpdates

/-!
# Services whose calls fail

What is true wherever a service ends, when any of its calls may fail: each call
has two ways on, the one that it returns and the one that it throws.

* `wp_query_failing`, `wp_execute_failing`, `wp_request_failing`: the calls.
* `wp_assertCurrentRemote_failing`: the check that a change begins with.
* `returns_startOperation`, `returns_failOperation`: the operation of a change.
-/

namespace WireguardPanel

open Foundation

section Failing

variable {P : Platform} {faults : Call → Fault → Prop} {ℓ α : Type} {l : ℓ} {w : World}
  {Q : α → ℓ → World → Prop} {E : AppError → ℓ → World → Prop}

/-! ## Calls -/

theorem wp_query_failing {read : Database → α} (hQ : Q (read w.db) l w) (hE : ∀ e, E e l w) :
    Procedure.wp (World.environment P faults) (fun _ _ => True) (Service.query read) Q E l w := by
  refine Procedure.wp_call.2 fun r w' hcall => ⟨trivial, ?_⟩
  obtain ⟨rfl, hread⟩ := Service.environment_query hcall
  cases r with
  | error e => exact hE e
  | ok a =>
    rw [hread a rfl]
    exact hQ

/-- A transaction commits, or it fails without effect. -/
theorem wp_execute_failing {s : Statement} {Q : s.Result → ℓ → World → Prop}
    (hQ : ∀ now id a db, s.tx P now id w.db = .ok (a, db) → Q a l { w with db })
    (hE : ∀ e, E e l w) :
    Procedure.wp (World.environment P faults) (fun _ _ => True) (Service.execute s) Q E l w := by
  refine Procedure.wp_call.2 fun r w' hcall => ⟨trivial, ?_⟩
  rcases Service.environment_execute hcall with ⟨now, id, a, db, htx, rfl, rfl⟩ | ⟨rfl, e, rfl⟩
  · exact hQ now id a db htx
  · exact hE e

/-- A request takes effect, whether its reply comes or not, or it fails without
    effect. -/
theorem wp_request_failing {routerId : String} {request : RouterRequest}
    {Q : request.Result → ℓ → World → Prop}
    (hQ : ∀ id a r, request.perform id (w.routers routerId) = some (a, r) →
      Q a l (w.setRouter routerId r) ∧ ∀ e, E e l (w.setRouter routerId r))
    (hE : ∀ e, E e l w) : Procedure.wp (World.environment P faults) (fun _ _ => True)
      (Service.request routerId request) Q E l w := by
  refine Procedure.wp_call.2 fun r w' hcall => ⟨trivial, ?_⟩
  rcases Service.environment_request hcall with ⟨id, a, content, hperform, ha, rfl⟩ | ⟨rfl, e, rfl⟩
  · cases r with
    | error e => exact (hQ id a content hperform).2 e
    | ok b =>
      rw [ha b rfl]
      exact (hQ id a content hperform).1
  · exact hE e

theorem wp_getPeers_failing {routerId : String}
    {Q : List RemoteWireGuardPeer → ℓ → World → Prop} (hQ : Q (w.routers routerId).remotePeers l w)
    (hE : ∀ e, E e l w) : Procedure.wp (World.environment P faults) (fun _ _ => True)
      (Service.request routerId .getPeers) Q E l w :=
  wp_request_failing (fun _ _ _ hperform => by
    cases hperform
    rw [World.setRouter_self]
    exact ⟨hQ, hE⟩) hE

/-- A setting is read, or its default is taken. -/
theorem wp_settingOr_failing {read : Settings → α} (hstored : Q (read w.db.settings) l w)
    (hdefault : Q (read Database.empty.settings) l w) :
    Procedure.wp (World.environment P faults) (fun _ _ => True) (settingOr read) Q E l w :=
  Procedure.wp_tryCatch.2 (wp_query_failing hstored fun _ => hdefault)

theorem wp_anySetting_failing {read : Settings → α} (hQ : ∀ a, Q a l w) :
    Procedure.wp (World.environment P faults) (fun _ _ => True) (settingOr read) Q E l w :=
  wp_settingOr_failing (hQ _) (hQ _)

theorem wp_orThrow_failing {value : Option α} {message : String}
    (hQ : ∀ a, value = some a → Q a l w)
    (hE : ∀ e, E e l w) : Procedure.wp (World.environment P faults) (fun _ _ => True)
      (Service.orThrow value message) Q E l w := by
  cases value with
  | none => exact hE _
  | some a => exact hQ a rfl

theorem wp_getRouter_failing {id : String} {Q : RouterRow → ℓ → World → Prop}
    (hQ : ∀ router, router.id = id → Q router l w) (hE : ∀ e, E e l w) :
    Procedure.wp (World.environment P faults) (fun _ _ => True) (getRouter id) Q E l w :=
  Procedure.wp_bind.2 (wp_query_failing (wp_orThrow_failing (fun router hrouter =>
    hQ router (by simpa using List.find?_some hrouter)) hE) hE)

theorem wp_ofExcept_failing {r : Except AppError α} (hQ : ∀ a, r = .ok a → Q a l w)
    (hE : ∀ e, E e l w) : Procedure.wp (World.environment P faults) (fun _ _ => True)
      (Service.ofExcept r) Q E l w := by
  cases r with
  | error e => exact hE e
  | ok a => exact hQ a rfl

theorem wp_routerClient_failing {id : String} {Q : RouterRow → ℓ → World → Prop}
    (hQ : ∀ router, router.id = id → Q router l w) (hE : ∀ e, E e l w) :
    Procedure.wp (World.environment P faults) (fun _ _ => True) (routerClient P id) Q E l w :=
  Procedure.wp_bind.2 <| wp_getRouter_failing (fun router hrouter =>
    Procedure.wp_bind.2 <| Procedure.wp_bind.2 <|
      wp_ofExcept_failing (fun _ _ => Procedure.wp_pure.2 (hQ router hrouter)) hE) hE

/-- The peer of a row is found on its router as it is there, or the service
    throws and has changed nothing. -/
theorem wp_assertCurrentRemote_failing {routerId : String} {row : PeerRow}
    {Q : RemoteWireGuardPeer → ℓ → World → Prop}
    (hQ : ∀ p, (w.routers routerId).peerOf row = some p → Q p.toRemoteWireGuardPeer l w)
    (hE : ∀ e, E e l w) : Procedure.wp (World.environment P faults) (fun _ _ => True)
      (assertCurrentRemote P routerId row) Q E l w := by
  refine Procedure.wp_bind.2 (wp_getPeers_failing ?_ hE)
  rw [RouterContent.find_remotePeers]
  cases hpeer : (w.routers routerId).peerOf row with
  | none => exact hE _
  | some p =>
    rw [Option.map_some]
    dsimp only
    split_ifs
    · exact hE _
    · exact hQ p hpeer

/-! ## Operations -/

variable {l' : ℓ} {w' : World} {operationId : String}

theorem returns_startOperation {operationType : String} {routerId peerId : Option String}
    {context : Json}
    (h : (Service.execute (.startOperation operationType routerId peerId context)).Returns
      (World.environment P faults) l w operationId l' w') :
    (¬∃ o ∈ w.db.operations, o.id = operationId) ∧ l = l' ∧
      ∃ o : OperationRow, o.id = operationId ∧ o.status = .creating ∧ w' = w.withOperation o := by
  obtain ⟨now, id, db, htx, rfl, rfl⟩ := Service.returns_execute h
  obtain ⟨rfl, hnew, rfl⟩ := Tx.insertOperation_ok htx
  exact ⟨hnew, rfl, _, rfl, rfl, rfl⟩

/-- The world in which an operation has failed. -/
def World.failOperation (w : World) (operationId : String) (status : OperationStatus)
    (context : Option Json) (now : ℤ) : World :=
  { w with db := { w.db with operations := w.db.operations.map fun o =>
    if o.id = operationId then OperationRow.failed status context now o else o } }

/-- The failure is recorded, or nothing is. -/
theorem returns_failOperation {status : OperationStatus} {context : Option Json}
    {r : Except AppError Unit}
    (h : (Procedure.attempt (Service.execute (.failOperation operationId status context))).Returns
      (World.environment P faults) l w r l' w') : l = l' ∧
      ((r = .ok () ∧ ∃ now, w' = w.failOperation operationId status context now) ∨
        (∃ e, r = .error e) ∧ w' = w) := by
  rcases Procedure.returns_attempt h with ⟨u, rfl, hrecord⟩ | ⟨e, rfl, hfail⟩
  · obtain ⟨now, _, db, htx, rfl, rfl⟩ := Service.returns_execute hrecord
    cases htx
    exact ⟨rfl, .inl ⟨rfl, now, rfl⟩⟩
  · obtain ⟨hcall, rfl⟩ := Procedure.throws_call.1 hfail
    rcases Service.environment_execute hcall with ⟨_, _, _, _, -, he, -⟩ | ⟨rfl, -⟩
    · cases he
    · exact ⟨rfl, .inr ⟨⟨e, rfl⟩, rfl⟩⟩

end Failing

end WireguardPanel
