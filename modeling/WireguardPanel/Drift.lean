import WireguardPanel.Bandwidth

/-!
# The review of configuration drifts

Before a recorded drift is resolved, the object is read from the router again
and its state is compared with the state that was recorded. The recorded state
comes back from a `JSONB` column, the other one is built in the program.

* `observe`: the state of the object at resolution time, or why there is none.
* `review`: the test itself, by the texts of the two states (`sameState`).
* `review_ne_ok`: no object passes the test, since the keys of its state are
  written in an order that no `JSONB` column returns.
-/

namespace WireguardPanel

open Foundation

/-- What a drift is about, with the columns by which it is found on the router. -/
inductive DriftObject
  | peer (remoteId : Option String) (publicKey : String)
  | interface (remoteId : String)
  | bandwidth (peerId : String)
  deriving DecidableEq

/-- `sameState`. -/
def sameState (left right : Json) : Bool := decide (left.stringify = right.stringify)

/-- The Simple Queues of a router that belong to a peer. -/
def ownedQueues (peerId : String) (queues : List RemoteSimpleQueue) : List RemoteSimpleQueue :=
  queues.filter fun queue => Text.trim queue.comment = queueOwnershipComment peerId

/-- An interface. -/
def oneInterface : RemoteWireGuardInterface where
  id := "*1"
  name := "wg0"
  listenPort := 51820
  mtu := 1420
  publicKey := "K"
  disabled := false
  running := true

/-- A router with one interface. -/
def oneInterfaceRouter : RouterContent where
  interfaces := [oneInterface]
  peers := []
  addresses := []
  routes := []
  queues := []
  queueTrees := []
  mangleRules := []
  filterRules := []

section Platform

variable (P : Platform)

/-- The state of the object on the router, as the three resolvers read it
    before they compare it. -/
def DriftObject.observe (object : DriftObject) (router : RouterContent) : Except AppError Json :=
  match object with
  | .peer remoteId publicKey =>
    match router.remotePeers.find? fun item =>
        some item.id = remoteId ∨ item.publicKey = publicKey with
    | some remote => .ok (peerRouterState remote)
    | none => .error (.driftChanged "The peer no longer exists on RouterOS.")
  | .interface remoteId =>
    match router.interfaces.find? fun item => item.id = remoteId with
    | some remote => .ok (routerInterfaceState remote)
    | none => .error (.driftChanged "The WireGuard interface no longer exists on RouterOS.")
  | .bandwidth peerId =>
    match ownedQueues peerId router.queues with
    | [queue] => .ok (simpleQueueState P (attributes queue))
    | _ => .error (.driftChanged
        "The application-owned queue count changed. Synchronize and review the new state.")

/-- What is thrown for an object that has changed again. -/
def DriftObject.changed : DriftObject → AppError
  | .peer _ _ => .driftChanged ("RouterOS changed again after this drift was detected. " ++
      "Synchronize and review the new differences.")
  | .interface _ => .driftChanged "The interface changed again after this drift was detected."
  | .bandwidth _ => .driftChanged "The queue changed again after this drift was detected."

/-- The staleness test: the current state, if it is the one that `routerState`,
    the column of the drift, holds. -/
def DriftObject.review (object : DriftObject) (router : RouterContent) (routerState : Json) :
    Except AppError Json := do
  let current ← object.observe P router
  if sameState current routerState then return current else throw object.changed

/-! ## The order of the keys -/

theorem not_keysSorted_peerRouterState (remote : RemoteWireGuardPeer) :
    ¬(peerRouterState remote).KeysSorted := by
  change ¬["interfaceName", "publicKey", "allowedAddress", "comment", "persistentKeepalive",
    "disabled"].Pairwise (Json.keyRank · < Json.keyRank ·)
  decide

theorem not_keysSorted_routerInterfaceState (item : RemoteWireGuardInterface) :
    ¬(routerInterfaceState item).KeysSorted := by
  change ¬["name", "listenPort", "mtu", "publicKey", "disabled"].Pairwise
    (Json.keyRank · < Json.keyRank ·)
  decide

theorem not_keysSorted_simpleQueueState (queue : DesiredSimpleQueue) :
    ¬(simpleQueueState P queue).KeysSorted := by
  change ¬["name", "target", "maxLimit", "burstLimit", "burstThreshold", "burstTime", "disabled",
    "comment"].Pairwise (Json.keyRank · < Json.keyRank ·)
  decide

/-- The keys of an observed state are never in the order of a `JSONB` column. -/
theorem DriftObject.not_keysSorted_observe {object : DriftObject} {router : RouterContent}
    {current : Json} (h : object.observe P router = .ok current) : ¬current.KeysSorted := by
  unfold observe at h
  split at h <;> split at h <;> cases h
  · exact not_keysSorted_peerRouterState _
  · exact not_keysSorted_routerInterfaceState _
  · exact not_keysSorted_simpleQueueState P _

/-- Whatever was recorded, no state passes the staleness test. -/
theorem DriftObject.review_ne_ok (object : DriftObject) (router : RouterContent)
    (recorded current : Json) : object.review P router recorded.jsonb ≠ .ok current := by
  unfold review
  cases hobserve : object.observe P router with
  | error e => exact nofun
  | ok observed =>
    have hsame : sameState observed recorded.jsonb = false :=
      decide_eq_false (Json.stringify_jsonb_ne (object.not_keysSorted_observe P hobserve) recorded)
    simp [bind, Except.bind, hsame, throw, throwThe, MonadExceptOf.throw]

/-- The staleness test accepts just the states that agree with the recorded one
    in every tracked field if and only if the object disagrees with it in one. -/
theorem DriftObject.review_iff_agreement_iff {object : DriftObject} {router : RouterContent}
    {current : Json} (recorded : Json) (hobserve : object.observe P router = .ok current) :
    (object.review P router recorded.jsonb = .ok current ↔
        ∀ k ∈ current.keys, recorded.field k = current.field k) ↔
      ∃ k ∈ current.keys, recorded.field k ≠ current.field k := by
  have hreview := object.review_ne_ok P router recorded current
  have hkeys := object.not_keysSorted_observe P hobserve
  constructor
  · intro hiff
    by_contra hall
    push Not at hall
    exact hreview (hiff.2 hall)
  · rintro ⟨k, hk, hne⟩
    exact ⟨fun hok => absurd hok hreview, fun hall => absurd (hall k hk) hne⟩

/-- The test on an interface that has not changed at all. -/
theorem DriftObject.review_iff_agreement_iff_oneInterface :
    (DriftObject.review Platform.plain (.interface "*1") oneInterfaceRouter
          (routerInterfaceState oneInterface).jsonb = .ok (routerInterfaceState oneInterface) ↔
      ∀ k ∈ (routerInterfaceState oneInterface).keys,
        (routerInterfaceState oneInterface).field k = (routerInterfaceState oneInterface).field k) ↔
      ∃ k ∈ (routerInterfaceState oneInterface).keys,
        (routerInterfaceState oneInterface).field k ≠ (routerInterfaceState oneInterface).field k :=
  DriftObject.review_iff_agreement_iff Platform.plain _ rfl

/-- An interface that is as it was when its drift was recorded does not pass the test. -/
theorem DriftObject.review_rejects_unchanged :
    ¬∀ (object : DriftObject) (router : RouterContent) (recorded current : Json),
      object.observe Platform.plain router = .ok current →
        (object.review Platform.plain router recorded.jsonb = .ok current ↔
          ∀ k ∈ current.keys, recorded.field k = current.field k) := fun h =>
  DriftObject.review_ne_ok _ _ _ _ _
    ((h (.interface "*1") oneInterfaceRouter _ _ rfl).2 fun _ _ => rfl)

end Platform

end WireguardPanel
