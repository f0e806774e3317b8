import WireguardPanel.SyncRouter

/-!
# The conflicts that a synchronisation stores

A synchronisation decides twice about a stored peer: when it goes through the
peers of the router, which it matches by identifier or public key, and when it
goes through the stored rows, which it looks up by their old identifier only.

* `referenceConflict`: the conflict by `classifyPeerSync`, given the peer of the
  router that matches.
* `conflictType_eq_reference_iff`: the stored conflicts are these just when
  every matching peer still has the identifier that is stored.
-/

namespace WireguardPanel

open Foundation

/-- Stored peers and peers of the router match one to one, on interfaces that
    the router has listed. -/
structure MatchesOneToOne (routerId : String) (listing : SyncListing) (db : Database) : Prop where
  ids : (listing.peers.map RemoteWireGuardPeer.id).Nodup
  keys : (listing.peers.map RemoteWireGuardPeer.publicKey).Nodup
  interfaces : ∀ remote ∈ listing.peers, ∃ item ∈ listing.interfaces,
    item.name = remote.interfaceName
  stored : ∀ p ∈ db.peers.rows, p.routerId = routerId → ∀ remote ∈ listing.peers,
    ∀ remote' ∈ listing.peers, p.Matches remote → p.Matches remote' → remote = remote'
  listed : ∀ remote ∈ listing.peers, ∀ p ∈ db.peers.rows, ∀ q ∈ db.peers.rows,
    p.routerId = routerId → q.routerId = routerId → p.Matches remote → q.Matches remote → p = q

section Platform

variable {P : Platform} {routerId : String} {fresh : FreshIds} {listing : SyncListing}
  {db db' : Database}

/-- The conflict of a stored peer by `classifyPeerSync`. -/
def referenceConflict (P : Platform) (listing : SyncListing) (p : PeerRow) : Option ConflictType :=
  (classifyPeerSync P (some p.local)
    (listing.peers.find? fun remote => p.Matches remote)).conflictType

/-- A peer that the router has is classified as in sync or changed. -/
theorem peerConflict_eq (P : Platform) (peer : ExistingPeer) (remote : RemoteWireGuardPeer) :
    peerConflict P peer remote =
        (classifyPeerSync P (some peer.row.local) (some remote)).conflictType ∧
      peerConflict P peer remote ≠ some .deletedExternally ∧
      peerConflict P peer remote ≠ some .dbOnly := by
  unfold peerConflict peerClass
  rw [classifyPeerSync]
  cases filled peer.row.local.remoteFingerprint with
  | none => exact ⟨rfl, nofun, nofun⟩
  | some fingerprint =>
    dsimp only
    split_ifs <;> exact ⟨rfl, nofun, nofun⟩

/-- A row is not marked as missing just when its identifier is listed. -/
theorem missingConflict_eq_none_iff {remoteIds : List String} {peer : ExistingPeer} :
    missingConflict remoteIds peer = none ↔
    ∃ id ∈ remoteIds, filled peer.row.remoteId = some id := by
  unfold missingConflict
  cases filled peer.row.remoteId with
  | none => simp
  | some remoteId => by_cases hmem : remoteId ∈ remoteIds <;> simp [hmem]

theorem conflictType_markMissing (remoteIds : List String) (peer : ExistingPeer) (p : PeerRow) :
    (markMissing remoteIds peer p).conflictType =
      (missingConflict remoteIds peer).or p.conflictType := by
  unfold markMissing
  cases missingConflict remoteIds peer <;> rfl

/-- What a synchronisation does to the row `p`, which the second loop works on as
    `peer`: the loop over the peers of the router leads from `db₁` to `db₂`. -/
structure SyncLoop (P : Platform) (routerId : String) (fresh : FreshIds) (listing : SyncListing)
    (db db' : Database) (p : PeerRow) (peer : ExistingPeer) (existing : List ExistingPeer)
    (db₁ db₂ : Database) : Prop where
  row : peer.row = p
  worked : peer ∈ existing
  rows : ∀ e ∈ existing, e.row ∈ db.peers.rows ∧ e.row.routerId = routerId
  nodup : (existing.map fun e => e.row.id).Nodup
  before : db₁.peer p.id = some p
  loop : ∃ progress₁ progress₂, listing.peers.foldlM (syncPeer P routerId fresh listing existing)
      progress₁ db₁ = .ok (progress₂, db₂) ∧
    ∀ name, (progress₁.interfaceIds.lookup name).isSome = true ↔
      ∃ item ∈ listing.interfaces, item.name = name
  after : db'.peer p.id =
    (db₂.peer p.id).map (markMissing (listing.peers.map RemoteWireGuardPeer.id) peer)

theorem exists_syncLoop {summary : SyncSummary}
    (h : syncTransaction P routerId fresh listing db = .ok (summary, db')) {p : PeerRow}
    (hp : p ∈ db.peers.rows) (hrouter : p.routerId = routerId)
    (hinterface : (db.interface p.interfaceId).isSome = true) :
    ∃ peer existing db₁ db₂, SyncLoop P routerId fresh listing db db' p peer existing db₁ db₂ := by
  obtain ⟨progress₁, db₁, progress₂, db₂, progress₃, h₁, h₂, h₃, -⟩ := syncTransaction_ok h
  obtain ⟨⟨interfaces, drifts, rfl⟩, hkept, hnames⟩ := syncInterfaces_ok h₁
  have hinterface' : (({ db with interfaces, drifts } : Database).interface
      p.interfaceId).isSome = true := by
    obtain ⟨i, hi⟩ := Option.isSome_iff_exists.1 hinterface
    obtain ⟨j, hj, hij⟩ := hkept i (List.mem_of_find?_eq_some hi)
    have hid : i.id = p.interfaceId := by simpa using List.find?_some hi
    exact List.find?_isSome.2 ⟨j, hj, decide_eq_true (hij.trans hid)⟩
  have hp' : p ∈ ({ db with interfaces, drifts } : Database).peers.rows := hp
  obtain ⟨peer, hpeer, rfl⟩ := exists_existingPeer hp' hrouter hinterface'
  have hrows : ∀ e ∈ existingPeers routerId { db with interfaces, drifts },
      e.row ∈ db.peers.rows ∧ e.row.routerId = routerId := fun e he => by
    obtain ⟨hmem, hrouter⟩ := mem_existingPeers he
    exact ⟨hmem, hrouter⟩
  exact ⟨peer, existingPeers routerId { db with interfaces, drifts },
    { db with interfaces, drifts }, db₂,
    { row := rfl
      worked := hpeer
      rows := hrows
      nodup := existingPeers_nodup _ _
      before := Database.peer_eq_some hp
      loop := ⟨progress₁, progress₂, h₂, fun name => by simpa using hnames name⟩
      after := syncMissing_loop h₃ (existingPeers_nodup _ _) hpeer }⟩

section Loop

variable {p : PeerRow} {peer : ExistingPeer} {existing : List ExistingPeer} {db₁ db₂ : Database}

/-- The rows that the peers of the router find. -/
theorem SyncLoop.finds (h : SyncLoop P routerId fresh listing db db' p peer existing db₁ db₂)
    {remote : RemoteWireGuardPeer} {e : ExistingPeer}
    (hfound : (existing.find? fun e => e.row.Matches remote) = some e) :
    e.row ∈ db.peers.rows ∧ e.row.routerId = routerId ∧ e.row.Matches remote := by
  obtain ⟨hmem, hrouter⟩ := h.rows e (List.mem_of_find?_eq_some hfound)
  exact ⟨hmem, hrouter, by simpa using List.find?_some hfound⟩

/-- A row that is the only one for the only peer that matches it. -/
theorem SyncLoop.found (h : SyncLoop P routerId fresh listing db db' p peer existing db₁ db₂)
    (hp : p ∈ db.peers.rows) (hids : (listing.peers.map RemoteWireGuardPeer.id).Nodup)
    {remote : RemoteWireGuardPeer} (hremote : remote ∈ listing.peers)
    (hknown : ∃ item ∈ listing.interfaces, item.name = remote.interfaceName)
    (hmatches : p.Matches remote)
    (hfirst : ∀ q ∈ db.peers.rows, q.routerId = routerId → q.Matches remote → q = p)
    (honly : ∀ remote' ∈ listing.peers, p.Matches remote' → remote' = remote) :
    db'.peer p.id = some (markMissing (listing.peers.map RemoteWireGuardPeer.id) peer
      (syncedPeer P listing peer remote p)) := by
  obtain ⟨progress₁, progress₂, hloop, hnames⟩ := h.loop
  obtain rfl := h.row
  have hfound : (existing.find? fun e => e.row.Matches remote) = some peer := by
    have hsome : (existing.find? fun e => e.row.Matches remote).isSome = true :=
      List.find?_isSome.2 ⟨peer, h.worked, decide_eq_true hmatches⟩
    obtain ⟨e, hfound⟩ := Option.isSome_iff_exists.1 hsome
    obtain ⟨hmem, hrouter, hmatches'⟩ := h.finds hfound
    have hrow := hfirst _ hmem hrouter hmatches'
    rw [hfound, List.inj_on_of_nodup_map h.nodup (List.mem_of_find?_eq_some hfound) h.worked
      (congrArg PeerRow.id hrow)]
  have hlisted : progress₁.interfaceIds.lookup remote.interfaceName ≠ none := fun hnone => by
    have hname := (hnames remote.interfaceName).2 hknown
    simp [hnone] at hname
  have hsynced := syncPeers_found hloop h.before hids.of_map hremote hfound hlisted
    fun remote' hremote' hne e hfound' hid => hne <| by
      obtain ⟨hmem, -, hmatches'⟩ := h.finds hfound'
      exact honly remote' hremote' (db.peer_unique hmem hp hid ▸ hmatches')
  rw [h.after, hsynced, Option.map_some]

/-- A row that no peer of the router matches. -/
theorem SyncLoop.missed (h : SyncLoop P routerId fresh listing db db' p peer existing db₁ db₂)
    (hp : p ∈ db.peers.rows) (hnone : ∀ remote ∈ listing.peers, ¬p.Matches remote) :
    db'.peer p.id = some (markMissing (listing.peers.map RemoteWireGuardPeer.id) peer p) := by
  obtain ⟨progress₁, progress₂, hloop, -⟩ := h.loop
  have hsame := (syncPeers_other hloop h.before fun remote hremote e hfound hid => by
    obtain ⟨hmem, -, hmatches⟩ := h.finds hfound
    exact hnone remote hremote (db.peer_unique hmem hp hid ▸ hmatches)).1
  rw [h.after, hsame, Option.map_some]

end Loop

/-- What a synchronisation makes of a stored peer that the router has, and of
    one that it has not. -/
theorem syncTransaction_peer {summary : SyncSummary}
    (h : syncTransaction P routerId fresh listing db = .ok (summary, db'))
    (hmatch : MatchesOneToOne routerId listing db) {p : PeerRow} (hp : p ∈ db.peers.rows)
    (hrouter : p.routerId = routerId) (hinterface : (db.interface p.interfaceId).isSome = true) :
    ∃ peer : ExistingPeer, peer.row = p ∧
      (∀ remote ∈ listing.peers, p.Matches remote → db'.peer p.id = some
        (markMissing (listing.peers.map RemoteWireGuardPeer.id) peer
          (syncedPeer P listing peer remote p))) ∧
      ((∀ remote ∈ listing.peers, ¬p.Matches remote) → db'.peer p.id = some
        (markMissing (listing.peers.map RemoteWireGuardPeer.id) peer p)) := by
  obtain ⟨peer, existing, db₁, db₂, hloop⟩ := exists_syncLoop h hp hrouter hinterface
  refine ⟨peer, hloop.row, fun remote hremote hmatches => ?_, hloop.missed hp⟩
  exact hloop.found hp hmatch.ids hremote (hmatch.interfaces remote hremote) hmatches
    (fun q hq hrouter' hmatches' => hmatch.listed remote hremote _ hq _ hp hrouter'
      hrouter hmatches'
      hmatches)
    fun remote' hremote' hmatches' =>
      hmatch.stored _ hp hrouter remote' hremote' remote hremote hmatches' hmatches

/-- The conflict that is stored for a peer is the one by `classifyPeerSync` just
    when its matching peer, if any, still has the identifier that was stored. -/
theorem conflictType_peer_iff {summary : SyncSummary}
    (h : syncTransaction P routerId fresh listing db = .ok (summary, db'))
    (hmatch : MatchesOneToOne routerId listing db) {p : PeerRow} (hp : p ∈ db.peers.rows)
    (hrouter : p.routerId = routerId) (hinterface : (db.interface p.interfaceId).isSome = true) :
    (db'.peer p.id).map PeerRow.conflictType = some (referenceConflict P listing p) ↔
      ∀ remote ∈ listing.peers, p.Matches remote → filled p.remoteId = some remote.id := by
  obtain ⟨peer, rfl, hmatched, hunmatched⟩ := syncTransaction_peer h hmatch hp hrouter hinterface
  cases hfind : listing.peers.find? fun remote => peer.row.Matches remote with
  | none =>
    have hnone : ∀ remote ∈ listing.peers, ¬peer.row.Matches remote := fun remote hremote => by
      simpa using List.find?_eq_none.1 hfind remote hremote
    refine iff_of_true ?_ fun remote hremote hmatches => absurd hmatches (hnone remote hremote)
    -- No identifier of a peer that matches nothing is listed.
    have hmarked : missingConflict (listing.peers.map RemoteWireGuardPeer.id) peer ≠ none := by
      intro hmarked
      obtain ⟨id, hid, hstored⟩ := missingConflict_eq_none_iff.1 hmarked
      obtain ⟨remote, hremote, rfl⟩ := List.mem_map.1 hid
      exact hnone remote hremote (.inl (filled_eq_some hstored))
    rw [hunmatched hnone, Option.map_some, conflictType_markMissing, referenceConflict, hfind]
    unfold missingConflict at hmarked ⊢
    rw [classifyPeerSync]
    cases hstored : filled peer.row.remoteId with
    | none => simp [PeerRow.local, hstored, ReconciliationState.conflictType]
    | some remoteId =>
      simp only [hstored] at hmarked ⊢
      rw [if_neg fun hmem => hmarked (if_pos hmem)]
      simp [PeerRow.local, hstored, ReconciliationState.conflictType]
  | some remote =>
    have hremote := List.mem_of_find?_eq_some hfind
    have hmatches : peer.row.Matches remote := by simpa using List.find?_some hfind
    obtain ⟨hconflict, hdeleted, hdbOnly⟩ := peerConflict_eq P peer remote
    rw [hmatched remote hremote hmatches, Option.map_some, conflictType_markMissing,
      referenceConflict, hfind, ← hconflict, Option.some_inj]
    change (missingConflict _ peer).or (peerConflict P peer remote) = _ ↔ _
    constructor
    · intro heq remote' hremote' hmatches'
      obtain rfl := hmatch.stored _ hp hrouter remote hremote remote' hremote' hmatches hmatches'
      have hmarked : missingConflict (listing.peers.map RemoteWireGuardPeer.id) peer = none := by
        by_contra hmarked
        unfold missingConflict at heq hmarked
        cases hstored : filled peer.row.remoteId with
        | none =>
          simp only [hstored, Option.some_or] at heq
          exact hdbOnly heq.symm
        | some remoteId =>
          simp only [hstored] at heq hmarked
          rw [if_neg fun hmem => hmarked (if_pos hmem), Option.some_or] at heq
          exact hdeleted heq.symm
      obtain ⟨id, hid, hstored⟩ := missingConflict_eq_none_iff.1 hmarked
      obtain ⟨remote', hremote', rfl⟩ := List.mem_map.1 hid
      obtain rfl := hmatch.stored _ hp hrouter remote hremote remote' hremote' hmatches
        (.inl (filled_eq_some hstored))
      exact hstored
    · intro hall
      have hmarked := missingConflict_eq_none_iff.2
        ⟨remote.id, List.mem_map_of_mem hremote, hall remote hremote hmatches⟩
      rw [hmarked, Option.none_or]

/-- The conflicts that a synchronisation stores are those by `classifyPeerSync`
    just when every peer of the router that matches a row has the identifier
    that was stored for it. -/
theorem conflictType_eq_reference_iff {summary : SyncSummary}
    (h : syncTransaction P routerId fresh listing db = .ok (summary, db'))
    (hmatch : MatchesOneToOne routerId listing db)
    (hinterface : ∀ p ∈ db.peers.rows, (db.interface p.interfaceId).isSome = true) :
    (∀ p ∈ db.peers.rows, p.routerId = routerId →
        (db'.peer p.id).map PeerRow.conflictType = some (referenceConflict P listing p)) ↔
      ∀ p ∈ db.peers.rows, p.routerId = routerId →
        ∀ remote ∈ listing.peers, p.Matches remote → filled p.remoteId = some remote.id :=
  forall₃_congr fun p hp hrouter => conflictType_peer_iff h hmatch hp hrouter (hinterface p hp)

end Platform

/-- A listing of the router of the small installation, with one peer. -/
def plainListing (remote : RemoteWireGuardPeer) : SyncListing where
  interfaces := [{ id := "*1", name := "wg1", listenPort := 51820, mtu := 1420,
                   publicKey := "interface key", running := true, disabled := false }]
  peers := [remote]
  addresses := []
  onlineSeconds := 180
  now := 0

def plainFreshIds : FreshIds where
  interface item := "new interface " ++ item.id
  peer remote := "new peer " ++ remote.id
  drift id := "new drift " ++ id

/-- The peer of the installation, created anew on the router. -/
def renumberedRemote : RemoteWireGuardPeer := { plainRemote with id := "*2" }

/-- The conflict that a synchronisation with one peer stores, if it commits. -/
def plainSyncConflict (remote : RemoteWireGuardPeer) : Option (Option (Option ConflictType)) :=
  (syncTransaction Platform.plain "r1" plainFreshIds (plainListing remote)
      (plainDatabase plainPeer plainPeer_check)).toOption.map fun result =>
    (result.2.peer "p1").map PeerRow.conflictType

theorem syncTransaction_of_plainSyncConflict {remote : RemoteWireGuardPeer}
    {conflict : Option ConflictType} (h : plainSyncConflict remote = some (some conflict)) :
    ∃ summary db', syncTransaction Platform.plain "r1" plainFreshIds (plainListing remote)
        (plainDatabase plainPeer plainPeer_check) = .ok (summary, db') ∧
      (db'.peer "p1").map PeerRow.conflictType = some conflict := by
  obtain ⟨⟨summary, db'⟩, hrun, hconflict⟩ := Option.map_eq_some_iff.1 h
  refine ⟨summary, db', ?_, hconflict⟩
  cases hresult : syncTransaction Platform.plain "r1" plainFreshIds (plainListing remote)
      (plainDatabase plainPeer plainPeer_check) with
  | error e => rw [hresult] at hrun; cases hrun
  | ok result => rw [hresult] at hrun; cases hrun; rfl

theorem matchesOneToOne_plain (remote : RemoteWireGuardPeer) (h : remote.interfaceName = "wg1") :
    MatchesOneToOne "r1" (plainListing remote) (plainDatabase plainPeer plainPeer_check) where
  ids := List.nodup_singleton _
  keys := List.nodup_singleton _
  interfaces r hr := by
    cases List.mem_singleton.1 hr
    exact ⟨_, List.mem_singleton_self _, h.symm⟩
  stored p _ _ r hr r' hr' _ _ := by
    cases List.mem_singleton.1 hr
    cases List.mem_singleton.1 hr'
    rfl
  listed r _ p hp q hq _ _ _ _ := by
    cases List.mem_singleton.1 hp
    cases List.mem_singleton.1 hq
    rfl

/-- The peer that still has its identifier is in sync. -/
theorem conflictType_eq_reference_iff_plain :
    ∃ summary db', syncTransaction Platform.plain "r1" plainFreshIds (plainListing plainRemote)
        (plainDatabase plainPeer plainPeer_check) = .ok (summary, db') ∧
      (db'.peer "p1").map PeerRow.conflictType =
        some (referenceConflict Platform.plain (plainListing plainRemote) plainPeer) := by
  have hrun : plainSyncConflict plainRemote = some (some none) := by decide +kernel
  obtain ⟨summary, db', hsync, -⟩ := syncTransaction_of_plainSyncConflict hrun
  have hinterface : ∀ p ∈ (plainDatabase plainPeer plainPeer_check).peers.rows,
      ((plainDatabase plainPeer plainPeer_check).interface p.interfaceId).isSome = true := by
    intro p hp
    cases List.mem_singleton.1 hp
    rfl
  have hiff :=
    conflictType_eq_reference_iff hsync (matchesOneToOne_plain plainRemote rfl) hinterface
  refine ⟨summary, db', hsync, hiff.2 (fun p hp _ remote hremote _ => ?_) plainPeer
    (List.mem_singleton_self _) rfl⟩
  cases List.mem_singleton.1 hp
  cases List.mem_singleton.1 hremote
  rfl

/-- The peer that was created anew on the router is matched by its key, and is
    stored as deleted. -/
theorem exists_conflictType_ne_reference :
    MatchesOneToOne "r1" (plainListing renumberedRemote) (plainDatabase plainPeer plainPeer_check) ∧
    plainPeer.Matches renumberedRemote ∧
    referenceConflict Platform.plain (plainListing renumberedRemote) plainPeer = none ∧
    ∃ summary db', syncTransaction Platform.plain "r1" plainFreshIds
        (plainListing renumberedRemote) (plainDatabase plainPeer plainPeer_check) =
          .ok (summary, db') ∧
      (db'.peer plainPeer.id).map PeerRow.conflictType = some (some .deletedExternally) := by
  have hrun : plainSyncConflict renumberedRemote = some (some (some .deletedExternally)) := by
    decide +kernel
  exact ⟨matchesOneToOne_plain renumberedRemote rfl, .inr rfl, by decide +kernel,
    syncTransaction_of_plainSyncConflict hrun⟩

end WireguardPanel
