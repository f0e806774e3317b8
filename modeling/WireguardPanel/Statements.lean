import WireguardPanel.Database

/-!
# Statements

The statements that transactions are made of, each with a lemma that says what
a successful one leaves behind. A statement checks the foreign keys of the rows
that it writes; the constraints within a table are those of its schema.
-/

namespace WireguardPanel

open Foundation

namespace Tx

/-! ## Outcomes -/

/-- A statement on a table followed by a step succeeds when both do. -/
theorem statement_bind_ok {α β : Type} {r : Except TableError α} {f : α → Except AppError β}
    {b : β} : (statement r >>= f) = .ok b ↔ ∃ a, r = .ok a ∧ f a = .ok b := by
  cases r <;> simp [statement, bind, Except.bind]

theorem return_eq_ok {α : Type} {a b : α} :
    (return a : Except AppError α) = .ok b ↔ a = b := by
  simp [pure, Except.pure]

/-- The database after a transaction, which has no effect when it throws. -/
def after {α : Type} (tx : Tx α) (db : Database) : Database :=
  match tx db with
  | .ok (_, db') => db'
  | .error _ => db

theorem after_eq {tx : Tx Unit} {db : Database} (h : (tx db).toOption.isSome = true) :
    tx db = .ok ((), tx.after db) := by
  unfold after
  cases htx : tx db with
  | error e => simp [htx, Except.toOption] at h
  | ok r => rfl

/-! ## Peers -/

/-- The foreign keys to routers, interfaces and pools. -/
def References (db : Database) (routerId interfaceId : String) (poolId : Option String) : Prop :=
  (db.router routerId).isSome = true ∧ (db.interface interfaceId).isSome = true ∧
    ∀ id ∈ poolId, (db.pool id).isSome = true

instance (db : Database) (routerId interfaceId : String) (poolId : Option String) :
    Decidable (References db routerId interfaceId poolId) :=
  inferInstanceAs (Decidable (_ ∧ _ ∧ _))

/-- `INSERT INTO peers`. -/
def insertPeer (row : PeerRow) : Tx Unit := fun db => do
  if ¬References db row.routerId row.interfaceId row.poolId then
    throw (.database .foreignKey)
  let peers ← statement (db.peers.insert row)
  return ((), { db with peers })

/-- `UPDATE peers … WHERE id = …`. -/
def updatePeer (id : String) (f : PeerRow → PeerRow) : Tx Unit := fun db => do
  let peers ← statement (db.peers.update fun p => if p.id = id then f p else p)
  return ((), { db with peers })

/-- An `UPDATE` of a peer that gives it a new router, interface and pool. -/
def movePeer (id routerId interfaceId : String) (poolId : Option String)
    (f : PeerRow → PeerRow) : Tx Unit := fun db => do
  if (db.peer id).isSome ∧ ¬References db routerId interfaceId poolId then
    throw (.database .foreignKey)
  updatePeer id f db

/-- `DELETE FROM peers`, with what the foreign keys of other tables ask for. A
    pool address of the peer stays and loses its peer, which the constraints of
    an allocated address forbid. -/
def deletePeer (id : String) : Tx Unit := fun db => do
  let addresses ← statement (db.addresses.update fun a =>
    if a.peerId = some id then { a with peerId := none } else a)
  return ((), { db with
    peers := db.peers.delete fun p => p.id = id
    addresses
    managedObjects := db.managedObjects.relabel
      (fun o => if o.peerId = some id then { o with peerId := none } else o)
      (fun _ => rfl) (fun o q => by simp only [managedObjectSchema]; split_ifs <;> rfl)
    history := db.history.filter fun h => h.peerId ≠ id
    snapshots := db.snapshots.filter fun s => s.peerId ≠ id
    drifts := db.drifts.delete fun d => d.peerId = some id
    operations := db.operations.map fun o =>
      if o.peerId = some id then { o with peerId := none } else o
    audits := db.audits.map fun a =>
      if a.peerId = some id then { a with peerId := none } else a })

variable {db db' : Database} {u : Unit}

theorem insertPeer_ok {row : PeerRow} (h : insertPeer row db = .ok (u, db')) :
    ∃ peers, db' = { db with peers } ∧ peers.rows = db.peers.rows ++ [row] := by
  unfold insertPeer at h
  split at h
  · exact absurd h nofun
  · obtain ⟨peers, hinsert, h⟩ := statement_bind_ok.1 h
    cases return_eq_ok.1 h
    exact ⟨peers, rfl, Table.rows_insert hinsert⟩

/-- A peer with the identifier of a new row is that row. -/
theorem eq_of_insertPeer {row p : PeerRow} (h : insertPeer row db = .ok (u, db'))
    (hp : p ∈ db'.peers.rows) (hid : p.id = row.id) : p = row := by
  obtain ⟨peers, rfl, hrows⟩ := insertPeer_ok h
  have hrow : row ∈ peers.rows := hrows ▸ List.mem_append_right _ (List.mem_singleton_self _)
  exact peers.eq_of_clash hp hrow (by simp [peerSchema, hid])

theorem updatePeer_ok {id : String} {f : PeerRow → PeerRow}
    (h : updatePeer id f db = .ok (u, db')) :
    ∃ peers, db' = { db with peers } ∧
      peers.rows = db.peers.rows.map fun p => if p.id = id then f p else p := by
  obtain ⟨peers, hupdate, h⟩ := statement_bind_ok.1 h
  cases return_eq_ok.1 h
  exact ⟨peers, rfl, Table.rows_update hupdate⟩

/-- An `UPDATE` of a peer changes the row that is found under its identifier. -/
theorem peer_updatePeer {id : String} {f : PeerRow → PeerRow} (hf : ∀ p, (f p).id = p.id)
    (h : updatePeer id f db = .ok (u, db')) (other : String) :
    db'.peer other = if other = id then (db.peer other).map f else db.peer other := by
  obtain ⟨peers, rfl, hrows⟩ := updatePeer_ok h
  have hid : ∀ p : PeerRow, (if p.id = id then f p else p).id = p.id := fun p => by
    split_ifs <;> simp [hf]
  rw [Database.peer, hrows, List.find?_map]
  have hcomp : ((fun p : PeerRow => decide (p.id = other)) ∘ fun p => if p.id = id then f p else p)
      = fun p => decide (p.id = other) := funext fun p => by simp [hid]
  rw [hcomp]
  change (db.peer other).map _ = _
  split_ifs with hother
  · refine Option.map_congr fun p hp => ?_
    rw [if_pos ((Database.peer_spec hp).2.trans hother)]
  · cases hp : db.peer other with
    | none => rfl
    | some p =>
      rw [Option.map_some, if_neg fun hpid => hother ((Database.peer_spec hp).2 ▸ hpid)]

theorem movePeer_ok {id routerId interfaceId : String} {poolId : Option String}
    {f : PeerRow → PeerRow} (h : movePeer id routerId interfaceId poolId f db = .ok (u, db')) :
    updatePeer id f db = .ok (u, db') := by
  unfold movePeer at h
  split at h
  · exact absurd h nofun
  · exact h

theorem deletePeer_ok {id : String} (h : deletePeer id db = .ok (u, db')) :
    db'.peers.rows = db.peers.rows.filter (fun p => !decide (p.id = id)) ∧
      db'.pools = db.pools ∧ db'.routers = db.routers ∧ db'.interfaces = db.interfaces ∧
      db'.addresses.rows =
        db.addresses.rows.map fun a =>
          if a.peerId = some id then { a with peerId := none } else a := by
  obtain ⟨addresses, hupdate, h⟩ := statement_bind_ok.1 h
  cases return_eq_ok.1 h
  exact ⟨rfl, rfl, rfl, rfl, Table.rows_update hupdate⟩

/-! ## Pools -/

/-- `INSERT INTO wireguard_pools`. -/
def insertPool (row : PoolRow) : Tx Unit := fun db => do
  if ¬References db row.routerId row.interfaceId none then
    throw (.database .foreignKey)
  let pools ← statement (db.pools.insert row)
  return ((), { db with pools })

/-- `UPDATE wireguard_pools … WHERE id = …`. -/
def updatePool (id : String) (f : PoolRow → PoolRow) : Tx Unit := fun db => do
  let pools ← statement (db.pools.update fun p => if p.id = id then f p else p)
  return ((), { db with pools })

/-- `DELETE FROM wireguard_pools`, with the addresses of the pool. -/
def deletePool (id : String) : Tx Unit := fun db =>
  .ok ((), { db with
    pools := db.pools.delete fun p => p.id = id
    addresses := db.addresses.delete fun a => a.poolId = id
    peers := db.peers.relabel (fun p => if p.poolId = some id then { p with poolId := none } else p)
      (fun p => by simp only [peerSchema]; split_ifs <;> rfl)
      (fun p q => by simp only [peerSchema]; split_ifs <;> rfl) })

theorem insertPool_ok {row : PoolRow} (h : insertPool row db = .ok (u, db')) :
    ∃ pools, db' = { db with pools } ∧ pools.rows = db.pools.rows ++ [row] := by
  unfold insertPool at h
  split at h
  · exact absurd h nofun
  · obtain ⟨pools, hinsert, h⟩ := statement_bind_ok.1 h
    cases return_eq_ok.1 h
    exact ⟨pools, rfl, Table.rows_insert hinsert⟩

theorem updatePool_ok {id : String} {f : PoolRow → PoolRow}
    (h : updatePool id f db = .ok (u, db')) :
    ∃ pools, db' = { db with pools } ∧
      pools.rows = db.pools.rows.map fun p => if p.id = id then f p else p := by
  obtain ⟨pools, hupdate, h⟩ := statement_bind_ok.1 h
  cases return_eq_ok.1 h
  exact ⟨pools, rfl, Table.rows_update hupdate⟩

theorem deletePool_ok {id : String} (h : deletePool id db = .ok (u, db')) :
    db'.pools.rows = db.pools.rows.filter (fun p => !decide (p.id = id)) ∧
      db'.addresses.rows = db.addresses.rows.filter (fun a => !decide (a.poolId = id)) ∧
      db'.peers.rows =
        db.peers.rows.map (fun p =>
          if p.poolId = some id then { p with poolId := none } else p) := by
  simp only [deletePool, Except.ok.injEq, Prod.mk.injEq] at h
  obtain ⟨-, rfl⟩ := h
  exact ⟨rfl, rfl, rfl⟩

/-! ## Pool addresses -/

/-- `INSERT INTO wireguard_pool_addresses`. -/
def insertAddress (row : PoolAddressRow) : Tx Unit := fun db => do
  if ¬(References db row.routerId row.interfaceId (some row.poolId) ∧
      ∀ id ∈ row.peerId, (db.peer id).isSome = true) then
    throw (.database .foreignKey)
  let addresses ← statement (db.addresses.insert row)
  return ((), { db with addresses })

/-- `INSERT INTO wireguard_pool_addresses … ON CONFLICT(router_id, ip_address) DO NOTHING`. -/
def insertFreeAddress (row : PoolAddressRow) : Tx Unit := fun db =>
  if ∃ a ∈ db.addresses.rows, a.routerId = row.routerId ∧ a.ipAddress = row.ipAddress then
    .ok ((), db)
  else insertAddress row db

/-- `DELETE FROM wireguard_pool_addresses`. -/
def deleteAddresses (p : PoolAddressRow → Bool) : Tx Unit := fun db =>
  .ok ((), { db with addresses := db.addresses.delete p })

theorem insertAddress_ok {row : PoolAddressRow} (h : insertAddress row db = .ok (u, db')) :
    ∃ addresses, db' = { db with addresses } ∧ addresses.rows = db.addresses.rows ++ [row] := by
  unfold insertAddress at h
  split at h
  · exact absurd h nofun
  · obtain ⟨addresses, hinsert, h⟩ := statement_bind_ok.1 h
    cases return_eq_ok.1 h
    exact ⟨addresses, rfl, Table.rows_insert hinsert⟩

theorem insertFreeAddress_ok {row : PoolAddressRow}
    (h : insertFreeAddress row db = .ok (u, db')) :
    (db' = db ∧ ∃ a ∈ db.addresses.rows, a.routerId = row.routerId ∧ a.ipAddress = row.ipAddress) ∨
      ∃ addresses, db' = { db with addresses } ∧
        addresses.rows = db.addresses.rows ++ [row] := by
  unfold insertFreeAddress at h
  split at h
  · rename_i hconflict
    simp only [Except.ok.injEq, Prod.mk.injEq] at h
    exact .inl ⟨h.2.symm, hconflict⟩
  · exact .inr (insertAddress_ok h)

theorem deleteAddresses_ok {p : PoolAddressRow → Bool}
    (h : deleteAddresses p db = .ok (u, db')) :
    db' = { db with addresses := db.addresses.delete p } := by
  simp only [deleteAddresses, Except.ok.injEq, Prod.mk.injEq] at h
  exact h.2.symm

/-! ## Logs -/

/-- `INSERT INTO traffic_snapshots`. -/
def insertSnapshot (row : SnapshotRow) : Tx Unit := fun db =>
  if (db.peer row.peerId).isNone then .error (.database .foreignKey)
  else .ok ((), { db with snapshots := db.snapshots ++ [row] })

/-- `INSERT INTO audit_logs` of an action of the system. -/
def insertAudit (action peerId : String) : Tx Unit := fun db =>
  if (db.peer peerId).isNone then .error (.database .foreignKey)
  else .ok ((), { db with audits := db.audits ++ [{ action, peerId := some peerId }] })

theorem insertSnapshot_ok {row : SnapshotRow} (h : insertSnapshot row db = .ok (u, db')) :
    db' = { db with snapshots := db.snapshots ++ [row] } := by
  unfold insertSnapshot at h
  split at h
  · exact absurd h nofun
  · cases h
    rfl

theorem insertAudit_ok {action peerId : String} (h : insertAudit action peerId db = .ok (u, db')) :
    db' = { db with audits := db.audits ++ [{ action, peerId := some peerId }] } := by
  unfold insertAudit at h
  split at h
  · exact absurd h nofun
  · cases h
    rfl

end Tx

end WireguardPanel
