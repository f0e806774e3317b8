import WireguardPanel.Peer
import Mathlib.Data.List.MinMax

/-!
# Synchronisation with a router

What a synchronisation reads from a router and what it stores.

* `importPeer`: a peer of the router that is not stored yet.
-/

namespace WireguardPanel

open Foundation

/-! ## Import -/

/-- A text without `/32` at its end. -/
def stripHostMask (s : String) : String :=
  if ['/', '3', '2'] <:+ s.toList then String.ofList (s.toList.take (s.toList.length - 3)) else s

/-- The client address that is read from the allowed addresses of a peer. -/
def importedClientIp (allowedAddress : String) : Option String :=
  ((Text.split ',' allowedAddress).head?).bind fun first =>
    nonEmpty (stripHostMask (Text.trim first))

/-- The row of a peer that is imported. -/
def importedRow (routerId interfaceId : String) (remote : RemoteWireGuardPeer)
    (fingerprint : String) (onlineSeconds : ℤ) (newId : String) (now : ℤ) : PeerRow where
  id := newId
  routerId := routerId
  interfaceId := interfaceId
  poolId := none
  remoteId := some remote.id
  name := ((nonEmpty remote.comment).or (nonEmpty remote.name)).getD
    ("Imported " ++ String.ofList (remote.publicKey.toList.take 8))
  description := nonEmpty remote.comment
  origin := .imported
  publicKey := remote.publicKey
  privateKeyEncrypted := none
  presharedKeyEncrypted := none
  clientIp := importedClientIp remote.allowedAddress
  allowedAddress := remote.allowedAddress
  clientAllowedIps := "0.0.0.0/0"
  dnsServer := "8.8.8.8"
  endpointOverride := none
  endpointPortOverride := none
  persistentKeepalive := remote.persistentKeepalive
  mtu := 1420
  disabled := remote.disabled
  expired := false
  disabledReason := if remote.disabled then some .manual else none
  expiresAt := none
  accounting := { AccountingColumns.fresh with
    rxBytes := remote.rxBytes
    txBytes := remote.txBytes
    lifetimeRxBytes := remote.rxBytes
    lifetimeTxBytes := remote.txBytes
    periodRxBytes := remote.rxBytes
    periodTxBytes := remote.txBytes
    lastObservedRxBytes := some remote.rxBytes
    lastObservedTxBytes := some remote.txBytes }
  presence := {
    lastHandshakeAt := remote.lastHandshakeAt
    lastSeenAt := remote.lastHandshakeAt.map fun _ => now
    lastOnlineAt := if remote.lastHandshakeAt.any fun t => decide (now - t ≤ onlineSeconds * 1000)
      then some now else none
    lastStatisticsPollAt := some now
    lastHandshakeRaw := remote.lastHandshakeRaw
    lastHandshakeParseValid := remote.lastHandshakeParseValid
    remoteDisabled := some remote.disabled }
  bandwidth := .fresh
  remoteFingerprint := some fingerprint
  lastRemoteState := some remote
  desiredState := (peerRouterState remote).jsonb
  lastAppliedState := (peerRouterState remote).jsonb
  conflictType := none
  syncState := .synced
  lifecycleStatus := .active
  qrConfigHash := none

/-- The oldest pool of an interface that the database finds an address in. -/
def importPool (db : Database) (routerId interfaceId : String) (ip : Inet) : Option PoolRow :=
  -- The order is given: instance search also finds one that does not compute.
  @List.argmin PoolRow ℤ Int.instLinearOrder.toPreorder Int.decLt PoolRow.createdAt
    (db.pools.rows.filter fun p => p.routerId = routerId ∧ p.interfaceId = interfaceId ∧
      p.startIp ≤ ip ∧ ip ≤ p.endIp)

/-- The pool of an imported address depends on the pools only. -/
theorem importPool_congr {db db' : Database} (h : db'.pools = db.pools)
    {routerId interfaceId : String} {ip : Inet} :
    importPool db' routerId interfaceId ip = importPool db routerId interfaceId ip := by
  rw [importPool, importPool, h]

section Platform

variable (P : Platform)

/-- The part of `importPeer` that gives the new peer the pool of its address. -/
def placeImported (routerId interfaceId : String) (remote : RemoteWireGuardPeer)
    (peerId clientIp : String) : Tx Unit := do
  let ip ← castInet P clientIp
  let db ← get
  match importPool db routerId interfaceId ip with
  | none => return ()
  | some pool =>
    Tx.updatePeer peerId fun p => { p with poolId := some pool.id }
    Tx.insertFreeAddress {
      poolId := pool.id, routerId, interfaceId, ipAddress := ip, state := .allocated
      peerId := some peerId
      comment := some (((nonEmpty remote.comment).or (nonEmpty remote.name)).getD
        "Imported MikroTik peer") }

/-- `importPeer`, which leaves a peer with a known public key alone. -/
def importPeer (routerId interfaceId : String) (remote : RemoteWireGuardPeer)
    (fingerprint : String) (onlineSeconds : ℤ) (newId : String) (now : ℤ) : Tx Unit := do
  let db ← get
  if ∃ p ∈ db.peers.rows, p.routerId = routerId ∧ p.publicKey = remote.publicKey then
    return ()
  else
    Tx.insertPeer (importedRow routerId interfaceId remote fingerprint onlineSeconds newId now)
    match importedClientIp remote.allowedAddress with
    | none => return ()
    | some clientIp => placeImported P routerId interfaceId remote newId clientIp

end Platform

end WireguardPanel
