import WireguardPanel.Foundation.Transaction
import WireguardPanel.Peer

/-!
# Transactions that read

The parts of transactions that read the database or throw, which stay within
every relation that is reflexive, and what an entry of the history changes.
-/

namespace WireguardPanel

open Foundation

variable {R : Database → Database → Prop} [IsPreorder Database R] {α : Type}

theorem within_orThrow {value : Option α} {e : AppError} : Within R (Tx.orThrow value e) := by
  cases value with
  | none => exact within_throw
  | some a => exact within_pure

theorem within_ofExcept {r : Except AppError α} : Within R (Tx.ofExcept r) := by
  cases r with
  | error e => exact within_throw
  | ok a => exact within_pure

theorem within_require {p : Prop} [Decidable p] {e : AppError} : Within R (Tx.require p e) := by
  unfold Tx.require
  split_ifs
  · exact within_pure
  · exact within_throw

theorem within_deduceParameter {uses : List SqlType} : Within R (Tx.deduceParameter uses) :=
  within_require

variable {P : Platform}

theorem within_castInet {text : String} : Within R (castInet P text) := within_orThrow

theorem within_lockPool {id : String} : Within R (lockPool P id) :=
  within_get.bind fun _ => within_orThrow.bind fun _ => within_orThrow.bind fun _ =>
    within_orThrow.bind fun _ => within_pure

theorem within_lockPoolForPeer {poolId routerId interfaceId : String} :
    Within R (lockPoolForPeer P poolId routerId interfaceId) :=
  within_lockPool.bind fun _ => within_require.bind fun _ => within_require.bind fun _ =>
    within_pure

theorem within_choosePoolAddress {pool : WireGuardPool} {remotePeers : List RemoteWireGuardPeer}
    {requestedIp excludePeerId : Option String} :
    Within R (choosePoolAddress P pool remotePeers requestedIp excludePeerId) := by
  refine within_get.bind fun db => ?_
  split
  · refine within_ofExcept.bind fun ip => ?_
    split
    · exact within_throw
    · exact within_pure
  · exact within_ofExcept.bind fun _ => within_ofExcept.bind fun _ => within_orThrow

theorem within_confirmAddress {poolId routerId interfaceId clientIp excludePeerId : String}
    {remotePeers : List RemoteWireGuardPeer} : Within R
      (confirmAddress P poolId routerId interfaceId remotePeers clientIp excludePeerId) :=
  within_lockPoolForPeer.bind fun _ => within_choosePoolAddress

/-- Writing the history of a peer changes the history only. -/
theorem Tx.insertHistory_ok {row : PeerRow} {startedAt endedAt : ℤ} {reason : ResetReason}
    {db db' : Database} {u : Unit}
    (h : Tx.insertHistory row startedAt endedAt reason db = .ok (u, db')) :
    ∃ history, db' = { db with history } := by
  unfold Tx.insertHistory at h
  split at h
  · exact absurd h nofun
  · split at h
    · exact absurd h nofun
    · cases h
      exact ⟨_, rfl⟩

end WireguardPanel
