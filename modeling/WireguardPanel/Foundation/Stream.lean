import Mathlib.Data.List.Basic
import Mathlib.Data.Nat.Notation
import Mathlib.Tactic.SplitIfs

/-!
# Streams of items

A row of bytes that arrives in pieces and is cut into items, each of which an
automaton reacts to until it stops.

* `Decoder`: a function that cuts an item off the front of a buffer. More bytes
  do not change an item that is complete.
* `Decoder.receive`: what a piece adds to a buffer, and the reactions to it.
* `Decoder.foldl_receive`: how a row of bytes is cut into pieces does not matter.
* `Decoder.drain_flatMap`: a row of encoded items is consumed item by item.
* `Decoder.drain_eq_failed_iff`: which rows of bytes are met with an error.
-/

namespace Foundation

/-- A function that cuts an item off the front of a buffer, or fails, or asks
    for more. -/
structure Decoder (β ε α : Type) where
  decode : List β → Except ε (Option (α × ℕ))
  decode_nil : decode [] = .ok none
  /-- An item takes at least one byte. -/
  consumes : ∀ {s a n}, decode s = .ok (some (a, n)) → 0 < n ∧ n ≤ s.length
  /-- More bytes do not change what has been found. -/
  stable : ∀ {s}, decode s ≠ .ok none → ∀ t, decode (s ++ t) = decode s

/-- The state of a receiver. -/
inductive Receiver (β ε σ ρ : Type)
  /-- It has read complete items and keeps the bytes of an incomplete one. -/
  | waiting (state : σ) (buffer : List β)
  /-- It has stopped. -/
  | stopped (result : ρ)
  | failed (e : ε)
  deriving DecidableEq

section Consume

variable {α σ ρ : Type}

/-- The reactions to a list of items, up to the one that stops. -/
def consume (react : σ → α → σ ⊕ ρ) : σ → List α → σ ⊕ ρ
  | s, [] => .inl s
  | s, a :: as =>
    match react s a with
    | .inl s' => consume react s' as
    | .inr r => .inr r

end Consume

namespace Decoder

variable {β ε α σ ρ : Type} (D : Decoder β ε α) (react : σ → α → σ ⊕ ρ)

/-- The reactions to the complete items of a buffer. -/
def drain : ℕ → σ → List β → Receiver β ε σ ρ
  | 0, s, buffer => .waiting s buffer
  | fuel + 1, s, buffer =>
    match D.decode buffer with
    | .error e => .failed e
    | .ok none => .waiting s buffer
    | .ok (some (a, n)) =>
      match react s a with
      | .inl s' => drain fuel s' (buffer.drop n)
      | .inr r => .stopped r

/-- A piece arrives. -/
def receive (r : Receiver β ε σ ρ) (piece : List β) : Receiver β ε σ ρ :=
  match r with
  | .waiting s buffer => D.drain react ((buffer ++ piece).length + 1) s (buffer ++ piece)
  | r => r

variable {D react}

/-- A buffer holds no more items than bytes. -/
theorem drain_fuel {fuel fuel' : ℕ} {s : σ} {buffer : List β} (h : buffer.length < fuel)
    (h' : buffer.length < fuel') : D.drain react fuel s buffer = D.drain react fuel' s buffer := by
  induction fuel generalizing fuel' s buffer with
  | zero => omega
  | succ fuel ih =>
    obtain ⟨fuel', rfl⟩ : ∃ k, fuel' = k + 1 := ⟨fuel' - 1, by omega⟩
    rw [drain, drain]
    rcases hdecode : D.decode buffer with e | _ | ⟨a, n⟩
    · rfl
    · rfl
    · obtain ⟨hpos, hle⟩ := D.consumes hdecode
      have hdrop : (buffer.drop n).length = buffer.length - n := List.length_drop
      cases hreact : react s a with
      | inl s' =>
        simp only [hreact]
        exact ih (by omega) (by omega)
      | inr r => simp only [hreact]

/-- Draining a buffer and then what is left with more bytes is draining it with
    these bytes at once. -/
theorem receive_drain {fuel : ℕ} {s : σ} {buffer piece : List β} (h : buffer.length < fuel) :
    D.receive react (D.drain react fuel s buffer) piece =
      D.drain react ((buffer ++ piece).length + 1) s (buffer ++ piece) := by
  induction fuel generalizing s buffer with
  | zero => omega
  | succ fuel ih =>
    rw [drain]
    rcases hdecode : D.decode buffer with e | _ | ⟨a, n⟩
    · rw [drain, D.stable (by simp [hdecode]), hdecode]
      rfl
    · rfl
    · obtain ⟨hpos, hle⟩ := D.consumes hdecode
      rw [drain, D.stable (by simp [hdecode]), hdecode]
      cases hreact : react s a with
      | inl s' =>
        simp only [hreact]
        rw [ih (by rw [List.length_drop]; omega), List.drop_append_of_le_length hle]
        refine drain_fuel (Nat.lt_succ_self _) ?_
        rw [List.length_append, List.length_append, List.length_drop]
        omega
      | inr r =>
        simp only [hreact]
        rfl

/-- Two pieces one after the other are one piece. -/
theorem receive_receive (r : Receiver β ε σ ρ) (piece piece' : List β) :
    D.receive react (D.receive react r piece) piece' = D.receive react r (piece ++ piece') := by
  cases r with
  | waiting s buffer =>
    change D.receive react (D.drain react _ s (buffer ++ piece)) piece' = _
    rw [receive_drain (Nat.lt_succ_self _), List.append_assoc]
    rfl
  | stopped => rfl
  | failed => rfl

/-- However a row of bytes is cut into pieces, a receiver ends the same way. -/
theorem foldl_receive (s : σ) (pieces : List (List β)) :
    pieces.foldl (D.receive react) (.waiting s []) =
      D.receive react (.waiting s []) pieces.flatten := by
  have hempty : D.receive react (.waiting s []) [] = .waiting s [] := by
    rw [receive, List.append_nil, drain, D.decode_nil]
  have hfold : ∀ (pieces : List (List β)) (seen : List β),
      pieces.foldl (D.receive react) (D.receive react (.waiting s []) seen) =
        D.receive react (.waiting s []) (seen ++ pieces.flatten) := fun pieces => by
    induction pieces with
    | nil => simp
    | cons piece pieces ih =>
      intro seen
      rw [List.foldl_cons, receive_receive, ih, List.flatten_cons, List.append_assoc]
  have h := hfold pieces []
  rwa [hempty, List.nil_append] at h

/-- The items `items` are cut off the front of a buffer, one after the other,
    and `rest` is what is left. -/
inductive Reads (D : Decoder β ε α) : List β → List α → List β → Prop
  | nil {buffer : List β} : Reads D buffer [] buffer
  | cons {buffer : List β} {a : α} {n : ℕ} {items : List α} {rest : List β}
      (hdecode : D.decode buffer = .ok (some (a, n))) (hrest : Reads D (buffer.drop n) items rest) :
      Reads D buffer (a :: items) rest

/-- A buffer is drained with an error just when one is met behind items none of
    which stops. -/
theorem drain_eq_failed_iff {fuel : ℕ} {s : σ} {buffer : List β} {e : ε}
    (h : buffer.length < fuel) :
    D.drain react fuel s buffer = .failed e ↔
      ∃ items rest s', D.Reads buffer items rest ∧ consume react s items = .inl s' ∧
        D.decode rest = .error e := by
  induction fuel generalizing s buffer with
  | zero => omega
  | succ fuel ih =>
    rw [drain]
    rcases hdecode : D.decode buffer with e' | _ | ⟨a, n⟩
    · constructor
      · intro hfailed
        cases hfailed
        exact ⟨[], buffer, s, .nil, rfl, hdecode⟩
      · rintro ⟨_, rest, s', hreads, -, herror⟩
        cases hreads with
        | nil =>
          cases hdecode.symm.trans herror
          rfl
        | cons hfirst => cases hdecode.symm.trans hfirst
    · refine iff_of_false nofun ?_
      rintro ⟨_, rest, s', hreads, -, herror⟩
      cases hreads with
      | nil => cases hdecode.symm.trans herror
      | cons hfirst => cases hdecode.symm.trans hfirst
    · obtain ⟨hpos, hle⟩ := D.consumes hdecode
      have hshort : (buffer.drop n).length < fuel := by rw [List.length_drop]; omega
      cases hreact : react s a with
      | inl s₁ =>
        simp only [hreact]
        rw [ih hshort]
        constructor
        · rintro ⟨items, rest, s', hreads, hconsume, herror⟩
          refine ⟨a :: items, rest, s', .cons hdecode hreads, ?_, herror⟩
          rw [consume, hreact]
          exact hconsume
        · rintro ⟨_, rest, s', hreads, hconsume, herror⟩
          cases hreads with
          | nil => cases hdecode.symm.trans herror
          | cons hfirst hreads =>
            cases hdecode.symm.trans hfirst
            rw [consume, hreact] at hconsume
            exact ⟨_, rest, s', hreads, hconsume, herror⟩
      | inr r =>
        simp only [hreact]
        refine iff_of_false nofun ?_
        rintro ⟨_, rest, s', hreads, hconsume, herror⟩
        cases hreads with
        | nil => cases hdecode.symm.trans herror
        | cons hfirst hreads =>
          cases hdecode.symm.trans hfirst
          rw [consume, hreact] at hconsume
          cases hconsume

/-- A row of encoded items is consumed item by item, up to an incomplete one. -/
theorem drain_flatMap {encode : α → List β} {items : List α}
    (hencode : ∀ a ∈ items, ∀ rest, D.decode (encode a ++ rest) = .ok (some (a, (encode a).length)))
    {tail : List β} (htail : D.decode tail = .ok none) {fuel : ℕ} {s : σ}
    (h : (items.flatMap encode ++ tail).length < fuel) :
    D.drain react fuel s (items.flatMap encode ++ tail) =
      match consume react s items with
      | .inl s' => .waiting s' tail
      | .inr r => .stopped r := by
  induction items generalizing fuel s with
  | nil =>
    obtain ⟨fuel, rfl⟩ : ∃ k, fuel = k + 1 := ⟨fuel - 1, by omega⟩
    rw [List.flatMap_nil, List.nil_append, drain, htail]
    rfl
  | cons a items ih =>
    obtain ⟨fuel, rfl⟩ : ∃ k, fuel = k + 1 := ⟨fuel - 1, by omega⟩
    have hdecode := hencode a List.mem_cons_self (items.flatMap encode ++ tail)
    obtain ⟨hpos, -⟩ := D.consumes hdecode
    rw [List.flatMap_cons, List.append_assoc, List.length_append] at h
    rw [List.flatMap_cons, List.append_assoc, drain, hdecode, consume]
    cases hreact : react s a with
    | inl s' =>
      simp only [hreact, List.drop_left]
      have hrest : (items.flatMap encode ++ tail).length < fuel := by omega
      exact ih (fun b hb => hencode b (List.mem_cons_of_mem _ hb)) hrest
    | inr r => simp only [hreact]

end Decoder

end Foundation
