import Mathlib.Data.List.Basic
import Mathlib.Data.List.Pairwise

/-!
# Tables with constraints

A table of a relational database that carries its `CHECK` and `UNIQUE`
constraints: a table whose rows violate one cannot be built, and a statement
that would build one fails.

* `Schema`: the condition on a row, and the pairs of rows that a `UNIQUE`
  constraint keeps apart.
* `Table`: the rows, with the proof that they meet the constraints.
* `Table.insert`, `Table.update`, `Table.delete`: the statements, with the rows
  that they leave (`rows_insert`, `rows_update`, `rows_delete`).
* `Table.eq_of_clash`: two rows that clash are the same row.
-/

namespace Foundation

/-- The constraints of a table. -/
structure Schema (ρ : Type) where
  /-- The `CHECK` constraints. -/
  check : ρ → Bool
  /-- The rows agree on the columns of some `UNIQUE` constraint. -/
  clash : ρ → ρ → Bool
  clash_comm : ∀ r s, clash r s = clash s r

/-- The constraint that a statement violates. -/
inductive TableError
  | check
  | unique
  deriving DecidableEq

variable {ρ : Type} {S : Schema ρ}

/-- The rows of a table, which meet its constraints. -/
structure Table (S : Schema ρ) where
  rows : List ρ
  check : ∀ r ∈ rows, S.check r = true
  apart : rows.Pairwise fun r s => S.clash r s = false

namespace Table

/-- The table without rows. -/
def empty (S : Schema ρ) : Table S := ⟨[], by simp, .nil⟩

/-- The table of one row. -/
def single (r : ρ) (h : S.check r = true) : Table S := ⟨[r], by simpa using h, by simp⟩

/-- The table with the given rows, if they meet the constraints. -/
def ofRows (S : Schema ρ) (rows : List ρ) : Except TableError (Table S) :=
  if hcheck : ∀ r ∈ rows, S.check r = true then
    if hapart : rows.Pairwise fun r s => S.clash r s = false then .ok ⟨rows, hcheck, hapart⟩
    else .error .unique
  else .error .check

/-- `INSERT` of one row. -/
def insert (r : ρ) (t : Table S) : Except TableError (Table S) := ofRows S (t.rows ++ [r])

/-- `UPDATE`, where `f` leaves a row that the statement does not select as it is. -/
def update (f : ρ → ρ) (t : Table S) : Except TableError (Table S) := ofRows S (t.rows.map f)

/-- `DELETE` of the rows that `p` selects. -/
def delete (p : ρ → Bool) (t : Table S) : Table S where
  rows := t.rows.filter fun r => !p r
  check r hr := t.check r (List.mem_of_mem_filter hr)
  apart := t.apart.sublist List.filter_sublist

/-- `UPDATE` of columns that no constraint is about. -/
def relabel (f : ρ → ρ) (hcheck : ∀ r, S.check (f r) = S.check r)
    (hclash : ∀ r s, S.clash (f r) (f s) = S.clash r s) (t : Table S) : Table S where
  rows := t.rows.map f
  check r hr := by
    obtain ⟨s, hs, rfl⟩ := List.mem_map.1 hr
    rw [hcheck, t.check s hs]
  apart := List.pairwise_map.2 (t.apart.imp fun h => by rw [hclash, h])

@[ext] theorem ext {t u : Table S} (h : t.rows = u.rows) : t = u := by
  cases t
  cases u
  cases h
  rfl

theorem rows_ofRows {rows : List ρ} {t : Table S} (h : ofRows S rows = .ok t) : t.rows = rows := by
  unfold ofRows at h
  split_ifs at h
  cases h
  rfl

theorem ofRows_rows (t : Table S) : ofRows S t.rows = .ok t := by
  rw [ofRows, dif_pos t.check, dif_pos t.apart]

/-- The rows after a successful `INSERT`. -/
theorem rows_insert {r : ρ} {t t' : Table S} (h : t.insert r = .ok t') :
    t'.rows = t.rows ++ [r] := rows_ofRows h

/-- The rows after a successful `UPDATE`. -/
theorem rows_update {f : ρ → ρ} {t t' : Table S} (h : t.update f = .ok t') :
    t'.rows = t.rows.map f := rows_ofRows h

/-- An `UPDATE` that changes no row succeeds. -/
theorem update_eq_self {f : ρ → ρ} {t : Table S} (h : ∀ r ∈ t.rows, f r = r) :
    t.update f = .ok t := by
  have hmap : t.rows.map f = t.rows := by
    rw [List.map_congr_left h]
    simp
  rw [update, hmap, ofRows_rows]

@[simp] theorem rows_relabel (f : ρ → ρ) (hcheck : ∀ r, S.check (f r) = S.check r)
    (hclash : ∀ r s, S.clash (f r) (f s) = S.clash r s) (t : Table S) :
    (t.relabel f hcheck hclash).rows = t.rows.map f := rfl

/-- The rows after a `DELETE`. -/
@[simp] theorem rows_delete (p : ρ → Bool) (t : Table S) :
    (t.delete p).rows = t.rows.filter fun r => !p r := rfl

@[simp] theorem rows_empty : (empty S).rows = [] := rfl

/-- Two rows that a `UNIQUE` constraint keeps apart are one and the same. -/
theorem eq_of_clash (t : Table S) {r s : ρ} (hr : r ∈ t.rows) (hs : s ∈ t.rows)
    (hclash : S.clash r s = true) : r = s := by
  by_contra hne
  have hsymm : Std.Symm fun r s => S.clash r s = false :=
    ⟨fun r s h => (S.clash_comm s r).trans h⟩
  rw [t.apart.forall hr hs hne] at hclash
  cases hclash

/-- If a constraint keeps the rows apart that `p` selects, it selects at most one. -/
theorem filter_eq_singleton (t : Table S) {r : ρ} {p : ρ → Bool} (hr : r ∈ t.rows)
    (hp : p r = true) (hclash : ∀ r s, p r = true → p s = true → S.clash r s = true) :
    t.rows.filter p = [r] := by
  have honly : ∀ s ∈ t.rows.filter p, s = r := fun s hs => by
    obtain ⟨hs, hps⟩ := List.mem_filter.1 hs
    exact t.eq_of_clash hs hr (hclash s r hps hp)
  have hone : (t.rows.filter p).length ≤ 1 := by
    have hapart := t.apart.sublist (List.filter_sublist (p := p))
    rcases hrows : t.rows.filter p with _ | ⟨a, _ | ⟨b, rest⟩⟩
    · simp
    · simp
    · rw [hrows] at hapart
      have hab := (List.pairwise_cons.1 hapart).1 b (by simp)
      have ha := (List.mem_filter.1 (hrows ▸ List.mem_cons_self : a ∈ t.rows.filter p)).2
      have hb := (List.mem_filter.1 (hrows ▸ (by simp) : b ∈ t.rows.filter p)).2
      rw [hclash a b ha hb] at hab
      cases hab
  have hmem : r ∈ t.rows.filter p := List.mem_filter.2 ⟨hr, hp⟩
  obtain ⟨s, hs⟩ := List.length_eq_one_iff.1 (Nat.le_antisymm hone (List.length_pos_of_mem hmem))
  rw [hs, honly s (hs ▸ List.mem_singleton_self s)]

end Table

end Foundation
