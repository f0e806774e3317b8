import Mathlib.Algebra.BigOperators.Group.List.Basic
import Mathlib.Algebra.Ring.Nat
import Mathlib.Data.List.Nodup

/-!
# Sweeps over the rows of a table

A loop over the rows of a table that have been read before. For each row it
computes the row as it is to be, or fails, and updates the table by the key of
the row; it counts what the rows add.

* `updateEach`: the loop.
* `updateEach_ok`: with keys that are unique every row becomes what is computed
  for it.
* `write_ok_of_updateEach`: a loop in which a row fails fails.
-/

namespace Foundation

variable {ρ κ ε : Type} [DecidableEq κ] {key : ρ → κ} {write : ρ → Except ε (ρ × ℕ)}

/-- A computation in two parts succeeds if both do. -/
theorem except_bind_eq_ok {α β : Type} {x : Except ε α} {f : α → Except ε β} {b : β} :
    (x >>= f) = .ok b ↔ ∃ a, x = .ok a ∧ f a = .ok b := by
  cases x with
  | error e => exact iff_of_false nofun nofun
  | ok a => exact ⟨fun h => ⟨a, rfl, h⟩, fun ⟨_, ha, h⟩ => by cases ha; exact h⟩

/-- What does not succeed fails. -/
theorem exists_error_of_not_ok {α : Type} {x : Except ε α} (h : ∀ a, x ≠ .ok a) :
    ∃ e, x = .error e := by
  cases x with
  | error e => exact ⟨e, rfl⟩
  | ok a => exact absurd rfl (h a)

/-- The loop over rows that were read, with the rows that the table has. -/
def updateEach (key : ρ → κ) (write : ρ → Except ε (ρ × ℕ)) :
    List ρ → List ρ → Except ε (ℕ × List ρ)
  | [], rows => .ok (0, rows)
  | r :: rs, rows => do
    let (new, n) ← write r
    let (m, rows) ← updateEach key write rs (rows.map fun s => if key s = key r then new else s)
    return (n + m, rows)

theorem updateEach_of_done {f : ρ → ρ} {n : ρ → ℕ} {rs rows : List ρ}
    (hwrite : ∀ r ∈ rs, write r = .ok (f r, n r)) (hkey : ∀ r, key (f r) = key r)
    (hunique : ∀ r ∈ rows, ∀ s ∈ rs, key r = key s → r = s) (done : List κ) :
    updateEach key write rs (rows.map fun r => if key r ∈ done then f r else r) =
      .ok ((rs.map n).sum, rows.map fun r => if key r ∈ done ++ rs.map key then f r else r) := by
  induction rs generalizing done with
  | nil => simp [updateEach]
  | cons x rs ih =>
    have hrest := ih (fun r hr => hwrite r (List.mem_cons_of_mem _ hr))
      (fun r hr s hs => hunique r hr s (List.mem_cons_of_mem _ hs)) (done ++ [key x])
    -- The update of the row adds its key to those that are done.
    have hstep : (rows.map fun r => if key r ∈ done then f r else r).map
          (fun s => if key s = key x then f x else s) =
        rows.map fun r => if key r ∈ done ++ [key x] then f r else r := by
      rw [List.map_map]
      refine List.map_congr_left fun r hr => ?_
      have hsame : key (if key r ∈ done then f r else r) = key r := by
        split_ifs
        · exact hkey r
        · rfl
      simp only [Function.comp_apply, hsame]
      by_cases hx : key r = key x
      · rw [if_pos hx, hunique r hr x (List.mem_cons_self ..) hx,
          if_pos (List.mem_append_right _ (List.mem_singleton_self _))]
      · rw [if_neg hx]
        simp [hx]
    rw [updateEach, hwrite x (List.mem_cons_self ..)]
    change (updateEach key write rs (List.map _ (List.map _ rows)) >>= _) = _
    rw [hstep, hrest, List.append_assoc, List.singleton_append]
    rfl

/-- With keys that are unique, a loop over all rows in any order replaces each by
    what is computed for it. -/
theorem updateEach_ok {rs rows : List ρ} (hperm : rs.Perm rows) (hnodup : (rows.map key).Nodup)
    (hwrite : ∀ r ∈ rows, ∃ s m, write r = .ok (s, m) ∧ key s = key r) :
    ∃ (f : ρ → ρ) (n : ρ → ℕ), (∀ r ∈ rows, write r = .ok (f r, n r)) ∧
      (∀ r, key (f r) = key r) ∧
      updateEach key write rs rows = .ok ((rows.map n).sum, rows.map f) := by
  let f : ρ → ρ := fun r =>
    match write r with
    | .ok (s, _) => if key s = key r then s else r
    | .error _ => r
  let n : ρ → ℕ := fun r => (write r).toOption.elim 0 Prod.snd
  have hf : ∀ r ∈ rows, write r = .ok (f r, n r) := fun r hr => by
    obtain ⟨s, m, hs, hkey⟩ := hwrite r hr
    simp only [f, n, hs, if_pos hkey]
    rfl
  have hkey : ∀ r, key (f r) = key r := fun r => by
    dsimp only [f]
    split
    · split_ifs with hsame
      · exact hsame
      · rfl
    · rfl
  refine ⟨f, n, hf, hkey, ?_⟩
  have hunique : ∀ r ∈ rows, ∀ s ∈ rs, key r = key s → r = s := fun r hr s hs hsame =>
    List.inj_on_of_nodup_map hnodup hr (hperm.subset hs) hsame
  have hall := updateEach_of_done (fun r hr => hf r (hperm.subset hr)) hkey hunique []
  have hnone : (rows.map fun r => if key r ∈ ([] : List κ) then f r else r) = rows := by
    simp
  have hdone : (rows.map fun r => if key r ∈ [] ++ rs.map key then f r else r) = rows.map f :=
    List.map_congr_left fun r hr => if_pos (List.mem_map_of_mem (hperm.symm.subset hr))
  rw [hnone, hdone, (hperm.map n).sum_eq] at hall
  exact hall

/-- A loop that succeeds has computed every row. -/
theorem write_ok_of_updateEach {rs rows : List ρ} {result : ℕ × List ρ}
    (h : updateEach key write rs rows = .ok result) : ∀ r ∈ rs, ∃ new, write r = .ok new := by
  induction rs generalizing rows result with
  | nil => exact nofun
  | cons x rs ih =>
    obtain ⟨new, hnew, hrest⟩ := except_bind_eq_ok.1 h
    obtain ⟨rest, hrest, -⟩ := except_bind_eq_ok.1 hrest
    exact List.forall_mem_cons.2 ⟨⟨new, hnew⟩, ih hrest⟩

end Foundation
