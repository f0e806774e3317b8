import Mathlib.Data.Finset.Card
import Mathlib.Data.List.Nodup

/-!
# Maps in the order of insertion

Finite maps that remember in which order their keys came, as the built-in maps of
scripting languages do.

* `InsertionMap.set`, `InsertionMap.erase`, `InsertionMap.dropOldest`: a key that is there keeps
  its place.
* `lookup_set`, `lookup_erase`: what is found afterwards.
* `InsertionMap.card_le`: a map has no more entries than a set that all of its keys are in.
-/

namespace Foundation

/-- A map whose entries are in the order in which their keys came, the oldest first. -/
structure InsertionMap (α β : Type*) where
  entries : List (α × β)
  nodup : (entries.map Prod.fst).Nodup

namespace InsertionMap

variable {α β : Type*}

/-- The map without entries. -/
def empty : InsertionMap α β := ⟨[], List.nodup_nil⟩

variable (m : InsertionMap α β) (k : α)

/-- The keys, the oldest first. -/
def keys : List α := m.entries.map Prod.fst

/-- The number of entries. -/
def size : ℕ := m.entries.length

theorem length_keys : m.keys.length = m.size := List.length_map ..

theorem nodup_keys : m.keys.Nodup := m.nodup

variable [DecidableEq α]

/-- The value of a key. -/
def lookup : Option β := (m.entries.find? fun entry => entry.1 = k).map Prod.snd

@[simp] theorem lookup_empty : (empty : InsertionMap α β).lookup k = none := rfl

/-- There is a value for just the keys of the map. -/
theorem mem_keys_iff : k ∈ m.keys ↔ m.lookup k ≠ none := by
  simp [keys, lookup]

/-- The map without a key. -/
def erase : InsertionMap α β where
  entries := m.entries.filter fun entry => entry.1 ≠ k
  nodup := (m.entries.filter_sublist.map _).nodup m.nodup

theorem lookup_erase (l : α) : (m.erase k).lookup l = if l = k then none else m.lookup l := by
  unfold lookup erase
  rw [List.find?_filter]
  by_cases hl : l = k
  · subst hl
    simp
  · rw [if_neg hl]
    congr 2
    funext entry
    by_cases hentry : entry.1 = l
    · simp [hentry, hl]
    · simp [hentry]

theorem size_erase_le : (m.erase k).size ≤ m.size := List.length_filter_le ..

theorem size_erase_lt (h : k ∈ m.keys) : (m.erase k).size < m.size := by
  obtain ⟨entry, hentry, rfl⟩ := List.mem_map.1 h
  exact List.length_filter_lt_length_iff_exists.2 ⟨entry, hentry, by simp⟩

theorem mem_keys_erase {l : α} (h : l ∈ (m.erase k).keys) : l ∈ m.keys := by
  rw [mem_keys_iff, lookup_erase] at h
  rw [mem_keys_iff]
  intro hnone
  rw [hnone, ite_self] at h
  exact h rfl

/-- An entry with a new value, if it is that of the key. -/
def replace (v : β) (entry : α × β) : α × β := if entry.1 = k then (k, v) else entry

@[simp] theorem replace_fst (v : β) (entry : α × β) : (replace k v entry).1 = entry.1 := by
  unfold replace
  split_ifs with h
  · exact h.symm
  · rfl

/-- The map with a value for a key, which keeps its place or comes last. -/
def set (v : β) : InsertionMap α β :=
  if h : k ∈ m.keys then
    { entries := m.entries.map (replace k v)
      nodup := by simpa [Function.comp_def] using m.nodup }
  else
    { entries := m.entries ++ [(k, v)]
      nodup := by
        rw [List.map_append]
        refine List.nodup_append.2 ⟨m.nodup, by simp, ?_⟩
        simpa using fun _ _ hmem => ne_of_mem_of_not_mem (List.mem_map_of_mem hmem) h }

theorem lookup_set (v : β) (l : α) :
    (m.set k v).lookup l = if l = k then some v else m.lookup l := by
  by_cases hmem : k ∈ m.keys
  · have hset : (m.set k v).lookup l =
        ((m.entries.find? fun entry => entry.1 = l).map (replace k v)).map Prod.snd := by
      rw [set, dif_pos hmem, lookup, List.find?_map]
      simp [Function.comp_def]
    rw [hset, lookup]
    cases hfind : m.entries.find? fun entry => entry.1 = l with
    | none =>
      refine (if_neg ?_).symm
      rintro rfl
      exact (m.mem_keys_iff l).1 hmem (by rw [lookup, hfind]; rfl)
    | some entry =>
      have hkey : entry.1 = l := by simpa using List.find?_some hfind
      by_cases hl : l = k <;> simp [replace, hkey, hl]
  · rw [set, dif_neg hmem, lookup, List.find?_append]
    by_cases hl : l = k
    · subst hl
      have hnone : m.entries.find? (fun entry => entry.1 = l) = none :=
        Option.map_eq_none_iff.1 (not_not.1 (mt (m.mem_keys_iff l).2 hmem))
      simp [hnone]
    · simp [lookup, hl, Ne.symm hl]

theorem size_set (v : β) : (m.set k v).size = if k ∈ m.keys then m.size else m.size + 1 := by
  unfold set size
  split_ifs <;> simp

/-- The map without its oldest entry, if that may go. -/
def dropOldest (mayGo : α → Bool) : InsertionMap α β :=
  match m.entries with
  | [] => m
  | (k, _) :: _ => if mayGo k then m.erase k else m

theorem lookup_of_dropOldest {mayGo : α → Bool} {l : α}
    (h : (m.dropOldest mayGo).lookup l ≠ none) : m.lookup l ≠ none := by
  unfold dropOldest at h
  split at h
  · exact h
  · split_ifs at h
    · rw [← mem_keys_iff] at h ⊢
      exact m.mem_keys_erase _ h
    · exact h

/-- A map that is not empty, and all of whose keys may go, loses an entry. -/
theorem size_dropOldest_lt {mayGo : α → Bool} (hgo : ∀ k ∈ m.keys, mayGo k = true)
    (h : 0 < m.size) : (m.dropOldest mayGo).size < m.size := by
  unfold dropOldest
  split
  · rename_i hentries
    exact absurd h (by simp [size, hentries])
  · rename_i k v entries hentries
    have hmem : k ∈ m.keys := by simp [keys, hentries]
    rw [if_pos (hgo k hmem)]
    exact m.size_erase_lt k hmem

/-- A map has no more entries than there are elements in a set that its keys are in. -/
theorem size_le_card {S : Finset α} (h : ∀ k, m.lookup k ≠ none → k ∈ S) : m.size ≤ S.card := by
  rw [← m.length_keys, ← List.toFinset_card_of_nodup m.nodup_keys]
  refine Finset.card_le_card fun k hk => h k ?_
  exact (m.mem_keys_iff k).1 (List.mem_toFinset.1 hk)

end InsertionMap

end Foundation
