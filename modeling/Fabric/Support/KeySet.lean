import Fabric.Support.OrdMap
import Mathlib.Data.Finset.Card

/-!
# The keys of a map

The keys of an ordered map as a finite set: as many as the map has entries (`card_keySet`), and an
insertion adds its key (`mem_keySet_insert`).
-/

namespace Fabric.Support.OrdMap

variable {K V : Type} [LinearOrder K]

/-- The keys of a map. -/
def keySet (m : OrdMap K V) : Finset K := (m.entries.map Prod.fst).toFinset

theorem mem_keySet {m : OrdMap K V} {k : K} : k ∈ m.keySet ↔ ∃ v, m.find? k = some v := by
  rw [keySet, List.mem_toFinset, List.mem_map]
  constructor
  · rintro ⟨⟨k', v⟩, he, rfl⟩
    exact ⟨v, find?_eq_some_iff.mpr he⟩
  · rintro ⟨v, hv⟩
    exact ⟨(k, v), find?_eq_some_iff.mp hv, rfl⟩

theorem mem_keySet_insert {m : OrdMap K V} {k k' : K} {v : V} :
    k' ∈ (m.insert k v).keySet ↔ k' ∈ m.keySet ∨ k' = k := by
  rw [mem_keySet, mem_keySet, find?_insert]
  split_ifs with hk
  · simp [hk]
  · simp [hk]

/-- A map has as many keys as entries. -/
theorem card_keySet (m : OrdMap K V) : m.keySet.card = m.size := by
  have hnodup : (m.entries.map Prod.fst).Nodup :=
    List.pairwise_map.mpr (m.sorted.imp fun h => h.ne)
  rw [keySet, List.toFinset_card_of_nodup hnodup, List.length_map, size]

end Fabric.Support.OrdMap
