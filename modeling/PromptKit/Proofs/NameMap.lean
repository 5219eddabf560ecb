import Mathlib.Data.List.Nodup
import Mathlib.Data.List.Perm.Subperm
import Mathlib.Tactic.Common
import PromptKit.NameMap

/-!
Maps that are made from lists and from other maps, look-up by look-up.
-/

namespace PromptKit.NameMap

variable {α : Type} {m : NameMap α} {k : String}

/-- A map that is made from entries of distinct names has exactly these entries. -/
lemma get?_ofList_iff {es : List (String × α)} {a : α} (hd : (es.map (·.1)).Nodup) :
    (ofList es).get? k = some a ↔ (k, a) ∈ es := by
  refine ⟨mem_of_get?_ofList, fun hmem => ?_⟩
  have hcontains : (ofList es).contains k := contains_ofList.mpr (List.mem_map_of_mem hmem)
  obtain ⟨b, hb⟩ := Option.isSome_iff_exists.mp hcontains
  have heq : (k, b) = (k, a) := List.inj_on_of_nodup_map hd (mem_of_get?_ofList hb) hmem rfl
  rw [hb, (Prod.mk.inj heq).2]

lemma nodup_keys (m : NameMap α) : m.keys.Nodup := by
  rw [keys, List.nodup_iff_pairwise_ne, List.pairwise_map]
  refine m.sorted.imp ?_
  rintro ⟨k, v⟩ ⟨_, w⟩ hlt rfl
  exact String.lt_irrefl k hlt

lemma mem_keys_iff : k ∈ m.keys ↔ (m.get? k).isSome := by
  constructor
  · intro h
    obtain ⟨⟨_, v⟩, hmem, rfl⟩ := List.mem_map.mp h
    rw [get?_eq_some_iff.mpr hmem]
    rfl
  · intro h
    obtain ⟨v, hv⟩ := Option.isSome_iff_exists.mp h
    exact mem_keys_of_get? hv

/-- Distinct names of a map are no more than it has. -/
lemma length_le_size {names : List String} (hd : names.Nodup) (h : ∀ n ∈ names, n ∈ m.keys) :
    names.length ≤ m.size := by
  have hle : names.length ≤ m.keys.length := (List.subperm_of_subset hd h).length_le
  rwa [keys, List.length_map] at hle

lemma ofList_entries (m : NameMap α) : ofList m.entries = m := by
  refine ext_get? fun k => Option.ext fun v => ?_
  rw [get?_ofList_iff m.nodup_keys, get?_eq_some_iff]

/-- **An override is pointwise**: it decides on the names that it has. -/
theorem get?_override (m o : NameMap α) (k : String) :
    (m.override o).get? k = (o.get? k).or (m.get? k) := by
  have hoverride : (m.override o).get? k =
      ((o.entries.reverse.find? (·.1 == k)).map (·.2)).or (m.get? k) :=
    get?_foldl_insert o.entries m k
  rw [hoverride, ← get?_ofList, ofList_entries]

end PromptKit.NameMap
