import Mathlib.Data.List.Nodup
import PromptKit.Proofs.Success

/-!
Look-ups in objects, and objects that give the same.

A look-up gives the first member of a name. Where the names are distinct that is the only one,
so what an object gives does not depend on the order of its members. A reader that asks for some
names finds nothing but members of these names that are not null.
-/

namespace PromptKit

lemma Json.isNull_eq_false_iff {v : Json} : v.isNull = false ↔ v ≠ .null := by
  cases v <;> simp [Json.isNull, Json.kind]

namespace Members

variable {ms ms' : Members} {name : String} {v : Json}

lemma mem_of_get? (h : ms.get? name = some v) : (name, v) ∈ ms := by
  induction ms with
  | nil => cases h
  | cons m ms ih =>
    unfold get? at h
    split at h
    · rename_i hname
      obtain rfl := Option.some.inj h
      rw [← hname]
      exact List.mem_cons_self
    · exact List.mem_cons_of_mem _ (ih h)

lemma get?_eq_none_iff : ms.get? name = none ↔ name ∉ ms.map (·.1) := by
  induction ms with
  | nil => simp [get?]
  | cons m ms ih =>
    by_cases hname : m.1 = name
    · simp [get?, hname]
    · simp [get?, hname, ih, Ne.symm hname]

lemma get?_eq_some_iff (hd : (ms.map (·.1)).Nodup) : ms.get? name = some v ↔ (name, v) ∈ ms := by
  refine ⟨mem_of_get?, fun hmem => ?_⟩
  rcases hw : ms.get? name with _ | w
  · exact absurd (List.mem_map_of_mem hmem) (get?_eq_none_iff.mp hw)
  · have heq : (name, w) = (name, v) :=
      List.inj_on_of_nodup_map hd (mem_of_get? hw) hmem rfl
    rw [(Prod.mk.inj heq).2]

lemma eq_of_mem {w : Json} (hd : (ms.map (·.1)).Nodup) (hv : (name, v) ∈ ms)
    (hw : (name, w) ∈ ms) : v = w :=
  Option.some.inj (((get?_eq_some_iff hd).mpr hv).symm.trans ((get?_eq_some_iff hd).mpr hw))

/-- Where names are distinct, the order of the members does not matter. -/
lemma get?_perm (hd : (ms.map (·.1)).Nodup) (h : ms.Perm ms') : ms.get? name = ms'.get? name := by
  have hd' : (ms'.map (·.1)).Nodup := (h.map _).nodup_iff.mp hd
  ext v
  rw [get?_eq_some_iff hd, get?_eq_some_iff hd', h.mem_iff]

lemma mem_of_present? (h : ms.present? name = some v) : (name, v) ∈ ms := by
  rw [present?, Option.filter_eq_some_iff] at h
  exact mem_of_get? h.1

lemma present?_eq_some_iff (hd : (ms.map (·.1)).Nodup) :
    ms.present? name = some v ↔ (name, v) ∈ ms ∧ v ≠ .null := by
  simp [present?, Option.filter_eq_some_iff, get?_eq_some_iff hd, Json.isNull_eq_false_iff]

/-- A member that is set is found under its name, and the others stay. -/
lemma get?_set (ms : Members) (key : String) (v : Json) (name : String) :
    (ms.set key v).get? name = if key = name then some v else ms.get? name := by
  induction ms with
  | nil => rfl
  | cons m ms ih =>
    rw [set]
    split
    · rename_i hkey
      rw [get?, get?, hkey]
      split
      · rfl
      · rfl
    · rename_i hkey
      rw [get?, get?, ih]
      split
      · rename_i hname
        rw [if_neg (hname ▸ Ne.symm hkey)]
      · rfl

lemma present?_set (ms : Members) (key : String) (v : Json) (name : String) :
    (ms.set key v).present? name =
      if key = name then (some v).filter (!·.isNull) else ms.present? name := by
  rw [present?, get?_set]
  split
  · rfl
  · rfl

/-- The names stay where one of them is set. -/
lemma names_set (h : name ∈ ms.map (·.1)) (v : Json) :
    (ms.set name v).map (·.1) = ms.map (·.1) := by
  induction ms with
  | nil => cases h
  | cons m ms ih =>
    rw [set]
    split
    · rfl
    · rename_i hname
      have hrest : name ∈ ms.map (·.1) :=
        (List.mem_cons.mp h).resolve_left (Ne.symm hname)
      rw [List.map_cons, List.map_cons, ih hrest]

/-- The members of other names. -/
def without (key : String) (ms : Members) : Members := ms.filter fun m => m.1 ≠ key

lemma get?_without (key : String) (ms : Members) (name : String) :
    (ms.without key).get? name = if name = key then none else ms.get? name := by
  induction ms with
  | nil => simp [without, get?]
  | cons m ms ih =>
    rw [without] at ih ⊢
    by_cases hkey : m.1 = key
    · rw [List.filter_cons_of_neg (by simpa using hkey), ih, get?]
      by_cases hname : name = key
      · simp [hname]
      · simp [hname, hkey ▸ Ne.symm hname]
    · rw [List.filter_cons_of_pos (by simpa using hkey), get?, get?, ih]
      by_cases hname : m.1 = name
      · simp [hname, hname ▸ hkey]
      · simp [hname]

lemma present?_without (key : String) (ms : Members) (name : String) :
    (ms.without key).present? name = if name = key then none else ms.present? name := by
  rw [present?, get?_without]
  split
  · rfl
  · rfl

/-! ### Members in sight -/

/-- The members that a reader of some names sees. -/
def visible (names : List String) (ms : Members) : Members :=
  ms.filter fun m => names.contains m.1 && !m.2.isNull

/-- Members of the same names in the same order, with values that are related. -/
def Entries (R : String → Json → Json → Prop) (ms ms' : Members) : Prop :=
  List.Forall₂ (fun m m' => m.1 = m'.1 ∧ R m.1 m.2 m'.2) ms ms'

/-- Objects that are the same to a reader of some names: up to the order, what it sees of them
are members of the same names, with values that are related. -/
structure Same (names : List String) (R : String → Json → Json → Prop) (ms ms' : Members) :
    Prop where
  distinct : (ms.map (·.1)).Nodup
  distinct' : (ms'.map (·.1)).Nodup
  seen : ∃ os, os.Perm (ms'.visible names) ∧ Entries R (ms.visible names) os

variable {R : String → Json → Json → Prop} {names : List String}

lemma Entries.names_eq (h : Entries R ms ms') : ms.map (·.1) = ms'.map (·.1) := by
  induction h with
  | nil => rfl
  | cons hm _ ih => rw [List.map_cons, List.map_cons, hm.1, ih]

lemma Entries.get? (h : Entries R ms ms') (name : String) :
    Option.Rel (R name) (ms.get? name) (ms'.get? name) := by
  induction h with
  | nil => exact .none
  | @cons m m' _ _ hm _ ih =>
    obtain ⟨hname, hR⟩ := hm
    by_cases heq : m.1 = name
    · rw [Members.get?, Members.get?, if_pos heq, if_pos (hname ▸ heq)]
      exact .some (heq ▸ hR)
    · rw [Members.get?, Members.get?, if_neg heq, if_neg (hname ▸ heq)]
      exact ih

/-- A relation that keeps nulls apart relates also what is there. -/
lemma Entries.present? (h : Entries R ms ms') (hR : ∀ v v', R name v v' → v.isNull = v'.isNull) :
    Option.Rel (R name) (ms.present? name) (ms'.present? name) := by
  have hrel := h.get? name
  unfold Members.present?
  revert hrel
  generalize ms.get? name = o, ms'.get? name = o'
  intro hrel
  cases hrel with
  | none => exact .none
  | @some v v' hv =>
    rw [Option.filter, Option.filter, hR v v' hv]
    split
    · exact .some hv
    · exact .none

lemma nodup_visible (hd : (ms.map (·.1)).Nodup) (names : List String) :
    ((ms.visible names).map (·.1)).Nodup :=
  hd.sublist (List.filter_sublist.map _)

/-- A reader finds under its names what it sees. -/
lemma get?_visible (hd : (ms.map (·.1)).Nodup) (hname : name ∈ names) :
    (ms.visible names).get? name = ms.present? name := by
  ext v
  rw [get?_eq_some_iff (nodup_visible hd names), present?_eq_some_iff hd]
  simp [visible, hname, Json.isNull_eq_false_iff]

lemma Same.present? (h : Same names R ms ms') (hname : name ∈ names) :
    Option.Rel (R name) (ms.present? name) (ms'.present? name) := by
  obtain ⟨os, hperm, hentries⟩ := h.seen
  have hos : os.get? name = ms'.present? name := by
    rw [← get?_perm (nodup_visible h.distinct' names) hperm.symm, get?_visible h.distinct' hname]
  rw [← get?_visible h.distinct hname, ← hos]
  exact hentries.get? name

end Members

/-- Two objects with related members, or any value and itself. -/
inductive Json.SameObject (S : Members → Members → Prop) : Json → Json → Prop
  | refl (v : Json) : SameObject S v v
  | object {ms ms' : Members} (h : S ms ms') : SameObject S (.object ms) (.object ms')

lemma Json.SameObject.isNull_eq {S : Members → Members → Prop} {v v' : Json}
    (h : Json.SameObject S v v') : v.isNull = v'.isNull := by
  cases h <;> rfl

lemma Json.SameObject.eq_or_objects {S : Members → Members → Prop} {o o' : Option Json}
    (h : Option.Rel (Json.SameObject S) o o') :
    o = o' ∨ ∃ ms ms', S ms ms' ∧ o = some (.object ms) ∧ o' = some (.object ms') := by
  rcases h with ⟨⟨v⟩ | hS⟩ | _
  · exact .inl rfl
  · exact .inr ⟨_, _, hS, rfl, rfl⟩
  · exact .inl rfl

end PromptKit
