import Mathlib.Data.List.Forall2
import PromptKit.Proofs.Document.WellFormed
import PromptKit.Proofs.Listing

/-!
What the changes to the parts of a pack come to.

A part is made by changes in any order, and a change may undo an earlier one. Whether a variable
has to be given, and its default, are left to the last change that speaks of either. A policy
blocks what any of its changes blocks. The tools of a pack stand in the order in which their names
first came up, each as the last change has it that brings the name.
-/

namespace PromptKit

/-! ### Variables -/

namespace Variable

/-- Whether a variable has to be given, and its default, as two fields that might both be set. -/
structure Fields where
  required : Bool := false
  default? : Option Value := none

/-- A change to the two fields: each of them resets the other. -/
def Fields.edit (f : Fields) : Edit → Fields
  | .required => { f with required := true, default? := none }
  | .default d => { f with default? := some d, required := false }
  | .description _ => f
  | .rules _ => f

def fields (v : Variable) : Fields := ⟨v.isRequired, v.default?⟩

/-- A change that says whether a variable has to be given. -/
def Edit.Decides : Edit → Prop
  | .required => True
  | .default _ => True
  | .description _ => False
  | .rules _ => False

variable {v : Variable} {edits : List Edit}

/-- The variable holds what the two fields would. -/
lemma fields_edit (v : Variable) (e : Edit) : (v.edit e).fields = v.fields.edit e := by
  cases e with
  | required => rfl
  | default d => rfl
  | description s => rfl
  | rules r => rfl

lemma fields_foldl (v : Variable) (edits : List Edit) :
    (edits.foldl edit v).fields = edits.foldl Fields.edit v.fields := by
  induction edits generalizing v with
  | nil => rfl
  | cons e edits ih => rw [List.foldl_cons, List.foldl_cons, ih, fields_edit]

lemma isRequired_foldl (hv : v.presence = .optional) (edits : List Edit) :
    (edits.foldl edit v).isRequired ↔ IsLast Edit.Decides edits .required := by
  induction edits using List.reverseRecOn with
  | nil => simp [isRequired, hv, not_isLast_nil]
  | append_singleton edits e ih =>
    rw [List.foldl_append, isLast_snoc, ← ih]
    cases e with
    | required => simp [edit, Edit.Decides]
    | default d => simp [edit, Edit.Decides]
    | description s => simp [edit, Edit.Decides, isRequired]
    | rules r => simp [edit, Edit.Decides, isRequired]

lemma default?_foldl (hv : v.presence = .optional) (edits : List Edit) (d : Value) :
    (edits.foldl edit v).default? = some d ↔ IsLast Edit.Decides edits (.default d) := by
  induction edits using List.reverseRecOn with
  | nil => simp [default?, hv, not_isLast_nil]
  | append_singleton edits e ih =>
    rw [List.foldl_append, isLast_snoc, ← ih]
    cases e with
    | required => simp [edit, Edit.Decides, required, default?]
    | default d' => simp [edit, Edit.Decides, eq_comm]
    | description s => simp [edit, Edit.Decides, default?]
    | rules r => simp [edit, Edit.Decides, default?]

/-- A variable that is required has no default. -/
lemma default?_of_isRequired (h : v.isRequired) : v.default? = none := by
  unfold isRequired at h
  unfold default?
  split at h
  · rename_i hv
    rw [hv]
  · cases h

/-- What a variable is after changes to one that may be left out. -/
structure Decided (edits : List Edit) (v : Variable) : Prop where
  fields_eq : v.fields = edits.foldl Fields.edit {}
  no_default : v.isRequired → v.default? = none
  isRequired_iff : v.isRequired ↔ IsLast Edit.Decides edits .required
  default?_iff : ∀ d, v.default? = some d ↔ IsLast Edit.Decides edits (.default d)

lemma decided_foldl (name : String) (type : ValueType) (edits : List Edit) :
    Decided edits (edits.foldl edit { name, type }) where
  fields_eq := fields_foldl _ edits
  no_default := default?_of_isRequired
  isRequired_iff := isRequired_foldl rfl edits
  default?_iff := default?_foldl rfl edits

end Variable

/-! ### Policies -/

namespace ToolPolicy

variable {p : ToolPolicy} {name : String}

lemma blocks_edit (p : ToolPolicy) (e : Edit) :
    (p.edit e).blocks name ↔ p.blocks name ∨ ∃ names, e = .block names ∧ name ∈ names := by
  cases e with
  | choose c => simp [edit, blocks]
  | maxRounds n => simp [edit, blocks]
  | maxCallsPerTurn n => simp [edit, blocks]
  | block names =>
    rw [edit, blocks, NameSet.contains_addAll, or_comm]
    simp [blocks]

/-- What a policy is after changes to the default one. -/
structure Gathered (edits : List Edit) (p : ToolPolicy) : Prop where
  wellFormed : p.WellFormed
  blocks_iff : ∀ name, p.blocks name ↔ ∃ names, .block names ∈ edits ∧ name ∈ names

lemma Gathered.snoc {edits : List Edit} (h : Gathered edits p) (e : Edit) :
    Gathered (edits ++ [e]) (p.edit e) where
  wellFormed := h.wellFormed.edit e
  blocks_iff name := by
    rw [blocks_edit, h.blocks_iff]
    simp only [List.mem_append, List.mem_singleton, or_and_right, exists_or, eq_comm (a := e)]

lemma gathered_foldl (edits : List Edit) : Gathered edits (edits.foldl edit {}) := by
  induction edits using List.reverseRecOn with
  | nil => exact ⟨wellFormed_default, fun name => by simp [blocks, NameMap.contains]⟩
  | append_singleton edits e ih =>
    rw [List.foldl_append]
    exact ih.snoc e

end ToolPolicy

/-! ### Tools -/

namespace Pack

variable {t : Tool} {ts placed : List Tool}

lemma placeTools_snoc (ts : List Tool) (t : Tool) :
    placeTools (ts ++ [t]) = placeTool t (placeTools ts) := by
  simp [placeTools]

/-- A tool takes the place of the one of its name, or comes to the end. -/
lemma names_placeTool (t : Tool) (placed : List Tool) :
    (placeTool t placed).map (·.name) =
      if t.name ∈ placed.map (·.name) then placed.map (·.name)
      else placed.map (·.name) ++ [t.name] := by
  induction placed with
  | nil => rfl
  | cons u placed ih =>
    unfold placeTool
    by_cases hu : u.name = t.name
    · simp [hu]
    · rw [if_neg hu, List.map_cons, ih, List.map_cons]
      by_cases ht : t.name ∈ placed.map (·.name)
      · rw [if_pos ht, if_pos (List.mem_cons_of_mem _ ht)]
      · have hnew : t.name ∉ u.name :: placed.map (·.name) := by
          rw [List.mem_cons, not_or]
          exact ⟨Ne.symm hu, ht⟩
        rw [if_neg ht, if_neg hnew, List.cons_append]

lemma find?_cons_name (t : Tool) (ts : List Tool) (n : String) :
    (t :: ts).find? (·.name == n) = if t.name = n then some t else ts.find? (·.name == n) := by
  by_cases hn : t.name = n
  · rw [if_pos hn, List.find?_cons_of_pos (by simpa using hn)]
  · rw [if_neg hn, List.find?_cons_of_neg (by simpa using hn)]

lemma find?_placeTool (t : Tool) (placed : List Tool) (n : String) :
    (placeTool t placed).find? (·.name == n) =
      if t.name = n then some t else placed.find? (·.name == n) := by
  induction placed with
  | nil => exact find?_cons_name t [] n
  | cons u placed ih =>
    unfold placeTool
    by_cases hu : u.name = t.name
    · rw [if_pos hu, find?_cons_name, find?_cons_name, hu]
      by_cases hn : t.name = n
      · simp [hn]
      · simp [hn]
    · rw [if_neg hu, find?_cons_name, find?_cons_name, ih]
      by_cases hn : t.name = n
      · have hun : u.name ≠ n := fun h => hu (h.trans hn.symm)
        simp [hn, hun]
      · simp [hn]

/-- The names come in the order of their first places. -/
lemma names_placeTools (ts : List Tool) :
    (placeTools ts).map (·.name) = (ts.map (·.name)).eraseDups := by
  induction ts using List.reverseRecOn with
  | nil => rfl
  | append_singleton ts t ih =>
    rw [placeTools_snoc, names_placeTool, ih, List.map_append, List.map_singleton,
      eraseDups_append_singleton]

/-- **The last tool of a name** is the one that is found. -/
lemma find?_placeTools (ts : List Tool) (n : String) :
    (placeTools ts).find? (·.name == n) = some t ↔ IsLast (·.name = n) ts t := by
  induction ts using List.reverseRecOn with
  | nil => exact iff_of_false (by simp [placeTools]) not_isLast_nil
  | append_singleton ts u ih =>
    rw [placeTools_snoc, find?_placeTool, isLast_snoc, ← ih]
    by_cases hu : u.name = n
    · simp [hu, eq_comm]
    · simp [hu]

lemma find?_of_mem (h : (ts.map (·.name)).Nodup) (ht : t ∈ ts) :
    ts.find? (·.name == t.name) = some t := by
  have hsome : (ts.find? (·.name == t.name)).isSome := List.find?_isSome.mpr ⟨t, ht, by simp⟩
  obtain ⟨u, hu⟩ := Option.isSome_iff_exists.mp hsome
  have hname : u.name = t.name := by simpa using List.find?_some hu
  rw [hu, List.inj_on_of_nodup_map h (List.mem_of_find?_eq_some hu) ht hname]

/-- The tool that a change brings. -/
def Edit.tool? : Edit → Option Tool
  | .tool t => some t
  | _ => none

lemma tools_foldl (p : Pack) (edits : List Edit) :
    (edits.foldl edit p).tools =
      (edits.filterMap Edit.tool?).foldl (fun placed t => placeTool t placed) p.tools := by
  induction edits generalizing p with
  | nil => rfl
  | cons e edits ih =>
    rw [List.foldl_cons, ih]
    cases e with
    | description s => rfl
    | engine e => rfl
    | prompt name q => rfl
    | tool t => rfl
    | fragment name text => rfl

/-- What the tools of a pack are after changes to one without any. -/
structure Stocked (edits : List Edit) (p : Pack) : Prop where
  nodup : (p.tools.map (·.name)).Nodup
  tools : List.Forall₂ (fun n t => t.name = n ∧ IsLast (·.name = n) (edits.filterMap Edit.tool?) t)
    ((edits.filterMap Edit.tool?).map (·.name)).eraseDups p.tools
  tool?_iff : ∀ n t, p.tool? n = some t ↔ IsLast (·.name = n) (edits.filterMap Edit.tool?) t

lemma stocked_foldl {p : Pack} (hp : p.tools = []) (edits : List Edit) :
    Stocked edits (edits.foldl edit p) := by
  have htools : (edits.foldl edit p).tools = placeTools (edits.filterMap Edit.tool?) := by
    rw [tools_foldl, hp]
    rfl
  have hnodup := nodup_eraseDups ((edits.filterMap Edit.tool?).map (·.name))
  rw [← names_placeTools, ← htools] at hnodup
  have hlast : ∀ n t, (edits.foldl edit p).tool? n = some t ↔
      IsLast (·.name = n) (edits.filterMap Edit.tool?) t := by
    intro n t
    rw [tool?, htools, find?_placeTools]
  refine ⟨hnodup, ?_, hlast⟩
  rw [← names_placeTools, ← htools, List.forall₂_map_left_iff, List.forall₂_same]
  exact fun t ht => ⟨rfl, (hlast t.name t).mp (find?_of_mem hnodup ht)⟩

end Pack

end PromptKit
