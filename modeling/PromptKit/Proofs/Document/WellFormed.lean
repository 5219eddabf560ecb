import Mathlib.Data.List.Nodup
import PromptKit.Document
import PromptKit.Proofs.Name

/-!
Well-formed packs, part by part, and what the builders do for them.

The conditions speak of a pack as it is and of no document. A prompt is checked when it is
built, a policy keeps its counts positive at every change, and a tool takes the place of the
tool of its name.
-/

namespace PromptKit

structure Variable.WellFormed (v : Variable) : Prop where
  name : Name.IsSymbol v.name
  no_default : v.isRequired → v.default? = none
  default_type : ∀ d, v.default? = some d → d.type = v.type
  lengths : ∀ least most, v.rules.minLength = some least → v.rules.maxLength = some most →
    least ≤ most

structure Parameters.WellFormed (ps : Parameters) : Prop where
  scalar : ∀ key v, ps.get? key = some v →
    (∃ s, v = .string s) ∨ (∃ n, v = .number n) ∨ ∃ b, v = .bool b
  /-- A parameter with a known range is a number that the range does not exclude. -/
  range : ∀ key v, ps.get? key = some v → ∀ r, (key, r) ∈ Document.parameterRanges →
    ∃ n, v = .number n ∧ r.excludes n.toFloat = false

structure ToolPolicy.WellFormed (p : ToolPolicy) : Prop where
  maxRounds : 1 ≤ p.maxRounds
  maxCallsPerTurn : 1 ≤ p.maxCallsPerTurn

structure Prompt.WellFormed (p : Prompt) : Prop where
  id : Name.IsPromptId p.id
  declared : ∀ v ∈ p.declared, v.WellFormed
  distinct : (p.declared.map (·.name)).Nodup
  parameters : p.parameters.WellFormed
  policy : p.policy.WellFormed
  overrides : ∀ model o, p.overrides.get? model = some o → o.parameters.WellFormed

structure Tool.WellFormed (t : Tool) : Prop where
  name : Name.IsSymbol t.name
  description : ∃ c ∈ t.description.toList, ¬ Text.isBlank c
  type : ∀ v, t.parameters.get? "type" = some v → v = .string "object"

structure Pack.WellFormed (p : Pack) : Prop where
  id : Name.IsPackId p.id
  id_length : p.id.length ≤ 100
  nonempty : ∃ name q, p.prompt? name = some q
  tools : ∀ t ∈ p.tools, t.WellFormed
  distinct : (p.tools.map (·.name)).Nodup
  left : p.engine.delimiters.left ≠ []
  right : p.engine.delimiters.right ≠ []
  prompts : ∀ name q, p.prompt? name = some q → q.WellFormed

/-! ### Parameters and policies -/

lemma Parameters.wellFormed_empty : Parameters.WellFormed .empty :=
  ⟨by rintro key v ⟨⟩, by rintro key v ⟨⟩⟩

namespace ToolPolicy

lemma wellFormed_default : WellFormed {} := ⟨by decide, by decide⟩

lemma WellFormed.edit {p : ToolPolicy} (h : p.WellFormed) (e : Edit) : (p.edit e).WellFormed := by
  cases e with
  | choose c => exact ⟨h.maxRounds, h.maxCallsPerTurn⟩
  | maxRounds n => exact ⟨Nat.le_max_right n 1, h.maxCallsPerTurn⟩
  | maxCallsPerTurn n => exact ⟨h.maxRounds, Nat.le_max_right n 1⟩
  | block names => exact ⟨h.maxRounds, h.maxCallsPerTurn⟩

end ToolPolicy

/-! ### Prompts -/

namespace Prompt

variable {path : FieldPath}

lemma variableFault?_eq_none {earlier : List String} {v : Variable} :
    variableFault? path earlier v = none ↔
      v.name ∉ earlier ∧ ∀ d, v.default? = some d → d.type = v.type := by
  unfold variableFault?
  by_cases hv : v.name ∈ earlier
  · simp [hv]
  · rcases hd : v.default? with _ | d
    · simp [hv]
    · simp [hv, Value.isA]

/-- Variables are in order when their names are distinct, new, and their defaults typed. -/
lemma variablesFault?_eq_none {earlier : List String} {vs : List Variable} :
    variablesFault? path earlier vs = none ↔
      (vs.map (·.name)).Nodup ∧ (∀ v ∈ vs, v.name ∉ earlier) ∧
        ∀ v ∈ vs, ∀ d, v.default? = some d → d.type = v.type := by
  induction vs generalizing earlier with
  | nil => simp [variablesFault?]
  | cons v vs ih =>
    have hor : variablesFault? path earlier (v :: vs) = none ↔
        variableFault? path earlier v = none ∧ variablesFault? path (v.name :: earlier) vs = none := by
      rw [variablesFault?]
      cases variableFault? path earlier v with
      | none => simp
      | some f => simp
    rw [hor, ih, variableFault?_eq_none]
    simp only [List.map_cons, List.nodup_cons, List.mem_map, List.mem_cons, not_or,
      forall_eq_or_imp]
    constructor
    · rintro ⟨⟨hv, hd⟩, hnodup, hnew, htypes⟩
      refine ⟨⟨?_, hnodup⟩, ⟨hv, fun u hu => (hnew u hu).2⟩, hd, htypes⟩
      rintro ⟨u, hu, heq⟩
      exact (hnew u hu).1 heq
    · rintro ⟨⟨hv, hnodup⟩, ⟨hnew, hrest⟩, hd, htypes⟩
      exact ⟨⟨hnew, hd⟩, hnodup, fun u hu => ⟨fun heq => hv ⟨u, hu, heq⟩, hrest u hu⟩, htypes⟩

/-- A prompt passes its check as it is, with distinct variables and typed defaults. -/
lemma checked_eq_ok {p q : Prompt} :
    p.checked path = .ok q ↔
      p = q ∧ (p.declared.map (·.name)).Nodup ∧
        ∀ v ∈ p.declared, ∀ d, v.default? = some d → d.type = v.type := by
  have hfault : variablesFault? (path.key "variables") [] p.declared = none ↔ _ :=
    variablesFault?_eq_none
  unfold checked
  rcases hc : variablesFault? (path.key "variables") [] p.declared with _ | ⟨here, fault⟩
  · have h := hfault.mp hc
    constructor
    · intro hq
      exact ⟨Except.ok.inj hq, h.1, h.2.2⟩
    · rintro ⟨rfl, -⟩
      rfl
  · rw [hc] at hfault
    constructor
    · rintro ⟨⟩
    · rintro ⟨-, hnodup, htypes⟩
      exact absurd (hfault.mpr ⟨hnodup, by simp, htypes⟩) (by simp)

end Prompt

/-! ### Tools -/

namespace Pack

lemma mem_placeTool {t u : Tool} {ts : List Tool} (h : u ∈ placeTool t ts) : u = t ∨ u ∈ ts := by
  induction ts with
  | nil => simpa [placeTool] using h
  | cons a ts ih =>
    unfold placeTool at h
    split at h
    · rcases List.mem_cons.mp h with h | h
      · exact .inl h
      · exact .inr (List.mem_cons_of_mem _ h)
    · rcases List.mem_cons.mp h with rfl | h
      · exact .inr List.mem_cons_self
      · exact (ih h).imp_right (List.mem_cons_of_mem _)

lemma nodup_placeTool {t : Tool} {ts : List Tool} (h : (ts.map (·.name)).Nodup) :
    ((placeTool t ts).map (·.name)).Nodup := by
  induction ts with
  | nil => simp [placeTool]
  | cons a ts ih =>
    rw [List.map_cons, List.nodup_cons] at h
    obtain ⟨ha, hrest⟩ := h
    unfold placeTool
    split
    · rename_i heq
      rw [List.map_cons, List.nodup_cons, ← heq]
      exact ⟨ha, hrest⟩
    · rename_i hne
      rw [List.map_cons, List.nodup_cons]
      refine ⟨fun hm => ?_, ih hrest⟩
      obtain ⟨u, hu, heq⟩ := List.mem_map.mp hm
      rcases mem_placeTool hu with rfl | hu
      · exact hne heq.symm
      · exact ha (List.mem_map.mpr ⟨u, hu, heq⟩)

lemma foldl_placeTool {ts placed : List Tool} (h : (placed.map (·.name)).Nodup) :
    ((ts.foldl (fun placed t => placeTool t placed) placed).map (·.name)).Nodup ∧
      ∀ u ∈ ts.foldl (fun placed t => placeTool t placed) placed, u ∈ ts ∨ u ∈ placed := by
  induction ts generalizing placed with
  | nil => exact ⟨h, fun u hu => .inr hu⟩
  | cons t ts ih =>
    obtain ⟨hnodup, hmem⟩ := ih (nodup_placeTool (t := t) h)
    refine ⟨hnodup, fun u hu => ?_⟩
    rcases hmem u hu with hu | hu
    · exact .inl (List.mem_cons_of_mem _ hu)
    · rcases mem_placeTool hu with rfl | hu
      · exact .inl List.mem_cons_self
      · exact .inr hu

/-- Tools that are put one after the other have distinct names, and there are no others. -/
lemma placeTools_spec (ts : List Tool) :
    ((placeTools ts).map (·.name)).Nodup ∧ ∀ t ∈ placeTools ts, t ∈ ts := by
  have hempty : (([] : List Tool).map (·.name)).Nodup := List.nodup_nil
  obtain ⟨hnodup, hmem⟩ := foldl_placeTool hempty
  exact ⟨hnodup, fun t ht => (hmem t ht).resolve_right List.not_mem_nil⟩

lemma placeTool_of_notMem {t : Tool} {ts : List Tool} (h : t.name ∉ ts.map (·.name)) :
    placeTool t ts = ts ++ [t] := by
  induction ts with
  | nil => rfl
  | cons a ts ih =>
    rw [List.map_cons, List.mem_cons, not_or] at h
    rw [placeTool, if_neg (Ne.symm h.1), ih h.2, List.cons_append]

/-- Tools of new names are put at the end, one after the other. -/
lemma foldl_placeTool_of_nodup {ts placed : List Tool} (h : ((placed ++ ts).map (·.name)).Nodup) :
    ts.foldl (fun placed t => placeTool t placed) placed = placed ++ ts := by
  induction ts generalizing placed with
  | nil => simp
  | cons t ts ih =>
    have hnew : t.name ∉ placed.map (·.name) := by
      rw [List.map_append, List.nodup_append] at h
      exact fun hmem => h.2.2 _ hmem _ (by simp) rfl
    rw [List.foldl_cons, placeTool_of_notMem hnew, ih (by simpa using h), List.append_assoc,
      List.singleton_append]

lemma placeTools_of_nodup {ts : List Tool} (h : (ts.map (·.name)).Nodup) : placeTools ts = ts :=
  foldl_placeTool_of_nodup h

end Pack

end PromptKit
