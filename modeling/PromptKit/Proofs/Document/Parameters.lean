import PromptKit.Proofs.Document.Packs
import PromptKit.Proofs.NameMap

/-!
The parameters of a prompt for a model.

An override decides on the parameters that it has and leaves the others to the prompt. Both maps
were checked one by one when the document was read, so what they give together is in range.
-/

namespace PromptKit

lemma Parameters.WellFormed.override {ps os : Parameters} (hps : ps.WellFormed)
    (hos : os.WellFormed) : Parameters.WellFormed (ps.override os) := by
  have hget {key : String} {v : Value} (h : (ps.override os).get? key = some v) :
      os.get? key = some v ∨ ps.get? key = some v := by
    rw [NameMap.get?_override, Option.or_eq_some_iff] at h
    exact h.imp_right And.right
  constructor
  · intro key v h
    rcases hget h with h | h
    · exact hos.scalar key v h
    · exact hps.scalar key v h
  · intro key v h
    rcases hget h with h | h
    · exact hos.range key v h
    · exact hps.range key v h

namespace Prompt

variable {p : Prompt} {model : Option String}

/-- What the parameters of a prompt for a model are. -/
structure Effective (p : Prompt) (model : Option String) : Prop where
  /-- The override of the model decides on the keys that it has, and the prompt on the others. -/
  pointwise : ∀ key, (p.parametersFor model).get? key =
    ((p.overrideFor? model).bind (·.parameters.get? key)).or (p.parameters.get? key)
  /-- There are no keys but those of the prompt and of the override. -/
  keys : ∀ key, key ∈ (p.parametersFor model).keys ↔
    key ∈ p.parameters.keys ∨ ∃ o, p.overrideFor? model = some o ∧ key ∈ o.parameters.keys
  /-- Without an override the parameters are those of the prompt. -/
  base : p.overrideFor? model = none → p.parametersFor model = p.parameters
  /-- Every value is a scalar and every well-known key has a number in its range. -/
  wellFormed : (p.parametersFor model).WellFormed

lemma get?_parametersFor (p : Prompt) (model : Option String) (key : String) :
    (p.parametersFor model).get? key =
      ((p.overrideFor? model).bind (·.parameters.get? key)).or (p.parameters.get? key) := by
  unfold parametersFor
  cases p.overrideFor? model with
  | none => rfl
  | some o => exact NameMap.get?_override p.parameters o.parameters key

lemma mem_keys_parametersFor {key : String} : key ∈ (p.parametersFor model).keys ↔
    key ∈ p.parameters.keys ∨ ∃ o, p.overrideFor? model = some o ∧ key ∈ o.parameters.keys := by
  simp only [NameMap.mem_keys_iff, get?_parametersFor, Option.isSome_or]
  cases p.overrideFor? model with
  | none => simp
  | some o => simp [or_comm]

lemma WellFormed.parametersFor (h : p.WellFormed) (model : Option String) :
    (p.parametersFor model).WellFormed := by
  unfold Prompt.parametersFor
  cases ho : p.overrideFor? model with
  | none => exact h.parameters
  | some o =>
    obtain ⟨m, -, hm⟩ := Option.bind_eq_some_iff.mp ho
    exact h.parameters.override (h.overrides m o hm)

lemma WellFormed.effective (h : p.WellFormed) (model : Option String) : p.Effective model where
  pointwise := get?_parametersFor p model
  keys _ := mem_keys_parametersFor
  base hnone := by rw [Prompt.parametersFor, hnone]
  wellFormed := h.parametersFor model

end Prompt

namespace Document

lemma exists_readRoot_of_readPack {doc : Json} {pack : Pack}
    (h : (readPack doc).result = .ok pack) : ∃ root, (readRoot root).result = .ok pack := by
  cases doc with
  | object ms => exact ⟨⟨ms, .root⟩, h⟩
  | null => cases h
  | bool b => cases h
  | number n => cases h
  | string s => cases h
  | array items => cases h

/-- **Effective parameters** are a pointwise override of checked maps by checked maps, so they
keep to what a document may have. -/
theorem effective_of_readPack {doc : Json} {pack : Pack} {name : String} {p : Prompt}
    (h : (readPack doc).result = .ok pack) (hp : pack.prompt? name = some p)
    (model : Option String) : p.Effective model := by
  obtain ⟨root, hroot⟩ := exists_readRoot_of_readPack h
  exact ((wellFormed_of_readRoot hroot).prompts name p hp).effective model

/-- A prompt whose override for one model shares a parameter with it. -/
def tuned : Json :=
  .object [("id", .string "demo"), ("name", .string "Demo"), ("version", .string "1.0.0"),
    ("prompts", .object [("main", .object [("id", .string "main"), ("name", .string "Main"),
      ("version", .string "1.0.0"),
      ("parameters", .object [("seed", .nat 7), ("stop", .string "end")]),
      ("model_overrides", .object [("small", .object [("parameters",
        .object [("seed", .nat 9), ("echo", .bool true)])])])])])]

def tunedPrompt : Prompt where
  id := "main"
  name := "Main"
  version := "1.0.0"
  parameters := NameMap.ofList [("seed", .number (.int 7)), ("stop", .string "end")]
  overrides := NameMap.ofList [("small",
    { parameters := NameMap.ofList [("seed", .number (.int 9)), ("echo", .bool true)] })]

def tunedPack : Pack where
  id := "demo"
  name := "Demo"
  version := "1.0.0"
  prompts := NameMap.ofList [("main", tunedPrompt)]

theorem effective_of_readPack_tuned :
    (readPack tuned).result = .ok tunedPack ∧ tunedPrompt.Effective (some "small") ∧
      tunedPrompt.parametersFor (some "small") = NameMap.ofList
        [("echo", .bool true), ("seed", .number (.int 9)), ("stop", .string "end")] := by
  have hread : (readPack tuned).result = .ok tunedPack := by rfl
  exact ⟨hread, @effective_of_readPack _ _ "main" _ hread rfl (some "small"), rfl⟩

end Document

end PromptKit
