import PromptKit.Proofs.Render.Outline

/-!
Values do not change what a template means.

The outline of a prompt is fixed by the pack, the prompt and the options, and without declared
variables also by the names that have a value. Whatever the values hold, the rendering is that
outline with the values in their places, or its error.
-/

namespace PromptKit

namespace Inputs

/-- The variable that a name stands for, the last declared one. -/
def declaredLast? (vs : List Variable) (n : String) : Option Variable :=
  vs.reverse.find? (·.name == n)

/-- The text of the value of a name. -/
def textAt (inputs : Inputs) (n : String) : String := (inputs.get? n).elim "" (·.text)

/-- A name that has a value. -/
def nameIn? (names : List String) (n : String) : Option String :=
  if n ∈ names then some n else none

variable {inputs : Inputs} {vs : List Variable} {names : List String}

lemma mem_of_declaredLast? {n : String} {v : Variable} (h : declaredLast? vs n = some v) :
    v ∈ vs :=
  List.mem_reverse.mp (List.mem_of_find?_eq_some h)

lemma mem_of_nameIn? {n m : String} (h : nameIn? names n = some m) : m ∈ names := by
  unfold nameIn? at h
  split at h
  · rename_i hn
    obtain rfl := Option.some.inj h
    exact hn
  · cases h

/-- With declarations, the names with a text are the declared ones. -/
lemma get?_textsFor (inputs : Inputs) (h : vs ≠ []) (n : String) :
    (inputs.textsFor vs).get? n = (declaredLast? vs n).map inputs.textOf := by
  have hfind : (vs.map fun v => (v.name, inputs.textOf v)).reverse.find? (·.1 == n) =
      (declaredLast? vs n).map fun v => (v.name, inputs.textOf v) := by
    rw [← List.map_reverse, List.find?_map]
    rfl
  rw [textsFor, if_neg (by simpa using h), NameMap.get?_ofList, hfind, Option.map_map]
  rfl

/-- Without declarations, they are the names of the inputs. -/
lemma get?_texts (h : ∀ n, inputs.contains n ↔ n ∈ names) (n : String) :
    inputs.texts.get? n = (nameIn? names n).map inputs.textAt := by
  have hn := h n
  rw [NameMap.contains] at hn
  rw [texts, NameMap.get?_map, nameIn?]
  rcases hv : inputs.get? n with _ | v
  · rw [if_neg (by simpa [hv] using hn)]
    rfl
  · rw [if_pos (by simpa [hv] using hn)]
    simp [textAt, hv]

end Inputs

namespace Render

/-- A rendering after its values were checked. -/
lemma result_promptText {pack : Pack} {o : RenderOptions} {p : Prompt} {inputs : Inputs}
    (hcheck : inputs.check p.declared = []) :
    (promptText pack o p inputs).result =
      (fill (.ofPack pack) o.strictness (inputs.textsFor p.declared)
        (mainTemplate p o.model)).result := by
  have hvalues : valuesFor p inputs = pure (inputs.textsFor p.declared) := by
    rw [valuesFor, hcheck]
  simp only [promptText, hvalues, pure_bind, Traced.result_bind]
  rcases (fill (.ofPack pack) o.strictness (inputs.textsFor p.declared)
    (mainTemplate p o.model)).result with e | text
  · rfl
  · rfl

/-- The name of a prompt stands for the prompt. -/
lemma prompt_of_some {pack : Pack} {name : String} {p : Prompt} (o : RenderOptions)
    (inputs : Inputs) (hp : pack.prompt? name = some p) :
    prompt pack o name inputs = promptText pack o p inputs := by
  rw [prompt, promptNamed, hp]
  exact pure_bind p fun p => promptText pack o p inputs

lemma result_prompt {pack : Pack} {o : RenderOptions} {name : String} {p : Prompt}
    {inputs : Inputs} (hp : pack.prompt? name = some p) (hcheck : inputs.check p.declared = []) :
    (prompt pack o name inputs).result =
      (fill (.ofPack pack) o.strictness (inputs.textsFor p.declared)
        (mainTemplate p o.model)).result := by
  rw [prompt_of_some o inputs hp, result_promptText hcheck]

/-- A filling with the texts of all inputs goes by an outline that their names fix. -/
lemma exists_outline_of_names (r : Resolver) (strictness : Strictness) (text : String)
    (names : List String) :
    ∃ plan : Except RenderError (List (Chunk String)),
      (∀ chunks, plan = .ok chunks → ∀ n, .value n ∈ chunks → n ∈ names) ∧
      ∀ inputs : Inputs, (∀ n, inputs.contains n ↔ n ∈ names) →
        (fill r strictness inputs.texts text).result = plan.map (Chunk.join inputs.textAt) := by
  refine ⟨outlineOf r (Inputs.nameIn? names) strictness text, fun chunks h n hn => ?_,
    fun inputs hnames => result_fill (Inputs.get?_texts hnames) r text⟩
  obtain ⟨m, hm⟩ := exists_known_of_mem h hn
  exact Inputs.mem_of_nameIn? hm

/-- **Values are no template text.** For the prompts of a pack and for templates of their own
there is one outline, or one error, that every rendering goes by: with declared variables it is
the same for all inputs that pass the check, and its places are for declared variables; without
them, and for a template, it is the same for all inputs of the same names. -/
theorem exists_outline (pack : Pack) (o : RenderOptions) :
    (∀ name p, pack.prompt? name = some p → p.declared ≠ [] →
      ∃ plan : Except RenderError (List (Chunk Variable)),
        (∀ chunks, plan = .ok chunks → ∀ v, .value v ∈ chunks → v ∈ p.declared) ∧
        ∀ inputs : Inputs, inputs.check p.declared = [] →
          (prompt pack o name inputs).result = plan.map (Chunk.join inputs.textOf)) ∧
    (∀ name p, pack.prompt? name = some p → p.declared = [] → ∀ names : List String,
      ∃ plan : Except RenderError (List (Chunk String)),
        (∀ chunks, plan = .ok chunks → ∀ n, .value n ∈ chunks → n ∈ names) ∧
        ∀ inputs : Inputs, (∀ n, inputs.contains n ↔ n ∈ names) →
          (prompt pack o name inputs).result = plan.map (Chunk.join inputs.textAt)) ∧
    ∀ (text : String) (names : List String),
      ∃ plan : Except RenderError (List (Chunk String)),
        (∀ chunks, plan = .ok chunks → ∀ n, .value n ∈ chunks → n ∈ names) ∧
        ∀ inputs : Inputs, (∀ n, inputs.contains n ↔ n ∈ names) →
          (template pack o text inputs).result = plan.map (Chunk.join inputs.textAt) := by
  refine ⟨fun name p hp hdeclared => ?_, fun name p hp hdeclared names => ?_, fun text names =>
    exists_outline_of_names (.ofPack pack) o.strictness text names⟩
  · refine ⟨outlineOf (.ofPack pack) (Inputs.declaredLast? p.declared) o.strictness
      (mainTemplate p o.model), fun chunks h v hv => ?_, fun inputs hcheck => ?_⟩
    · obtain ⟨n, hn⟩ := exists_known_of_mem h hv
      exact Inputs.mem_of_declaredLast? hn
    · rw [result_prompt hp hcheck]
      exact result_fill (Inputs.get?_textsFor inputs hdeclared) _ _
  · obtain ⟨plan, hplaces, hplan⟩ :=
      exists_outline_of_names (.ofPack pack) o.strictness (mainTemplate p o.model) names
    refine ⟨plan, hplaces, fun inputs hnames => ?_⟩
    have hcheck : inputs.check p.declared = [] := by
      rw [hdeclared]
      rfl
    have htexts : inputs.textsFor p.declared = inputs.texts := by
      rw [Inputs.textsFor, hdeclared]
      rfl
    rw [result_prompt hp hcheck, htexts]
    exact hplan inputs hnames

/-! ### A value that is written like a placeholder -/

/-- A prompt with a place for one declared variable. -/
def greeting : Prompt where
  id := "greeting"
  name := "Greeting"
  version := "1.0.0"
  system := some "Hi \x7b\x7bname\x7d\x7d!"
  declared := [{ name := "name", type := .string }]

def greetings : Pack where
  id := "greetings"
  name := "Greetings"
  version := "1.0.0"
  prompts := NameMap.ofList [("greeting", greeting)]

/-- A value that looks like a placeholder, beside a value that nothing declares. -/
def marked : Inputs :=
  NameMap.ofList [("name", .string "\x7b\x7bother\x7d\x7d"), ("other", .string "Ada")]

def plain : Inputs := NameMap.ofList [("name", .string "Ada")]

lemma contains_plain (n : String) : plain.contains n ↔ n ∈ ["name"] := by
  rw [NameMap.contains, plain, NameMap.get?_ofList]
  by_cases h : "name" = n
  · simp [h]
  · simp [h, Ne.symm h]

theorem exists_outline_greeting :
    greetings.prompt? "greeting" = some greeting ∧ greeting.declared ≠ [] ∧
    marked.check greeting.declared = [] ∧ plain.check greeting.declared = [] ∧
    (∃ plan : Except RenderError (List (Chunk Variable)),
      (prompt greetings {} "greeting" marked).result = plan.map (Chunk.join marked.textOf) ∧
      (prompt greetings {} "greeting" plain).result = plan.map (Chunk.join plain.textOf)) ∧
    ∃ plan : Except RenderError (List (Chunk String)),
      (template greetings {} "\x7b\x7bname\x7d\x7d" plain).result =
        plan.map (Chunk.join plain.textAt) := by
  have hdeclared : greeting.declared ≠ [] := by simp [greeting]
  have houtline := exists_outline greetings {}
  obtain ⟨plan, -, hplan⟩ := houtline.1 "greeting" greeting rfl hdeclared
  obtain ⟨free, -, hfree⟩ := houtline.2.2 "\x7b\x7bname\x7d\x7d" ["name"]
  exact ⟨rfl, hdeclared, rfl, rfl, ⟨plan, hplan marked rfl, hplan plain rfl⟩,
    ⟨free, hfree plain contains_plain⟩⟩

end Render

end PromptKit
