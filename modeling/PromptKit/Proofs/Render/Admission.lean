import PromptKit.Proofs.Inputs.Issues
import PromptKit.Proofs.Render.Course

/-!
Which inputs a rendering admits.

A rendering admits exactly the inputs that the check finds nothing wrong with. Otherwise it ends
with the first thing that is wrong; and what can end it later is never a matter of the inputs.
-/

namespace PromptKit.Render

variable {pack : Pack} {o : RenderOptions} {name : String} {p : Prompt} {inputs : Inputs}

/-- The error of an issue names its variable, and tells what is wrong unless the variable is
merely missing. -/
lemma ofIssue_eq (i : Inputs.Issue) :
    (i.problem = .missing → RenderError.ofIssue i = .missingVariable i.name) ∧
      (i.problem ≠ .missing → RenderError.ofIssue i = .invalidVariable i.name i.reason) := by
  rcases i with ⟨n, q⟩
  cases q with
  | missing => exact ⟨fun _ => rfl, fun h => absurd rfl h⟩
  | wrongType expected found => exact ⟨by simp, fun _ => rfl⟩
  | rule b => exact ⟨by simp, fun _ => rfl⟩

/-! ### After the inputs were admitted -/

lemma fillError_of_prompt {e : RenderError} (hp : pack.prompt? name = some p)
    (hcheck : inputs.check p.declared = [])
    (h : (prompt pack o name inputs).result = .error e) : FillError o.strictness e := by
  rw [result_prompt hp hcheck] at h
  exact fillError_of_fill h

lemma fillError_of_messages {e : RenderError} (hp : pack.prompt? name = some p)
    (hcheck : inputs.check p.declared = [])
    (h : (messages pack o name inputs).result = .error e) : FillError o.strictness e := by
  rw [result_messages hp hcheck, bind_eq_error] at h
  rcases h with hsystem | ⟨system, -, h⟩
  · exact fillError_of_message? hsystem
  · rcases bind_eq_error.mp h with huser | ⟨user, -, hpure⟩
    · exact fillError_of_message? huser
    · cases hpure

/-- An error of filling is no matter of the inputs, and in lenient mode it is one of the
resolution. -/
lemma FillError.spec {strictness : Strictness} {e : RenderError} (h : FillError strictness e) :
    (∀ n, e ≠ .missingVariable n) ∧ (∀ n reason, e ≠ .invalidVariable n reason) ∧
      (strictness = .lenient → (∃ path, e = .resolution (.cycle path)) ∨
        ∃ limit, e = .resolution (.tooLarge limit)) := by
  cases h with
  | resolution cause =>
    refine ⟨by simp, by simp, fun _ => ?_⟩
    cases cause with
    | cycle path => exact .inl ⟨path, rfl⟩
    | tooLarge limit => exact .inr ⟨limit, rfl⟩
  | placeholder hstrict n => exact ⟨by simp, by simp, fun hlenient => by simp [hstrict] at hlenient⟩
  | fragment hstrict n => exact ⟨by simp, by simp, fun hlenient => by simp [hstrict] at hlenient⟩

/-- **Rendering and the check of inputs agree.** The check lists each declared variable with a
problem once, in the order of declaration, and looks at no other input; there is a message for
each issue. The first issue is the error of both ways to render a prompt. Without an issue
neither way fails over a variable, and in lenient mode only the resolution of a template can
fail. Without inputs, the issues are the required variables. -/
theorem render_admits_iff_check (pack : Pack) (o : RenderOptions) (name : String) (p : Prompt)
    (hp : pack.prompt? name = some p) (inputs : Inputs) :
    (List.Forall₂ inputs.IsIssue (p.declared.filter inputs.IsFaulty) (inputs.check p.declared) ∧
      (∀ v, inputs.IsFaulty v ↔ (inputs.get? v.name = none ∧ v.isRequired) ∨
        ∃ w, inputs.get? v.name = some w ∧
          (w.type ≠ v.type ∨ w.type = v.type ∧ ¬ v.rules.Allows w)) ∧
      ∀ inputs' : Inputs, (∀ v ∈ p.declared, inputs'.get? v.name = inputs.get? v.name) →
        inputs'.check p.declared = inputs.check p.declared) ∧
    (inputs.messages p.declared = [] ↔ inputs.check p.declared = []) ∧
    (∀ i rest, inputs.check p.declared = i :: rest →
      (i.problem = .missing →
        (prompt pack o name inputs).result = .error (.missingVariable i.name) ∧
        (messages pack o name inputs).result = .error (.missingVariable i.name)) ∧
      (i.problem ≠ .missing →
        (prompt pack o name inputs).result = .error (.invalidVariable i.name i.reason) ∧
        (messages pack o name inputs).result = .error (.invalidVariable i.name i.reason))) ∧
    (inputs.check p.declared = [] → ∀ e,
      (prompt pack o name inputs).result = .error e ∨
        (messages pack o name inputs).result = .error e →
      (∀ n, e ≠ .missingVariable n) ∧ (∀ n reason, e ≠ .invalidVariable n reason) ∧
      (o.strictness = .lenient → (∃ path, e = .resolution (.cycle path)) ∨
        ∃ limit, e = .resolution (.tooLarge limit))) ∧
    Inputs.check .empty p.declared = p.requiredInputs.map (⟨·, .missing⟩) := by
  refine ⟨⟨Inputs.forall₂_isIssue inputs p.declared, fun v => Inputs.exists_hasProblem_iff,
    fun inputs' h => Inputs.check_congr h⟩, Inputs.messages_eq_nil, fun i rest hcheck => ?_,
    fun hcheck e he => ?_, Inputs.check_empty p⟩
  · rw [result_prompt_of_issue hp hcheck, result_messages_of_issue hp hcheck]
    obtain ⟨hmissing, hinvalid⟩ := ofIssue_eq i
    refine ⟨fun h => ?_, fun h => ?_⟩
    · rw [hmissing h]
      exact ⟨rfl, rfl⟩
    · rw [hinvalid h]
      exact ⟨rfl, rfl⟩
  · have hfill : FillError o.strictness e :=
      he.elim (fillError_of_prompt hp hcheck) (fillError_of_messages hp hcheck)
    exact hfill.spec

/-! ### A prompt with two variables -/

/-- A prompt that asks for a city, of at most three characters, and for a day. -/
def forecast : Prompt where
  id := "forecast"
  name := "Forecast"
  version := "1.0.0"
  system := some "\x7b\x7bcity\x7d\x7d on \x7b\x7bday\x7d\x7d"
  declared := [
    { name := "city", type := .string, presence := .required, rules := { maxLength := some 3 } },
    { name := "day", type := .number, presence := .required }]

def forecasts : Pack where
  id := "forecasts"
  name := "Forecasts"
  version := "1.0.0"
  prompts := NameMap.ofList [("forecast", forecast)]

/-- Inputs with too long a city, no day, and an input that is not declared. -/
def faraway : Inputs := NameMap.ofList [("city", .string "Timbuktu"), ("zone", .bool true)]

lemma check_faraway : faraway.check forecast.declared =
    [⟨"city", .rule (.tooLong 8 3)⟩, ⟨"day", .missing⟩] := by
  rfl

/-- Inputs for which there is nothing to complain of. -/
def nearby : Inputs := NameMap.ofList [("city", .string "Ulm"), ("day", .number (.int 3))]

theorem render_admits_iff_check_forecast :
    forecasts.prompt? "forecast" = some forecast ∧
    (prompt forecasts {} "forecast" faraway).result =
      .error (.invalidVariable "city" "string too long: 8 > 3") ∧
    (messages forecasts {} "forecast" .empty).result = .error (.missingVariable "city") ∧
    Inputs.check .empty forecast.declared = [⟨"city", .missing⟩, ⟨"day", .missing⟩] ∧
    nearby.check forecast.declared = [] ∧
    ∀ e, (prompt forecasts {} "forecast" nearby).result = .error e →
      (∃ path, e = .resolution (.cycle path)) ∨ ∃ limit, e = .resolution (.tooLarge limit) := by
  have hp : forecasts.prompt? "forecast" = some forecast := rfl
  have hnearby : nearby.check forecast.declared = [] := rfl
  obtain ⟨-, -, hfaraway, -, hempty⟩ :=
    render_admits_iff_check forecasts {} "forecast" forecast hp faraway
  obtain ⟨-, -, hmissing, -⟩ := render_admits_iff_check forecasts {} "forecast" forecast hp .empty
  obtain ⟨-, -, -, hadmitted, -⟩ :=
    render_admits_iff_check forecasts {} "forecast" forecast hp nearby
  exact ⟨hp, ((hfaraway _ _ check_faraway).2 (by simp)).1, ((hmissing _ _ hempty).1 rfl).2,
    hempty, hnearby, fun e he => (hadmitted hnearby e (.inl he)).2.2 rfl⟩

end PromptKit.Render
