import PromptKit.Proofs.Render.Injection
import PromptKit.Proofs.Success
import PromptKit.Proofs.Template.Concatenation

/-!
The course of a rendering, step by step.

A rendering looks for its prompt, checks the inputs, and then fills one template or two. It ends
at the first step that fails, and each step has its own errors.
-/

namespace PromptKit.Render

variable {pack : Pack} {o : RenderOptions} {name : String} {p : Prompt} {inputs : Inputs}
variable {r : Resolver} {d : Delimiters} {strictness : Strictness} {values : NameMap String}

/-! ### Filling a template -/

@[simp] lemma substitute_lenient (segments : List Segment) :
    (substitute d values .lenient segments).result =
      .ok (String.ofList (segments.flatMap (filled d values))) :=
  rfl

lemma substitute_strict_of_none {segments : List Segment}
    (h : segments.findSome? (undefined? values) = none) :
    (substitute d values .strict segments).result =
      .ok (String.ofList (segments.flatMap (filled d values))) := by
  unfold substitute
  rw [h]
  rfl

lemma substitute_strict_of_some {segments : List Segment} {e : RenderError}
    (h : segments.findSome? (undefined? values) = some e) :
    (substitute d values .strict segments).result = .error e := by
  unfold substitute
  rw [h]
  rfl

lemma findSome?_undefined?_merge (segments : List Segment) :
    (Segment.merge segments).findSome? (undefined? values) =
      segments.findSome? (undefined? values) := by
  rw [← List.head?_filterMap, Segment.filterMap_merge fun _ => rfl, List.head?_filterMap]

/-- Putting texts together changes nothing of what comes of the segments. -/
lemma result_substitute_merge (segments : List Segment) :
    (substitute d values strictness (Segment.merge segments)).result =
      (substitute d values strictness segments).result := by
  have hfilled : (Segment.merge segments).flatMap (filled d values) =
      segments.flatMap (filled d values) := Segment.flatMap_merge (fun _ => rfl) segments
  cases strictness with
  | lenient => rw [substitute_lenient, substitute_lenient, hfilled]
  | strict =>
    rcases hundefined : segments.findSome? (undefined? values) with _ | e
    · have hmerge := (findSome?_undefined?_merge segments).trans hundefined
      rw [substitute_strict_of_none hmerge, substitute_strict_of_none hundefined, hfilled]
    · have hmerge := (findSome?_undefined?_merge segments).trans hundefined
      rw [substitute_strict_of_some hmerge, substitute_strict_of_some hundefined]

lemma fill_of_resolve_error {template : String} {cause : ResolutionError}
    (h : (r.resolve template).result = .error cause) :
    (fill r strictness values template).result = .error (.resolution cause) := by
  simp only [fill, Traced.result_bind, h]
  rfl

lemma fill_of_resolve_ok {template text : String} (h : (r.resolve template).result = .ok text) :
    (fill r strictness values template).result =
      (substitute r.delimiters values strictness (r.scan text)).result := by
  simp only [fill, Traced.result_bind, h]
  rfl

/-- The errors that filling a template can end with. -/
inductive FillError (strictness : Strictness) : RenderError → Prop
  | resolution (cause : ResolutionError) : FillError strictness (.resolution cause)
  | placeholder (h : strictness = .strict) (n : String) :
      FillError strictness (.undefinedPlaceholder n)
  | fragment (h : strictness = .strict) (n : String) :
      FillError strictness (.undefinedFragment n)

lemma fillError_of_undefined? {s : Segment} {e : RenderError} (hstrict : strictness = .strict)
    (h : undefined? values s = some e) : FillError strictness e := by
  cases s with
  | text cs => cases h
  | slot n =>
    rw [undefined?] at h
    split at h
    · cases h
    · obtain rfl := Option.some.inj h
      exact .placeholder hstrict n
  | fragment n =>
    obtain rfl := Option.some.inj h
    exact .fragment hstrict n

lemma fillError_of_fill {template : String} {e : RenderError}
    (h : (fill r strictness values template).result = .error e) : FillError strictness e := by
  rcases hresolve : (r.resolve template).result with cause | text
  · rw [fill_of_resolve_error hresolve] at h
    obtain rfl := Except.error.inj h
    exact .resolution cause
  · rw [fill_of_resolve_ok hresolve] at h
    cases strictness with
    | lenient => cases h
    | strict =>
      rcases hundefined : (r.scan text).findSome? (undefined? values) with _ | e'
      · rw [substitute_strict_of_none hundefined] at h
        cases h
      · rw [substitute_strict_of_some hundefined] at h
        obtain rfl := Except.error.inj h
        obtain ⟨s, -, hs⟩ := List.exists_of_findSome?_eq_some hundefined
        exact fillError_of_undefined? rfl hs

/-! ### Rendering a prompt -/

lemma result_prompt_of_none (hp : pack.prompt? name = none) :
    (prompt pack o name inputs).result = .error (.unknownPrompt name) := by
  simp only [prompt, promptNamed, hp, Traced.result_bind]
  rfl

lemma result_messages_of_none (hp : pack.prompt? name = none) :
    (messages pack o name inputs).result = .error (.unknownPrompt name) := by
  simp only [messages, promptNamed, hp, Traced.result_bind]
  rfl

lemma promptNamed_of_some (hp : pack.prompt? name = some p) : promptNamed pack name = pure p := by
  rw [promptNamed, hp]

lemma valuesFor_of_issue {i : Inputs.Issue} {rest : List Inputs.Issue}
    (hcheck : inputs.check p.declared = i :: rest) :
    (valuesFor p inputs).result = .error (.ofIssue i) := by
  rw [valuesFor, hcheck]
  rfl

/-- The first issue with the inputs ends a rendering. -/
lemma result_promptText_of_issue {i : Inputs.Issue} {rest : List Inputs.Issue}
    (hcheck : inputs.check p.declared = i :: rest) :
    (promptText pack o p inputs).result = .error (.ofIssue i) := by
  simp only [promptText, Traced.result_bind, valuesFor_of_issue hcheck]
  rfl

lemma result_prompt_of_issue {i : Inputs.Issue} {rest : List Inputs.Issue}
    (hp : pack.prompt? name = some p) (hcheck : inputs.check p.declared = i :: rest) :
    (prompt pack o name inputs).result = .error (.ofIssue i) := by
  rw [prompt_of_some o inputs hp, result_promptText_of_issue hcheck]

lemma result_messages_of_issue {i : Inputs.Issue} {rest : List Inputs.Issue}
    (hp : pack.prompt? name = some p) (hcheck : inputs.check p.declared = i :: rest) :
    (messages pack o name inputs).result = .error (.ofIssue i) := by
  simp only [messages, promptNamed_of_some hp, pure_bind, Traced.result_bind,
    valuesFor_of_issue hcheck]
  rfl

/-- The messages after the values were checked: that of the system, then that of the user. -/
lemma result_messages (hp : pack.prompt? name = some p)
    (hcheck : inputs.check p.declared = []) :
    (messages pack o name inputs).result =
      (message? pack o (inputs.textsFor p.declared) .system (p.systemFor o.model)).result >>=
        fun system => (message? pack o (inputs.textsFor p.declared) .user p.user).result >>=
          fun user => pure (system ++ user) := by
  have hvalues : valuesFor p inputs = pure (inputs.textsFor p.declared) := by
    rw [valuesFor, hcheck]
  simp only [messages, promptNamed_of_some hp, hvalues, pure_bind, Traced.result_bind]
  rfl

@[simp] lemma result_message?_none (role : Role) :
    (message? pack o values role none).result = .ok [] :=
  rfl

/-- A message has what its template is filled to. -/
lemma result_message?_some (role : Role) (template : String) :
    (message? pack o values role (some template)).result =
      (fill (.ofPack pack) o.strictness values template).result.map fun text =>
        [⟨role, text⟩] := by
  simp only [message?, Traced.result_bind]
  rcases (fill (.ofPack pack) o.strictness values template).result with e | text
  · rfl
  · rfl

lemma fillError_of_message? {role : Role} {template? : Option String} {e : RenderError}
    (h : (message? pack o values role template?).result = .error e) :
    FillError o.strictness e := by
  cases template? with
  | none => cases h
  | some template =>
    rw [result_message?_some, map_eq_error] at h
    exact fillError_of_fill h

end PromptKit.Render
