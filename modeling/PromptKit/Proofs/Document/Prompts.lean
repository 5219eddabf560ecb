import PromptKit.Proofs.Document.Variables

/-!
The prompts of a document are well-formed.
-/

namespace PromptKit.Document

/-! ### Parameters -/

lemma rangeOf?_eq_some {key : String} {r : ParameterRange} (h : (key, r) ∈ parameterRanges) :
    rangeOf? key = some r := by
  simp only [parameterRanges, List.mem_cons, Prod.mk.injEq, List.not_mem_nil, or_false] at h
  rcases h with ⟨rfl, rfl⟩ | ⟨rfl, rfl⟩ | ⟨rfl, rfl⟩ | ⟨rfl, rfl⟩ | ⟨rfl, rfl⟩ | ⟨rfl, rfl⟩ <;> rfl

lemma exists_of_isScalar {v : Value} (h : isScalar v) :
    (∃ s, v = .string s) ∨ (∃ n, v = .number n) ∨ ∃ b, v = .bool b := by
  cases v with
  | string s => exact .inl ⟨s, rfl⟩
  | number n => exact .inr (.inl ⟨n, rfl⟩)
  | bool b => exact .inr (.inr ⟨b, rfl⟩)
  | array items => simp [isScalar, Value.type] at h
  | object members => simp [isScalar, Value.type] at h

lemma exists_of_toFloat? {v : Value} {x : Float} (h : v.toFloat? = some x) :
    ∃ n, v = .number n ∧ n.toFloat = x := by
  cases v with
  | number n => exact ⟨n, rfl, Option.some.inj h⟩
  | string s => cases h
  | bool b => cases h
  | array items => cases h
  | object members => cases h

/-- A value without a fault is a scalar, and inside the range of its key. -/
lemma admitted_of_parameterFault? {key : String} {v : Value} (h : parameterFault? key v = none) :
    isScalar v ∧ ∀ r, (key, r) ∈ parameterRanges →
      ∃ n, v = .number n ∧ r.excludes n.toFloat = false := by
  unfold parameterFault? at h
  split at h
  · cases h
  · rename_i hscalar
    refine ⟨by simpa using hscalar, fun r hr => ?_⟩
    rw [rangeOf?_eq_some hr] at h
    rcases hx : v.toFloat? with _ | x
    · simp [hx] at h
    · obtain ⟨n, rfl, rfl⟩ := exists_of_toFloat? hx
      exact ⟨n, rfl, by simpa [hx] using h⟩

lemma fault_of_readParameter {path : FieldPath} {m : String × Json} {key : String} {v : Value}
    (h : readParameter path m = .ok (some (key, v))) : parameterFault? key v = none := by
  unfold readParameter at h
  split at h
  · cases h
  · split at h
    · cases h
    · rename_i hfault
      cases h
      exact hfault

lemma wellFormed_of_readParameters {n : Node} {ps : Parameters} (h : readParameters n = .ok ps) :
    ps.WellFormed := by
  simp only [readParameters, bind_eq_ok, pure_eq_ok] at h
  obtain ⟨all, hall, rfl⟩ := h
  have hadmitted : ∀ key v, (NameMap.ofList (all.filterMap id)).get? key = some v →
      isScalar v ∧ ∀ r, (key, r) ∈ parameterRanges →
        ∃ n, v = .number n ∧ r.excludes n.toFloat = false := by
    intro key v hv
    have hmem : some (key, v) ∈ all := by simpa using NameMap.mem_of_get?_ofList hv
    obtain ⟨m, -, hm⟩ := exists_of_mapM_eq_ok hall _ hmem
    exact admitted_of_parameterFault? (fault_of_readParameter hm)
  exact ⟨fun key v hv => exists_of_isScalar (hadmitted key v hv).1,
    fun key v hv => (hadmitted key v hv).2⟩

lemma wellFormed_of_optional_parameters {n : Node} {ps : Parameters}
    (h : n.ofObject "parameters" .empty readParameters = .ok ps) : ps.WellFormed := by
  rcases Node.eq_or_exists_of_ofObject h with rfl | ⟨m, hm⟩
  · exact Parameters.wellFormed_empty
  · exact wellFormed_of_readParameters hm

/-! ### Policies -/

lemma wellFormed_of_changed {α : Type} {policy q : ToolPolicy}
    {change : α → Node.Result ToolPolicy.Edit} {field : Option α}
    (h : changed policy change field = .ok q) (hpolicy : policy.WellFormed) : q.WellFormed := by
  cases field with
  | none =>
    obtain rfl := pure_eq_ok.mp h
    exact hpolicy
  | some a =>
    obtain ⟨e, -, he⟩ := bind_eq_ok.mp h
    obtain rfl := pure_eq_ok.mp he
    exact hpolicy.edit e

lemma wellFormed_of_readPolicy {path : FieldPath} {v : Json} {policy : ToolPolicy}
    {blocked : List String} (h : readPolicy path v = .ok (policy, blocked)) :
    policy.WellFormed := by
  simp only [readPolicy, bind_eq_ok, Node.shaped_eq_ok, pure_eq_ok, Prod.mk.injEq] at h
  obtain ⟨shape, -, chosen, hchosen, rounds, hrounds, calls, hcalls, rfl, -⟩ := h
  have hchosen := wellFormed_of_changed hchosen ToolPolicy.wellFormed_default
  have hrounds := wellFormed_of_changed hrounds hchosen
  exact (wellFormed_of_changed hcalls hrounds).edit _

lemma wellFormed_of_readPolicyOf {toolNames : List String} {id : String} {n : Node}
    {policy : ToolPolicy} (h : (readPolicyOf toolNames id n).result = .ok policy) :
    policy.WellFormed := by
  unfold readPolicyOf at h
  split at h
  · obtain rfl := pure_eq_ok.mp h
    exact ToolPolicy.wellFormed_default
  · simp only [Traced.result_bind, Traced.result_lift, bind_eq_ok] at h
    obtain ⟨⟨policy', blocked⟩, hread, _, -, h⟩ := h
    obtain rfl := pure_eq_ok.mp h
    exact wellFormed_of_readPolicy hread

/-! ### Overrides and prompts -/

lemma wellFormed_of_readOverride {path : FieldPath} {v : Json} {o : ModelOverride}
    (h : readOverride path v = .ok o) : o.parameters.WellFormed := by
  simp only [readOverride, bind_eq_ok, Node.shaped_eq_ok, pure_eq_ok] at h
  obtain ⟨shape, -, parameters, hparameters, rfl⟩ := h
  exact wellFormed_of_readParameters hparameters

lemma wellFormed_of_readOverrides {n : Node} {os : NameMap ModelOverride}
    (h : readOverrides n = .ok os) :
    ∀ model o, os.get? model = some o → o.parameters.WellFormed := by
  intro model o ho
  rcases Node.eq_or_exists_of_ofObject h with rfl | ⟨m, hm⟩
  · cases ho
  · simp only [bind_eq_ok, pure_eq_ok] at hm
    obtain ⟨all, hall, rfl⟩ := hm
    obtain ⟨entry, -, hentry⟩ := exists_of_mapM_eq_ok hall _ (NameMap.mem_of_get?_ofList ho)
    simp only [bind_eq_ok, pure_eq_ok, Prod.mk.injEq] at hentry
    obtain ⟨o', hread, -, rfl⟩ := hentry
    exact wellFormed_of_readOverride hread

/-- A prompt gets its identifier, variables, parameters, policy and overrides from their readers,
and distinct names from the check at the end. -/
lemma wellFormed_of_readPrompt {toolNames : List String} {n : Node} {p : Prompt}
    (h : (readPrompt toolNames n).result = .ok p) : p.WellFormed := by
  simp only [readPrompt, Traced.result_bind, Traced.result_lift, bind_eq_ok,
    Node.placed_eq_ok] at h
  obtain ⟨id, -, _, hid, name, -, _, -, version, -, _, -, description, -, system, -, user, -,
    declared, hdeclared, parameters, hparameters, validators, -, tools, -, _, -, policy, hpolicy,
    overrides, hoverrides, hchecked⟩ := h
  obtain ⟨rfl, hdistinct, -⟩ := Prompt.checked_eq_ok.mp hchecked
  exact {
    id := Name.isPromptId_of_checkPromptId hid
    declared := wellFormed_of_readVariables hdeclared
    distinct := hdistinct
    parameters := wellFormed_of_optional_parameters hparameters
    policy := wellFormed_of_readPolicyOf hpolicy
    overrides := wellFormed_of_readOverrides hoverrides }

lemma wellFormed_of_readPrompts {toolNames names : List String} {n : Node}
    {ps : List (String × Prompt)} (h : (readPrompts toolNames n names).result = .ok ps) :
    ps.length = names.length ∧ ∀ e ∈ ps, e.2.WellFormed := by
  induction names generalizing ps with
  | nil =>
    obtain rfl := pure_eq_ok.mp h
    simp
  | cons name names ih =>
    simp only [readPrompts, Traced.result_bind, Traced.result_lift, bind_eq_ok] at h
    obtain ⟨m, -, p, hp, rest, hrest, h⟩ := h
    obtain rfl := pure_eq_ok.mp h
    obtain ⟨hlength, hwf⟩ := ih hrest
    refine ⟨by simp [hlength], fun e he => ?_⟩
    rcases List.mem_cons.mp he with rfl | he
    · exact wellFormed_of_readPrompt hp
    · exact hwf e he

end PromptKit.Document
