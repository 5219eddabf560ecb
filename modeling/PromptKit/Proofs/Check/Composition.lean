import Mathlib.Data.List.Perm.Basic
import PromptKit.Check
import PromptKit.Proofs.Listing

/-!
How the runs of a runner go together.

A runner is what calls of `register` make of an empty or a default one. The last call for a kind
gives it its check. A run goes through the validators one by one and carries nothing over from one
to the next but the violations so far, so what it reports of a list is what it reports of each
validator by itself.
-/

namespace PromptKit

namespace Runner

/-- What a call of `register` brings. -/
structure Assignment where
  kind : ValidatorKind
  check : Check

/-- The runner that calls leave. -/
def registered (r : Runner) (calls : List Assignment) : Runner :=
  calls.foldl (fun r a => r.register a.kind a.check) r

/-- The runners that calls start from. -/
inductive Start where
  | empty
  | default

namespace Start

def runner : Start → Runner
  | .empty => Runner.empty
  | .default => Runner.default

/-- The calls that the start stands for. -/
def calls : Start → List Assignment
  | .empty => []
  | .default => ValidatorKind.all.map fun k => ⟨k, Check.ofKind k⟩

end Start

variable {r : Runner} {calls : List Assignment} {text : String} {k : ValidatorKind} {c : Check}

/-! ### The calls -/

lemma registered_snoc (r : Runner) (calls : List Assignment) (a : Assignment) :
    r.registered (calls ++ [a]) = (r.registered calls).register a.kind a.check := by
  simp [registered]

/-- A call counts for its kind only. -/
lemma check?_register (r : Runner) (a : Assignment) :
    (r.register a.kind a.check).check? k = some c ↔
      a.kind = k ∧ ⟨k, c⟩ = a ∨ a.kind ≠ k ∧ r.check? k = some c := by
  obtain ⟨k', c'⟩ := a
  by_cases hk : k = k'
  · subst hk
    simp [register, eq_comm]
  · simp [register, hk, Ne.symm hk]

/-- **The last call for a kind decides**, and without a call there is no check. -/
theorem check?_registered (calls : List Assignment) :
    (empty.registered calls).check? k = some c ↔ IsLast (·.kind = k) calls ⟨k, c⟩ := by
  induction calls using List.reverseRecOn with
  | nil => exact iff_of_false (by simp [registered, empty]) not_isLast_nil
  | append_singleton calls a ih => rw [registered_snoc, check?_register, isLast_snoc, ih]

/-- A start with calls is the empty runner with more of them. -/
lemma registered_runner (start : Start) (calls : List Assignment) :
    start.runner.registered calls = empty.registered (start.calls ++ calls) := by
  have hstart : start.runner = empty.registered start.calls := by cases start <;> rfl
  rw [hstart, registered, registered, registered, List.foldl_append]

/-- A kind has a check where a call was for it. -/
lemma handles_registered :
    (empty.registered calls).handles k ↔ k ∈ calls.map (·.kind) := by
  rw [handles, Option.isSome_iff_exists, List.mem_map, ← exists_isLast_iff]
  simp only [check?_registered]
  constructor
  · rintro ⟨c, hc⟩
    exact ⟨_, hc⟩
  · rintro ⟨⟨k', c⟩, hk⟩
    obtain rfl : k' = k := hk.1
    exact ⟨c, hk⟩

/-! ### The loop of a run -/

section Loop

variable {ε : Type}

/-- What a run does at a validator, with the violations that it has found so far. -/
def visit (r : Runner) (text : String) (found : List ContentViolation) (v : Validator) :
    Traced ε (List ContentViolation) :=
  if v.enabled then
    match r.check? v.kind with
    | none => do
      Traced.note (.checkMissing v.kind.name)
      pure found
    | some check =>
      match check text v.params with
      | none => pure found
      | some finding => pure (found ++ [⟨v.kind, finding, v.blocking⟩])
  else pure found

/-- A run, validator by validator. -/
def loop (r : Runner) (text : String) (vs : List Validator) : Traced ε Report := do
  let found ← vs.foldlM (r.visit text) []
  let report : Report := ⟨found⟩
  Traced.note (.contentValidated vs.length report.violations.length report.isValid)
  pure report

/-- A step depends on the validator alone: it adds the violation of this, or nothing. -/
lemma visit_eq (found : List ContentViolation) (v : Validator) :
    (r.visit text found v : Traced ε _) =
      ⟨.ok (found ++ (r.violation? text v).toList), (r.notice? v).toList⟩ := by
  unfold visit violation? notice? handles
  by_cases henabled : v.enabled
  · rw [if_pos henabled, if_pos henabled, henabled]
    rcases hcheck : r.check? v.kind with _ | check
    · simp [Traced.note, bind, pure]
    · rcases hfinding : check text v.params with _ | finding
      · simp [pure, hfinding]
      · simp [pure, hfinding]
  · simp [henabled, pure]

lemma foldlM_visit (found : List ContentViolation) (vs : List Validator) :
    (vs.foldlM (r.visit text) found : Traced ε _) =
      ⟨.ok (found ++ vs.filterMap (r.violation? text)), vs.filterMap r.notice?⟩ := by
  induction vs generalizing found with
  | nil => simp [pure]
  | cons v vs ih =>
    rw [List.foldlM_cons, visit_eq, filterMap_cons_toList, filterMap_cons_toList,
      ← List.append_assoc]
    simp only [bind, ih]

/-- **A run is its loop.** -/
theorem run_eq_loop (r : Runner) (text : String) (vs : List Validator) :
    (r.run text vs : Traced ε Report) = r.loop text vs := by
  rw [loop, foldlM_visit]
  simp [run, report, Traced.noteAll, Traced.note, bind, pure]

end Loop

/-! ### The validators -/

/-- What a validator reports: the finding of the last check for its kind, if it is enabled. -/
lemma violation?_registered_eq_some {v : Validator} {x : ContentViolation} :
    (empty.registered calls).violation? text v = some x ↔
      v.enabled ∧ ∃ check finding, IsLast (·.kind = v.kind) calls ⟨v.kind, check⟩ ∧
        check text v.params = some finding ∧ x = ⟨v.kind, finding, v.blocking⟩ := by
  unfold violation?
  by_cases henabled : v.enabled
  · simp only [henabled, if_true, true_and, Option.bind_eq_some_iff, check?_registered,
      Option.map_eq_some_iff]
    constructor
    · rintro ⟨check, hlast, finding, hfinding, rfl⟩
      exact ⟨check, finding, hlast, hfinding, rfl⟩
    · rintro ⟨check, finding, hlast, hfinding, rfl⟩
      exact ⟨check, hlast, finding, hfinding, rfl⟩
  · simp [henabled]

lemma violation?_eq_none_of_idle {v : Validator}
    (h : ¬ (v.enabled ∧ v.kind ∈ calls.map (·.kind))) :
    (empty.registered calls).violation? text v = none := by
  rw [Option.eq_none_iff_forall_ne_some]
  intro x hx
  obtain ⟨henabled, check, -, hlast, -⟩ := violation?_registered_eq_some.mp hx
  exact h ⟨henabled, List.mem_map_of_mem hlast.mem⟩

/-- The flag of a validator goes into its violation and decides nothing else. -/
lemma violation?_flag (r : Runner) (text : String) (v : Validator) (b : Bool) :
    r.violation? text { v with blocking := b } =
      (r.violation? text v).map ({ · with blocking := b }) := by
  have hkind : Validator.kind { v with blocking := b } = v.kind := rfl
  unfold violation?
  rw [hkind]
  split
  · rcases r.check? v.kind with _ | check
    · rfl
    · rw [Option.bind_some, Option.bind_some, Option.map_map]
      rfl
  · rfl

/-! ### The reports -/

/-- The violations of a validator by itself. -/
lemma violations_singleton (r : Runner) (text : String) (v : Validator) :
    (r.report text [v]).violations = (r.violation? text v).toList := by
  rw [report, filterMap_cons_toList, List.filterMap_nil, List.append_nil]

lemma violations_append (r : Runner) (text : String) (vs ws : List Validator) :
    (r.report text (vs ++ ws)).violations =
      (r.report text vs).violations ++ (r.report text ws).violations :=
  List.filterMap_append

/-- Validators that are disabled, or of a kind without a call, add nothing. -/
lemma violations_filter (calls : List Assignment) (text : String) (vs : List Validator) :
    ((empty.registered calls).report text
        (vs.filter fun v => v.enabled ∧ v.kind ∈ calls.map (·.kind))).violations =
      ((empty.registered calls).report text vs).violations := by
  induction vs with
  | nil => rfl
  | cons v vs ih =>
    rw [← List.singleton_append (l := vs), violations_append, ← ih, List.filter_append,
      violations_append]
    by_cases hv : v.enabled ∧ v.kind ∈ calls.map (·.kind)
    · rw [List.filter_singleton, decide_eq_true hv, Bool.cond_true]
    · rw [List.filter_singleton, decide_eq_false hv, Bool.cond_false, violations_singleton,
        violation?_eq_none_of_idle hv]
      rfl

/-- Another order of the validators is another order of the violations. -/
lemma violations_perm (r : Runner) (text : String) {vs ws : List Validator} (h : vs.Perm ws) :
    (r.report text vs).violations.Perm (r.report text ws).violations :=
  h.filterMap _

lemma isValid_perm (r : Runner) (text : String) {vs ws : List Validator} (h : vs.Perm ws) :
    (r.report text vs).isValid = (r.report text ws).isValid := by
  rw [Report.isValid, Report.isValid, Report.hasBlocking, Report.hasBlocking,
    (violations_perm r text h).any_eq]

/-- How the reports of a runner on a text go together, after the given calls. -/
structure Composes (r : Runner) (calls : List Assignment) (text : String) : Prop where
  /-- The check of a kind is that of the last call for it. -/
  last : ∀ k c, r.check? k = some c ↔ IsLast (·.kind = k) calls ⟨k, c⟩
  handles : ∀ k, r.handles k ↔ k ∈ calls.map (·.kind)
  length_le : ∀ v, (r.report text [v]).violations.length ≤ 1
  /-- A validator reports what that check finds, if it is enabled. -/
  single : ∀ v x, (r.report text [v]).violations = [x] ↔
    v.enabled ∧ ∃ check finding, IsLast (·.kind = v.kind) calls ⟨v.kind, check⟩ ∧
      check text v.params = some finding ∧ x = ⟨v.kind, finding, v.blocking⟩
  append : ∀ vs ws, (r.report text (vs ++ ws)).violations =
    (r.report text vs).violations ++ (r.report text ws).violations
  /-- Disabled validators and those of kinds without a call can be left out. -/
  skip : ∀ vs, (r.report text
      (vs.filter fun v => v.enabled ∧ v.kind ∈ calls.map (·.kind))).violations =
    (r.report text vs).violations
  /-- Another flag of a validator changes the flag of its own violation. -/
  flag : ∀ vs v ws b, (r.report text (vs ++ { v with blocking := b } :: ws)).violations =
    (r.report text vs).violations ++
      (r.report text [v]).violations.map ({ · with blocking := b }) ++
      (r.report text ws).violations
  perm : ∀ vs ws, vs.Perm ws →
    (r.report text vs).violations.Perm (r.report text ws).violations ∧
      (r.report text vs).isValid = (r.report text ws).isValid

lemma composes_registered (calls : List Assignment) (text : String) :
    Composes (empty.registered calls) calls text where
  last _ _ := check?_registered calls
  handles _ := handles_registered
  length_le v := by
    rw [violations_singleton]
    rcases (empty.registered calls).violation? text v with _ | x <;> simp
  single v x := by
    rw [violations_singleton, ← violation?_registered_eq_some]
    rcases (empty.registered calls).violation? text v with _ | y <;> simp
  append := violations_append _ text
  skip := violations_filter calls text
  flag vs v ws b := by
    rw [violations_append, ← List.singleton_append (l := ws), violations_append,
      violations_singleton, violations_singleton, violation?_flag, Option.toList_map,
      List.append_assoc]
  perm _ _ h := ⟨violations_perm _ text h, isValid_perm _ text h⟩

/-- **Runs compose**, whatever calls a runner has behind it and whatever checks these bring. A run
goes through the validators one by one and comes to a report. What it reports of two lists side by
side is what it reports of each, what it reports of one validator is what the last check for its
kind finds, and what is disabled or has no check adds nothing. The flag of a validator is seen in
its own violation only, and the order of the validators decides on nothing but the order of the
violations. -/
theorem run_composes {ε : Type} (start : Start) (calls : List Assignment) (text : String) :
    (∀ vs, ((start.runner.registered calls).run text vs : Traced ε Report) =
        (start.runner.registered calls).loop text vs ∧
      ((start.runner.registered calls).run text vs : Traced ε Report).result =
        .ok ((start.runner.registered calls).report text vs)) ∧
    Composes (start.runner.registered calls) (start.calls ++ calls) text := by
  refine ⟨fun vs => ⟨run_eq_loop _ text vs, rfl⟩, ?_⟩
  rw [registered_runner]
  exact composes_registered _ text

end Runner

end PromptKit
