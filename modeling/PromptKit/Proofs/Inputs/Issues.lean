import Mathlib.Data.Option.Basic
import PromptKit.Proofs.Success
import PromptKit.Prompt

/-!
What is wrong with inputs, variable by variable.

A declared variable has a problem when it is required and left out, when its value is of another
type, or when the rules do not allow the value. The check of the inputs lists exactly the
variables that have one.
-/

namespace PromptKit

namespace VariableRules

/-- A value keeps every rule that speaks of it. -/
structure Allows (r : VariableRules) (w : Value) : Prop where
  pattern : ∀ s, w = .string s → ∀ p, r.pattern = some p → p.matchesAtStart s
  minLength : ∀ s, w = .string s → ∀ n, r.minLength = some n → n ≤ s.length
  maxLength : ∀ s, w = .string s → ∀ n, r.maxLength = some n → s.length ≤ n
  minimum : ∀ k, w = .number k → ∀ m, r.minimum = some m → ¬ k.toFloat < m
  maximum : ∀ k, w = .number k → ∀ m, r.maximum = some m → ¬ m < k.toFloat
  allowed : ∀ options, r.allowed = some options → ∃ option ∈ options, isOption option w.toJson

variable {r : VariableRules} {w : Value}

/-- Nothing is complained of where a rule is not set, or where it holds. -/
lemma bind_unlessHolds_eq_none {α : Type} {rule : Option α} {ok : α → Bool} {b : α → Breach} :
    (rule.bind fun a => unlessHolds (ok a) (b a)) = none ↔ ∀ a, rule = some a → ok a := by
  cases rule with
  | none => simp
  | some a => cases hok : ok a <;> simp [unlessHolds, hok]

lemma checkText_eq_none {s : String} :
    r.checkText s = none ↔ (∀ p, r.pattern = some p → p.matchesAtStart s) ∧
      (∀ n, r.minLength = some n → n ≤ s.length) ∧ ∀ n, r.maxLength = some n → s.length ≤ n := by
  simp only [checkText, Option.orElse_eq_none, bind_unlessHolds_eq_none, decide_eq_true_iff]

lemma checkNumber_eq_none {x : Float} :
    r.checkNumber x = none ↔
      (∀ m, r.minimum = some m → ¬ x < m) ∧ ∀ m, r.maximum = some m → ¬ m < x := by
  simp only [checkNumber, Option.orElse_eq_none, bind_unlessHolds_eq_none, Bool.not_eq_true',
    decide_eq_false_iff_not]

lemma checkAllowed_eq_none :
    r.checkAllowed w = none ↔
      ∀ options, r.allowed = some options → ∃ option ∈ options, isOption option w.toJson := by
  simp only [checkAllowed, bind_unlessHolds_eq_none, List.any_eq_true]

lemma bind_checkText_eq_none :
    w.string?.bind r.checkText = none ↔ ∀ s, w = .string s → r.checkText s = none := by
  cases w <;> simp [Value.string?]

lemma bind_checkNumber_eq_none :
    w.toFloat?.bind r.checkNumber = none ↔
      ∀ k, w = .number k → r.checkNumber k.toFloat = none := by
  cases w <;> simp [Value.toFloat?]

/-- **The rules have no complaint** of exactly the values that keep them. -/
theorem check_eq_none : r.check w = none ↔ r.Allows w := by
  have hcheck : r.check w = none ↔ (∀ s, w = .string s → r.checkText s = none) ∧
      (∀ k, w = .number k → r.checkNumber k.toFloat = none) ∧ r.checkAllowed w = none := by
    rw [check, Option.orElse_eq_none, Option.orElse_eq_none, bind_checkText_eq_none,
      bind_checkNumber_eq_none]
  rw [hcheck, checkAllowed_eq_none]
  simp only [checkText_eq_none, checkNumber_eq_none]
  constructor
  · rintro ⟨htext, hnumber, hallowed⟩
    exact ⟨fun s hs => (htext s hs).1, fun s hs => (htext s hs).2.1, fun s hs => (htext s hs).2.2,
      fun k hk => (hnumber k hk).1, fun k hk => (hnumber k hk).2, hallowed⟩
  · intro h
    exact ⟨fun s hs => ⟨h.pattern s hs, h.minLength s hs, h.maxLength s hs⟩,
      fun k hk => ⟨h.minimum k hk, h.maximum k hk⟩, h.allowed⟩

end VariableRules

namespace Inputs

/-- What is wrong with a variable that is left out or has a value. -/
inductive HasProblem (v : Variable) : Option Value → Problem → Prop
  | missing (h : v.isRequired) : HasProblem v none .missing
  | wrongType {w : Value} (h : w.type ≠ v.type) : HasProblem v (some w) (.wrongType v.type w.type)
  | rule {w : Value} {b : Breach} (htype : w.type = v.type) (hrules : ¬ v.rules.Allows w)
      (hb : v.rules.check w = some b) : HasProblem v (some w) (.rule b)

variable {inputs : Inputs} {v : Variable} {q : Problem} {vs : List Variable}

lemma problem?_eq_some {w? : Option Value} : problem? v w? = some q ↔ HasProblem v w? q := by
  rcases w? with _ | w
  · rw [problem?]
    constructor
    · intro h
      split at h
      · rename_i hrequired
        obtain rfl := Option.some.inj h
        exact .missing hrequired
      · cases h
    · intro h
      cases h with
      | missing hrequired => rw [if_pos hrequired]
  · have htype : w.isA v.type ↔ w.type = v.type := decide_eq_true_iff
    rw [problem?]
    constructor
    · intro h
      split at h
      · rename_i hisA
        obtain ⟨b, hb, rfl⟩ := Option.map_eq_some_iff.mp h
        have hrules : ¬ v.rules.Allows w := by
          rw [← VariableRules.check_eq_none, hb]
          simp
        exact .rule (htype.mp hisA) hrules hb
      · rename_i hisA
        obtain rfl := Option.some.inj h
        exact .wrongType (mt htype.mpr hisA)
    · intro h
      cases h with
      | wrongType hne => rw [if_neg (mt htype.mp hne)]
      | rule heq _ hb => rw [if_pos (htype.mpr heq), hb, Option.map_some]

/-- A variable has a problem in the three cases: it is required and left out, its value is of
another type, or the value is of its type and not allowed. -/
lemma exists_hasProblem_iff {w? : Option Value} :
    (∃ q, HasProblem v w? q) ↔ (w? = none ∧ v.isRequired) ∨
      ∃ w, w? = some w ∧ (w.type ≠ v.type ∨ w.type = v.type ∧ ¬ v.rules.Allows w) := by
  constructor
  · rintro ⟨q, h⟩
    cases h with
    | missing hrequired => exact .inl ⟨rfl, hrequired⟩
    | wrongType hne => exact .inr ⟨_, rfl, .inl hne⟩
    | rule heq hrules _ => exact .inr ⟨_, rfl, .inr ⟨heq, hrules⟩⟩
  · rintro (⟨rfl, hrequired⟩ | ⟨w, rfl, hne | ⟨heq, hrules⟩⟩)
    · exact ⟨_, .missing hrequired⟩
    · exact ⟨_, .wrongType hne⟩
    · rcases hb : v.rules.check w with _ | b
      · exact absurd (VariableRules.check_eq_none.mp hb) hrules
      · exact ⟨_, .rule heq hrules hb⟩

/-- An input is missing or wrong. -/
def IsFaulty (inputs : Inputs) (v : Variable) : Prop := ∃ q, HasProblem v (inputs.get? v.name) q

instance (inputs : Inputs) (v : Variable) : Decidable (inputs.IsFaulty v) :=
  decidable_of_iff (problem? v (inputs.get? v.name)).isSome (by
    rw [Option.isSome_iff_exists]
    exact exists_congr fun _ => problem?_eq_some)

/-- What the check lists for a variable. -/
structure IsIssue (inputs : Inputs) (v : Variable) (i : Issue) : Prop where
  name_eq : i.name = v.name
  problem : HasProblem v (inputs.get? v.name) i.problem

lemma issue?_eq_some {i : Issue} : inputs.issue? v = some i ↔ inputs.IsIssue v i := by
  rw [issue?, Option.map_eq_some_iff]
  constructor
  · rintro ⟨q, hq, rfl⟩
    exact ⟨rfl, problem?_eq_some.mp hq⟩
  · rintro ⟨hname, hproblem⟩
    exact ⟨i.problem, problem?_eq_some.mpr hproblem, by rw [← hname]⟩

/-- **The check lists what is wrong**: one issue for each faulty variable, in the order of
declaration, and nothing else. -/
theorem forall₂_isIssue (inputs : Inputs) (vs : List Variable) :
    List.Forall₂ inputs.IsIssue (vs.filter inputs.IsFaulty) (inputs.check vs) := by
  refine forall₂_filterMap (fun v i hi => ?_) (fun v hnone => ?_) vs
  · have hissue := issue?_eq_some.mp hi
    exact ⟨decide_eq_true ⟨_, hissue.problem⟩, hissue⟩
  · rw [decide_eq_true_iff]
    rintro ⟨q, hq⟩
    have hsome : inputs.issue? v = some ⟨v.name, q⟩ := issue?_eq_some.mpr ⟨rfl, hq⟩
    rw [hnone] at hsome
    cases hsome

/-- Inputs that no declared variable has are not looked at. -/
lemma check_congr {inputs' : Inputs}
    (h : ∀ v ∈ vs, inputs'.get? v.name = inputs.get? v.name) :
    inputs'.check vs = inputs.check vs := by
  refine List.filterMap_congr fun v hv => ?_
  rw [issue?, issue?, h v hv]

lemma messages_eq_nil : inputs.messages vs = [] ↔ inputs.check vs = [] := List.map_eq_nil_iff

/-- Without inputs, what is wrong is that the required variables are missing. -/
lemma check_empty (p : Prompt) :
    check NameMap.empty p.declared = p.requiredInputs.map (⟨·, .missing⟩) := by
  rw [Prompt.requiredInputs]
  induction p.declared with
  | nil => rfl
  | cons v vs ih =>
    have hissue : issue? NameMap.empty v =
        if v.isRequired then some ⟨v.name, .missing⟩ else none := by
      rw [issue?, NameMap.get?_empty, problem?]
      split
      · rfl
      · rfl
    by_cases hrequired : v.isRequired
    · rw [if_pos hrequired] at hissue
      rw [check, List.filterMap_cons_some hissue, List.filter_cons_of_pos hrequired]
      exact congrArg _ ih
    · rw [if_neg hrequired] at hissue
      rw [check, List.filterMap_cons_none hissue, List.filter_cons_of_neg hrequired]
      exact ih

end Inputs

end PromptKit
