import PromptKit.Proofs.Build.Parts

/-!
What the builders leave behind after any run of calls.

The draft of a prompt collects its variables, validators and tools in the order of the calls and
looks at the variables when it is built. It goes through them once and stops at the first one that
has the name of an earlier one or a default of another type.
-/

namespace PromptKit

namespace Prompt

variable {path : FieldPath} {earlier : List String} {v : Variable}

/-! ### The first fault -/

/-- Where a variable is to blame, and for what: its name is taken, or else its default is not of
its type. -/
inductive Blames (path : FieldPath) (taken : Prop) (v : Variable) : FieldPath × Fault → Prop
  | repeated (h : taken) : Blames path taken v (path.key v.name, .repeatedVariable)
  | mistyped {d : Value} (h : ¬ taken) (hd : v.default? = some d) (htype : d.type ≠ v.type) :
      Blames path taken v ((path.key v.name).key "default", .defaultType v.type d.type)

lemma variableFault?_eq_some {f : FieldPath × Fault} :
    variableFault? path earlier v = some f ↔ Blames path (v.name ∈ earlier) v f := by
  unfold variableFault?
  by_cases hv : v.name ∈ earlier
  · rw [if_pos hv]
    constructor
    · intro h
      obtain rfl := Option.some.inj h
      exact .repeated hv
    · intro h
      cases h with
      | repeated _ => rfl
      | mistyped hno _ _ => exact absurd hv hno
  · rw [if_neg hv]
    constructor
    · intro h
      split at h
      · rename_i d hd
        split at h
        · cases h
        · rename_i htype
          obtain rfl := Option.some.inj h
          exact .mistyped hv hd (by simpa [Value.isA] using htype)
      · cases h
    · intro h
      cases h with
      | repeated htaken => exact absurd htaken hv
      | mistyped _ hd htype => simp [hd, Value.isA, htype]

lemma variablesFault?_cons_of_none {vs : List Variable} (h : variableFault? path earlier v = none) :
    variablesFault? path earlier (v :: vs) = variablesFault? path (v.name :: earlier) vs := by
  rw [variablesFault?, h]
  rfl

lemma variablesFault?_cons_of_some {vs : List Variable} {f : FieldPath × Fault}
    (h : variableFault? path earlier v = some f) :
    variablesFault? path earlier (v :: vs) = some f := by
  rw [variablesFault?, h]
  rfl

/-- Variables without a fault leave their names behind. -/
lemma variablesFault?_append {before : List Variable}
    (h : variablesFault? path earlier before = none) (vs : List Variable) :
    variablesFault? path earlier (before ++ vs) =
      variablesFault? path ((before.map (·.name)).reverse ++ earlier) vs := by
  induction before generalizing earlier with
  | nil => rfl
  | cons u before ih =>
    rcases hu : variableFault? path earlier u with _ | g
    · rw [variablesFault?_cons_of_none hu] at h
      rw [List.cons_append, variablesFault?_cons_of_none hu, ih h, List.map_cons,
        List.reverse_cons, List.append_assoc, List.singleton_append]
    · rw [variablesFault?_cons_of_some hu] at h
      cases h

/-- A fault is that of a variable behind others without one. -/
lemma exists_of_variablesFault? {vs : List Variable} {f : FieldPath × Fault}
    (h : variablesFault? path earlier vs = some f) :
    ∃ before v behind, vs = before ++ v :: behind ∧
      variablesFault? path earlier before = none ∧
      Blames path (v.name ∈ before.map (·.name) ∨ v.name ∈ earlier) v f := by
  induction vs generalizing earlier with
  | nil => cases h
  | cons u vs ih =>
    rcases hu : variableFault? path earlier u with _ | g
    · rw [variablesFault?_cons_of_none hu] at h
      obtain ⟨before, v, behind, rfl, hbefore, hblames⟩ := ih h
      refine ⟨u :: before, v, behind, rfl, ?_, ?_⟩
      · rwa [variablesFault?_cons_of_none hu]
      · simpa only [List.map_cons, List.mem_cons, or_assoc, or_left_comm] using hblames
    · rw [variablesFault?_cons_of_some hu] at h
      obtain rfl := Option.some.inj h
      exact ⟨[], u, vs, rfl, rfl, by simpa using variableFault?_eq_some.mp hu⟩

/-- **The first fault** is the one that is found. -/
lemma variablesFault?_eq_some {vs : List Variable} {f : FieldPath × Fault} :
    variablesFault? path earlier vs = some f ↔
      ∃ before v behind, vs = before ++ v :: behind ∧
        variablesFault? path earlier before = none ∧
        Blames path (v.name ∈ before.map (·.name) ∨ v.name ∈ earlier) v f := by
  constructor
  · exact exists_of_variablesFault?
  · rintro ⟨before, v, behind, rfl, hbefore, hblames⟩
    rw [variablesFault?_append hbefore]
    refine variablesFault?_cons_of_some (variableFault?_eq_some.mpr ?_)
    simpa only [List.mem_append, List.mem_reverse] using hblames

/-- **The check stops at the first fault**: what is before it is in order. -/
lemma checked_eq_error {p : Prompt} {e : PackError} :
    p.checked path = .error e ↔
      ∃ before v behind here fault, p.declared = before ++ v :: behind ∧
        (before.map (·.name)).Nodup ∧
        (∀ u ∈ before, ∀ d, u.default? = some d → d.type = u.type) ∧
        Blames (path.key "variables") (v.name ∈ before.map (·.name)) v (here, fault) ∧
        e = .invalid here fault := by
  have herror : p.checked path = .error e ↔
      ∃ here fault, variablesFault? (path.key "variables") [] p.declared = some (here, fault) ∧
        e = .invalid here fault := by
    unfold checked
    rcases variablesFault? (path.key "variables") [] p.declared with _ | ⟨here, fault⟩
    · constructor
      · rintro ⟨⟩
      · rintro ⟨here, fault, ⟨⟩, -⟩
    · constructor
      · rintro ⟨⟩
        exact ⟨here, fault, rfl, rfl⟩
      · rintro ⟨here', fault', hfault, rfl⟩
        obtain ⟨rfl, rfl⟩ := Prod.mk.inj (Option.some.inj hfault)
        rfl
  rw [herror]
  simp only [variablesFault?_eq_some, variablesFault?_eq_none, List.not_mem_nil, or_false,
    not_false_eq_true, implies_true, true_and]
  constructor
  · rintro ⟨here, fault, ⟨before, v, behind, heq, ⟨hnodup, htypes⟩, hblames⟩, rfl⟩
    exact ⟨before, v, behind, here, fault, heq, hnodup, htypes, hblames, rfl⟩
  · rintro ⟨before, v, behind, here, fault, heq, hnodup, htypes, hblames, rfl⟩
    exact ⟨here, fault, ⟨before, v, behind, heq, ⟨hnodup, htypes⟩, hblames⟩, rfl⟩

namespace Draft

/-! ### The calls -/

/-- The variable that a call declares. -/
def Call.variable? : Call → Option Variable
  | .edit (.declare v) => some v
  | _ => none

/-- The validator that a call adds. -/
def Call.validator? : Call → Option Validator
  | .edit (.validator v) => some v
  | _ => none

/-- The tool that a call asks for. -/
def Call.tool? : Call → Option String
  | .edit (.tool name) => some name
  | _ => none

def Call.Locates : Call → Prop
  | .locate _ => True
  | .edit _ => False

variable {d : Draft} {calls : List Call}

/-- A call adds what it brings at the end and leaves the other lists as they are. -/
lemma lists_call (d : Draft) (c : Call) :
    (d.call c).prompt.declared = d.prompt.declared ++ c.variable?.toList ∧
      (d.call c).prompt.validators = d.prompt.validators ++ c.validator?.toList ∧
      (d.call c).prompt.tools = d.prompt.tools ++ c.tool?.toList := by
  have hkeep : ∀ {α : Type} (xs : List α), xs = xs ++ (none : Option α).toList := by simp
  cases c with
  | locate path => exact ⟨hkeep _, hkeep _, hkeep _⟩
  | edit e =>
    cases e with
    | declare v => exact ⟨rfl, hkeep _, hkeep _⟩
    | validator v => exact ⟨hkeep _, rfl, hkeep _⟩
    | tool name => exact ⟨hkeep _, hkeep _, rfl⟩
    | _ => exact ⟨hkeep _, hkeep _, hkeep _⟩

lemma declared_foldl (d : Draft) (calls : List Call) :
    (calls.foldl call d).prompt.declared = d.prompt.declared ++ calls.filterMap Call.variable? :=
  foldl_eq_append_filterMap (f := (·.prompt.declared)) (fun d c => (lists_call d c).1) d calls

lemma validators_foldl (d : Draft) (calls : List Call) :
    (calls.foldl call d).prompt.validators =
      d.prompt.validators ++ calls.filterMap Call.validator? :=
  foldl_eq_append_filterMap (f := (·.prompt.validators)) (fun d c => (lists_call d c).2.1) d calls

lemma tools_foldl (d : Draft) (calls : List Call) :
    (calls.foldl call d).prompt.tools = d.prompt.tools ++ calls.filterMap Call.tool? :=
  foldl_eq_append_filterMap (f := (·.prompt.tools)) (fun d c => (lists_call d c).2.2) d calls

/-- The last call that places a draft decides on its path. -/
lemma path_foldl (d : Draft) (calls : List Call) (path : FieldPath) :
    (calls.foldl call d).path = path ↔
      IsLast Call.Locates calls (.locate path) ∨ (∀ c ∈ calls, ¬ c.Locates) ∧ path = d.path := by
  induction calls using List.reverseRecOn with
  | nil => simp [not_isLast_nil, eq_comm]
  | append_singleton calls c ih =>
    rw [List.foldl_append, isLast_snoc]
    cases c with
    | locate path' =>
      have hno : ¬ ∀ c ∈ calls ++ [.locate path'], ¬ c.Locates :=
        fun h => h (.locate path') (by simp) trivial
      rw [iff_false_intro hno, false_and, or_false]
      simp [call, Call.Locates, eq_comm]
    | edit e =>
      have hpath : (List.foldl call (calls.foldl call d) [.edit e]).path =
          (calls.foldl call d).path := rfl
      rw [hpath, ih]
      simp [Call.Locates, or_imp, forall_and]

/-! ### The build -/

/-- What becomes of a draft after calls on one without variables, validators and tools. -/
structure Builds (calls : List Call) (d : Draft) : Prop where
  path_iff : ∀ path, d.path = path ↔
    IsLast Call.Locates calls (.locate path) ∨ (∀ c ∈ calls, ¬ c.Locates) ∧ path = .root
  ok_iff : (∃ p, d.build = .ok p) ↔
    ((calls.filterMap Call.variable?).map (·.name)).Nodup ∧
      ∀ v ∈ calls.filterMap Call.variable?, ∀ x, v.default? = some x → x.type = v.type
  kept : ∀ p, d.build = .ok p →
    p.declared = calls.filterMap Call.variable? ∧
      p.validators = calls.filterMap Call.validator? ∧ p.tools = calls.filterMap Call.tool?
  /-- The first variable that is to blame is reported under the path of the draft. -/
  error_iff : ∀ e, d.build = .error e ↔
    ∃ before v behind here fault, calls.filterMap Call.variable? = before ++ v :: behind ∧
      (before.map (·.name)).Nodup ∧
      (∀ u ∈ before, ∀ x, u.default? = some x → x.type = u.type) ∧
      Blames (d.path.key "variables") (v.name ∈ before.map (·.name)) v (here, fault) ∧
      e = .invalid here fault

lemma builds_foldl (id name version : String) (calls : List Call) :
    Builds calls (calls.foldl call { prompt := { id, name, version } }) := by
  have hdeclared := declared_foldl { prompt := { id, name, version } } calls
  have hvalidators := validators_foldl { prompt := { id, name, version } } calls
  have htools := tools_foldl { prompt := { id, name, version } } calls
  rw [List.nil_append] at hdeclared hvalidators htools
  refine ⟨path_foldl _ calls, ?_, fun p hp => ?_, fun e => ?_⟩
  · rw [← hdeclared]
    constructor
    · rintro ⟨p, hp⟩
      exact (checked_eq_ok.mp hp).2
    · exact fun h => ⟨_, checked_eq_ok.mpr ⟨rfl, h⟩⟩
  · obtain ⟨rfl, -⟩ := checked_eq_ok.mp hp
    exact ⟨hdeclared, hvalidators, htools⟩
  · rw [← hdeclared]
    exact checked_eq_error

end Draft

end Prompt

/-- **What every run of the builders keeps**, for any calls in any order. A variable never is
required and has a default; it is required where the last call that speaks of either says so. A
policy keeps its counts positive and blocks every name that was ever added. A pack has each tool
name once, in the order in which they came up, with the tool that came last. A prompt is built
where its variables have distinct names and typed defaults, with all lists in the order of the
calls, and else the first variable at fault is blamed under the path of the draft. -/
theorem builder_runs :
    (∀ (name : String) (type : ValueType) (edits : List Variable.Edit),
      Variable.Decided edits (edits.foldl Variable.edit { name, type })) ∧
    (∀ edits : List ToolPolicy.Edit, ToolPolicy.Gathered edits (edits.foldl ToolPolicy.edit {})) ∧
    (∀ (id name version : String) (edits : List Pack.Edit),
      Pack.Stocked edits (edits.foldl Pack.edit { id, name, version })) ∧
    ∀ (id name version : String) (calls : List Prompt.Draft.Call),
      Prompt.Draft.Builds calls
        (calls.foldl Prompt.Draft.call { prompt := { id, name, version } }) :=
  ⟨Variable.decided_foldl, ToolPolicy.gathered_foldl,
    fun _ _ _ edits => Pack.stocked_foldl rfl edits, Prompt.Draft.builds_foldl⟩

end PromptKit
