import PromptKit.Proofs.Document.Members
import PromptKit.Proofs.Document.Variables

/-!
What of a document is seen.

The reader of an object asks for some names and takes null for an absent member. Members of
other names, nulls and the order of the members are out of its sight, so two documents that
differ in these only are read alike: they give the same pack or the same error.
-/

namespace PromptKit.Document

/-! ### Documents that are read alike -/

def ruleNames : List String :=
  ["pattern", "min_length", "max_length", "minimum", "maximum", "enum"]

def variableNames : List String :=
  ["name", "type", "description", "required", "default", "validation"]

def promptNames : List String :=
  ["id", "name", "version", "description", "system_template", "user_template", "variables",
    "parameters", "validators", "tools", "tool_policy", "model_overrides"]

def rootNames : List String :=
  ["id", "name", "version", "description", "template_engine", "fragments", "tools", "prompts"]

/-- Related values under one name, and equal ones under the others. -/
def within (inner : String) (R : Json → Json → Prop) (name : String) (v v' : Json) : Prop :=
  if name = inner then R v v' else v = v'

/-- Rules that are read alike. -/
def SameRules : Json → Json → Prop := Json.SameObject (Members.Same ruleNames fun _ => Eq)

def SameVariable : Json → Json → Prop :=
  Json.SameObject (Members.Same variableNames (within "validation" SameRules))

/-- Variables in a list or in a mapping, each the same as its counterpart. -/
inductive SameVariables : Json → Json → Prop
  | refl (v : Json) : SameVariables v v
  | list {vs vs' : List Json} (h : List.Forall₂ SameVariable vs vs') :
    SameVariables (.array vs) (.array vs')
  | mapping {ms ms' : Members} (h : Members.Entries (fun _ => SameVariable) ms ms') :
    SameVariables (.object ms) (.object ms')

def SamePrompt : Json → Json → Prop :=
  Json.SameObject (Members.Same promptNames (within "variables" SameVariables))

def SamePrompts : Json → Json → Prop := Json.SameObject (Members.Entries fun _ => SamePrompt)

/-- Documents that differ in nothing but the order of members, nulls, and members of names that
are not known, in the document itself, in prompts, in variables and in the rules of these. -/
def SameDocument : Json → Json → Prop :=
  Json.SameObject (Members.Same rootNames (within "prompts" SamePrompts))

/-! ### One member -/

namespace Node

variable {α : Type} {n n' : Node} {name : String}

lemma child_eq (hpath : n.path = n'.path) (name : String) : n.child name = n'.child name := by
  rw [child, child, hpath]

/-- Two nodes at one place that give the same under a name. -/
structure Agree (n n' : Node) (name : String) : Prop where
  path : n.path = n'.path
  present : n.members.present? name = n'.members.present? name

namespace Agree

variable (h : Agree n n' name)

include h

lemma required : n.required name = n'.required name := by
  rw [Node.required, Node.required, child_eq h.path, h.present]

lemma optional (wanted : Wanted) (read : Json → Option α) :
    n.optional name wanted read = n'.optional name wanted read := by
  rw [Node.optional, Node.optional, child_eq h.path, h.present]

lemma requiredString : n.requiredString name = n'.requiredString name := by
  simp only [Node.requiredString, h.required, child_eq h.path]

lemma optionalCount : n.optionalCount name = n'.optionalCount name := by
  simp only [Node.optionalCount, child_eq h.path, h.present]

lemma stringList : n.stringList name = n'.stringList name := by
  simp only [Node.stringList, Node.optionalArray, h.optional, child_eq h.path]

lemma optionalObject : n.optionalObject name = n'.optionalObject name := by
  simp only [Node.optionalObject, h.optional, child_eq h.path]

lemma requiredObject : n.requiredObject name = n'.requiredObject name := by
  simp only [Node.requiredObject, h.required, child_eq h.path]

lemma ofObject (absent : α) (read : Node → Result α) :
    n.ofObject name absent read = n'.ofObject name absent read := by
  rw [Node.ofObject, Node.ofObject, h.optionalObject]

end Agree

/-- An object with a member that is set. -/
def set (n : Node) (key : String) (v : Json) : Node := ⟨n.members.set key v, n.path⟩

/-- A member that is set does not change what is read under other names. -/
lemma agree_set {key : String} {v : Json} (h : name ≠ key) : (n.set key v).Agree n name where
  path := rfl
  present := by
    rw [set, Members.present?_set, if_neg (Ne.symm h)]

/-- Two nodes at one place with related members under the names of a reader. -/
structure Same (names : List String) (R : String → Json → Json → Prop) (n n' : Node) : Prop where
  path : n.path = n'.path
  present : ∀ name ∈ names, Option.Rel (R name) (n.members.present? name) (n'.members.present? name)

variable {names : List String} {R : String → Json → Json → Prop} {S : Members → Members → Prop}

lemma same_of_members {ms ms' : Members} (h : Members.Same names R ms ms') (path : FieldPath) :
    Same names R ⟨ms, path⟩ ⟨ms', path⟩ :=
  ⟨rfl, fun _ hname => h.present? hname⟩

lemma Same.agree (h : Same names R n n') (name : String) (hname : name ∈ names)
    (hR : ∀ v v', R name v v' → v = v') : Agree n n' name where
  path := h.path
  present := eq_of_option_rel (h.present name hname) hR

lemma Same.sees {inner : String} {R : Json → Json → Prop}
    (h : Same names (within inner R) n n') (name : String) (hname : name ∈ names ∧ name ≠ inner) :
    Agree n n' name :=
  h.agree name hname.1 fun v v' hv => by rwa [within, if_neg hname.2] at hv

lemma Same.inner {inner : String} {R : Json → Json → Prop}
    (h : Same names (within inner R) n n') (hname : inner ∈ names) :
    Option.Rel R (n.members.present? inner) (n'.members.present? inner) := by
  have hR : within inner R inner = R := by
    funext v v'
    rw [within, if_pos rfl]
  rw [← hR]
  exact h.present inner hname

/-- An object that is asked for gives the same, or two related objects. -/
lemma requiredObject_rel (hpath : n.path = n'.path)
    (h : Option.Rel (Json.SameObject S) (n.members.present? name) (n'.members.present? name)) :
    n.requiredObject name = n'.requiredObject name ∨
      ∃ ms ms', S ms ms' ∧ n.requiredObject name = pure ⟨ms, n.child name⟩ ∧
        n'.requiredObject name = pure ⟨ms', n.child name⟩ := by
  obtain heq | ⟨ms, ms', hS, hms, hms'⟩ := Json.SameObject.eq_or_objects h
  · exact .inl (Agree.requiredObject ⟨hpath, heq⟩)
  · refine .inr ⟨ms, ms', hS, ?_, ?_⟩
    · simp [requiredObject, required, hms, object]
    · simp [requiredObject, required, hms', object, child_eq hpath]

/-- An object that may be left out is read the same, if related objects are. -/
lemma ofObject_rel {absent : α} {read : Node → Result α} (hpath : n.path = n'.path)
    (h : Option.Rel (Json.SameObject S) (n.members.present? name) (n'.members.present? name))
    (hread : ∀ ms ms' path, S ms ms' → read ⟨ms, path⟩ = read ⟨ms', path⟩) :
    n.ofObject name absent read = n'.ofObject name absent read := by
  obtain heq | ⟨ms, ms', hS, hms, hms'⟩ := Json.SameObject.eq_or_objects h
  · exact Agree.ofObject ⟨hpath, heq⟩ absent read
  · simp [ofObject, optionalObject, optional, hms, hms', child_eq hpath, hread ms ms' _ hS]

end Node

/-! ### Variables -/

lemma readRules_eq {n n' : Node} (h : n.Same ruleNames (fun _ => Eq) n') :
    readRules n = readRules n' := by
  have see (name : String) (hname : name ∈ ruleNames) : n.Agree n' name :=
    h.agree name hname fun _ _ => id
  have hpattern : readPattern n = readPattern n' := by
    simp only [readPattern, Node.optionalString, (see "pattern" (by decide)).optional,
      Node.child_eq h.path]
  have hlengths : checkLengths n = checkLengths n' := by
    funext least most
    simp only [checkLengths, Node.child_eq h.path]
  simp only [readRules, hpattern, hlengths, Node.optionalNumber, Node.optionalArray,
    (see "min_length" (by decide)).optionalCount, (see "max_length" (by decide)).optionalCount,
    (see "minimum" (by decide)).optional, (see "maximum" (by decide)).optional,
    (see "enum" (by decide)).optional]

/-- A default that is null is none. -/
lemma bind_ofJson?_get? (ms : Members) (name : String) :
    (ms.get? name).bind Value.ofJson? = (ms.present? name).bind Value.ofJson? := by
  rw [Members.present?]
  rcases ms.get? name with _ | v
  · rfl
  · cases v <;> rfl

lemma readPresence_eq {n n' : Node} (hrequired : n.Agree n' "required")
    (hdefault : n.Agree n' "default") (t : ValueType) : readPresence n t = readPresence n' t := by
  simp only [readPresence, Node.optionalBool, hrequired.optional, bind_ofJson?_get?,
    hdefault.present, Node.child_eq hdefault.path]

lemma readType_eq {n n' : Node} (h : n.Agree n' "type") : readType n = readType n' := by
  simp only [readType, h.requiredString, Node.child_eq h.path]

lemma readVariable_eq {n n' : Node}
    (h : n.Same variableNames (within "validation" SameRules) n') (name : String) :
    readVariable name n = readVariable name n' := by
  have hpresence : readPresence n = readPresence n' :=
    funext (readPresence_eq (h.sees "required" (by decide))
      (h.sees "default" (by decide)))
  have hrules : n.ofObject "validation" {} readRules = n'.ofObject "validation" {} readRules :=
    Node.ofObject_rel h.path (h.inner (by decide)) fun _ _ path hS =>
      readRules_eq (Node.same_of_members hS path)
  simp only [readVariable, h.path, readType_eq (h.sees "type" (by decide)), hpresence, hrules,
    Node.optionalString, (h.sees "description" (by decide)).optional]

/-! ### Lists and mappings of variables -/

lemma readListed_eq {v v' : Json} (hv : SameVariable v v') (path : FieldPath) (i : Nat) :
    readListed path (i, v) = readListed path (i, v') := by
  rcases hv with v | hS
  · rfl
  · have h := Node.same_of_members hS (path.index i)
    have hname := h.sees "name" (by decide)
    simp only [readListed, Node.object, pure_bind, hname.requiredString, readVariable_eq h]

lemma readKeyed_eq {n n' : Node} (hpath : n.path = n'.path)
    (h : Members.Entries (fun _ => SameVariable) n.members n'.members) (key : String) :
    readKeyed n key = readKeyed n' key := by
  have hrel : Option.Rel SameVariable (n.members.present? key) (n'.members.present? key) :=
    Members.Entries.present? h fun _ _ => Json.SameObject.isNull_eq
  obtain heq | ⟨os, os', hS, hos, hos'⟩ := Node.requiredObject_rel hpath hrel
  · simp only [readKeyed, heq]
  · have hentry := Node.same_of_members hS (n.child key)
    have hname := hentry.sees "name" (by decide)
    simp only [readKeyed, hos, hos', pure_bind, Node.optionalString, hname.optional,
      Node.child_eq hentry.path, readVariable_eq hentry]

lemma forall₂_indexed {R : Json → Json → Prop} {vs vs' : List Json} (h : List.Forall₂ R vs vs') :
    List.Forall₂ (fun iv iv' => iv.1 = iv'.1 ∧ R iv.2 iv'.2) (Node.indexed vs)
      (Node.indexed vs') := by
  have hzip (is : List Nat) : List.Forall₂ (fun iv iv' => iv.1 = iv'.1 ∧ R iv.2 iv'.2)
      (is.zip vs) (is.zip vs') := by
    induction h generalizing is with
    | nil => simp
    | cons hv _ ih =>
      cases is with
      | nil => exact .nil
      | cons i is => exact .cons ⟨rfl, hv⟩ (ih is)
  rw [Node.indexed, Node.indexed, h.length_eq]
  exact hzip _

lemma readVariables_eq {n n' : Node} (hpath : n.path = n'.path)
    (h : Option.Rel SameVariables (n.members.present? "variables")
      (n'.members.present? "variables")) : readVariables n = readVariables n' := by
  rw [readVariables_eq_match, readVariables_eq_match, Node.child_eq hpath]
  revert h
  generalize n.members.present? "variables" = o, n'.members.present? "variables" = o'
  intro h
  cases h with
  | none => rfl
  | some hv =>
    cases hv with
    | refl v => rfl
    | list hvs =>
      refine mapM_congr_forall₂ ((forall₂_indexed hvs).imp ?_)
      rintro ⟨i, v⟩ ⟨_, v'⟩ ⟨rfl, hv⟩
      exact readListed_eq hv _ i
    | mapping hms =>
      refine mapM_congr_forall₂ (hms.imp ?_)
      rintro m m' ⟨hname, -⟩
      rw [hname]
      refine readKeyed_eq ?_ hms m'.1
      rfl

/-! ### Prompts and packs -/

section Agree

variable {n n' : Node}

lemma readValidators_eq (h : n.Agree n' "validators") : readValidators n = readValidators n' := by
  simp only [readValidators, Node.optionalArray, h.optional, Node.child_eq h.path]

lemma readPolicyOf_eq (h : n.Agree n' "tool_policy") (toolNames : List String) (id : String) :
    readPolicyOf toolNames id n = readPolicyOf toolNames id n' := by
  simp only [readPolicyOf, h.present, Node.child_eq h.path]

lemma readOverrides_eq (h : n.Agree n' "model_overrides") : readOverrides n = readOverrides n' :=
  h.ofObject _ _

lemma readEngineOf_eq (h : n.Agree n' "template_engine") : readEngineOf n = readEngineOf n' := by
  simp only [readEngineOf, h.present, Node.child_eq h.path]

lemma readFragments_eq (h : n.Agree n' "fragments") : readFragments n = readFragments n' :=
  h.ofObject _ _

lemma readTools_eq (h : n.Agree n' "tools") : readTools n = readTools n' :=
  h.ofObject _ _

end Agree

lemma readPrompt_eq {n n' : Node} (h : n.Same promptNames (within "variables" SameVariables) n')
    (toolNames : List String) : readPrompt toolNames n = readPrompt toolNames n' := by
  have hvariables : readVariables n = readVariables n' :=
    readVariables_eq h.path (h.inner (by decide))
  simp only [readPrompt, (h.sees "id" (by decide)).requiredString,
    (h.sees "name" (by decide)).requiredString,
    (h.sees "version" (by decide)).requiredString, Node.optionalString,
    (h.sees "description" (by decide)).optional,
    (h.sees "system_template" (by decide)).optional,
    (h.sees "user_template" (by decide)).optional, hvariables,
    (h.sees "parameters" (by decide)).ofObject, readValidators_eq (h.sees "validators" (by decide)),
    (h.sees "tools" (by decide)).stringList, readPolicyOf_eq (h.sees "tool_policy" (by decide)),
    readOverrides_eq (h.sees "model_overrides" (by decide)), Node.child_eq h.path, h.path]

lemma readPrompts_eq {n n' : Node} (hpath : n.path = n'.path)
    (h : Members.Entries (fun _ => SamePrompt) n.members n'.members) (toolNames : List String)
    (names : List String) : readPrompts toolNames n names = readPrompts toolNames n' names := by
  induction names with
  | nil => rfl
  | cons name names ih =>
    have hrel : Option.Rel SamePrompt (n.members.present? name) (n'.members.present? name) :=
      Members.Entries.present? h fun _ _ => Json.SameObject.isNull_eq
    obtain heq | ⟨os, os', hS, hos, hos'⟩ := Node.requiredObject_rel hpath hrel
    · simp only [readPrompts, heq, ih]
    · simp only [readPrompts, hos, hos', ih, Traced.lift_pure, pure_bind,
        readPrompt_eq (Node.same_of_members hS (n.child name))]

lemma readRoot_eq {n n' : Node} (h : n.Same rootNames (within "prompts" SamePrompts) n') :
    readRoot n = readRoot n' := by
  simp only [readRoot, (h.sees "id" (by decide)).requiredString,
    (h.sees "name" (by decide)).requiredString,
    (h.sees "version" (by decide)).requiredString, Node.optionalString,
    (h.sees "description" (by decide)).optional,
    readEngineOf_eq (h.sees "template_engine" (by decide)),
    readFragments_eq (h.sees "fragments" (by decide)), readTools_eq (h.sees "tools" (by decide)),
    Node.child_eq h.path]
  obtain heq | ⟨ps, ps', hps, hos, hos'⟩ :=
    Node.requiredObject_rel h.path (h.inner (by decide))
  · rw [heq]
  · have hempty : ps.isEmpty = ps'.isEmpty := by
      cases hps <;> rfl
    have hprompts (toolNames names : List String) :
        readPrompts toolNames ⟨ps, n.child "prompts"⟩ names =
          readPrompts toolNames ⟨ps', n.child "prompts"⟩ names := by
      refine readPrompts_eq ?_ hps toolNames names
      rfl
    simp only [hos, hos', Traced.lift_pure, pure_bind, hempty, hprompts, hps.names_eq]

/-- **Only known members that are not null are seen.** Two documents that differ in the order of
members, in nulls and in members of unknown names give the same pack, or the same error, with
the same notices. The members are those of the document itself, of its prompts, of their
variables and of the rules of these. -/
theorem readPack_of_same {doc doc' : Json} (h : SameDocument doc doc') :
    readPack doc = readPack doc' := by
  cases h with
  | refl => rfl
  | object hS => exact readRoot_eq (Node.same_of_members hS .root)

/-! ### A document in two forms -/

/-- A document of one prompt with one variable. -/
def terse : Json :=
  .object [("id", .string "demo"), ("name", .string "Demo"), ("version", .string "1.0.0"),
    ("prompts", .object [("main", .object [("id", .string "main"), ("name", .string "Main"),
      ("version", .string "1.0.0"), ("variables", .array [.object [("name", .string "topic"),
        ("type", .string "string"),
        ("validation", .object [("min_length", .nat 1), ("max_length", .nat 9)])]])])])]

/-- The document in another order, with nulls and with names that are not known. -/
def wordy : Json :=
  .object [("notes", .string "A draft."),
    ("prompts", .object [("main", .object [("tested_models", .array []),
      ("variables", .array [.object [("default", .null), ("type", .string "string"),
        ("validation", .object [("max_length", .nat 9), ("step", .nat 1), ("min_length", .nat 1),
          ("pattern", .null)]), ("name", .string "topic")]]),
      ("id", .string "main"), ("name", .string "Main"), ("version", .string "1.0.0")])]),
    ("id", .string "demo"), ("name", .string "Demo"), ("version", .string "1.0.0"),
    ("description", .null)]

lemma same_terse_wordy : SameDocument terse wordy := by
  refine .object ⟨by decide, by decide, _, List.perm_append_singleton _ [_, _, _],
    .cons ⟨rfl, rfl⟩ (.cons ⟨rfl, rfl⟩ (.cons ⟨rfl, rfl⟩ (.cons ⟨rfl, ?_⟩ .nil)))⟩
  refine .object (.cons ⟨rfl, .object ⟨by decide, by decide, _,
    List.perm_append_singleton _ [_, _, _],
    .cons ⟨rfl, rfl⟩ (.cons ⟨rfl, rfl⟩ (.cons ⟨rfl, rfl⟩ (.cons ⟨rfl, ?_⟩ .nil)))⟩⟩ .nil)
  refine .list (.cons (.object ⟨by decide, by decide, _,
    (List.perm_append_singleton _ [_, _]).symm,
    .cons ⟨rfl, rfl⟩ (.cons ⟨rfl, rfl⟩ (.cons ⟨rfl, ?_⟩ .nil))⟩) .nil)
  exact .object ⟨by decide, by decide, _, .swap _ _ _, .cons ⟨rfl, rfl⟩ (.cons ⟨rfl, rfl⟩ .nil)⟩

theorem readPack_of_same_wordy :
    SameDocument terse wordy ∧ readPack terse = readPack wordy ∧
      ∃ pack, (readPack terse).result = .ok pack :=
  ⟨same_terse_wordy, readPack_of_same same_terse_wordy, _, rfl⟩

end PromptKit.Document
