import PromptKit.Document
import PromptKit.Proofs.Build.Runs
import PromptKit.Proofs.Document.Given
import PromptKit.Proofs.Document.Locations

/-!
Every error of a document is located.

A plain document writes its tools, model overrides and validators as objects, and gives each
validator its parameters. There the path of an error leads through nodes of the document; only its
last step may name something that is missing. The other records have no fields that are looked
into, so it does not matter how they are written.
-/

namespace PromptKit.Document

open Node (reject rejectIf placed shaped)

variable {α : Type} {plain : Prop} {v : Json} {path : FieldPath} {n : Node} {key : String}

/-! ### Variables -/

lemma within_readPattern (n : Node) : n.Within plain (readPattern n) := by
  refine (n.within_optional "pattern" _ _).bind fun o _ => ?_
  split
  · exact .ok none
  · split
    · exact .ok _
    · exact n.within_reject "pattern" _

lemma within_checkLengths (n : Node) (least most : Option Nat) :
    n.Within plain (checkLengths n least most) := by
  unfold checkLengths
  split
  · exact n.within_rejectIf _ "min_length" _
  · exact .ok ()

lemma within_readRules (n : Node) : n.Within plain (readRules n) := by
  refine (within_readPattern n).bind fun _ _ => ?_
  refine (n.within_optionalCount "min_length").bind fun minLength _ => ?_
  refine (n.within_optionalCount "max_length").bind fun maxLength _ => ?_
  refine (within_checkLengths n minLength maxLength).bind fun _ _ => ?_
  refine (n.within_optional "minimum" _ _).bind fun _ _ => ?_
  refine (n.within_optional "maximum" _ _).bind fun _ _ => ?_
  exact (n.within_optional "enum" _ _).bind fun _ _ => .ok _

lemma within_readPresence (n : Node) (t : ValueType) : n.Within plain (readPresence n t) := by
  refine (n.within_optional "required" _ _).bind fun required _ => ?_
  split
  · exact n.within_reject "default" _
  · exact .ok _
  · exact .ok _
  · split
    · exact .ok _
    · exact n.within_reject "default" _

lemma within_readType (n : Node) : n.Within plain (readType n) := by
  refine (n.within_requiredString "type").bind fun name _ => ?_
  split
  · exact .ok _
  · exact n.within_reject "type" _

/-- A variable whose name is not one is itself to blame. -/
lemma atNode_readVariable (name : String) (n : Node) :
    FailsOnly (AtNode plain (.object n.members) n.path) (readVariable name n) := by
  refine (failsOnly_placed_self _ n.path _).bind fun _ _ => atNode_of_below ?_
  refine (within_readType n).bind fun type _ => ?_
  refine (n.within_optional "description" _ _).bind fun _ _ => ?_
  refine (within_readPresence n type).bind fun _ _ => ?_
  refine (n.within_ofObject "validation" _ fun _ _ => within_readRules _).bind fun _ _ => .ok _

lemma atNode_readListed (path : FieldPath) (i : Nat) (v : Json) :
    FailsOnly (AtNode plain v (path.index i)) (readListed path (i, v)) := by
  refine (Node.failsOnly_object v _).bind fun n hn => ?_
  cases v with
  | object ms =>
    obtain rfl := pure_eq_ok.mp hn
    refine .bind (atNode_of_below (Node.within_requiredString _ "name")) fun name _ => ?_
    exact atNode_readVariable name _
  | _ => exact absurd hn Node.reject_ne_ok

lemma mem_of_requiredObject {m : Node} (h : n.requiredObject key = .ok m) :
    (key, .object m.members) ∈ n.members ∧ m.path = n.child key := by
  obtain ⟨ms, hms, rfl⟩ := Node.requiredObject_eq_ok.mp h
  exact ⟨Members.mem_of_present? hms, rfl⟩

lemma within_readKeyed (n : Node) (key : String) : n.Within plain (readKeyed n key) := by
  refine (n.within_requiredObject key).bind fun m hm => ?_
  obtain ⟨hmem, hpath⟩ := mem_of_requiredObject hm
  refine Node.within_member hmem ?_
  rw [← hpath]
  refine .bind (atNode_of_below (m.within_optional "name" _ _)) fun o _ => ?_
  refine .bind ?_ fun _ _ => atNode_readVariable key m
  cases o with
  | none => exact .ok ()
  | some name => exact atNode_of_below (m.within_rejectIf _ "name" _)

lemma within_readVariables (n : Node) : n.Within plain (readVariables n) := by
  rw [readVariables_eq_match]
  split
  · exact .ok []
  · rename_i vs hvs
    exact Node.within_member (Members.mem_of_present? hvs)
      (Node.failsOnly_items fun i v _ => atNode_readListed _ i v)
  · rename_i ms hms
    exact Node.within_member (Members.mem_of_present? hms)
      (.mapM fun m _ => atNode_of_below (within_readKeyed ⟨ms, _⟩ m.1))
  · exact n.within_reject "variables" _

/-! ### Parameters and overrides -/

lemma within_readParameters (n : Node) : n.Within plain (readParameters n) := by
  refine .bind (.mapM fun m _ => ?_) fun _ _ => .ok _
  unfold readParameter
  split
  · exact .ok none
  · split
    · exact n.within_reject m.1 _
    · exact .ok _

lemma failsOnly_shaped (v : Json) (path : FieldPath) (read : Except ShapeError α) :
    FailsOnly (AtNode plain v path) (shaped path read) :=
  .mapError fun _ => atNode_self rfl

/-- A record is an object when it is not an array. -/
lemma exists_of_record {name : String} {fields : List Shape.Field} {ms : Members}
    (h : Shape.record name fields v = .ok ms) (hv : v.kind ≠ .array) : v = .object ms := by
  rw [eq_recordMembers_of_record h]
  cases v with
  | object os => rfl
  | array vs => exact absurd rfl hv
  | _ => exact absurd h throw_ne_ok

/-- A map in a record is a member of it. -/
lemma mem_of_getD_map {ms ps : Members}
    (h : Shape.getD ms key (Shape.optional Shape.map) none = .ok (some ps)) :
    (key, .object ps) ∈ ms := by
  rcases exists_of_getD h with ⟨w, hw, hps⟩ | ⟨-, hnone⟩
  · cases w with
    | object os =>
      cases hps
      exact Members.mem_of_get? hw
    | _ => cases hps
  · cases hnone

lemma present?_of_getD_map {ms : Members}
    (h : Shape.getD ms key (Shape.optional Shape.map) none = .ok none) :
    ms.present? key = none := by
  rcases exists_of_getD h with ⟨w, hw, hps⟩ | ⟨hnone, -⟩
  · cases w with
    | null => simp [Members.present?, hw, Json.isNull, Json.kind]
    | _ => cases hps
  · simp [Members.present?, hnone]

/-- What is below a map of a record is below the record. -/
lemma atNode_of_map (key : String) {ps : Members} {x : Node.Result α}
    (hv : plain → ∃ ms, v = .object ms ∧ (key, .object ps) ∈ ms)
    (h : FailsOnly (BelowNode plain (.object ps) (path.key key)) x) :
    FailsOnly (AtNode plain v path) x := by
  refine h.mono fun e he => (he.atNode.below (s := .key key) fun hplain => ?_).atNode
  obtain ⟨ms, rfl, hmem⟩ := hv hplain
  exact .key hmem (.here _)

lemma atNode_readOverride (path : FieldPath) (hv : plain → v.kind ≠ .array) :
    FailsOnly (AtNode plain v path) (readOverride path v) := by
  refine (failsOnly_shaped v path _).bind fun ⟨system, before, behind, parameters⟩ hshape => ?_
  refine .bind ?_ fun _ _ => .ok _
  cases parameters with
  | none => exact .ok _
  | some ps =>
    refine atNode_of_map "parameters" (fun hplain => ?_) (within_readParameters ⟨ps, _⟩)
    simp only [overrideShape, Node.shaped_eq_ok, bind_eq_ok, pure_eq_ok, Prod.mk.injEq] at hshape
    obtain ⟨ms, hms, _, -, _, -, _, -, _, hps, -, -, -, rfl⟩ := hshape
    exact ⟨ms, exists_of_record hms (hv hplain), mem_of_getD_map hps⟩

lemma within_readOverrides
    (h : plain → ∀ os name v, ("model_overrides", .object os) ∈ n.members → (name, v) ∈ os →
      v.kind ≠ .array) :
    n.Within plain (readOverrides n) := by
  refine n.within_ofObject "model_overrides" _ fun os hos => ?_
  refine .bind (.mapM fun m hm => ?_) fun _ _ => .ok _
  refine .bind ?_ fun _ _ => .ok _
  refine Node.within_member hm (atNode_readOverride _ fun hplain => ?_)
  exact h hplain os m.1 m.2 hos hm

/-! ### Validators -/

lemma within_located {ms : Members} (x : ValidatorParams.Result α) :
    FailsOnly (BelowNode plain (.object ms) path) (ValidatorParams.located path x) := by
  cases x with
  | ok a => exact .ok a
  | error e => exact .error (belowNode_key rfl)

/-- The items that are gone through are those behind the ones that were. -/
lemma atNode_readWords {vs : List Json} (path : FieldPath) {i : Nat} {rest : List Json}
    (h : ∀ j v, rest[j]? = some v → vs[i + j]? = some v) :
    FailsOnly (AtNode plain (.array vs) path) (ValidatorParams.readWords path i rest) := by
  induction rest generalizing i with
  | nil => exact .ok []
  | cons v rest ih =>
    rw [ValidatorParams.readWords]
    split
    · refine .bind (ih fun j w hw => ?_) fun _ _ => .ok _
      have hnext := h (j + 1) w (by simpa using hw)
      rwa [← Nat.add_assoc, Nat.add_right_comm] at hnext
    · have hitem : vs[i]? = some v := h 0 v rfl
      exact .error ((atNode_self (v := v) rfl).below (s := .index i)
        fun _ => .index hitem (.here v)).atNode

lemma within_readParams (kind : ValidatorKind) (ms : Members) (path : FieldPath) :
    FailsOnly (BelowNode plain (.object ms) path) (ValidatorParams.read kind ms path) := by
  cases kind with
  | bannedWords =>
    simp only [ValidatorParams.read]
    split
    · exact .ok _
    · exact .ok _
    · exact .ok _
    · rename_i vs hvs
      refine .bind ?_ fun _ _ => .ok _
      exact Node.within_member (n := ⟨ms, path⟩) (Members.mem_of_get? hvs)
        (atNode_readWords _ fun j v hv => by simpa using hv)
    · exact .error (belowNode_key rfl)
  | maxLength => exact within_located _
  | minLength => exact within_located _
  | regexMatch => exact within_located _
  | jsonSchema => exact within_located _

/-- A validator that is not written as an array, and that has parameters if it is an object. -/
def PlainValidator (v : Json) : Prop :=
  v.kind ≠ .array ∧ ∀ ms : Members, v = .object ms → ms.present? "params" ≠ none

lemma atNode_readValidator (path : FieldPath) (hv : plain → PlainValidator v) :
    FailsOnly (AtNode plain v path) (readValidator path v) := by
  refine .bind (.mapError fun _ => atNode_self rfl) fun ⟨kind, enabled, blocking, params⟩ h => ?_
  change FailsOnly _ (Validator.ofConfig kind enabled blocking params path)
  unfold Validator.ofConfig
  split
  · exact .error (BelowNode.atNode (belowNode_key rfl))
  · refine .bind ?_ fun _ _ => .ok _
    refine atNode_of_map "params" (fun hplain => ?_) (within_readParams _ params _)
    obtain ⟨hkind, hparams⟩ := hv hplain
    simp only [mapError_eq_ok, bind_eq_ok, pure_eq_ok, Prod.mk.injEq] at h
    obtain ⟨ms, hms, _, -, _, -, _, -, o, ho, -, -, -, rfl⟩ := h
    have hobject : v = .object ms := exists_of_record hms hkind
    cases o with
    | none => exact absurd (present?_of_getD_map ho) (hparams ms hobject)
    | some ps => exact ⟨ms, hobject, mem_of_getD_map ho⟩

lemma within_readValidators
    (h : plain → ∀ (vs : List Json) (i : Nat) (v : Json),
      ("validators", .array vs) ∈ n.members → vs[i]? = some v → PlainValidator v) :
    n.Within plain (readValidators n) := by
  refine (n.within_optional "validators" _ _).bind fun o ho => ?_
  cases o with
  | none => exact .ok []
  | some vs =>
    have hmem := Node.mem_of_optionalArray ho
    exact Node.within_member hmem (Node.failsOnly_items fun i v hv =>
      atNode_readValidator _ fun hplain => h hplain vs i v hmem hv)

/-! ### Policies and prompts -/

lemma failsOnly_changed {P : PackError → Prop} {policy : ToolPolicy}
    {change : α → Node.Result ToolPolicy.Edit} (h : ∀ a, FailsOnly P (change a)) (o : Option α) :
    FailsOnly P (changed policy change o) := by
  cases o with
  | none => exact .ok _
  | some a => exact (h a).bind fun _ _ => .ok _

lemma atNode_readPolicy (v : Json) (path : FieldPath) :
    FailsOnly (AtNode plain v path) (readPolicy path v) := by
  have hpositive (key : String) (count : Nat) :
      FailsOnly (AtNode plain v path) (positive (path.key key) count) := by
    unfold positive
    split
    · exact atNode_of_below (failsOnly_reject v path key _)
    · exact .ok _
  refine (failsOnly_shaped v path _).bind fun ⟨choice, rounds, calls, blocked⟩ _ => ?_
  refine (failsOnly_changed (fun name => .map ?_) choice).bind fun _ _ => ?_
  · unfold readChoice
    split
    · exact .ok _
    · exact atNode_of_below (failsOnly_reject v path "tool_choice" _)
  refine (failsOnly_changed (fun count => (hpositive "max_rounds" count).map) rounds).bind
    fun _ _ => ?_
  refine (failsOnly_changed (fun count => (hpositive "max_tool_calls_per_turn" count).map)
    calls).bind fun _ _ => ?_
  exact .ok _

lemma within_readPolicyOf (toolNames : List String) (id : String) (n : Node) :
    n.Within plain (readPolicyOf toolNames id n).result := by
  unfold readPolicyOf
  split
  · exact .ok _
  · rename_i v hv
    simp only [Traced.result_bind, Traced.result_lift]
    refine .bind ?_ fun _ _ => .bind (.ok ()) fun _ _ => .ok _
    exact Node.within_member (Members.mem_of_present? hv) (atNode_readPolicy v _)

/-- The variables of a prompt with names that repeat are a member of it, and the repeated name is
looked for in there. -/
lemma within_checked {p : Prompt} (hp : readVariables n = .ok p.declared) :
    n.Within plain (p.checked n.path) := by
  intro e he
  obtain ⟨before, v, behind, here, fault, hdeclared, -, -, hblames, rfl⟩ :=
    Prompt.checked_eq_error.mp he
  have hmem : ∃ w, ("variables", w) ∈ n.members := by
    rw [readVariables_eq_match, hdeclared] at hp
    rcases hw : n.members.present? "variables" with _ | w
    · rw [hw] at hp
      simp at hp
    · exact ⟨w, Members.mem_of_present? hw⟩
  obtain ⟨w, hw⟩ := hmem
  have hwell : v.WellFormed :=
    wellFormed_of_readVariables hp v (by simp [hdeclared])
  cases hblames with
  | repeated _ =>
    have hbelow : BelowNode plain w (n.child "variables")
        (.invalid ((n.child "variables").key v.name) .repeatedVariable) := belowNode_key rfl
    exact hbelow.atNode.below (s := .key "variables") fun _ => .key hw (.here w)
  | mistyped _ hd htype => exact absurd (hwell.default_type _ hd) htype

/-- A prompt that writes no model override as an array, and whose validators are plain. -/
structure PlainPrompt (v : Json) : Prop where
  overrides : ∀ name w, v.Reaches [.key "model_overrides", .key name] w → w.kind ≠ .array
  validators : ∀ i w, v.Reaches [.key "validators", .index i] w → PlainValidator w

lemma within_readPrompt (toolNames : List String) (h : plain → PlainPrompt (.object n.members)) :
    n.Within plain (readPrompt toolNames n).result := by
  simp only [readPrompt, Traced.result_bind, Traced.result_lift]
  refine (n.within_requiredString "id").bind fun id _ => ?_
  refine (n.within_placed "id" _).bind fun _ _ => ?_
  refine (n.within_requiredString "name").bind fun name _ => ?_
  refine (n.within_rejectIf _ "name" _).bind fun _ _ => ?_
  refine (n.within_requiredString "version").bind fun version _ => ?_
  refine (n.within_placed "version" _).bind fun _ _ => ?_
  refine (n.within_optional "description" _ _).bind fun _ _ => ?_
  refine (n.within_optional "system_template" _ _).bind fun _ _ => ?_
  refine (n.within_optional "user_template" _ _).bind fun _ _ => ?_
  refine (within_readVariables n).bind fun declared hdeclared => ?_
  refine (n.within_ofObject "parameters" _ fun _ _ => within_readParameters _).bind fun _ _ => ?_
  refine .bind (within_readValidators fun hplain vs i v hvs hv => ?_) fun _ _ => ?_
  · exact (h hplain).validators i v (.key hvs (.index hv (.here v)))
  refine (n.within_stringList "tools").bind fun tools _ => ?_
  refine .bind (.ok ()) fun _ _ => ?_
  refine (within_readPolicyOf toolNames id n).bind fun policy _ => ?_
  refine .bind (within_readOverrides fun hplain os name v hos hv => ?_) fun _ _ => ?_
  · exact (h hplain).overrides name v (.key hos (.key hv (.here v)))
  exact within_checked hdeclared

/-! ### Packs -/

/-- A document that writes no tool as an array, and whose prompts are plain. -/
structure PlainDocument (doc : Json) : Prop where
  tools : ∀ name v, doc.Reaches [.key "tools", .key name] v → v.kind ≠ .array
  prompts : ∀ name v, doc.Reaches [.key "prompts", .key name] v → PlainPrompt v

lemma within_readEngineOf (n : Node) : n.Within plain (readEngineOf n) := by
  unfold readEngineOf
  split
  · rename_i v hv
    refine Node.within_member (Members.mem_of_present? hv) ?_
    refine (failsOnly_shaped v _ _).bind fun ⟨version, marker⟩ _ => ?_
    dsimp only
    split
    · exact .ok _
    · exact atNode_of_below (failsOnly_reject v _ "syntax" _)
  · exact .ok _

lemma within_readFragments (n : Node) : n.Within plain (readFragments n) := by
  refine n.within_ofObject "fragments" _ fun ms _ => ?_
  refine .bind (.mapM fun m _ => ?_) fun _ _ => .ok _
  exact (Node.within_requiredString _ m.1).bind fun _ _ => .ok _

lemma atNode_readTool (path : FieldPath) (m : String × Json) (hm : plain → m.2.kind ≠ .array) :
    FailsOnly (AtNode plain m.2 (path.key m.1)) (readTool path m) := by
  refine (failsOnly_shaped m.2 _ _).bind fun ⟨name, description, parameters⟩ hshape => ?_
  refine (failsOnly_placed_self m.2 _ _).bind fun _ _ => .bind ?_ fun _ _ => ?_
  · cases name with
    | none => exact .ok ()
    | some name => exact atNode_of_below (failsOnly_rejectIf m.2 _ _ "name" _)
  refine .bind (atNode_of_below (failsOnly_rejectIf m.2 _ _ "description" _)) fun _ _ => ?_
  refine .bind ?_ fun _ _ => .ok _
  cases parameters with
  | none =>
    -- the schema that stands for a missing one asks for an object
    exact .ok _
  | some ps =>
    have hps : plain → ∃ ms, m.2 = .object ms ∧ ("parameters", .object ps) ∈ ms := by
      intro hplain
      simp only [toolShape, Node.shaped_eq_ok, bind_eq_ok, pure_eq_ok, Prod.mk.injEq] at hshape
      obtain ⟨ms, hms, _, -, _, -, _, hps, -, -, rfl⟩ := hshape
      exact ⟨ms, exists_of_record hms (hm hplain), mem_of_getD_map hps⟩
    refine atNode_of_map "parameters" hps ?_
    unfold checkSchemaType
    split
    · exact Node.within_rejectIf ⟨ps, (path.key m.1).key "parameters"⟩ _ "type" _
    · exact .ok ()

lemma within_readTools
    (h : plain → ∀ os name v, ("tools", .object os) ∈ n.members → (name, v) ∈ os →
      v.kind ≠ .array) :
    n.Within plain (readTools n) := by
  refine n.within_ofObject "tools" _ fun os hos => .mapM fun m hm => ?_
  exact Node.within_member hm (atNode_readTool _ m fun hplain => h hplain os m.1 m.2 hos hm)

lemma within_readPrompts (toolNames keys : List String)
    (h : plain → ∀ name v, (name, v) ∈ n.members → PlainPrompt v) :
    n.Within plain (readPrompts toolNames n keys).result := by
  induction keys with
  | nil => exact .ok []
  | cons key keys ih =>
    simp only [readPrompts, Traced.result_bind, Traced.result_lift]
    refine (n.within_requiredObject key).bind fun m hm => ?_
    obtain ⟨hmem, hpath⟩ := mem_of_requiredObject hm
    refine .bind (Node.within_member hmem ?_) fun _ _ => ih.bind fun _ _ => .ok _
    rw [← hpath]
    exact atNode_of_below (within_readPrompt toolNames fun hplain => h hplain key _ hmem)

lemma within_readRoot (h : plain → PlainDocument (.object n.members)) :
    n.Within plain (readRoot n).result := by
  simp only [readRoot, Traced.result_bind, Traced.result_lift]
  refine (n.within_requiredString "id").bind fun id _ => ?_
  refine (n.within_placed "id" _).bind fun _ _ => ?_
  refine (n.within_requiredString "name").bind fun name _ => ?_
  refine (n.within_placed "name" _).bind fun _ _ => ?_
  refine (n.within_requiredString "version").bind fun version _ => ?_
  refine (n.within_placed "version" _).bind fun _ _ => ?_
  refine (n.within_optional "description" _ _).bind fun _ _ => ?_
  refine (within_readEngineOf n).bind fun _ _ => (within_readFragments n).bind fun _ _ => ?_
  refine .bind (within_readTools fun hplain os name v hos hv => ?_) fun tools _ => ?_
  · exact (h hplain).tools name v (.key hos (.key hv (.here v)))
  refine (n.within_requiredObject "prompts").bind fun prompts hprompts => ?_
  obtain ⟨hmem, hpath⟩ := mem_of_requiredObject hprompts
  refine .bind ?_ fun _ _ => .bind (Node.within_member hmem ?_) fun _ _ => ?_
  · rw [hpath]
    exact n.within_rejectIf _ "prompts" _
  · rw [← hpath]
    refine atNode_of_below (within_readPrompts _ _ fun hplain name v hv => ?_)
    exact (h hplain).prompts name v (.key hmem (.key hv (.here v)))
  · exact .bind (.ok ()) fun _ _ => .ok _

/-- What the errors of a document tell. -/
structure ErrorsLocated (doc : Json) : Prop where
  /-- Only a document that is no object is not parsed. -/
  malformed : (∃ cause, (readPack doc).result = .error (.malformed cause)) ↔ doc.kind ≠ .object
  /-- No file is read. -/
  readable : ∀ file cause, (readPack doc).result ≠ .error (.unreadable file cause)
  /-- The path of an error is not empty. In a plain document all of it but the last step leads
  to a node. -/
  located : ∀ e path, (readPack doc).result = .error e → e.path? = some path →
    path.steps ≠ [] ∧ (PlainDocument doc →
      ∀ part, part <+: path.steps → part ≠ path.steps → ∃ w, doc.Reaches part w)

lemma readPack_of_not_object {doc : Json} (h : doc.kind ≠ .object) :
    (readPack doc).result = .error (.malformed (.notObject doc.kind)) := by
  cases doc with
  | object ms => exact absurd rfl h
  | _ => rfl

/-- An error of an object has a path of its own. -/
lemma exists_path_of_readPack {doc : Json} {e : PackError} (hdoc : doc.kind = .object)
    (h : (readPack doc).result = .error e) :
    ∃ steps, steps ≠ [] ∧ e.path? = some ⟨steps⟩ ∧ (PlainDocument doc → doc.Leads steps) := by
  cases doc with
  | object ms =>
    have hbelow : BelowNode (PlainDocument (.object ms)) (.object ms) .root e :=
      within_readRoot (n := ⟨ms, .root⟩) id e h
    exact hbelow
  | _ => cases hdoc

/-- **Errors point into the document.** Reading fails with a parse error exactly when the document
is no object, and never with that of a file. Every other error names a field. If the document
writes its tools, model overrides and validators as objects or scalars, and gives each validator
its parameters, the path to the field goes through nodes of the document, and only its last step
may name something that is missing. -/
theorem errors_located (doc : Json) : ErrorsLocated doc := by
  by_cases hdoc : doc.kind = .object
  · have hpath {e : PackError} := exists_path_of_readPack (e := e) hdoc
    refine {
      malformed := ⟨?_, fun h => absurd hdoc h⟩
      readable := fun file cause h => ?_
      located := fun e path h he => ?_ }
    · rintro ⟨cause, h⟩
      obtain ⟨_, _, ⟨⟩, _⟩ := hpath h
    · obtain ⟨_, _, ⟨⟩, _⟩ := hpath h
    · obtain ⟨steps, hsteps, hsome, hleads⟩ := hpath h
      obtain rfl := Option.some.inj (hsome.symm.trans he)
      exact ⟨hsteps, hleads⟩
  · have hresult := readPack_of_not_object hdoc
    refine {
      malformed := ⟨fun _ => hdoc, fun _ => ⟨_, hresult⟩⟩
      readable := fun file cause h => ?_
      located := fun e path h he => ?_ }
    · cases hresult.symm.trans h
    · cases hresult.symm.trans h
      cases he

/-! ### A document with a bad word -/

def badValidator : Json :=
  .object [("type", .string "banned_words"),
    ("params", .object [("words", .array [.string "refund", .bool true])])]

def badPrompt : Json :=
  .object [("id", .string "main"), ("name", .string "Main"), ("version", .string "1.0.0"),
    ("validators", .array [badValidator])]

def badDocument : Json :=
  .object [("id", .string "demo"), ("name", .string "Demo"), ("version", .string "1.0.0"),
    ("prompts", .object [("main", badPrompt)])]

lemma plainValidator_bad : PlainValidator badValidator := by
  refine ⟨by decide, fun ms hms => ?_⟩
  cases hms
  simp [Members.present?, Members.get?, Json.isNull, Json.kind]

lemma plainPrompt_bad : PlainPrompt badPrompt where
  overrides name w h := by simp [badPrompt] at h
  validators i w h := by
    obtain ⟨-, rfl⟩ : i = 0 ∧ badValidator = w := by
      simpa [badPrompt, List.getElem?_singleton] using h
    exact plainValidator_bad

lemma plainDocument_bad : PlainDocument badDocument where
  tools name v h := by simp [badDocument] at h
  prompts name v h := by
    obtain ⟨-, rfl⟩ : name = "main" ∧ v = badPrompt := by simpa [badDocument] using h
    exact plainPrompt_bad

theorem errors_located_bad :
    PlainDocument badDocument ∧ ∃ path fault,
      (readPack badDocument).result = .error (.misconfigured path fault) ∧
      path.text = "prompts.main.validators[0].params.words[1]" ∧
      ∀ part, part <+: path.steps → part ≠ path.steps → ∃ w, badDocument.Reaches part w :=
  ⟨plainDocument_bad, _, _, rfl, by decide,
    ((errors_located badDocument).located _ _ rfl rfl).2 plainDocument_bad⟩

end PromptKit.Document
