import PromptKit.Proofs.Document.Given
import PromptKit.Proofs.Document.Prompts
import PromptKit.Proofs.NameMap

/-!
What is in a pack that is read, beside what is in its document.

Nothing is lost, added twice or put into another order: each part of the pack has one entry for
each entry of the document, as the document has it. What the document gives is told by
membership alone, for documents whose objects have distinct names.
-/

namespace PromptKit

namespace Document

def validatorFields : List String := ["type", "enabled", "fail_on_violation", "params"]

def policyFields : List String :=
  ["tool_choice", "max_rounds", "max_tool_calls_per_turn", "blocklist"]

/-! ### What a pack has of its document -/

/-- An object that declares the type of a variable. -/
def TypeFrom (v : Json) (x : Variable) : Prop :=
  ∃ ms, v = .object ms ∧ ("type", .string x.type.name) ∈ ms

/-- An object that declares the name and the type of a variable. -/
def EntryFrom (v : Json) (x : Variable) : Prop :=
  ∃ ms, v = .object ms ∧ ("name", .string x.name) ∈ ms ∧ ("type", .string x.type.name) ∈ ms

/-- The variables of a prompt, in a list with names or in a mapping from names. -/
inductive VariablesFrom (ms : Members) : List Variable → Prop
  | none (h : ms.Gives "variables" none) : VariablesFrom ms []
  | list {vs : List Json} {xs : List Variable} (h : ms.Gives "variables" (some (.array vs)))
    (hxs : List.Forall₂ EntryFrom vs xs) : VariablesFrom ms xs
  | mapping {os : Members} {xs : List Variable} (h : ms.Gives "variables" (some (.object os)))
    (hxs : List.Forall₂ (fun m x => m.1 = x.name ∧ TypeFrom m.2 x) os xs) : VariablesFrom ms xs

/-- A validator of the kind and the flags that an entry has. -/
structure ValidatorFrom (v : Json) (w : Validator) : Prop where
  kind : ("type", .string w.kind.name) ∈ recordMembers validatorFields v
  enabled : (recordMembers validatorFields v).Flag "enabled" true w.enabled
  blocking : (recordMembers validatorFields v).Flag "fail_on_violation" false w.blocking

/-- The names that the policy of a prompt lists as blocked. -/
inductive BlockedFrom (ms : Members) : List String → Prop
  | none (h : ms.Gives "tool_policy" none) : BlockedFrom ms []
  | listed {v : Json} {names : List String} (h : ms.Gives "tool_policy" (some v))
    (hnames : (recordMembers policyFields v).GivesItems "blocklist" (names.map .string)) :
    BlockedFrom ms names

/-- A prompt with everything that its object gives, and nothing more. -/
structure PromptFrom (ms : Members) (p : Prompt) : Prop where
  system : ms.Gives "system_template" (p.system.map .string)
  user : ms.Gives "user_template" (p.user.map .string)
  declared : VariablesFrom ms p.declared
  validators : ∃ vs, ms.GivesItems "validators" vs ∧ List.Forall₂ ValidatorFrom vs p.validators
  tools : ms.GivesItems "tools" (p.tools.map .string)
  blocked : ∃ names, BlockedFrom ms names ∧ ∀ tool, p.policy.blocks tool ↔ tool ∈ names
  parameters : ∃ ps, ms.GivesMembers "parameters" ps ∧
    ∀ key v, p.parameters.get? key = some v ↔ (key, v.toJson) ∈ ps
  overrides : ∃ os, ms.GivesMembers "model_overrides" os ∧
    ∀ model, p.overrides.contains model ↔ model ∈ os.map (·.1)

/-- A pack with everything that the document gives, and nothing more. -/
structure PackFrom (ms : Members) (pack : Pack) : Prop where
  fragments : ∃ fs, ms.GivesMembers "fragments" fs ∧ (∀ m ∈ fs, ∃ text, m.2 = .string text) ∧
    ∀ name text, pack.fragment? name = some text ↔ (name, .string text) ∈ fs
  tools : ∃ ts, ms.GivesMembers "tools" ts ∧ pack.tools.map (·.name) = ts.map (·.1)
  prompts : ∃ ps, ms.Gives "prompts" (some (.object ps)) ∧
    (∀ name, pack.prompts.contains name ↔ name ∈ ps.map (·.1)) ∧
    ∀ name p, pack.prompt? name = some p → ∃ os, (name, .object os) ∈ ps ∧ PromptFrom os p

/-! ### Variables -/

lemma name_of_readVariable {name : String} {n : Node} {x : Variable}
    (h : readVariable name n = .ok x) : x.name = name := by
  simp only [readVariable, bind_eq_ok, pure_eq_ok] at h
  obtain ⟨_, -, type, -, description, -, presence, -, rules, -, rfl⟩ := h
  rfl

lemma type_of_readVariable {name : String} {n : Node} {x : Variable}
    (h : readVariable name n = .ok x) :
    n.members.present? "type" = some (.string x.type.name) := by
  simp only [readVariable, bind_eq_ok, pure_eq_ok] at h
  obtain ⟨_, -, type, htype, description, -, presence, -, rules, -, rfl⟩ := h
  obtain ⟨s, hs, htype⟩ := bind_eq_ok.mp htype
  split at htype
  · rename_i t ht
    obtain rfl := pure_eq_ok.mp htype
    rw [ValueType.name_of_ofName? ht]
    exact Node.requiredString_eq_ok.mp hs
  · exact absurd htype Node.reject_ne_ok

lemma entryFrom_of_readListed {path : FieldPath} {i : Nat} {v : Json} {x : Variable}
    (h : readListed path (i, v) = .ok x) : EntryFrom v x := by
  cases v with
  | object ms =>
    simp only [readListed, Node.object, pure_bind, bind_eq_ok] at h
    obtain ⟨name, hname, h⟩ := h
    have hname := Node.requiredString_eq_ok.mp hname
    rw [← name_of_readVariable h] at hname
    exact ⟨ms, rfl, Members.mem_of_present? hname,
      Members.mem_of_present? (type_of_readVariable h)⟩
  | _ =>
    obtain ⟨n, hn, -⟩ := bind_eq_ok.mp h
    exact absurd hn Node.reject_ne_ok

lemma typeFrom_of_readKeyed {n : Node} {key : String} {v : Json} {x : Variable}
    (hd : (n.members.map (·.1)).Nodup) (hmem : (key, v) ∈ n.members)
    (h : readKeyed n key = .ok x) : key = x.name ∧ TypeFrom v x := by
  simp only [readKeyed, bind_eq_ok] at h
  obtain ⟨entry, hentry, _, -, _, -, h⟩ := h
  obtain ⟨ms, hms, rfl⟩ := Node.requiredObject_eq_ok.mp hentry
  have hv : v = .object ms := Members.eq_of_mem hd hmem (Members.mem_of_present? hms)
  exact ⟨(name_of_readVariable h).symm, ms, hv, Members.mem_of_present? (type_of_readVariable h)⟩

lemma variablesFrom_of_readVariables {n : Node} {xs : List Variable}
    (hn : (Json.object n.members).Distinct) (h : readVariables n = .ok xs) :
    VariablesFrom n.members xs := by
  rw [readVariables_eq_match] at h
  rcases hv : n.members.present? "variables" with _ | v
  · rw [hv] at h
    obtain rfl := pure_eq_ok.mp h
    exact .none ((Members.gives_iff hn.names).mpr hv)
  · rw [hv] at h
    have hgives := (Members.gives_iff hn.names).mpr hv
    cases v with
    | array vs =>
      refine .list hgives (Node.forall₂_of_indexed (fun i v x hx => ?_) h)
      exact entryFrom_of_readListed hx
    | object ms =>
      refine .mapping hgives (forall₂_of_mapM_eq_ok (fun m hmem x hx => ?_) h)
      exact typeFrom_of_readKeyed (hn.member hv).names hmem hx
    | _ => exact absurd h Node.reject_ne_ok

/-! ### Validators -/

lemma eq_ok_of_located {path : FieldPath} {r : ValidatorParams.Result ValidatorParams}
    {params : ValidatorParams} (h : ValidatorParams.located path r = .ok params) :
    r = .ok params := by
  rcases r with ⟨key, fault⟩ | p
  · cases h
  · rw [pure_eq_ok.mp h]

/-- The parameters that are read for a kind are of that kind. -/
lemma kind_of_read {kind : ValidatorKind} {ms : Members} {path : FieldPath}
    {params : ValidatorParams} (h : ValidatorParams.read kind ms path = .ok params) :
    params.kind = kind := by
  cases kind with
  | bannedWords =>
    simp only [ValidatorParams.read] at h
    split at h
    case h_4 =>
      obtain ⟨words, -, h⟩ := bind_eq_ok.mp h
      obtain rfl := pure_eq_ok.mp h
      rfl
    case h_5 => exact absurd h throw_ne_ok
    all_goals
      obtain rfl := pure_eq_ok.mp h
      rfl
  | maxLength =>
    obtain ⟨n, -, h⟩ := bind_eq_ok.mp (eq_ok_of_located h)
    obtain rfl := pure_eq_ok.mp h
    rfl
  | minLength =>
    obtain ⟨n, -, h⟩ := bind_eq_ok.mp (eq_ok_of_located h)
    obtain rfl := pure_eq_ok.mp h
    rfl
  | regexMatch =>
    simp only [ValidatorParams.read] at h
    have h := eq_ok_of_located h
    split at h
    all_goals
      obtain ⟨pattern, -, h⟩ := bind_eq_ok.mp h
      obtain ⟨wanted, -, h⟩ := bind_eq_ok.mp h
      obtain rfl := pure_eq_ok.mp h
      rfl
  | jsonSchema =>
    simp only [ValidatorParams.read] at h
    have h := eq_ok_of_located h
    split at h
    all_goals
      obtain ⟨schema, -, h⟩ := bind_eq_ok.mp h
      obtain rfl := pure_eq_ok.mp h
      rfl

lemma spec_of_ofConfig {name : String} {enabled blocking : Bool} {params : Members}
    {path : FieldPath} {w : Validator}
    (h : Validator.ofConfig name enabled blocking params path = .ok w) :
    w.kind.name = name ∧ w.enabled = enabled ∧ w.blocking = blocking := by
  unfold Validator.ofConfig at h
  split at h
  · exact absurd h throw_ne_ok
  · rename_i kind hkind
    obtain ⟨ps, hps, h⟩ := bind_eq_ok.mp h
    obtain rfl := pure_eq_ok.mp h
    rw [Validator.kind, kind_of_read hps, ValidatorKind.name_of_ofName? hkind]
    exact ⟨rfl, rfl, rfl⟩

lemma validatorFrom_of_readValidator {path : FieldPath} {v : Json} {w : Validator}
    (h : readValidator path v = .ok w) : ValidatorFrom v w := by
  simp only [readValidator, bind_eq_ok, mapError_eq_ok, pure_eq_ok] at h
  obtain ⟨_, ⟨ms, hms, name, hname, e, he, b, hb, ps, -, rfl⟩, h⟩ := h
  obtain ⟨hkind, henabled, hblocking⟩ : w.kind.name = name ∧ w.enabled = e ∧ w.blocking = b :=
    spec_of_ofConfig h
  obtain rfl := eq_recordMembers_of_record hms
  obtain ⟨t, ht, hname⟩ := exists_of_get hname
  rw [eq_of_string hname, ← hkind] at ht
  rw [← henabled] at he
  rw [← hblocking] at hb
  exact ⟨Members.mem_of_get? ht, flag_of_getD he, flag_of_getD hb⟩

lemma validators_of_readValidators {n : Node} {ws : List Validator}
    (hd : (n.members.map (·.1)).Nodup) (h : readValidators n = .ok ws) :
    ∃ vs, n.members.GivesItems "validators" vs ∧ List.Forall₂ ValidatorFrom vs ws := by
  obtain ⟨_ | vs, hvs, h⟩ := bind_eq_ok.mp h
  · obtain rfl := pure_eq_ok.mp h
    exact ⟨[], Node.givesItems_of_optionalArray hd hvs, .nil⟩
  · refine ⟨vs, Node.givesItems_of_optionalArray hd hvs, Node.forall₂_of_indexed ?_ h⟩
    exact fun i v w hw => validatorFrom_of_readValidator hw

/-! ### Policies -/

lemma blocklist_of_changed {α β : Type} {policy q : ToolPolicy} {edit : β → ToolPolicy.Edit}
    {read : α → Node.Result β} {field : Option α}
    (h : changed policy (fun a => edit <$> read a) field = .ok q)
    (hedit : ∀ b, (policy.edit (edit b)).blocklist = policy.blocklist) :
    q.blocklist = policy.blocklist := by
  cases field with
  | none => rw [pure_eq_ok.mp h]
  | some a =>
    obtain ⟨e, he, h⟩ := bind_eq_ok.mp h
    obtain ⟨b, -, rfl⟩ := map_eq_ok.mp he
    rw [← pure_eq_ok.mp h, hedit]

/-- A policy blocks the names that it lists. -/
lemma blocks_of_readPolicy {path : FieldPath} {v : Json} {policy : ToolPolicy}
    {blocked : List String} (hv : v.Distinct) (h : readPolicy path v = .ok (policy, blocked)) :
    (recordMembers policyFields v).GivesItems "blocklist" (blocked.map .string) ∧
      ∀ tool, policy.blocks tool ↔ tool ∈ blocked := by
  simp only [readPolicy, bind_eq_ok, Node.shaped_eq_ok, pure_eq_ok, Prod.mk.injEq] at h
  obtain ⟨shape, hshape, chosen, hchosen, rounds, hrounds, calls, hcalls, rfl, rfl⟩ := h
  have hlisted : (recordMembers policyFields v).GivesItems "blocklist"
      (shape.2.2.2.map .string) := by
    simp only [policyShape, bind_eq_ok, pure_eq_ok] at hshape
    obtain ⟨ms, hms, choice, -, rounds, -, calls, -, names, hnames, rfl⟩ := hshape
    obtain rfl := eq_recordMembers_of_record hms
    exact givesItems_of_getD (nodup_recordMembers (by decide) hv) hnames
  refine ⟨hlisted, fun tool => ?_⟩
  have hempty : calls.blocklist = .empty := by
    rw [blocklist_of_changed hcalls fun _ => rfl, blocklist_of_changed hrounds fun _ => rfl,
      blocklist_of_changed hchosen fun _ => rfl]
  have hmem : (calls.blocklist.addAll shape.2.2.2).contains tool ↔ tool ∈ shape.2.2.2 := by
    rw [NameSet.contains_addAll, hempty]
    simp [NameMap.contains]
  exact hmem

lemma blocked_of_readPolicyOf {toolNames : List String} {id : String} {n : Node}
    {policy : ToolPolicy} (hn : (Json.object n.members).Distinct)
    (h : (readPolicyOf toolNames id n).result = .ok policy) :
    ∃ names, BlockedFrom n.members names ∧ ∀ tool, policy.blocks tool ↔ tool ∈ names := by
  unfold readPolicyOf at h
  split at h
  · rename_i hnone
    obtain rfl := pure_eq_ok.mp h
    exact ⟨[], .none ((Members.gives_iff hn.names).mpr hnone), by
      simp [ToolPolicy.blocks, NameMap.contains]⟩
  · rename_i v hv
    simp only [Traced.result_bind, Traced.result_lift, bind_eq_ok] at h
    obtain ⟨⟨policy', blocked⟩, hread, _, -, h⟩ := h
    obtain rfl := pure_eq_ok.mp h
    obtain ⟨hlisted, hblocks⟩ := blocks_of_readPolicy (hn.member hv) hread
    exact ⟨blocked, .listed ((Members.gives_iff hn.names).mpr hv) hlisted, hblocks⟩

/-! ### Parameters, overrides and fragments -/

/-- The parameter of a member; null gives none. -/
def parameterOf (m : String × Json) : Option (String × Value) :=
  (Value.ofJson? m.2).map (m.1, ·)

/-- A member that is read without a fault gives its parameter. -/
lemma eq_parameterOf_of_readParameter {path : FieldPath} {m : String × Json}
    {o : Option (String × Value)} (h : readParameter path m = .ok o) : o = parameterOf m := by
  unfold readParameter at h
  split at h
  · rename_i hnone
    rw [← pure_eq_ok.mp h, parameterOf, hnone, Option.map_none]
  · rename_i v hv
    split at h
    · exact absurd h Node.reject_ne_ok
    · rw [← pure_eq_ok.mp h, parameterOf, hv, Option.map_some]

lemma parameterOf_eq_some_iff {m : String × Json} {key : String} {v : Value} :
    parameterOf m = some (key, v) ↔ m = (key, v.toJson) := by
  simp [parameterOf, Value.ofJson?_eq_some_iff, Prod.ext_iff, and_comm]

/-- Parameters keep the names of their members, in their order. -/
lemma sublist_parameterOf (ms : Members) :
    ((ms.filterMap parameterOf).map (·.1)).Sublist (ms.map (·.1)) := by
  induction ms with
  | nil => exact .slnil
  | cons m ms ih =>
    rcases hm : parameterOf m with _ | ⟨key, v⟩
    · rw [List.filterMap_cons_none hm]
      exact ih.cons _
    · rw [List.filterMap_cons_some hm, parameterOf_eq_some_iff.mp hm]
      exact ih.cons_cons _

lemma get?_of_readParameters {n : Node} {ps : Parameters} (hd : (n.members.map (·.1)).Nodup)
    (h : readParameters n = .ok ps) (key : String) (v : Value) :
    ps.get? key = some v ↔ (key, v.toJson) ∈ n.members := by
  simp only [readParameters, bind_eq_ok, pure_eq_ok] at h
  obtain ⟨all, hall, rfl⟩ := h
  have hmap : all.map id = n.members.map parameterOf :=
    map_eq_of_mapM_eq_ok (fun m o ho => eq_parameterOf_of_readParameter ho) hall
  have heq : all.filterMap id = n.members.filterMap parameterOf := by
    rw [← List.map_id all, hmap, List.filterMap_map, Function.id_comp]
  rw [heq, NameMap.get?_ofList_iff (hd.sublist (sublist_parameterOf _))]
  simp [parameterOf_eq_some_iff]

/-- What is read of each member, under its name. -/
lemma names_of_mapM {α : Type} {ms : Members} {all : List (String × α)}
    {read : String × Json → Node.Result α}
    (h : (ms.mapM fun m => do pure (m.1, ← read m)) = .ok all) :
    all.map (·.1) = ms.map (·.1) := by
  refine map_eq_of_mapM_eq_ok (fun m e he => ?_) h
  simp only [bind_eq_ok, pure_eq_ok] at he
  obtain ⟨a, -, rfl⟩ := he
  rfl

lemma contains_of_readOverrides {n : Node} {os : NameMap ModelOverride}
    (hn : (Json.object n.members).Distinct) (h : readOverrides n = .ok os) :
    ∃ ms, n.members.GivesMembers "model_overrides" ms ∧
      ∀ model, os.contains model ↔ model ∈ ms.map (·.1) := by
  obtain ⟨ms, hms, -, hread⟩ := Node.givesMembers_of_ofObject hn h rfl
  simp only [bind_eq_ok, pure_eq_ok] at hread
  obtain ⟨all, hall, rfl⟩ := hread
  refine ⟨ms, hms, fun model => ?_⟩
  rw [NameMap.contains_ofList, names_of_mapM hall]

/-- What is read of the members, each as a text, maps a name to the text that its member is. -/
lemma get?_ofList_of_mapM {n : Node} {all : List (String × String)}
    (h : (n.members.mapM fun m => do pure (m.1, ← n.requiredString m.1)) = .ok all)
    (name text : String) :
    (NameMap.ofList all).get? name = some text ↔ n.members.get? name = some (.string text) := by
  have hread {t : String} (ht : (NameMap.ofList all).get? name = some t) :
      n.members.get? name = some (.string t) := by
    obtain ⟨m, -, hm⟩ := exists_of_mapM_eq_ok h _ (NameMap.mem_of_get?_ofList ht)
    simp only [bind_eq_ok, pure_eq_ok] at hm
    obtain ⟨u, hu, heq⟩ := hm
    obtain ⟨rfl, rfl⟩ := Prod.mk.inj heq
    exact (Option.filter_eq_some_iff.mp (Node.requiredString_eq_ok.mp hu)).1
  refine ⟨hread, fun hget => ?_⟩
  have hcontains : (NameMap.ofList all).contains name := by
    rw [NameMap.contains_ofList, names_of_mapM h]
    exact List.mem_map_of_mem (Members.mem_of_get? hget)
  obtain ⟨t, ht⟩ := Option.isSome_iff_exists.mp hcontains
  obtain rfl : t = text := Json.string.inj (Option.some.inj ((hread ht).symm.trans hget))
  exact ht

lemma fragments_of_readFragments {n : Node} {fragments : NameMap String}
    (hn : (Json.object n.members).Distinct) (h : readFragments n = .ok fragments) :
    ∃ fs, n.members.GivesMembers "fragments" fs ∧ (∀ m ∈ fs, ∃ text, m.2 = .string text) ∧
      ∀ name text, fragments.get? name = some text ↔ (name, .string text) ∈ fs := by
  obtain ⟨fs, hfs, hd, hread⟩ := Node.givesMembers_of_ofObject hn h rfl
  simp only [bind_eq_ok, pure_eq_ok] at hread
  obtain ⟨all, hall, rfl⟩ := hread
  refine ⟨fs, hfs, fun m hm => ?_, fun name text => ?_⟩
  · have hcontains : (NameMap.ofList all).contains m.1 := by
      rw [NameMap.contains_ofList, names_of_mapM hall]
      exact List.mem_map_of_mem hm
    obtain ⟨text, htext⟩ := Option.isSome_iff_exists.mp hcontains
    have hmem := Members.mem_of_get? ((get?_ofList_of_mapM hall m.1 text).mp htext)
    exact ⟨text, Members.eq_of_mem hd.names hm hmem⟩
  · rw [get?_ofList_of_mapM hall, Members.get?_eq_some_iff hd.names]

/-! ### Tools -/

lemma name_of_readTool {path : FieldPath} {m : String × Json} {t : Tool}
    (h : readTool path m = .ok t) : t.name = m.1 := by
  simp only [readTool, bind_eq_ok, pure_eq_ok] at h
  obtain ⟨shape, -, _, -, _, -, _, -, _, -, rfl⟩ := h
  rfl

lemma names_of_readTools {n : Node} {ts : List Tool} (hn : (Json.object n.members).Distinct)
    (h : readTools n = .ok ts) :
    ∃ ms, n.members.GivesMembers "tools" ms ∧ (Pack.placeTools ts).map (·.name) = ms.map (·.1) := by
  obtain ⟨ms, hms, hd, hread⟩ := Node.givesMembers_of_ofObject hn h rfl
  have hnames : ts.map (·.name) = ms.map (·.1) :=
    map_eq_of_mapM_eq_ok (fun m t ht => name_of_readTool ht) hread
  refine ⟨ms, hms, ?_⟩
  rw [Pack.placeTools_of_nodup (by rw [hnames]; exact hd.names), hnames]

/-! ### Prompts and packs -/

lemma promptFrom_of_readPrompt {toolNames : List String} {n : Node} {p : Prompt}
    (hn : (Json.object n.members).Distinct) (h : (readPrompt toolNames n).result = .ok p) :
    PromptFrom n.members p := by
  simp only [readPrompt, Traced.result_bind, Traced.result_lift, bind_eq_ok] at h
  obtain ⟨id, -, _, -, name, -, _, -, version, -, _, -, description, -, system, hsystem, user,
    huser, declared, hdeclared, parameters, hparameters, validators, hvalidators, tools, htools, _,
    -, policy, hpolicy, overrides, hoverrides, hchecked⟩ := h
  obtain ⟨rfl, -, -⟩ := Prompt.checked_eq_ok.mp hchecked
  obtain ⟨ps, hps, hpd, hread⟩ := Node.givesMembers_of_ofObject hn hparameters rfl
  exact {
    system := (Members.gives_iff hn.names).mpr (Node.optionalString_eq_ok.mp hsystem)
    user := (Members.gives_iff hn.names).mpr (Node.optionalString_eq_ok.mp huser)
    declared := variablesFrom_of_readVariables hn hdeclared
    validators := validators_of_readValidators hn.names hvalidators
    tools := Node.givesItems_of_stringList hn.names htools
    blocked := blocked_of_readPolicyOf hn hpolicy
    parameters := ⟨ps, hps, get?_of_readParameters hpd.names hread⟩
    overrides := contains_of_readOverrides hn hoverrides }

/-- Each prompt of a pack is that of a name of the document, read from its object. -/
lemma promptsFrom_of_readPrompts {toolNames names : List String} {n : Node}
    {all : List (String × Prompt)} (hn : (Json.object n.members).Distinct)
    (h : (readPrompts toolNames n names).result = .ok all) :
    all.map (·.1) = names ∧
      ∀ e ∈ all, ∃ os, (e.1, .object os) ∈ n.members ∧ PromptFrom os e.2 := by
  induction names generalizing all with
  | nil =>
    obtain rfl := pure_eq_ok.mp h
    simp
  | cons name names ih =>
    simp only [readPrompts, Traced.result_bind, Traced.result_lift, bind_eq_ok] at h
    obtain ⟨m, hm, p, hp, rest, hrest, h⟩ := h
    obtain rfl := pure_eq_ok.mp h
    obtain ⟨os, hos, rfl⟩ := Node.requiredObject_eq_ok.mp hm
    obtain ⟨hnames, hall⟩ := ih hrest
    refine ⟨by rw [List.map_cons, hnames], fun e he => ?_⟩
    rcases List.mem_cons.mp he with rfl | he
    · exact ⟨os, Members.mem_of_present? hos, promptFrom_of_readPrompt (hn.member hos) hp⟩
    · exact hall e he

lemma packFrom_of_readRoot {n : Node} {pack : Pack} (hn : (Json.object n.members).Distinct)
    (h : (readRoot n).result = .ok pack) : PackFrom n.members pack := by
  simp only [readRoot, Traced.result_bind, Traced.result_lift, Traced.result_pure,
    bind_eq_ok] at h
  obtain ⟨id, -, _, -, name, -, _, -, version, -, _, -, description, -, engine, -, fragments,
    hfragments, tools, htools, node, hnode, _, -, prompts, hprompts, _, -, h⟩ := h
  obtain rfl := Except.ok.inj h
  obtain ⟨ps, hps, rfl⟩ := Node.requiredObject_eq_ok.mp hnode
  obtain ⟨hnames, hall⟩ := promptsFrom_of_readPrompts (hn.member hps) hprompts
  refine {
    fragments := fragments_of_readFragments hn hfragments
    tools := names_of_readTools hn htools
    prompts := ⟨ps, (Members.gives_iff hn.names).mpr hps, fun name => ?_, fun name p hp => ?_⟩ }
  · rw [NameMap.contains_ofList, hnames]
  · exact hall (name, p) (NameMap.mem_of_get?_ofList hp)

/-- **Nothing is lost, added twice or reordered.** Where the objects of a document have distinct
names, a pack that is read of it has the fragments, tools and prompts of the document, and each
prompt has the templates, variables, validators, tools, blocked names, parameters and overrides
that its object gives. -/
theorem packFrom_of_readPack {doc : Json} {pack : Pack} (hd : doc.Distinct)
    (h : (readPack doc).result = .ok pack) : ∃ ms, doc = .object ms ∧ PackFrom ms pack := by
  cases doc with
  | object ms => exact ⟨ms, rfl, packFrom_of_readRoot hd h⟩
  | _ => cases h

/-! ### A document with everything in it -/

/-- A prompt with a variable in a mapping, a validator in each form, a tool that is listed twice
and one that the pack does not have. -/
def stockedPrompt : Members :=
  [("id", .string "main"), ("name", .string "Main"), ("version", .string "1.0.0"),
    ("system_template", .string "Hi."), ("user_template", .null),
    ("variables", .object [("topic", .object [("type", .string "string")])]),
    ("validators", .array [
      .object [("params", .object [("max_characters", .nat 9)]), ("type", .string "max_length")],
      .array [.string "min_length", .bool false, .bool true,
        .object [("min_characters", .nat 1)]]]),
    ("tools", .array [.string "search", .string "stale", .string "search"]),
    ("tool_policy", .object [("blocklist", .array [.string "search", .string "search"])]),
    ("parameters", .object [("seed", .nat 7), ("note", .null)]),
    ("model_overrides", .object [("small", .object [])])]

def stocked : Json :=
  .object [("id", .string "demo"), ("name", .string "Demo"), ("version", .string "1.0.0"),
    ("fragments", .object [("sign_off", .string "Bye.")]),
    ("tools", .object [("search", .object [("description", .string "Searches.")]),
      ("look_up", .object [("description", .string "Looks up.")])]),
    ("prompts", .object [("main", .object stockedPrompt)])]

def stockedPack : Pack where
  id := "demo"
  name := "Demo"
  version := "1.0.0"
  fragments := NameMap.ofList [("sign_off", "Bye.")]
  tools := [⟨"search", "Searches.", Tool.noParameters⟩, ⟨"look_up", "Looks up.", Tool.noParameters⟩]
  prompts := NameMap.ofList [("main",
    { id := "main"
      name := "Main"
      version := "1.0.0"
      system := some "Hi."
      declared := [{ name := "topic", type := .string, presence := .optional }]
      validators := [⟨.maxLength 9, true, false⟩, ⟨.minLength 1, false, true⟩]
      tools := ["search", "stale", "search"]
      policy := { blocklist := NameSet.ofList ["search"] }
      parameters := NameMap.ofList [("seed", .number (.int 7))]
      overrides := NameMap.ofList [("small", {})] })]

lemma distinct_stocked : stocked.Distinct := by
  simp [stocked, stockedPrompt]

theorem packFrom_of_readPack_stocked :
    stocked.Distinct ∧ (readPack stocked).result = .ok stockedPack ∧
      ∃ ms, stocked = .object ms ∧ PackFrom ms stockedPack := by
  have hread : (readPack stocked).result = .ok stockedPack := by rfl
  exact ⟨distinct_stocked, hread, packFrom_of_readPack distinct_stocked hread⟩

end Document

end PromptKit
