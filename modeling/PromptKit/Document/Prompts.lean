import PromptKit.Document.Variables
import PromptKit.Notice
import PromptKit.Prompt
import PromptKit.Version

/-!
Prompts as a document declares them.
-/

namespace PromptKit.Document

open Node (reject rejectIf placed shaped)

/-- The parameters with a known range. -/
def parameterRanges : List (String × ParameterRange) := [
  ("temperature", ⟨0, some 2⟩),
  ("top_p", ⟨0, some 1⟩),
  ("max_tokens", ⟨1, none⟩),
  ("top_k", ⟨1, none⟩),
  ("frequency_penalty", ⟨-2, some 2⟩),
  ("presence_penalty", ⟨-2, some 2⟩)]

def rangeOf? (key : String) : Option ParameterRange :=
  (parameterRanges.find? (·.1 == key)).map (·.2)

/-- A string, a number or a boolean. -/
def isScalar (v : Value) : Bool :=
  match v.type with
  | .string | .number | .boolean => true
  | _ => false

/-- The fault of a value as a parameter. -/
def parameterFault? (key : String) (v : Value) : Option Fault :=
  if !isScalar v then some (.parameterKind v.toJson.kind)
  else
    match rangeOf? key with
    | none => none
    | some range =>
      match v.toFloat? with
      | none => some (.parameterNumber key)
      | some x => if range.excludes x then some (.parameterRange key range x) else none

/-- A member as a parameter; null gives none. -/
def readParameter (path : FieldPath) (m : String × Json) :
    Node.Result (Option (String × Value)) :=
  match Value.ofJson? m.2 with
  | none => pure none
  | some v =>
    match parameterFault? m.1 v with
    | some fault => reject (path.key m.1) fault
    | none => pure (some (m.1, v))

def readParameters (n : Node) : Node.Result Parameters := do
  let all ← n.members.mapM (readParameter n.path)
  pure (NameMap.ofList (all.filterMap id))

def readValidator (path : FieldPath) (v : Json) : Node.Result Validator := do
  let entry := do
    let ms ← Shape.record "ValidatorDto" [Shape.field "type" Shape.string,
      Shape.field? "enabled" Shape.bool, Shape.field? "fail_on_violation" Shape.bool,
      Shape.field? "params" (Shape.optional Shape.map)] v
    let kind ← Shape.get ms "type" Shape.string
    let enabled ← Shape.getD ms "enabled" Shape.bool true
    let blocking ← Shape.getD ms "fail_on_violation" Shape.bool false
    let params ← Shape.getD ms "params" (Shape.optional Shape.map) none
    pure (kind, enabled, blocking, params.getD [])
  let (kind, enabled, blocking, params) ← entry.mapError fun e => .misconfigured path (.shape e)
  Validator.ofConfig kind enabled blocking params path

def readValidators (n : Node) : Node.Result (List Validator) := do
  match ← n.optionalArray "validators" with
  | none => pure []
  | some vs =>
    (Node.indexed vs).mapM fun iv => readValidator ((n.child "validators").index iv.1) iv.2

/-- A count that is not zero. -/
def positive (path : FieldPath) (n : Nat) : Node.Result Nat :=
  if n = 0 then reject path .zero else pure n

/-- What a policy holds: a choice, two counts and the blocked names. -/
def policyShape (v : Json) :
    Shape.Result (Option String × Option Nat × Option Nat × List String) := do
  let count := Shape.optional Shape.count32
  let text := Shape.optional Shape.string
  let names := Shape.optional (Shape.list Shape.string)
  let ms ← Shape.record "ToolPolicyDto" [Shape.field? "tool_choice" text,
    Shape.field? "max_rounds" count, Shape.field? "max_tool_calls_per_turn" count,
    Shape.field? "blocklist" names] v
  let choice ← Shape.getD ms "tool_choice" text none
  let rounds ← Shape.getD ms "max_rounds" count none
  let calls ← Shape.getD ms "max_tool_calls_per_turn" count none
  let blocked ← Shape.getD ms "blocklist" names none
  pure (choice, rounds, calls, blocked.getD [])

def readChoice (path : FieldPath) (name : String) : Node.Result ToolChoice :=
  match ToolChoice.ofName? name with
  | some c => pure c
  | none => reject path (.toolChoice name)

/-- A policy after the change that a field asks for, if the field is there. -/
def changed {α : Type} (policy : ToolPolicy) (change : α → Node.Result ToolPolicy.Edit) :
    Option α → Node.Result ToolPolicy
  | some a => do pure (policy.edit (← change a))
  | none => pure policy

/-- The policy that a value describes; what it leaves out stays as it is by default. -/
def readPolicy (path : FieldPath) (v : Json) : Node.Result (ToolPolicy × List String) := do
  let (choice, rounds, calls, blocked) ← shaped path (policyShape v)
  let policy ← changed {} (fun c => .choose <$> readChoice (path.key "tool_choice") c) choice
  let policy ← changed policy (fun n => .maxRounds <$> positive (path.key "max_rounds") n) rounds
  let policy ← changed policy
    (fun n => .maxCallsPerTurn <$> positive (path.key "max_tool_calls_per_turn") n) calls
  pure (policy.edit (.block blocked), blocked)

/-- What an override holds: three texts and the parameters. -/
def overrideShape (v : Json) :
    Shape.Result (Option String × Option String × Option String × Option Members) := do
  let text := Shape.optional Shape.string
  let map := Shape.optional Shape.map
  let ms ← Shape.record "ModelOverrideDto" [Shape.field? "system_template" text,
    Shape.field? "system_template_prefix" text, Shape.field? "system_template_suffix" text,
    Shape.field? "parameters" map] v
  let system ← Shape.getD ms "system_template" text none
  let before ← Shape.getD ms "system_template_prefix" text none
  let behind ← Shape.getD ms "system_template_suffix" text none
  let parameters ← Shape.getD ms "parameters" map none
  pure (system, before, behind, parameters)

def readOverride (path : FieldPath) (v : Json) : Node.Result ModelOverride := do
  let (system, before, behind, parameters) ← shaped path (overrideShape v)
  let parameters ← readParameters ⟨parameters.getD [], path.key "parameters"⟩
  pure { system, before, behind, parameters }

def readOverrides (n : Node) : Node.Result (NameMap ModelOverride) :=
  n.ofObject "model_overrides" .empty fun o => do
    let all ← o.members.mapM fun m => do pure (m.1, ← readOverride (o.child m.1) m.2)
    pure (NameMap.ofList all)

/-- The names that are not declared, in their order. -/
def undeclared (declared names : List String) : List String :=
  names.filter fun n => !declared.contains n

/-- The policy of a prompt; names of tools that the pack does not declare are noted. -/
def readPolicyOf (toolNames : List String) (id : String) (n : Node) :
    Traced PackError ToolPolicy :=
  match n.members.present? "tool_policy" with
  | none => pure {}
  | some v => do
    let (policy, blocked) ← readPolicy (n.child "tool_policy") v
    Traced.noteAll ((undeclared toolNames blocked).map (.undeclaredBlock id))
    pure policy

/-- Reads a prompt; names of tools that the pack does not declare are noted. -/
def readPrompt (toolNames : List String) (n : Node) : Traced PackError Prompt := do
  let id ← n.requiredString "id"
  placed (n.child "id") (Name.checkPromptId id)
  let name ← n.requiredString "name"
  rejectIf (Text.allBlank name) (n.child "name") .emptyName
  let version ← n.requiredString "version"
  placed (n.child "version") (Version.check version)
  let description ← n.optionalString "description"
  let system ← n.optionalString "system_template"
  let user ← n.optionalString "user_template"
  let declared ← readVariables n
  let parameters ← n.ofObject "parameters" .empty readParameters
  let validators ← readValidators n
  let tools ← n.stringList "tools"
  Traced.noteAll ((undeclared toolNames tools).map (.undeclaredTool id))
  let policy ← readPolicyOf toolNames id n
  let overrides ← readOverrides n
  let prompt : Prompt :=
    { id, name, version, description, system, user, declared, parameters, validators, tools,
      policy, overrides }
  prompt.checked n.path

end PromptKit.Document
