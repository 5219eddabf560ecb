import PromptKit.Inputs
import PromptKit.Tool
import PromptKit.Validator

/-!
Prompts: templates with variables, parameters, validators and tools.

A prompt is built by edits in any order and checked once at the end: no two variables share a
name, and each default has the type of its variable.
-/

namespace PromptKit

/-- Parameters of a generation, such as its temperature. -/
abbrev Parameters := NameMap Value

/-- What a prompt changes for one model. -/
structure ModelOverride where
  /-- Takes the place of the system template, whatever is put around that. -/
  system : Option String := none
  before : Option String := none
  behind : Option String := none
  parameters : Parameters := .empty

structure Prompt where
  id : String
  name : String
  version : String
  description : Option String := none
  system : Option String := none
  user : Option String := none
  declared : List Variable := []
  parameters : Parameters := .empty
  validators : List Validator := []
  tools : List String := []
  policy : ToolPolicy := {}
  overrides : NameMap ModelOverride := .empty

namespace Prompt

/-- A change to a prompt; variables, validators and tools are added at the end. -/
inductive Edit where
  | description (text : String)
  | system (template : String)
  | user (template : String)
  | declare (v : Variable)
  | parameter (name : String) (value : Value)
  | validator (v : Validator)
  | tool (name : String)
  | policy (p : ToolPolicy)
  | override (model : String) (o : ModelOverride)

def edit (p : Prompt) : Edit → Prompt
  | .description s => { p with description := some s }
  | .system s => { p with system := some s }
  | .user s => { p with user := some s }
  | .declare v => { p with declared := p.declared ++ [v] }
  | .parameter k v => { p with parameters := p.parameters.insert k v }
  | .validator v => { p with validators := p.validators ++ [v] }
  | .tool t => { p with tools := p.tools ++ [t] }
  | .policy q => { p with policy := q }
  | .override m o => { p with overrides := p.overrides.insert m o }

/-- The fault of a variable that comes after the given names. -/
def variableFault? (path : FieldPath) (earlier : List String) (v : Variable) :
    Option (FieldPath × Fault) :=
  let here := path.key v.name
  if v.name ∈ earlier then some (here, .repeatedVariable)
  else
    match v.default? with
    | some d =>
      if d.isA v.type then none else some (here.key "default", .defaultType v.type d.type)
    | none => none

/-- The first fault among variables, after the given names. -/
def variablesFault? (path : FieldPath) (earlier : List String) :
    List Variable → Option (FieldPath × Fault)
  | [] => none
  | v :: rest => variableFault? path earlier v <|> variablesFault? path (v.name :: earlier) rest

/-- The prompt itself when its variables are in order; faults are placed under a path. -/
def checked (p : Prompt) (path : FieldPath) : Except PackError Prompt :=
  match variablesFault? (path.key "variables") [] p.declared with
  | none => pure p
  | some (here, fault) => throw (.invalid here fault)

/-- A prompt in the making, with the path that its faults are placed under. -/
structure Draft where
  prompt : Prompt
  path : FieldPath := .root

namespace Draft

/-- What is asked of a draft before it is built. -/
inductive Call where
  | locate (path : FieldPath)
  | edit (e : Edit)

def call (d : Draft) : Call → Draft
  | .locate path => { d with path := path }
  | .edit e => { d with prompt := d.prompt.edit e }

/-- The finished prompt. -/
def build (d : Draft) : Except PackError Prompt := d.prompt.checked d.path

end Draft

/-- The variable of a name. -/
def declared? (p : Prompt) (name : String) : Option Variable :=
  p.declared.find? (·.name == name)

/-- The variables that have to be given. -/
def requiredInputs (p : Prompt) : List String :=
  (p.declared.filter (·.isRequired)).map (·.name)

def overrideFor? (p : Prompt) (model : Option String) : Option ModelOverride :=
  model.bind p.overrides.get?

/-- The system template for a model. A replacement comes first; the texts around are put to a
template that is there. -/
def systemFor (p : Prompt) (model : Option String) : Option String :=
  match p.overrideFor? model with
  | none => p.system
  | some o => o.system <|> p.system.map fun s => o.before.getD "" ++ s ++ o.behind.getD ""

/-- The parameters for a model. -/
def parametersFor (p : Prompt) (model : Option String) : Parameters :=
  match p.overrideFor? model with
  | none => p.parameters
  | some o => p.parameters.override o.parameters

end Prompt

end PromptKit
