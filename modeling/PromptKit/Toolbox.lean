import PromptKit.Notice
import PromptKit.Pack

/-!
The tools that a prompt offers, bound to what carries them out.

A handler acts in a monad of the caller's choice. `select` picks the tools of a prompt and
binds each to the handler registered under its name.
-/

namespace PromptKit

inductive ToolError where
  | unknownPrompt (name : String)
  | duplicateHandler (name : String)
  | missingHandler (name : String)
  | invalidArguments (name : String) (violations : List String)
  | execution (reason : String)
deriving DecidableEq, Repr

namespace ToolError

/-- What stands between the violations in a message. -/
def separator : String := "; "

def message : ToolError → String
  | unknownPrompt name => "unknown prompt: " ++ name
  | duplicateHandler name => "handler for tool `" ++ name ++ "` is already registered"
  | missingHandler name => "tool `" ++ name ++ "` has no handler bound"
  | invalidArguments name violations =>
    "invalid arguments for tool `" ++ name ++ "`: " ++ separator.intercalate violations
  | execution reason => "tool execution failed: " ++ reason

end ToolError

/-- What carries out a tool on its arguments. -/
abbrev Handler (m : Type → Type) := Members → m (Except ToolError String)

/-- Handlers by the names of their tools. -/
abbrev Registry (m : Type → Type) := NameMap (Handler m)

/-- A name is registered once. -/
def Registry.register {m : Type → Type} (r : Registry m) (name : String) (h : Handler m) :
    Except ToolError (Registry m) :=
  if r.contains name then throw (.duplicateHandler name) else pure (r.insert name h)

/-- A registry as a log shows it. -/
def Registry.shown {m : Type → Type} (r : Registry m) : String :=
  "HandlerRegistry \x7b registered: " ++ Text.quotedList r.keys ++ " \x7d"

/-- A tool with its schema, if that compiles, and its handler, if there is one. -/
structure BoundTool (m : Type → Type) where
  tool : Tool
  schema? : Option Schema.Compiled
  handler? : Option (Handler m)

namespace BoundTool

variable {m : Type → Type}

/-- The schema of the arguments of a tool. -/
def compileSchema (t : Tool) : Except Schema.CompileError Schema.Compiled :=
  Schema.compile (.object t.parameters)

def ofTool (t : Tool) (handler? : Option (Handler m)) : BoundTool m :=
  ⟨t, (compileSchema t).toOption, handler?⟩

def name (b : BoundTool m) : String := b.tool.name

def bind (b : BoundTool m) (h : Handler m) : BoundTool m := { b with handler? := some h }

def isBound (b : BoundTool m) : Bool := b.handler?.isSome

/-- A tool as a log shows it. -/
def shown (b : BoundTool m) : String :=
  "ExecutableTool \x7b name: " ++ Text.quoted b.name ++ ", bound: "
    ++ (if b.isBound then "true" else "false") ++ ", .. \x7d"

/-- Arguments pass where no schema compiles. -/
def checkArguments (b : BoundTool m) (args : Members) : Except ToolError Unit :=
  match b.schema? with
  | none => pure ()
  | some s =>
    match s.violations (.object args) with
    | [] => pure ()
    | vs => throw (.invalidArguments b.name vs)

/-- Runs the handler on arguments that pass; a missing handler is told first. -/
def invoke [Monad m] (b : BoundTool m) (args : Members) : m (Except ToolError String) :=
  match b.handler? with
  | none => pure (throw (.missingHandler b.name))
  | some h =>
    match b.checkArguments args with
    | .error e => pure (throw e)
    | .ok () => h args

/-- The tool as a function that a model may call. -/
def functionSchema (b : BoundTool m) : Json :=
  .object [("type", .string "function"),
    ("function", .object [("name", .string b.tool.name),
      ("description", .string b.tool.description), ("parameters", .object b.tool.parameters)])]

end BoundTool

/-- The tools that a prompt offers. -/
structure Toolset (m : Type → Type) where
  tools : List (BoundTool m) := []
  policy : ToolPolicy := {}

def Toolset.names {m : Type → Type} (s : Toolset m) : List String := s.tools.map (·.name)

def Toolset.get? {m : Type → Type} (s : Toolset m) (name : String) : Option (BoundTool m) :=
  s.tools.find? (·.name == name)

namespace Toolbox

/-- What becomes of a tool that a prompt asks for. -/
inductive Choice where
  | blocked (name : String)
  | undefined (name : String)
  | chosen (tool : Tool)

/-- The chosen tool of a choice. -/
def Choice.tool? : Choice → Option Tool
  | .chosen t => some t
  | _ => none

/-- The names that a prompt asks for; all tools of the pack when it names none. -/
def candidates (pack : Pack) (p : Prompt) : List String :=
  if p.tools.isEmpty then pack.tools.map (·.name) else p.tools

/-- A choice for each name, but for those already taken. -/
def choices (pack : Pack) (policy : ToolPolicy) (taken : List String) :
    List String → List Choice
  | [] => []
  | n :: rest =>
    if policy.blocks n then .blocked n :: choices pack policy taken rest
    else if n ∈ taken then choices pack policy taken rest
    else
      match pack.tool? n with
      | none => .undefined n :: choices pack policy taken rest
      | some t => .chosen t :: choices pack policy (n :: taken) rest

def choicesFor (pack : Pack) (p : Prompt) : List Choice :=
  choices pack p.policy [] (candidates pack p)

def notice? (prompt : String) : Choice → Option Notice
  | .blocked n => some (.toolBlocked prompt n)
  | .undefined n => some (.toolUndefined prompt n)
  | .chosen t =>
    match BoundTool.compileSchema t with
    | .ok _ => none
    | .error e => some (.schemaUnusable t.name e.message)

/-- The tools of a prompt with their handlers. -/
def select {m : Type → Type} (pack : Pack) (prompt : String) (handlers : Registry m) :
    Traced ToolError (Toolset m) :=
  match pack.prompt? prompt with
  | none => throw (.unknownPrompt prompt)
  | some p => do
    let cs := choicesFor pack p
    Traced.noteAll (cs.filterMap (notice? prompt))
    let tools := (cs.filterMap Choice.tool?).map fun t =>
      BoundTool.ofTool t (handlers.get? t.name)
    Traced.note (.toolsSelected prompt tools.length (tools.countP (·.isBound)))
    pure ⟨tools, p.policy⟩

end Toolbox

end PromptKit
