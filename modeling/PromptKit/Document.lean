import PromptKit.Document.Prompts
import PromptKit.Pack

/-!
Packs as documents describe them.

`readPack` checks every field in a fixed order, so the first fault of a document is the one that
is told. Fields that it does not know are skipped.
-/

namespace PromptKit.Document

open Node (reject rejectIf placed shaped)

/-- What an engine holds: its version and the text on its delimiters. -/
def engineShape (v : Json) : Shape.Result (String × String) := do
  let ms ← Shape.record "TemplateEngineDto"
    [Shape.field "version" Shape.string, Shape.field "syntax" Shape.string] v
  pure (← Shape.get ms "version" Shape.string, ← Shape.get ms "syntax" Shape.string)

def readEngine (path : FieldPath) (v : Json) : Node.Result Engine := do
  let (version, marker) ← shaped path (engineShape v)
  match Engine.ofMarker? version marker with
  | some e => pure e
  | none => reject (path.key "syntax") (.marker marker)

/-- The engine of a pack; one that is left out has double braces. -/
def readEngineOf (root : Node) : Node.Result Engine :=
  match root.members.present? "template_engine" with
  | some v => readEngine (root.child "template_engine") v
  | none => pure {}

def readFragments (root : Node) : Node.Result (NameMap String) :=
  root.ofObject "fragments" .empty fun n => do
    let all ← n.members.mapM fun m => do pure (m.1, ← n.requiredString m.1)
    pure (NameMap.ofList all)

/-- What a tool holds: a name, a description and the schema of its arguments. -/
def toolShape (v : Json) : Shape.Result (Option String × String × Option Members) := do
  let text := Shape.optional Shape.string
  let map := Shape.optional Shape.map
  let ms ← Shape.record "ToolDto" [Shape.field? "name" text,
    Shape.field "description" Shape.string, Shape.field? "parameters" map] v
  let name ← Shape.getD ms "name" text none
  let description ← Shape.get ms "description" Shape.string
  let parameters ← Shape.getD ms "parameters" map none
  pure (name, description, parameters)

/-- A schema for arguments does not ask for anything but an object. -/
def checkSchemaType (path : FieldPath) (ps : Members) : Node.Result Unit :=
  match ps.get? "type" with
  | some type => rejectIf (type != .string "object") (path.key "type") (.toolSchemaType type)
  | none => pure ()

/-- Reads a tool under its key. -/
def readTool (path : FieldPath) (m : String × Json) : Node.Result Tool := do
  let here := path.key m.1
  let (name, description, parameters) ← shaped here (toolShape m.2)
  placed here (Name.checkSymbol m.1)
  Node.repeats (here.key "name") m.1 .toolName name
  rejectIf (Text.allBlank description) (here.key "description") .emptyDescription
  let parameters := parameters.getD Tool.noParameters
  checkSchemaType (here.key "parameters") parameters
  pure ⟨m.1, description, parameters⟩

def readTools (root : Node) : Node.Result (List Tool) :=
  root.ofObject "tools" [] fun n => n.members.mapM (readTool n.path)

/-- Reads the prompts one after the other. -/
def readPrompts (toolNames : List String) (n : Node) :
    List String → Traced PackError (List (String × Prompt))
  | [] => pure []
  | name :: rest => do
    let p ← readPrompt toolNames (← n.requiredObject name)
    pure ((name, p) :: (← readPrompts toolNames n rest))

def readRoot (root : Node) : Traced PackError Pack := do
  let id ← root.requiredString "id"
  placed (root.child "id") (Name.checkPackId id)
  let name ← root.requiredString "name"
  placed (root.child "name") (Name.checkDisplayName name)
  let version ← root.requiredString "version"
  placed (root.child "version") (Version.check version)
  let description ← root.optionalString "description"
  let engine ← readEngineOf root
  let fragments ← readFragments root
  let tools ← readTools root
  let prompts ← root.requiredObject "prompts"
  rejectIf prompts.members.isEmpty prompts.path .noPrompts
  let prompts ← readPrompts (tools.map (·.name)) prompts (prompts.members.map (·.1))
  let pack : Pack :=
    { id, name, version, description, engine, fragments
      tools := Pack.placeTools tools
      prompts := NameMap.ofList prompts }
  Traced.note (.packParsed id pack.prompts.size pack.tools.length pack.fragments.size)
  pure pack

/-- The pack that a document describes. -/
def readPack (doc : Json) : Traced PackError Pack :=
  match doc with
  | .object ms => readRoot ⟨ms, .root⟩
  | v => throw (.malformed (.notObject v.kind))

end PromptKit.Document
