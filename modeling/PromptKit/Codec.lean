import PromptKit.Render
import PromptKit.Source
import PromptKit.Toolbox

/-!
The values of this library as JSON documents, and back.

Each pair of `read` and `toJson` belongs to one type. Words and records are read by the rules of
`Shape`; what a record may leave out takes its default.
-/

namespace PromptKit

open Shape

/-- The words of a type by their names. -/
def named {α : Type} (name : α → String) (all : List α) : List (String × α) :=
  all.map fun a => (name a, a)

def Value.read (v : Json) : Result Value :=
  match Value.ofJson? v with
  | some w => pure w
  | none => throw (.noVariant "Value")

def ValueType.read : Json → Result ValueType := word (named ValueType.name ValueType.all)

def ToolChoice.read : Json → Result ToolChoice := word (named ToolChoice.name ToolChoice.all)

def Role.read : Json → Result Role := word (named Role.name [.system, .user])

def Strictness.read : Json → Result Strictness :=
  word (named Strictness.name [.lenient, .strict])

def SourceFormat.read : Json → Result SourceFormat :=
  word (named SourceFormat.name [.auto, .json, .yaml])

namespace Tool

def read (v : Json) : Result Tool := do
  let ms ← record "ToolDefinition"
    [field "name" string, field "description" string, field "parameters" map] v
  let name ← get ms "name" string
  let description ← get ms "description" string
  let parameters ← get ms "parameters" map
  pure ⟨name, description, parameters⟩

def toJson (t : Tool) : Json :=
  .object [("name", .string t.name), ("description", .string t.description),
    ("parameters", .object t.parameters)]

end Tool

namespace ChatMessage

def read (v : Json) : Result ChatMessage := do
  let ms ← record "ChatMessage" [field "role" Role.read, field "content" string] v
  let role ← get ms "role" Role.read
  let content ← get ms "content" string
  pure ⟨role, content⟩

def toJson (m : ChatMessage) : Json :=
  .object [("role", .string m.role.name), ("content", .string m.content)]

end ChatMessage

namespace RenderOptions

def read (v : Json) : Result RenderOptions := do
  let ms ← record "RenderOptions"
    [field? "strictness" Strictness.read, field? "model" (optional string)] v
  let o : RenderOptions := {}
  let strictness ← getD ms "strictness" Strictness.read o.strictness
  let model ← getD ms "model" (optional string) o.model
  pure ⟨strictness, model⟩

def toJson (o : RenderOptions) : Json :=
  .object [("strictness", .string o.strictness.name), ("model", o.model.elim .null .string)]

end RenderOptions

namespace LoaderConfig

def read (v : Json) : Result LoaderConfig := do
  let ms ← record "LoaderConfig"
    [field? "format" SourceFormat.read, field? "max_source_bytes" (optional count64)] v
  let c : LoaderConfig := {}
  let format ← getD ms "format" SourceFormat.read c.format
  let maxBytes ← getD ms "max_source_bytes" (optional count64) c.maxBytes
  pure ⟨format, maxBytes⟩

def toJson (c : LoaderConfig) : Json :=
  .object [("format", .string c.format.name), ("max_source_bytes", c.maxBytes.elim .null .nat)]

end LoaderConfig

end PromptKit
