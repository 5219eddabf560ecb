import PromptKit.Schema.Metaschema.Draft2020
import PromptKit.Schema.Metaschema.Draft4
import PromptKit.Schema.Metaschema.Draft7
import PromptKit.Schema.Validate

/-!
Schemas of JSON values.

A schema compiles when its vocabulary admits it, every pattern in it can be read and every
reference leads somewhere. The vocabularies are schemas themselves; formats are asserted when
they judge a schema, whatever they do elsewhere.
-/

namespace PromptKit.Schema

/-- All vocabularies with their parts. -/
def metaschemas : List Json :=
  Metaschema.parts2020 ++ Metaschema.parts2019
    ++ [Metaschema.draft7, Metaschema.draft6, Metaschema.draft4]

/-- What documents hold, numbered from `n`. -/
def registryOf : Nat → List Json → Except CompileError Registry
  | _, [] => pure {}
  | n, doc :: rest => do
    let (_, first) ← Registry.ofDocument n .draft2020 doc
    pure (first ++ (← registryOf (n + 1) rest))

/-- The vocabularies by name, which every schema may refer to. -/
def published : Registry :=
  match registryOf 1 metaschemas with
  | .ok g => g
  | .error _ => {}

/-- The schema that judges the schemas of a draft: a reference to the vocabulary. -/
def judge? (d : Draft) : Option Compiled :=
  (compileBeside published true (Metaschema.reference d.uri)).toOption

def judges : List (Draft × Compiled) := Draft.all.filterMap fun d => (judge? d).map (d, ·)

/-- Whether the vocabulary of a draft admits a schema. -/
def isAdmitted (d : Draft) (doc : Json) : Bool :=
  match judges.find? (·.1 = d) with
  | some (_, c) => (c.violations doc).isEmpty
  | none => false

/-- Compiles a schema; flags need no judge. -/
def compile (doc : Json) : Except CompileError Compiled := do
  match doc with
  | .bool _ => pure ()
  | .object ms =>
    let d ← Draft.ofMembers .draft2020 ms
    if !isAdmitted d doc then throw .malformed
  | _ => throw .malformed
  compileBeside published false doc

end PromptKit.Schema
