import PromptKit.Resolution

/-!
Prompts with the values of their variables put in.

A text is scanned once after its fragments are in place; a value is never scanned. What has no
value stays as it is written, or is an error where strictness is asked for.
-/

namespace PromptKit

/-- What becomes of a placeholder without a value. -/
inductive Strictness where
  | lenient
  | strict
deriving DecidableEq, Repr, Inhabited

def Strictness.name : Strictness → String
  | .lenient => "lenient"
  | .strict => "strict"

structure RenderOptions where
  strictness : Strictness := .lenient
  /-- The model whose changes to a prompt count. -/
  model : Option String := none
deriving DecidableEq, Repr, Inhabited

/-- Who speaks in a message. -/
inductive Role where
  | system
  | user
deriving DecidableEq, Repr

def Role.name : Role → String
  | .system => "system"
  | .user => "user"

structure ChatMessage where
  role : Role
  content : String
deriving DecidableEq, Repr

inductive RenderError where
  | missingVariable (name : String)
  | invalidVariable (name reason : String)
  | undefinedPlaceholder (name : String)
  | undefinedFragment (name : String)
  | unknownPrompt (name : String)
  | resolution (cause : ResolutionError)
deriving DecidableEq, Repr

def RenderError.message : RenderError → String
  | .missingVariable name => "missing required variable: " ++ name
  | .invalidVariable name reason => "invalid value for variable `" ++ name ++ "`: " ++ reason
  | .undefinedPlaceholder name => "undefined variable: " ++ name
  | .undefinedFragment name => "undefined fragment: " ++ name
  | .unknownPrompt name => "unknown prompt: " ++ name
  | .resolution cause => cause.message

/-- The error of an issue with the inputs. -/
def RenderError.ofIssue (i : Inputs.Issue) : RenderError :=
  match i.problem with
  | .missing => .missingVariable i.name
  | _ => .invalidVariable i.name i.reason

namespace Render

abbrev Result (α : Type) := Traced RenderError α

/-- A segment with its value in place, if it has one. -/
def filled (d : Delimiters) (values : NameMap String) (s : Segment) : List Char :=
  match s with
  | .slot name => ((values.get? name).map (·.toList)).getD (s.raw d)
  | s => s.raw d

/-- The error of a placeholder that has no value. -/
def undefined? (values : NameMap String) : Segment → Option RenderError
  | .text _ => none
  | .slot name => if values.contains name then none else some (.undefinedPlaceholder name)
  | .fragment name => some (.undefinedFragment name)

/-- The note on a place for a variable that has no value. -/
def notice? (values : NameMap String) : Segment → Option Notice
  | .slot name => if values.contains name then none else some (.unknownPlaceholder name)
  | _ => none

/-- Puts values into segments. -/
def substitute (d : Delimiters) (values : NameMap String) (strictness : Strictness)
    (segments : List Segment) : Result String := do
  match strictness, segments.findSome? (undefined? values) with
  | .strict, some e => throw e
  | _, _ =>
    Traced.noteAll (segments.filterMap (notice? values))
    pure (String.ofList (segments.flatMap (filled d values)))

/-- Resolves a template and puts values into the result. -/
def fill (r : Resolver) (strictness : Strictness) (values : NameMap String) (template : String) :
    Result String := do
  let resolution := r.resolve template
  let text ← (⟨resolution.result.mapError .resolution, resolution.notices⟩ : Result String)
  substitute r.delimiters values strictness (r.scan text)

/-- The values for a prompt, unless an input is missing or wrong; the first issue counts. -/
def valuesFor (p : Prompt) (inputs : Inputs) : Result (NameMap String) :=
  match inputs.check p.declared with
  | i :: _ => throw (.ofIssue i)
  | [] => pure (inputs.textsFor p.declared)

/-- The template that stands for a whole prompt. -/
def mainTemplate (p : Prompt) (model : Option String) : String :=
  ((p.systemFor model) <|> p.user).getD ""

def promptNamed (pack : Pack) (name : String) : Result Prompt :=
  match pack.prompt? name with
  | some p => pure p
  | none => throw (.unknownPrompt name)

/-- The text of a prompt at hand. -/
def promptText (pack : Pack) (o : RenderOptions) (p : Prompt) (inputs : Inputs) :
    Result String := do
  let values ← valuesFor p inputs
  let text ← fill (.ofPack pack) o.strictness values (mainTemplate p o.model)
  Traced.note (.promptRendered p.id text.utf8ByteSize)
  pure text

/-- The text of the prompt of a name. -/
def prompt (pack : Pack) (o : RenderOptions) (name : String) (inputs : Inputs) :
    Result String := do
  promptText pack o (← promptNamed pack name) inputs

/-- The message of a template, if there is one. -/
def message? (pack : Pack) (o : RenderOptions) (values : NameMap String) (role : Role) :
    Option String → Result (List ChatMessage)
  | none => pure []
  | some template => do
    pure [⟨role, ← fill (.ofPack pack) o.strictness values template⟩]

/-- The messages of a prompt, one for each template that it has. -/
def messages (pack : Pack) (o : RenderOptions) (name : String) (inputs : Inputs) :
    Result (List ChatMessage) := do
  let p ← promptNamed pack name
  let values ← valuesFor p inputs
  let system ← message? pack o values .system (p.systemFor o.model)
  let user ← message? pack o values .user p.user
  let all := system ++ user
  Traced.note (.messagesRendered p.id all.length)
  pure all

/-- The text of a template of no prompt, into which every input is put. -/
def template (pack : Pack) (o : RenderOptions) (text : String) (inputs : Inputs) :
    Result String :=
  fill (.ofPack pack) o.strictness inputs.texts text

/-- The text of a template with fragments of its own. -/
def freeText (text : String) (fragments : NameMap String) (inputs : Inputs) : Result String :=
  fill { fragments := fragments } .lenient inputs.texts text

end Render

end PromptKit
