import PromptKit.Decimal.Reading
import PromptKit.Fault
import PromptKit.Schema

/-!
Validators of the text that a model gives back.

A validator has a kind, the parameters of that kind, and two flags: whether it runs, and
whether its violations block the text.
-/

namespace PromptKit

inductive ValidatorKind where
  | bannedWords
  | maxLength
  | minLength
  | regexMatch
  | jsonSchema
deriving DecidableEq, Repr

namespace ValidatorKind

def name : ValidatorKind → String
  | .bannedWords => "banned_words"
  | .maxLength => "max_length"
  | .minLength => "min_length"
  | .regexMatch => "regex_match"
  | .jsonSchema => "json_schema"

/-- A kind as a log shows it. -/
def shown : ValidatorKind → String
  | .bannedWords => "BannedWords"
  | .maxLength => "MaxLength"
  | .minLength => "MinLength"
  | .regexMatch => "RegexMatch"
  | .jsonSchema => "JsonSchema"

def all : List ValidatorKind := [.bannedWords, .maxLength, .minLength, .regexMatch, .jsonSchema]

def ofName? (s : String) : Option ValidatorKind := all.find? (·.name == s)

theorem name_of_ofName? {s : String} {k : ValidatorKind} (h : ofName? s = some k) :
    k.name = s := by
  simpa using List.find?_some h

/-- The names of all kinds. -/
def names : List String := all.map name

end ValidatorKind

inductive ValidatorParams where
  | bannedWords (words : List String)
  | maxLength (characters : Nat)
  | minLength (characters : Nat)
  /-- A match is asked for, or else forbidden. -/
  | regexMatch (pattern : Regex) (wanted : Bool)
  | jsonSchema (schema : Schema.Compiled)

def ValidatorParams.kind : ValidatorParams → ValidatorKind
  | .bannedWords _ => .bannedWords
  | .maxLength _ => .maxLength
  | .minLength _ => .minLength
  | .regexMatch .. => .regexMatch
  | .jsonSchema _ => .jsonSchema

structure Validator where
  params : ValidatorParams
  enabled : Bool := true
  blocking : Bool := false

namespace ValidatorParams

/-- A field to blame and what is wrong with it. -/
abbrev Result (α : Type) := Except (String × Fault) α

/-- A fault of a field. -/
def blame {α : Type} (key : String) (fault : Fault) : Result α := throw (key, fault)

def readPattern (source : String) : Result Regex :=
  match Regex.compile source with
  | .ok r => pure r
  | .error e => blame "pattern" (.validatorPattern source e.message)

def readSchema (source : Json) : Result Schema.Compiled :=
  match Schema.compile source with
  | .ok s => pure s
  | .error e => blame "schema" (.validatorSchema e.message)

/-- A list of parameters may hold numbers where words are asked for. -/
def wordOf? : Json → Option String
  | .string s => some s
  | .number n => some n.compact
  | _ => none

/-- The largest count that a double may give. -/
def maxFloatCount : Float := 4294967295

/-- The count in a text, with blanks around it and a plus sign before it allowed. -/
def countOfText? (s : String) : Option Nat :=
  let cs := Text.trim s.toList
  let digits := match cs with
    | '+' :: ds => ds
    | _ => cs
  (Decimal.natural? digits).filter (· < Nat.pow 2 64)

/-- The count that a value stands for: a whole number, a whole double, or a text of digits. -/
def countOf? : Json → Option Nat
  | .number n =>
    match n.toCount? with
    | some k => some k
    | none =>
      let x := n.toFloat
      if 0 ≤ x && x.floor == x && x ≤ maxFloatCount then some x.toUInt64.toNat else none
  | .string s => countOfText? s
  | _ => none

def readCount (ms : Members) (key : String) : Result Nat :=
  match ms.get? key with
  | none => blame key (.itemMissing key)
  | some v =>
    match countOf? v with
    | some n => pure n
    | none => blame key (.notCount v)

/-- The flag that a value stands for; one that is left out is true. -/
def readFlag (ms : Members) (key : String) : Result Bool :=
  match ms.get? key with
  | none | some .null => pure true
  | some (.bool b) => pure b
  | some (.string s) =>
    match Text.lowerAscii s with
    | "true" => pure true
    | "false" => pure false
    | _ => blame key (.flagText s)
  | some v => blame key (.kind .boolean v.kind)

/-- The words of a list; the fault of an item is found by its index. -/
def readWords (path : FieldPath) : Nat → List Json → Except PackError (List String)
  | _, [] => pure []
  | i, v :: rest =>
    match wordOf? v with
    | some w => do pure (w :: (← readWords path (i + 1) rest))
    | none => throw (.misconfigured (path.index i) (.kind .string v.kind))

/-- Puts a fault at the field of some parameters. -/
def located {α : Type} (path : FieldPath) : Result α → Except PackError α
  | .ok a => pure a
  | .error (key, fault) => throw (.misconfigured (path.key key) fault)

/-- The parameters of a kind, as a document gives them at a path. -/
def read (kind : ValidatorKind) (ms : Members) (path : FieldPath) :
    Except PackError ValidatorParams :=
  match kind with
  | .bannedWords =>
    let path := path.key "words"
    match ms.get? "words" with
    | none | some .null => pure (.bannedWords [])
    | some (.string w) => pure (.bannedWords [w])
    | some (.array vs) => do pure (.bannedWords (← readWords path 0 vs))
    | some v => throw (.misconfigured path (.kind .words v.kind))
  | .maxLength => located path do pure (.maxLength (← readCount ms "max_characters"))
  | .minLength => located path do pure (.minLength (← readCount ms "min_characters"))
  | .regexMatch => located path do
    let pattern ← match ms.get? "pattern" with
      | some (.string s) => readPattern s
      | some v => blame "pattern" (.kind .string v.kind)
      | none => blame "pattern" (.itemMissing "pattern")
    pure (.regexMatch pattern (← readFlag ms "must_match"))
  | .jsonSchema => located path do
    let schema ← match ms.get? "schema" with
      | some (.object s) => readSchema (.object s)
      | some (.bool b) => readSchema (.bool b)
      | some v => blame "schema" (.kind .schema v.kind)
      | none => blame "schema" (.itemMissing "schema")
    pure (.jsonSchema schema)

end ValidatorParams

namespace Validator

def kind (v : Validator) : ValidatorKind := v.params.kind

/-- The validator that an entry of a document describes. -/
def ofConfig (kind : String) (enabled blocking : Bool) (params : Members) (path : FieldPath) :
    Except PackError Validator :=
  match ValidatorKind.ofName? kind with
  | none => throw (.misconfigured (path.key "type") (.validatorType kind ValidatorKind.names))
  | some k => do
    pure ⟨← ValidatorParams.read k params (path.key "params"), enabled, blocking⟩

def bannedWords (words : List String) : Validator := ⟨.bannedWords words, true, false⟩

def maxLength (characters : Nat) : Validator := ⟨.maxLength characters, true, false⟩

def minLength (characters : Nat) : Validator := ⟨.minLength characters, true, false⟩

def regexMatch (pattern : String) (wanted : Bool) : Except PackError Validator :=
  ValidatorParams.located .root do
    pure ⟨.regexMatch (← ValidatorParams.readPattern pattern) wanted, true, false⟩

def jsonSchema (schema : Json) : Except PackError Validator :=
  ValidatorParams.located .root do
    pure ⟨.jsonSchema (← ValidatorParams.readSchema schema), true, false⟩

end Validator

end PromptKit
