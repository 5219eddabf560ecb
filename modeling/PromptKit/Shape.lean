import PromptKit.Text.Quoted

/-!
Reading JSON nodes into records, words and counts.

A record is read from an object, or from an array that lists its fields in order. The members
of an object are read in the order of the document, so the first member with a wrong value is
reported before any missing one; unknown members are skipped.
-/

namespace PromptKit

/-- Why a node has not the shape that is asked for. -/
inductive ShapeError where
  | wrongType (found : Json) (expected : String)
  | outOfRange (n : Int) (expected : String)
  | missing (field : String)
  | tooMany (present : Nat)
  | tooFew (present : Nat) (record : String) (fields : Nat)
  | unknownWord (word : String) (known : List String)
  | notOneMember
  | noVariant (type : String)

namespace ShapeError

/-- A node as a message names it. -/
def found : Json → String
  | .null => "null"
  | .bool b => "boolean `" ++ (if b then "true" else "false") ++ "`"
  | .number (.int n) => "integer `" ++ toString n.val ++ "`"
  | .number (.float x _) => "floating point `" ++ Decimal.compact.write x ++ "`"
  | .string s => "string " ++ Text.quoted s
  | .array _ => "sequence"
  | .object _ => "map"

def backticked (s : String) : String := "`" ++ s ++ "`"

/-- The words that would have been known. -/
def choices : List String → String
  | [a, b] => backticked a ++ " or " ++ backticked b
  | [a] => backticked a
  | ws => "one of " ++ ", ".intercalate (ws.map backticked)

def message : ShapeError → String
  | wrongType v expected => "invalid type: " ++ found v ++ ", expected " ++ expected
  | outOfRange n expected =>
    "invalid value: integer " ++ backticked (toString n) ++ ", expected " ++ expected
  | missing field => "missing field " ++ backticked field
  | tooMany n => "invalid length " ++ toString n ++ ", expected fewer elements in array"
  | tooFew n record fields =>
    "invalid length " ++ toString n ++ ", expected struct " ++ record ++ " with "
      ++ toString fields ++ (if fields = 1 then " element" else " elements")
  | unknownWord w known => "unknown variant " ++ backticked w ++ ", expected " ++ choices known
  | notOneMember => "invalid value: map, expected map with a single key"
  | noVariant type => "data did not match any variant of untagged enum " ++ type

end ShapeError

namespace Shape

abbrev Result (α : Type) := Except ShapeError α

def string : Json → Result String
  | .string s => pure s
  | v => throw (.wrongType v "a string")

def bool : Json → Result Bool
  | .bool b => pure b
  | v => throw (.wrongType v "a boolean")

/-- A whole number below a limit, which the message calls `name`. -/
def count (name : String) (limit : Nat) : Json → Result Nat
  | .number (.int n) =>
    if 0 ≤ n.val ∧ n.val < limit then pure n.toNat else throw (.outOfRange n.val name)
  | v => throw (.wrongType v name)

def count32 : Json → Result Nat := count "u32" (Nat.pow 2 32)

def count64 : Json → Result Nat := count "usize" (Nat.pow 2 64)

def map : Json → Result Members
  | .object ms => pure ms
  | v => throw (.wrongType v "a map")

def list {α : Type} (item : Json → Result α) : Json → Result (List α)
  | .array vs => vs.mapM item
  | v => throw (.wrongType v "a sequence")

/-- Null reads as absent. -/
def optional {α : Type} (item : Json → Result α) : Json → Result (Option α)
  | .null => pure none
  | v => some <$> item v

/-- One of some words, written as a string or as the only member of an object, with null. -/
def word {α : Type} (known : List (String × α)) (v : Json) : Result α := do
  let pick (w : String) : Result α :=
    match known.find? (·.1 == w) with
    | some (_, a) => pure a
    | none => throw (.unknownWord w (known.map (·.1)))
  match v with
  | .string w => pick w
  | .object [(w, content)] =>
    let a ← pick w
    match content with
    | .null => pure a
    | c => throw (.wrongType c "unit")
  | .object _ => throw .notOneMember
  | v => throw (.wrongType v "string or map")

/-- The name of a field, whether it may be missing, and a check of its value. -/
structure Field where
  name : String
  mayMiss : Bool
  check : Json → Result Unit

def field {α : Type} (name : String) (read : Json → Result α) : Field :=
  ⟨name, false, fun v => do let _ ← read v⟩

/-- A field that may be missing. -/
def field? {α : Type} (name : String) (read : Json → Result α) : Field :=
  ⟨name, true, fun v => do let _ ← read v⟩

/-- Pairs the fields with the elements of an array. -/
def fromArray (record : String) (fields : List Field) (vs : List Json) : Result Members := do
  for (f, v) in fields.zip vs do f.check v
  match (fields.drop vs.length).findIdx? (!·.mayMiss) with
  | some i => throw (.tooFew (vs.length + i) record fields.length)
  | none =>
    if fields.length < vs.length then throw (.tooMany vs.length)
    else pure ((fields.map (·.name)).zip vs)

/-- Checks the members of an object in their order. -/
def fromObject (fields : List Field) (ms : Members) : Result Members := do
  for (k, v) in ms do
    match fields.find? (·.name == k) with
    | some f => f.check v
    | none => pure ()
  match fields.find? fun f => !f.mayMiss && (ms.get? f.name).isNone with
  | some f => throw (.missing f.name)
  | none => pure ms

/-- The checked members of a record. -/
def record (name : String) (fields : List Field) : Json → Result Members
  | .array vs => fromArray name fields vs
  | .object ms => fromObject fields ms
  | v => throw (.wrongType v ("struct " ++ name))

/-- Reads a field of a checked record. -/
def get {α : Type} (ms : Members) (name : String) (read : Json → Result α) : Result α :=
  match ms.get? name with
  | some v => read v
  | none => throw (.missing name)

/-- Reads a field that may be missing. -/
def getD {α : Type} (ms : Members) (name : String) (read : Json → Result α) (default : α) :
    Result α :=
  match ms.get? name with
  | some v => read v
  | none => pure default

end Shape

end PromptKit
