import PromptKit.Fault

/-!
Objects of a document and typed access to their members.

A member that is null counts as absent. Every failure names the field that is to blame.
-/

namespace PromptKit.Document

/-- An object with its place in the document. -/
structure Node where
  members : Members
  path : FieldPath

namespace Node

abbrev Result (α : Type) := Except PackError α

/-- Refuses the node at a path. -/
def reject {α : Type} (path : FieldPath) (fault : Fault) : Result α :=
  throw (.invalid path fault)

/-- Refuses the node at a path in one case. -/
def rejectIf (bad : Bool) (path : FieldPath) (fault : Fault) : Result Unit :=
  if bad then reject path fault else pure ()

/-- A name that is given beside a key has to repeat it. -/
def repeats (path : FieldPath) (key : String) (fault : String → String → Fault) :
    Option String → Result Unit
  | some name => rejectIf (name != key) path (fault name key)
  | none => pure ()

/-- A check of something that stands at a path. -/
def placed (path : FieldPath) (check : Except Fault Unit) : Result Unit :=
  check.mapError (.invalid path)

/-- A shape that is read from the value at a path. -/
def shaped {α : Type} (path : FieldPath) (read : Except ShapeError α) : Result α :=
  read.mapError fun e => .invalid path (.shape e)

def child (n : Node) (key : String) : FieldPath := n.path.key key

def object (v : Json) (path : FieldPath) : Result Node :=
  match v with
  | .object ms => pure ⟨ms, path⟩
  | v => reject path (.kind .object v.kind)

/-- A member that is there. -/
def required (n : Node) (key : String) : Result Json :=
  match n.members.present? key with
  | some v => pure v
  | none => reject (n.child key) .required

/-- A member of some kind, if it is there. -/
def optional {α : Type} (n : Node) (key : String) (wanted : Wanted) (read : Json → Option α) :
    Result (Option α) :=
  match n.members.present? key with
  | none => pure none
  | some v =>
    match read v with
    | some a => pure (some a)
    | none => reject (n.child key) (.kind wanted v.kind)

def string? : Json → Option String
  | .string s => some s
  | _ => none

def requiredString (n : Node) (key : String) : Result String := do
  match ← n.required key with
  | .string s => pure s
  | v => reject (n.child key) (.kind .string v.kind)

def optionalString (n : Node) (key : String) : Result (Option String) :=
  n.optional key .string string?

def optionalBool (n : Node) (key : String) : Result (Option Bool) :=
  n.optional key .boolean fun
    | .bool b => some b
    | _ => none

def optionalNumber (n : Node) (key : String) : Result (Option Float) :=
  n.optional key .number fun
    | .number x => some x.toFloat
    | _ => none

/-- A whole number that is not negative; no double is one. -/
def optionalCount (n : Node) (key : String) : Result (Option Nat) :=
  match n.members.present? key with
  | none => pure none
  | some (.number x) =>
    match x.toCount? with
    | some k => pure (some k)
    | none => reject (n.child key) (.notCount (.number x))
  | some v => reject (n.child key) (.kind .count v.kind)

def optionalArray (n : Node) (key : String) : Result (Option (List Json)) :=
  n.optional key .array fun
    | .array vs => some vs
    | _ => none

def optionalObject (n : Node) (key : String) : Result (Option Node) :=
  n.optional key .object fun
    | .object ms => some ⟨ms, n.child key⟩
    | _ => none

/-- What an object gives, or something else where none is there. -/
def ofObject {α : Type} (n : Node) (key : String) (absent : α) (read : Node → Result α) :
    Result α := do
  match ← n.optionalObject key with
  | some m => read m
  | none => pure absent

def requiredObject (n : Node) (key : String) : Result Node := do
  object (← n.required key) (n.child key)

/-- The items of a list, each with its index. -/
def indexed (vs : List Json) : List (Nat × Json) := (List.range vs.length).zip vs

/-- A list of strings; without one it is empty. -/
def stringList (n : Node) (key : String) : Result (List String) := do
  match ← n.optionalArray key with
  | none => pure []
  | some vs =>
    (indexed vs).mapM fun iv =>
      match iv.2 with
      | .string s => pure s
      | v => reject ((n.child key).index iv.1) (.kind .string v.kind)

end Node

end PromptKit.Document
