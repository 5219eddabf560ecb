/-!
Where a field stands in a document, such as `prompts.support.variables[0].type`.
-/

namespace PromptKit

/-- One step down into a document. -/
inductive Step where
  | key (name : String)
  | index (i : Nat)
deriving DecidableEq, Repr

/-- The steps from the root of a document to a field. -/
structure FieldPath where
  steps : List Step := []
deriving DecidableEq, Repr, Inhabited

namespace FieldPath

def root : FieldPath := {}

def key (p : FieldPath) (name : String) : FieldPath := ⟨p.steps ++ [.key name]⟩

def index (p : FieldPath) (i : Nat) : FieldPath := ⟨p.steps ++ [.index i]⟩

def isRoot (p : FieldPath) : Bool := p.steps.isEmpty

/-- A step that is not the first. -/
def stepText : Step → String
  | .key name => "." ++ name
  | .index i => "[" ++ toString i ++ "]"

/-- Only the first step goes without a dot before its key. -/
def headText : Step → String
  | .key name => name
  | .index i => "[" ++ toString i ++ "]"

/-- The path as shown in a message. -/
def text (p : FieldPath) : String :=
  match p.steps with
  | [] => "<root>"
  | s :: rest => headText s ++ String.join (rest.map stepText)

@[simp] theorem steps_key (p : FieldPath) (name : String) :
    (p.key name).steps = p.steps ++ [.key name] := rfl

@[simp] theorem steps_index (p : FieldPath) (i : Nat) :
    (p.index i).steps = p.steps ++ [.index i] := rfl

end FieldPath

end PromptKit
