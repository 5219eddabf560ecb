import PromptKit.NameMap
import PromptKit.Variable

/-!
The values that a caller gives for the variables of a prompt.

`check` gives at most one issue for each declared variable, in the order of declaration; values
without a declaration raise none.
-/

namespace PromptKit

abbrev Inputs := NameMap Value

/-- What is wrong with the value of a variable. -/
inductive Inputs.Problem where
  | missing
  | wrongType (expected found : ValueType)
  | rule (breach : Breach)

def Inputs.Problem.reason : Inputs.Problem → String
  | .missing => "required variable is missing"
  | .wrongType expected found => "expected " ++ expected.name ++ ", got " ++ found.name
  | .rule breach => breach.message

/-- A variable with what is wrong with it. -/
structure Inputs.Issue where
  name : String
  problem : Inputs.Problem

namespace Inputs

def Issue.reason (i : Issue) : String := i.problem.reason

def Issue.message (i : Issue) : String := "variable '" ++ i.name ++ "': " ++ i.reason

/-- The members of an object that are not null. -/
def ofMembers (ms : Members) : Inputs :=
  NameMap.ofList (ms.filterMap fun m => (Value.ofJson? m.2).map (m.1, ·))

def problem? (v : Variable) : Option Value → Option Problem
  | none => if v.isRequired then some .missing else none
  | some w => if w.isA v.type then (v.rules.check w).map .rule else some (.wrongType v.type w.type)

def issue? (inputs : Inputs) (v : Variable) : Option Issue :=
  (problem? v (inputs.get? v.name)).map (⟨v.name, ·⟩)

def check (inputs : Inputs) (vs : List Variable) : List Issue := vs.filterMap inputs.issue?

/-- One message for each issue. -/
def messages (inputs : Inputs) (vs : List Variable) : List String :=
  (inputs.check vs).map (·.message)

/-- The texts that every given value stands for. -/
def texts (inputs : Inputs) : NameMap String := inputs.map (·.text)

/-- The text of a variable: its value, else its default, else nothing. -/
def textOf (inputs : Inputs) (v : Variable) : String :=
  (inputs.get? v.name <|> v.default?).elim "" (·.text)

/-- The texts for the placeholders of a prompt. Without declarations every input counts, and
with them only the declared ones. -/
def textsFor (inputs : Inputs) (vs : List Variable) : NameMap String :=
  if vs.isEmpty then inputs.texts else NameMap.ofList (vs.map fun v => (v.name, inputs.textOf v))

end Inputs

end PromptKit
