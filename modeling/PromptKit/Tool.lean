import PromptKit.Json.Printer
import PromptKit.NameMap

/-!
Tools that a model may be offered, and the policy of a prompt on their use.
-/

namespace PromptKit

/-- A tool with the JSON schema of its arguments. -/
structure Tool where
  name : String
  description : String
  parameters : Members

namespace Tool

/-- The schema of an object without members. -/
def noParameters : Members := [("type", .string "object"), ("properties", .object [])]

/-- The names that the schema lists as required. -/
def requiredParameters (t : Tool) : List String :=
  match t.parameters.get? "required" with
  | some (.array vs) => vs.filterMap fun v => match v with
    | .string s => some s
    | _ => none
  | _ => []

end Tool

/-- How a model is asked to use tools. -/
inductive ToolChoice where
  | auto
  | required
  | none
deriving DecidableEq, Repr

namespace ToolChoice

def name : ToolChoice → String
  | .auto => "auto"
  | .required => "required"
  | .none => "none"

def all : List ToolChoice := [.auto, .required, .none]

def ofName? (s : String) : Option ToolChoice := all.find? (·.name == s)

end ToolChoice

/-- What a prompt says on tools. The counts are at least one. -/
structure ToolPolicy where
  choice : ToolChoice := .auto
  maxRounds : Nat := 5
  maxCallsPerTurn : Nat := 10
  blocklist : NameSet := .empty

namespace ToolPolicy

/-- A change to a policy. -/
inductive Edit where
  | choose (choice : ToolChoice)
  | maxRounds (n : Nat)
  | maxCallsPerTurn (n : Nat)
  | block (names : List String)

/-- Carries out a change; a count of zero is taken as one. -/
def edit (p : ToolPolicy) : Edit → ToolPolicy
  | .choose c => { p with choice := c }
  | .maxRounds n => { p with maxRounds := max n 1 }
  | .maxCallsPerTurn n => { p with maxCallsPerTurn := max n 1 }
  | .block names => { p with blocklist := p.blocklist.addAll names }

def blocks (p : ToolPolicy) (tool : String) : Bool := p.blocklist.contains tool

/-- The document of a policy. -/
def toJson (p : ToolPolicy) : Json :=
  .object [("tool_choice", .string p.choice.name), ("max_rounds", .nat p.maxRounds),
    ("max_tool_calls_per_turn", .nat p.maxCallsPerTurn),
    ("blocklist", .array (p.blocklist.keys.map .string))]

end ToolPolicy

end PromptKit
