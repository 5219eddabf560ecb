import PromptKit.Json.Printer

/-!
The values that variables and parameters hold.

A value is a JSON value other than null. Its type is its outer shape; array items and object
members stay plain JSON.
-/

namespace PromptKit

/-- The type that a variable declares. -/
inductive ValueType where
  | string
  | number
  | boolean
  | array
  | object
deriving DecidableEq, Repr

namespace ValueType

def name : ValueType → String
  | .string => "string"
  | .number => "number"
  | .boolean => "boolean"
  | .array => "array"
  | .object => "object"

def all : List ValueType := [.string, .number, .boolean, .array, .object]

/-- The type of a given name. -/
def ofName? (s : String) : Option ValueType := all.find? (·.name == s)

theorem name_of_ofName? {s : String} {t : ValueType} (h : ofName? s = some t) : t.name = s := by
  simpa using List.find?_some h

end ValueType

inductive Value where
  | string (s : String)
  | number (n : Number)
  | bool (b : Bool)
  | array (items : List Json)
  | object (members : Members)
deriving Inhabited

namespace Value

/-- Null stands for an absent value. -/
def ofJson? : Json → Option Value
  | .null => none
  | .bool b => some (.bool b)
  | .number n => some (.number n)
  | .string s => some (.string s)
  | .array items => some (.array items)
  | .object members => some (.object members)

def toJson : Value → Json
  | .string s => .string s
  | .number n => .number n
  | .bool b => .bool b
  | .array items => .array items
  | .object members => .object members

def type : Value → ValueType
  | .string _ => .string
  | .number _ => .number
  | .bool _ => .boolean
  | .array _ => .array
  | .object _ => .object

/-- No value is converted to meet a type. -/
def isA (v : Value) (t : ValueType) : Bool := v.type = t

def string? : Value → Option String
  | .string s => some s
  | _ => none

def toFloat? : Value → Option Float
  | .number n => some n.toFloat
  | _ => none

/-- The text that takes the place of a placeholder: a string as it is, a container as compact
JSON. -/
def text : Value → String
  | .string s => s
  | .number n => n.canonical
  | .bool b => if b then "true" else "false"
  | .array items => (Json.array items).compact
  | .object members => (Json.object members).compact

@[simp] theorem ofJson?_toJson (v : Value) : ofJson? v.toJson = some v := by
  cases v <;> rfl

theorem ofJson?_eq_some_iff {w : Json} {v : Value} : ofJson? w = some v ↔ w = v.toJson := by
  constructor
  · intro h
    cases w with
    | null => cases h
    | _ =>
      obtain rfl := Option.some.inj h
      rfl
  · rintro rfl
    exact ofJson?_toJson v

end Value

end PromptKit
