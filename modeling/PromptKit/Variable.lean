import PromptKit.Regex
import PromptKit.Value

/-!
Variables of a prompt and the rules that their values keep.

A variable is required, or has a default, or is simply optional; a rule applies to the values
of the type that it speaks of.
-/

namespace PromptKit

/-- A rule that a value breaks. -/
inductive Breach where
  | pattern (source : String)
  | tooShort (length least : Nat)
  | tooLong (length most : Nat)
  | belowMinimum (x least : Float)
  | aboveMaximum (x most : Float)
  | notAllowed (options : List Json)

def Breach.message : Breach → String
  | .pattern source => "value does not match pattern: " ++ source
  | .tooShort length least =>
    "string too short: " ++ toString length ++ " < " ++ toString least
  | .tooLong length most => "string too long: " ++ toString length ++ " > " ++ toString most
  | .belowMinimum x least =>
    "value below minimum: " ++ Decimal.plain.write x ++ " < " ++ Decimal.plain.write least
  | .aboveMaximum x most =>
    "value above maximum: " ++ Decimal.plain.write x ++ " > " ++ Decimal.plain.write most
  | .notAllowed options => "value not in allowed values: " ++ (Json.array options).compact

structure VariableRules where
  /-- A match has to start at the first character. -/
  pattern : Option Regex := none
  minLength : Option Nat := none
  maxLength : Option Nat := none
  minimum : Option Float := none
  maximum : Option Float := none
  allowed : Option (List Json) := none
deriving Inhabited

namespace VariableRules

def isEmpty (r : VariableRules) : Bool :=
  r.pattern.isNone && r.minLength.isNone && r.maxLength.isNone && r.minimum.isNone
    && r.maximum.isNone && r.allowed.isNone

/-- The complaint, unless the condition holds. -/
def unlessHolds (ok : Bool) (b : Breach) : Option Breach := if ok then none else some b

def checkText (r : VariableRules) (s : String) : Option Breach :=
  (r.pattern.bind fun p => unlessHolds (p.matchesAtStart s) (.pattern p.source))
    <|> (r.minLength.bind fun n => unlessHolds (n ≤ s.length) (.tooShort s.length n))
    <|> (r.maxLength.bind fun n => unlessHolds (s.length ≤ n) (.tooLong s.length n))

def checkNumber (r : VariableRules) (x : Float) : Option Breach :=
  (r.minimum.bind fun m => unlessHolds (!(x < m)) (.belowMinimum x m))
    <|> (r.maximum.bind fun m => unlessHolds (!(m < x)) (.aboveMaximum x m))

/-- Two numbers count as one option when they are equal as doubles. -/
def isOption (option v : Json) : Bool :=
  match option, v with
  | .number a, .number b => a.near b
  | a, b => a == b

def checkAllowed (r : VariableRules) (v : Value) : Option Breach :=
  r.allowed.bind fun options =>
    unlessHolds (options.any (isOption · v.toJson)) (.notAllowed options)

/-- The first rule that a value breaks. -/
def check (r : VariableRules) (v : Value) : Option Breach :=
  v.string?.bind r.checkText <|> v.toFloat?.bind r.checkNumber <|> r.checkAllowed v

end VariableRules

/-- What becomes of a variable that the inputs leave out. -/
inductive Presence where
  | optional
  | required
  | default (v : Value)
deriving Inhabited

structure Variable where
  name : String
  type : ValueType
  presence : Presence := .optional
  description : Option String := none
  rules : VariableRules := {}

namespace Variable

/-- A variable that has to be given; a default is lost. -/
def required (v : Variable) : Variable := { v with presence := .required }

/-- A variable that may be left out, with its value for that case. -/
def withDefault (v : Variable) (d : Value) : Variable := { v with presence := .default d }

/-- A change to a variable. -/
inductive Edit where
  | required
  | default (d : Value)
  | description (text : String)
  | rules (r : VariableRules)

def edit (v : Variable) : Edit → Variable
  | .required => v.required
  | .default d => v.withDefault d
  | .description s => { v with description := some s }
  | .rules r => { v with rules := r }

def isRequired (v : Variable) : Bool :=
  match v.presence with
  | .required => true
  | _ => false

def default? (v : Variable) : Option Value :=
  match v.presence with
  | .default d => some d
  | _ => none

@[simp] theorem isRequired_required (v : Variable) : v.required.isRequired = true := rfl

@[simp] theorem isRequired_withDefault (v : Variable) (d : Value) :
    (v.withDefault d).isRequired = false := rfl

@[simp] theorem default?_withDefault (v : Variable) (d : Value) :
    (v.withDefault d).default? = some d := rfl

end Variable

end PromptKit
