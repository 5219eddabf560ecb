import PromptKit.Decimal.Reading
import PromptKit.Json.Basic
import PromptKit.Yaml.Scalar

/-!
What scalars stand for.

A plain scalar without a tag is null, a boolean, a number or else a string; any other scalar is a
string unless a tag of the core schema says otherwise.
-/

namespace PromptKit.Yaml

def isNull (s : String) : Bool := ["null", "Null", "NULL", "~"].contains s

def bool? (s : String) : Option Bool :=
  if ["true", "True", "TRUE"].contains s then some true
  else if ["false", "False", "FALSE"].contains s then some false
  else none

/-! ### Integers -/

/-- The number that digits of a base make; there is at least one. -/
def digits? (base : Nat) (cs : List Char) : Option Nat :=
  if cs.isEmpty then none
  else cs.foldlM (fun n c =>
    (Json.hexValue? c).bind fun d => if d < base then some (base * n + d) else none) 0

/-- Digits after the mark of their base. -/
def based? : List Char → Option Nat
  | '0' :: 'x' :: cs => digits? 16 cs
  | '0' :: 'o' :: cs => digits? 8 cs
  | '0' :: 'b' :: cs => digits? 2 cs
  | _ => none

/-- A zero before other digits, which makes a string. -/
def hasLeadingZero (cs : List Char) : Bool :=
  match (Decimal.splitSign cs).2 with
  | '0' :: d :: ds => (d :: ds).all Char.isDigit
  | _ => false

/-- A whole number of any size, with its sign. -/
def integer? (s : String) : Option Int :=
  let (negative, cs) := Decimal.splitSign s.toList
  let n? := based? cs <|> if hasLeadingZero cs then none else digits? 10 cs
  n?.map fun n => if negative then -Int.ofNat n else Int.ofNat n

/-- Whether 128 bits hold an integer, with or without a sign. -/
def fits128 (n : Int) : Bool :=
  -Int.ofNat (Nat.pow 2 127) ≤ n && n < Int.ofNat (Nat.pow 2 128)

/-- The integer that a scalar stands for. One that needs more than 64 bits, and not more than
128, is refused; a longer one is no integer. -/
def readInteger (s : String) : Scan (Option Whole) :=
  match integer? s with
  | none => pure none
  | some n =>
    match Whole.ofInt? n with
    | some k => pure (some k)
    | none => if fits128 n then throw (.integerRange s) else pure none

/-! ### Floating point -/

/-- A number with a point or an exponent; a value that is not finite reads as null. -/
def float? (s : String) : Option Json :=
  let unsigned := match s.toList with
    | '+' :: cs => cs
    | cs => cs
  let twice := s.toList.head? == some '+'
    && (unsigned.head? == some '+' || unsigned.head? == some '-')
  let u := String.ofList unsigned
  if twice then none
  else if [".inf", ".Inf", ".INF"].contains u || ["-.inf", "-.Inf", "-.INF"].contains s
    || [".nan", ".NaN", ".NAN"].contains s then some .null
  else ((Decimal.read? u).bind Number.ofFloat?).map .number

/-- A plain scalar without a tag. -/
def readPlainValue (s : String) : Scan Json := do
  if s.isEmpty || isNull s then pure .null
  else
    match bool? s with
    | some b => pure (.bool b)
    | none =>
      match ← readInteger s with
      | some n => pure (.number (.int n))
      | none =>
        if hasLeadingZero s.toList then pure (.string s) else pure ((float? s).getD (.string s))

/-! ### Tags -/

def coreTag (name : String) : TagBytes := ("tag:yaml.org,2002:" ++ name).toUTF8.toList

def isLocal (t : TagBytes) : Bool := t.head? == some 0x21

/-- Tags that are not of the core schema may not be used on values. One that is not UTF-8 counts
as none. -/
def checkTag : Option TagBytes → Scan Unit
  | none => pure ()
  | some t =>
    match String.fromUTF8? t.toByteArray with
    | some name => if isLocal t then throw (.applicationTag name) else pure ()
    | none => pure ()

def demand (t s : String) : Option Json → Scan Json
  | some v => pure v
  | none => throw (.tagMismatch t s)

/-- The value of a scalar. -/
def readScalar (tag : Option TagBytes) (s : String) (plain : Bool) : Scan Json := do
  checkTag tag
  match tag with
  | none => if plain then readPlainValue s else pure (.string s)
  | some t =>
    if t = coreTag "bool" then demand "bool" s ((bool? s).map .bool)
    else if t = coreTag "int" then
      demand "int" s ((← readInteger s).map fun n => .number (.int n))
    else if t = coreTag "float" then demand "float" s (float? s)
    else if t = coreTag "null" then demand "null" s (if isNull s then some .null else none)
    else if plain && isLocal t then readPlainValue s
    else pure (.string s)

end PromptKit.Yaml
