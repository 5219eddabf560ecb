import PromptKit.Decimal.Reading
import PromptKit.Document.Node
import PromptKit.Name
import PromptKit.Variable

/-!
Variables as a document declares them: a list of entries with names, or a mapping from names.

A default is turned into the type of its variable where its text or number allows that.
-/

namespace PromptKit.Document

open Node (reject rejectIf placed)

/-- A whole number of 64 bits with its sign. -/
def wholeNumber? (cs : List Char) : Option Whole :=
  ((Decimal.integer? cs).bind Whole.ofInt?).filter fun n => n.val < Int.ofNat (Nat.pow 2 63)

/-- The number that a text stands for: a whole number, else a finite double. -/
def numberOfText? (s : String) : Option Number :=
  let cs := Text.trim s.toList
  match wholeNumber? cs with
  | some n => some (.int n)
  | none => (Decimal.read? (String.ofList cs)).bind Number.ofFloat?

/-- The truth value that a text stands for. -/
def boolOfText? (s : String) : Option Bool :=
  match Text.lowerAscii (Text.trimmed s) with
  | "true" | "yes" | "1" => some true
  | "false" | "no" | "0" => some false
  | _ => none

/-- A default as a value of the declared type. -/
def convert? (t : ValueType) (v : Value) : Option Value :=
  if v.isA t then some v
  else
    match t, v with
    | .string, .number n => some (.string (Value.number n).text)
    | .string, .bool b => some (.string (Value.bool b).text)
    | .number, .string s => (numberOfText? s).map .number
    | .boolean, .string s => (boolOfText? s).map .bool
    | _, _ => none

def readPattern (n : Node) : Node.Result (Option Regex) := do
  match ← n.optionalString "pattern" with
  | none => pure none
  | some s =>
    match Regex.compile s with
    | .ok r => pure (some r)
    | .error e => reject (n.child "pattern") (.regex e.message)

/-- The least length is not above the most. -/
def checkLengths (n : Node) : Option Nat → Option Nat → Node.Result Unit
  | some least, some most =>
    rejectIf (most < least) (n.child "min_length") (.lengthBounds least most)
  | _, _ => pure ()

def readRules (n : Node) : Node.Result VariableRules := do
  let pattern ← readPattern n
  let minLength ← n.optionalCount "min_length"
  let maxLength ← n.optionalCount "max_length"
  checkLengths n minLength maxLength
  let minimum ← n.optionalNumber "minimum"
  let maximum ← n.optionalNumber "maximum"
  let allowed ← n.optionalArray "enum"
  pure { pattern, minLength, maxLength, minimum, maximum, allowed }

/-- A required variable has no default; any other may have one that can be converted. -/
def readPresence (n : Node) (t : ValueType) : Node.Result Presence := do
  let required ← n.optionalBool "required"
  match required.getD false, (n.members.get? "default").bind Value.ofJson? with
  | true, some _ => reject (n.child "default") .requiredDefault
  | true, none => pure .required
  | false, none => pure .optional
  | false, some d =>
    match convert? t d with
    | some d => pure (.default d)
    | none => reject (n.child "default") (.defaultConversion t)

def readType (n : Node) : Node.Result ValueType := do
  let name ← n.requiredString "type"
  match ValueType.ofName? name with
  | some t => pure t
  | none => reject (n.child "type") (.variableType name)

def readVariable (name : String) (n : Node) : Node.Result Variable := do
  placed n.path (Name.checkSymbol name)
  let type ← readType n
  let description ← n.optionalString "description"
  let presence ← readPresence n type
  let rules ← n.ofObject "validation" {} readRules
  pure { name, type, presence, description, rules }

/-- An entry of a list names itself. -/
def readListed (path : FieldPath) (iv : Nat × Json) : Node.Result Variable := do
  let n ← Node.object iv.2 (path.index iv.1)
  readVariable (← n.requiredString "name") n

/-- An entry of a mapping may repeat its key as its name. -/
def readKeyed (entries : Node) (key : String) : Node.Result Variable := do
  let n ← entries.requiredObject key
  Node.repeats (n.child "name") key .variableName (← n.optionalString "name")
  readVariable key n

def readVariables (n : Node) : Node.Result (List Variable) :=
  let path := n.child "variables"
  match n.members.get? "variables" with
  | none | some .null => pure []
  | some (.array vs) => (Node.indexed vs).mapM (readListed path)
  | some (.object ms) => ms.mapM fun m => readKeyed ⟨ms, path⟩ m.1
  | some v => reject path (.kind .variableList v.kind)

end PromptKit.Document
