import PromptKit.Json.Printer
import PromptKit.Schema.Equality
import PromptKit.Schema.Rule
import PromptKit.Text.Base64
import PromptKit.Unicode.Decode

/-!
Conditions on a single value, and the words for a broken one.
-/

namespace PromptKit.Schema

/-- A broken rule: the place in the instance, step by step, and the complaint. -/
structure Violation where
  place : List Step
  complaint : String
deriving DecidableEq, Repr

/-- A key as a token of a JSON pointer. -/
def pointerToken : Step → String
  | .key name => String.ofList (name.toList.flatMap fun c =>
    if c = '~' then ['~', '0'] else if c = '/' then ['~', '1'] else [c])
  | .index i => toString i

/-- The complaint, after the JSON pointer of a place that is not the root. -/
def Violation.text (v : Violation) : String :=
  match v.place with
  | [] => v.complaint
  | steps => String.join (steps.map fun s => "/" ++ pointerToken s) ++ ": " ++ v.complaint

/-- A count with the singular or plural of what is counted. -/
def counted (n : Nat) (one many : String) : String :=
  toString n ++ " " ++ (if n = 1 then one else many)

/-- The options of an enumeration; beyond three, only two are named. -/
def listed : List Json → String
  | [] => ""
  | [a] => a.compact
  | [a, b] => a.compact ++ " or " ++ b.compact
  | [a, b, c] => a.compact ++ ", " ++ b.compact ++ " or " ++ c.compact
  | a :: b :: rest =>
    a.compact ++ ", " ++ b.compact ++ " or " ++ toString rest.length ++ " other candidates"

/-- The names or values that should not be there. -/
def unexpected (what : String) (items : List String) : String :=
  what ++ " are not allowed (" ++ ", ".intercalate items
    ++ (if items.length = 1 then " was unexpected)" else " were unexpected)")

/-- A name or a value between single quotes. -/
def inQuotes (s : String) : String := "'" ++ s ++ "'"

def hasType (wholeDoubles : Bool) (v : Json) : TypeName → Bool
  | .array => v.kind = .array
  | .boolean => v.kind = .boolean
  | .null => v.kind = .null
  | .number => v.kind = .number
  | .object => v.kind = .object
  | .string => v.kind = .string
  | .integer =>
    match v with
    | .number (.int _) => true
    | .number n => wholeDoubles && n.isWhole
    | _ => false

def typeComplaint (v : Json) (types : List TypeName) : String :=
  let quotedName (t : TypeName) : String := "\"" ++ t.name ++ "\""
  match types with
  | [t] => v.compact ++ " is not of type " ++ quotedName t
  | ts =>
    v.compact ++ " is not of types "
      ++ ", ".intercalate ((TypeName.all.filter ts.contains).map quotedName)

def Bound.holds (b : Bound) (x limit : Number) : Bool :=
  match b with
  | .least => x.compare limit != .lt
  | .most => x.compare limit != .gt
  | .above => x.compare limit = .gt
  | .below => x.compare limit = .lt

def Bound.complaint : Bound → String
  | .least => " is less than the minimum of "
  | .most => " is greater than the maximum of "
  | .above => " is less than or equal to the minimum of "
  | .below => " is greater than or equal to the maximum of "

/-- The size of a value that has one of the asked kind. -/
def sizeOf? (of : Sized) : Json → Option Nat
  | .string s => if of = .characters then some s.length else none
  | .array vs => if of = .items then some vs.length else none
  | .object ms => if of = .members then some ms.length else none
  | _ => none

def sizeComplaint (of : Sized) (atLeast : Bool) (n : Nat) : String :=
  match of with
  | .characters =>
    (if atLeast then " is shorter than " else " is longer than ")
      ++ counted n "character" "characters"
  | .items => (if atLeast then " has less than " else " has more than ") ++ counted n "item" "items"
  | .members =>
    (if atLeast then " has less than " else " has more than ")
      ++ counted n "property" "properties"

def absence (name : String) : String := Json.quoted name ++ " is a required property"

def missing (ms : Members) (names : List String) : List String :=
  (names.filter fun n => (ms.get? n).isNone).map absence

/-- What is wrong with what a text holds. -/
def Content.complaint? (c : Content) (s : String) : Option String :=
  let isJson (cs : List Char) : Bool := (Json.read (String.ofList cs)).toBool
  let notEncoded := " is not compliant with \"base64\" content encoding"
  let notJson := " is not compliant with \"application/json\" media type"
  match c with
  | .base64 => if (Text.base64? s.toList).isSome then none else some (Json.quoted s ++ notEncoded)
  | .json => if isJson s.toList then none else some (Json.quoted s ++ notJson)
  | .base64Json =>
    match (Text.base64? s.toList).map Unicode.decode with
    | none => some (Json.quoted s ++ notEncoded)
    | some (.error e) => some e.message
    | some (.ok cs) => if isJson cs then none else some (Json.quoted s ++ notJson)

/-- What is wrong with a text that should match a pattern. -/
def patternComplaint? (r : Regex.SearchPattern) (s : String) : Option String :=
  match r.run s with
  | .found => none
  | .absent => some (Json.quoted s ++ " does not match \"" ++ r.text ++ "\"")
  | .givenUp => some "Error executing regex: Max limit for backtracking count exceeded"

/-- Members that are neither named nor match a pattern. -/
def others (ms : Members) (names : List String) (patterns : List Regex.SearchPattern) : Members :=
  ms.filter fun m => !names.contains m.1 && !patterns.any (·.isFound m.1)

end PromptKit.Schema
