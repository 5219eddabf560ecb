import PromptKit.FieldPath
import PromptKit.Shape
import PromptKit.Value

/-!
What can be wrong with a document, and the wording of each complaint.
-/

namespace PromptKit

/-- What a field was expected to hold. -/
inductive Wanted where
  | string
  | boolean
  | number
  | count
  | array
  | object
  | variableList
  | words
  | schema
deriving DecidableEq, Repr

def Wanted.phrase : Wanted → String
  | .string => "a string"
  | .boolean => "a boolean"
  | .number => "a number"
  | .count => "a non-negative integer"
  | .array => "an array"
  | .object => "an object"
  | .variableList => "a list or mapping of variables"
  | .words => "an array of strings"
  | .schema => "a schema object"

/-- The values that a generation parameter may take. -/
structure ParameterRange where
  least : Float
  most : Option Float

namespace ParameterRange

/-- A number outside the range; nothing is below a number that is none. -/
def excludes (r : ParameterRange) (x : Float) : Bool :=
  x < r.least || match r.most with
    | some m => m < x
    | none => false

def text (r : ParameterRange) : String :=
  match r.most with
  | some m => "within [" ++ Decimal.plain.write r.least ++ ", " ++ Decimal.plain.write m ++ "]"
  | none => ">= " ++ Decimal.plain.write r.least

end ParameterRange

/-- What is wrong with one field. -/
inductive Fault where
  | required
  | kind (wanted : Wanted) (found : Json.Kind)
  | notCount (found : Json)
  | zero
  | shape (cause : ShapeError)
  | packIdLength
  | lowercaseId (id : String) (underscores : Bool)
  | emptyName
  | nameLength
  | symbol (name : String)
  | version (text : String)
  | noPrompts
  | marker (text : String)
  | toolName (name key : String)
  | emptyDescription
  | toolSchemaType (found : Json)
  | variableName (name key : String)
  | variableType (name : String)
  | requiredDefault
  | defaultConversion (type : ValueType)
  | defaultType (expected found : ValueType)
  | repeatedVariable
  | lengthBounds (least most : Nat)
  | regex (detail : String)
  | parameterKind (found : Json.Kind)
  | parameterNumber (key : String)
  | parameterRange (key : String) (range : ParameterRange) (found : Float)
  | toolChoice (name : String)
  | validatorType (name : String) (known : List String)
  | itemMissing (key : String)
  | flagText (text : String)
  | validatorPattern (source detail : String)
  | validatorSchema (detail : String)

namespace Fault

def ticked (s : String) : String := "`" ++ s ++ "`"

def message : Fault → String
  | required => "field is required"
  | kind wanted found => "expected " ++ wanted.phrase ++ ", found " ++ found.name
  | notCount found => "expected a non-negative integer, found " ++ found.compact
  | zero => "expected a positive integer, found 0"
  | shape cause => cause.message
  | packIdLength => "pack id length must be <= 100"
  | lowercaseId id underscores =>
    ticked id ++ " must start with a lowercase letter and contain only "
      ++ (if underscores then "lowercase alphanumerics, dash, or underscore"
        else "lowercase alphanumerics or dash")
  | emptyName => "name cannot be empty"
  | nameLength => "name length must be <= 200"
  | symbol name =>
    ticked name
      ++ " must start with a letter or underscore and contain only alphanumerics or underscores"
  | version text => ticked text ++ " is not a semantic version"
  | noPrompts => "pack must declare at least one prompt"
  | marker text => ticked text ++ " does not describe placeholder delimiters"
  | toolName name key => "tool name " ++ ticked name ++ " does not match its key " ++ ticked key
  | emptyDescription => "description cannot be empty"
  | toolSchemaType found =>
    "tool parameters must be an object schema, found type " ++ found.compact
  | variableName name key =>
    "variable name " ++ ticked name ++ " does not match its key " ++ ticked key
  | variableType name =>
    "unknown variable type " ++ ticked name
      ++ " (expected string, number, boolean, array, or object)"
  | requiredDefault => "a required variable cannot declare a default"
  | defaultConversion type => "default cannot be converted to " ++ type.name
  | defaultType expected found =>
    "default must be a " ++ expected.name ++ ", found " ++ found.name
  | repeatedVariable => "variable declared more than once"
  | lengthBounds least most =>
    "min_length " ++ toString least ++ " exceeds max_length " ++ toString most
  | regex detail => "invalid regex: " ++ detail
  | parameterKind found => "parameters must be scalars, found " ++ found.name
  | parameterNumber key => ticked key ++ " must be a number"
  | parameterRange key range found =>
    ticked key ++ " must be " ++ range.text ++ ", found " ++ Decimal.plain.write found
  | toolChoice name =>
    "unknown tool_choice " ++ ticked name ++ " (expected auto, required, or none)"
  | validatorType name known =>
    "unknown validator type " ++ ticked name ++ " (expected one of: "
      ++ ", ".intercalate known ++ ")"
  | itemMissing key => key ++ " is required"
  | flagText text => "expected a boolean, found " ++ ticked text
  | validatorPattern source detail => "invalid regex " ++ ticked source ++ ": " ++ detail
  | validatorSchema detail => detail

end Fault

/-- Why a source could not be read as a document. -/
inductive SourceFault where
  | json (detail : String)
  | yaml (detail : String)
  | tooLong (bytes limit : Nat)
  | notObject (found : Json.Kind)

def SourceFault.message : SourceFault → String
  | .json detail => "invalid JSON: " ++ detail
  | .yaml detail => "invalid YAML: " ++ detail
  | .tooLong bytes limit =>
    "pack source is " ++ toString bytes ++ " bytes, above the " ++ toString limit ++ " byte limit"
  | .notObject found => "pack document must be an object, found " ++ found.name

/-- Why the bytes of a file could not be had as text. -/
inductive FileFault where
  | absent
  | notText
deriving DecidableEq, Repr

def FileFault.message : FileFault → String
  | .absent => "No such file or directory (os error 2)"
  | .notText => "stream did not contain valid UTF-8"

/-- Why there is no pack. -/
inductive PackError where
  | malformed (cause : SourceFault)
  | unreadable (file : String) (cause : FileFault)
  | invalid (path : FieldPath) (fault : Fault)
  | misconfigured (path : FieldPath) (fault : Fault)

namespace PackError

def message : PackError → String
  | malformed cause => "failed to parse pack source: " ++ cause.message
  | unreadable file cause => "failed to read pack file `" ++ file ++ "`: " ++ cause.message
  | invalid path fault => "invalid pack field `" ++ path.text ++ "`: " ++ fault.message
  | misconfigured path fault =>
    "invalid validator configuration at `" ++ path.text ++ "`: " ++ fault.message

/-- The field that is to blame. -/
def path? : PackError → Option FieldPath
  | invalid path _ | misconfigured path _ => some path
  | _ => none

end PackError

end PromptKit
