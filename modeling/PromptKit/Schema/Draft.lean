import PromptKit.FieldPath
import PromptKit.Json.Basic
import PromptKit.Text.Search

/-!
The vocabularies of schemas.

A draft knows certain keywords, and some of their values hold schemas. A schema tells its draft
by the address of the vocabulary.
-/

namespace PromptKit.Schema

/-- The published vocabularies, from the oldest to the newest. -/
inductive Draft where
  | draft4
  | draft6
  | draft7
  | draft2019
  | draft2020
deriving DecidableEq, Repr

/-- The types that a schema can ask for, in the order in which messages list them. -/
inductive TypeName where
  | array
  | boolean
  | integer
  | null
  | number
  | object
  | string
deriving DecidableEq, Repr

namespace TypeName

def all : List TypeName := [.array, .boolean, .integer, .null, .number, .object, .string]

def name : TypeName → String
  | .array => "array"
  | .boolean => "boolean"
  | .integer => "integer"
  | .null => "null"
  | .number => "number"
  | .object => "object"
  | .string => "string"

def ofName? (s : String) : Option TypeName := all.find? (·.name == s)

end TypeName

/-- How the value of a keyword holds schemas. -/
inductive Holding where
  | one
  | list
  | oneOrList
  | named
deriving DecidableEq, Repr

namespace Draft

def all : List Draft := [.draft4, .draft6, .draft7, .draft2019, .draft2020]

/-- The place of a draft among all. -/
def rank : Draft → Nat
  | .draft4 => 0
  | .draft6 => 1
  | .draft7 => 2
  | .draft2019 => 3
  | .draft2020 => 4

/-- Whether a draft is another one or a later one. -/
def isSince (d first : Draft) : Bool := first.rank ≤ d.rank

/-- The address of the vocabulary. -/
def uri : Draft → String
  | .draft4 => "http://json-schema.org/draft-04/schema"
  | .draft6 => "http://json-schema.org/draft-06/schema"
  | .draft7 => "http://json-schema.org/draft-07/schema"
  | .draft2019 => "https://json-schema.org/draft/2019-09/schema"
  | .draft2020 => "https://json-schema.org/draft/2020-12/schema"

/-- Drops the number signs at the end. -/
def withoutEndMarks (s : String) : String :=
  String.ofList (s.toList.reverse.dropWhile (· = '#')).reverse

/-- The rest of an address, with or without a secure scheme. -/
def afterScheme (s : String) : List Char :=
  match Text.after? "http://".toList s.toList, Text.after? "https://".toList s.toList with
  | some rest, _ => rest
  | none, some rest => rest
  | none, none => []

/-- The draft that an address stands for; schemes and number signs at the end do not matter. -/
def ofUri? (s : String) : Option Draft :=
  let name := afterScheme (withoutEndMarks s)
  all.find? fun d => afterScheme d.uri = name

/-- The first and the last draft that know a keyword. -/
def lifetime (keyword : String) : Draft × Draft :=
  match keyword with
  | "const" | "contains" | "propertyNames" | "exclusiveMinimum" | "exclusiveMaximum" =>
    (.draft6, .draft2020)
  | "contentEncoding" | "contentMediaType" => (.draft6, .draft7)
  | "if" | "then" | "else" => (.draft7, .draft2020)
  | "additionalItems" => (.draft4, .draft2019)
  | "$anchor" | "$defs" | "contentSchema" | "dependentRequired" | "dependentSchemas"
  | "maxContains" | "minContains" | "unevaluatedItems" | "unevaluatedProperties" =>
    (.draft2019, .draft2020)
  | "$recursiveRef" => (.draft2019, .draft2019)
  | "$dynamicAnchor" | "$dynamicRef" | "prefixItems" => (.draft2020, .draft2020)
  | _ => (.draft4, .draft2020)

def knows (d : Draft) (keyword : String) : Bool :=
  d.isSince (lifetime keyword).1 && (lifetime keyword).2.isSince d

/-- How a keyword of a draft holds schemas that may have names of their own. -/
def holding? (d : Draft) (keyword : String) : Option Holding :=
  if !d.knows keyword then none
  else match keyword with
    | "additionalItems" | "additionalProperties" | "contains" | "contentSchema" | "else" | "if"
    | "not" | "propertyNames" | "then" | "unevaluatedItems" | "unevaluatedProperties" =>
      some .one
    | "allOf" | "anyOf" | "oneOf" | "prefixItems" => some .list
    | "items" => some (if d = .draft2020 then .one else .oneOrList)
    | "$defs" | "definitions" | "dependentSchemas" | "patternProperties" | "properties" =>
      some .named
    | "dependencies" => if d.isSince .draft2019 then none else some .named
    | _ => none

/-- Whether a path leads to a schema, from a schema or from a value that holds some. -/
def leadsFrom (d : Draft) : Option Holding → List Step → Bool
  | none, [] | some .one, [] | some .oneOrList, [] => true
  | some .list, [] | some .named, [] => false
  | some .list, _ :: rest | some .named, _ :: rest | some .oneOrList, .index _ :: rest =>
    leadsFrom d none rest
  | _, .key k :: rest => (d.holding? k).isSome && leadsFrom d (d.holding? k) rest
  | _, .index _ :: _ => false

/-- Whether a path leads from a schema to a schema inside it. -/
def leadsToSchema (d : Draft) (path : List Step) : Bool := d.leadsFrom none path

/-- Up to this draft a reference stands alone, whatever keywords are beside it. -/
def referenceStandsAlone (d : Draft) : Bool := !d.isSince .draft2019

def idKeyword (d : Draft) : String := if d = .draft4 then "id" else "$id"

/-- The text that a member holds. -/
def text? (ms : Members) (key : String) : Option String :=
  match ms.get? key with
  | some (.string s) => some s
  | _ => none

/-- The identifier that a schema gives itself. -/
def ownId? (d : Draft) (ms : Members) : Option String :=
  (text? ms d.idKeyword).bind fun id =>
    if d.referenceStandsAlone && ((ms.get? "$ref").isSome || id.toList.head? = some '#') then none
    else some (withoutEndMarks id)

/-- The anchors of a schema, and whether they are dynamic. -/
def anchors (d : Draft) (ms : Members) : List (String × Bool) :=
  if d.referenceStandsAlone then
    match (text? ms d.idKeyword).map String.toList with
    | some ('#' :: name) => [(String.ofList name, false)]
    | _ => []
  else
    let found (key : String) (isDynamic : Bool) : List (String × Bool) :=
      if d.knows key then ((text? ms key).map fun name => (name, isDynamic)).toList else []
    found "$anchor" false ++ found "$dynamicAnchor" true

end Draft

end PromptKit.Schema
