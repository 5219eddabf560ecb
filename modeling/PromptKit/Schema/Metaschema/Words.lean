import PromptKit.Json.Basic

/-!
Words for writing schemas down.
-/

namespace PromptKit.Schema.Metaschema

def object (ms : Members) : Json := .object ms

def strings (ss : List String) : Json := .array (ss.map .string)

/-- A schema that is a reference. -/
def reference (ref : String) : Json := object [("$ref", .string ref)]

/-- Values of one type. -/
def typed (type : String) : Json := object [("type", .string type)]

/-- Texts of a format. -/
def textOf (format : String) : Json :=
  object [("type", .string "string"), ("format", .string format)]

/-- Objects whose members meet a schema. -/
def mapOf (schema : Json) : Json :=
  object [("type", .string "object"), ("additionalProperties", schema)]

/-- Objects whose names are patterns and whose members meet a schema. -/
def patternMapOf (schema : Json) : Json :=
  object [("type", .string "object"), ("additionalProperties", schema),
    ("propertyNames", object [("format", .string "regex")])]

/-- Values that meet one of some schemas. -/
def anyOf (schemas : List Json) : Json := object [("anyOf", .array schemas)]

/-- Lists with at least one item, each of which meets a schema. -/
def someOf (schema : Json) : Json :=
  object [("type", .string "array"), ("minItems", .nat 1), ("items", schema)]

/-- Lists of different texts. -/
def differentTexts : Json :=
  object [("type", .string "array"), ("items", typed "string"), ("uniqueItems", .bool true)]

/-- Whole numbers that are not negative. -/
def counts : Json := object [("type", .string "integer"), ("minimum", .nat 0)]

/-- The names of types. -/
def typeNames : Json :=
  object [("enum",
    strings ["array", "boolean", "integer", "null", "number", "object", "string"])]

/-- One name of a type or several different ones. -/
def typesBy (name : Json) : Json :=
  anyOf [name,
    object [("type", .string "array"), ("items", name), ("minItems", .nat 1),
      ("uniqueItems", .bool true)]]

/-- The same schema for several keywords. -/
def each (keywords : List String) (schema : Json) : Members := keywords.map (·, schema)

end PromptKit.Schema.Metaschema
