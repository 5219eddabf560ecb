import PromptKit.Schema.Metaschema.Words

/-!
The vocabulary of draft 4, as a schema of that draft.
-/

namespace PromptKit.Schema.Metaschema

def definitions4 : Members := [
  ("schemaArray", someOf (reference "#")),
  ("positiveInteger", counts),
  ("positiveIntegerDefault0",
    object [("allOf", .array [reference "#/definitions/positiveInteger"])]),
  ("simpleTypes", typeNames),
  ("stringArray", object [("type", .string "array"), ("items", typed "string"),
    ("minItems", .nat 1), ("uniqueItems", .bool true)])]

def keywords4 : Members :=
  each ["id", "$schema", "title", "description", "format"] (typed "string")
  ++ [("default", object []),
    ("multipleOf", object [("type", .string "number"), ("minimum", .nat 0),
      ("exclusiveMinimum", .bool true)])]
  ++ each ["maximum", "minimum"] (typed "number")
  ++ each ["exclusiveMaximum", "exclusiveMinimum", "uniqueItems"] (typed "boolean")
  ++ each ["maxLength", "maxItems", "maxProperties"] (reference "#/definitions/positiveInteger")
  ++ each ["minLength", "minItems", "minProperties"]
    (reference "#/definitions/positiveIntegerDefault0")
  ++ [("pattern", textOf "regex")]
  ++ each ["additionalItems", "additionalProperties"] (anyOf [typed "boolean", reference "#"])
  ++ [("items", anyOf [reference "#", reference "#/definitions/schemaArray"]),
    ("required", reference "#/definitions/stringArray")]
  ++ each ["definitions", "properties", "patternProperties"] (mapOf (reference "#"))
  ++ [("dependencies", mapOf (anyOf [reference "#", reference "#/definitions/stringArray"])),
    ("enum", object [("type", .string "array"), ("minItems", .nat 1), ("uniqueItems", .bool true)]),
    ("type", typesBy (reference "#/definitions/simpleTypes"))]
  ++ each ["allOf", "anyOf", "oneOf"] (reference "#/definitions/schemaArray")
  ++ [("not", reference "#")]

def draft4 : Json := object [
  ("id", .string "http://json-schema.org/draft-04/schema#"),
  ("$schema", .string "http://json-schema.org/draft-04/schema#"),
  ("definitions", object definitions4),
  ("type", .string "object"),
  ("properties", object keywords4),
  ("dependencies", object [
    ("exclusiveMaximum", strings ["maximum"]), ("exclusiveMinimum", strings ["minimum"])])]

end PromptKit.Schema.Metaschema
