import PromptKit.Schema.Metaschema.Words

/-!
The vocabularies of drafts 6 and 7, as schemas of those drafts.
-/

namespace PromptKit.Schema.Metaschema

def definitions7 : Members := [
  ("schemaArray", someOf (reference "#")),
  ("nonNegativeInteger", counts),
  ("nonNegativeIntegerDefault0",
    object [("allOf", .array [reference "#/definitions/nonNegativeInteger"])]),
  ("simpleTypes", typeNames),
  ("stringArray", differentTexts)]

/-- The keywords of both drafts. -/
def keywords6 : Members :=
  each ["$id", "$ref"] (textOf "uri-reference")
  ++ [("$schema", textOf "uri")]
  ++ each ["title", "description", "format"] (typed "string")
  ++ [("multipleOf", object [("type", .string "number"), ("exclusiveMinimum", .nat 0)])]
  ++ each ["maximum", "exclusiveMaximum", "minimum", "exclusiveMinimum"] (typed "number")
  ++ each ["maxLength", "maxItems", "maxProperties"]
    (reference "#/definitions/nonNegativeInteger")
  ++ each ["minLength", "minItems", "minProperties"]
    (reference "#/definitions/nonNegativeIntegerDefault0")
  ++ [("pattern", textOf "regex"), ("uniqueItems", typed "boolean"),
    ("examples", typed "array"),
    ("items", anyOf [reference "#", reference "#/definitions/schemaArray"]),
    ("required", reference "#/definitions/stringArray")]
  ++ each ["additionalItems", "contains", "additionalProperties", "propertyNames", "not"]
    (reference "#")
  ++ each ["definitions", "properties"] (mapOf (reference "#"))
  ++ [("patternProperties", patternMapOf (reference "#")),
    ("dependencies", mapOf (anyOf [reference "#", reference "#/definitions/stringArray"])),
    ("type", typesBy (reference "#/definitions/simpleTypes"))]
  ++ each ["allOf", "anyOf", "oneOf"] (reference "#/definitions/schemaArray")

def draft6 : Json := object [
  ("$schema", .string "http://json-schema.org/draft-06/schema#"),
  ("$id", .string "http://json-schema.org/draft-06/schema#"),
  ("definitions", object definitions7),
  ("type", strings ["object", "boolean"]),
  ("properties", object (keywords6 ++ [
    ("enum", object [("type", .string "array"), ("minItems", .nat 1),
      ("uniqueItems", .bool true)])]))]

def draft7 : Json := object [
  ("$schema", .string "http://json-schema.org/draft-07/schema#"),
  ("$id", .string "http://json-schema.org/draft-07/schema#"),
  ("definitions", object definitions7),
  ("type", strings ["object", "boolean"]),
  ("properties", object (keywords6
    ++ each ["$comment", "contentMediaType", "contentEncoding"] (typed "string")
    ++ each ["readOnly", "writeOnly"] (typed "boolean")
    ++ [("enum", typed "array")]
    ++ each ["if", "then", "else"] (reference "#")))]

end PromptKit.Schema.Metaschema
