import PromptKit.Schema.Metaschema.Words

/-!
The vocabulary of 2019-09, as one schema for each of its parts.

Schemas inside a schema are checked by the part from which the check set out, so that all parts
apply at every depth.
-/

namespace PromptKit.Schema.Metaschema

/-- The schema from which the check set out. -/
def again2019 : Json := object [("$recursiveRef", .string "#")]

/-- A part of the vocabulary. -/
def part2019 (name : String) (keywords defs : Members) : Json := object [
  ("$schema", .string "https://json-schema.org/draft/2019-09/schema"),
  ("$id", .string ("https://json-schema.org/draft/2019-09/" ++ name)),
  ("$recursiveAnchor", .bool true),
  ("type", strings ["object", "boolean"]),
  ("properties", object keywords),
  ("$defs", object defs)]

def core2019 : Json := part2019 "meta/core" ([
  ("$id", object [("type", .string "string"), ("format", .string "uri-reference"),
    ("pattern", .string "^[^#]*#?$")]),
  ("$schema", textOf "uri"),
  ("$anchor", object [("type", .string "string"),
    ("pattern", .string "^[A-Za-z][-A-Za-z0-9.:_]*$")])]
  ++ each ["$ref", "$recursiveRef"] (textOf "uri-reference")
  ++ [("$recursiveAnchor", typed "boolean"),
    ("$vocabulary", object [("type", .string "object"), ("propertyNames", textOf "uri"),
      ("additionalProperties", typed "boolean")]),
    ("$comment", typed "string"),
    ("$defs", mapOf again2019)]) []

def applicator2019 : Json := part2019 "meta/applicator" (
  each ["additionalItems", "unevaluatedItems", "contains", "additionalProperties",
    "unevaluatedProperties", "propertyNames", "if", "then", "else", "not"] again2019
  ++ [("items", anyOf [again2019, reference "#/$defs/schemaArray"])]
  ++ each ["properties", "dependentSchemas"] (mapOf again2019)
  ++ [("patternProperties", patternMapOf again2019)]
  ++ each ["allOf", "anyOf", "oneOf"] (reference "#/$defs/schemaArray"))
  [("schemaArray", someOf again2019)]

/-- The keywords that limit single values, in both vocabularies that have parts. -/
def limits : Members :=
  [("multipleOf", object [("type", .string "number"), ("exclusiveMinimum", .nat 0)])]
  ++ each ["maximum", "exclusiveMaximum", "minimum", "exclusiveMinimum"] (typed "number")
  ++ each ["maxLength", "maxItems", "maxProperties", "maxContains", "minContains"]
    (reference "#/$defs/nonNegativeInteger")
  ++ each ["minLength", "minItems", "minProperties"]
    (reference "#/$defs/nonNegativeIntegerDefault0")
  ++ [("pattern", textOf "regex"), ("uniqueItems", typed "boolean"),
    ("required", reference "#/$defs/stringArray"),
    ("dependentRequired", mapOf (reference "#/$defs/stringArray")),
    ("const", .bool true),
    ("enum", typed "array"),
    ("type", typesBy (reference "#/$defs/simpleTypes"))]

def limitDefs : Members := [
  ("nonNegativeInteger", counts),
  ("nonNegativeIntegerDefault0", reference "#/$defs/nonNegativeInteger"),
  ("simpleTypes", typeNames),
  ("stringArray", differentTexts)]

def validation2019 : Json := part2019 "meta/validation" limits limitDefs

/-- The keywords that only describe, in both vocabularies that have parts. -/
def descriptions : Members :=
  each ["title", "description"] (typed "string")
  ++ each ["deprecated", "readOnly", "writeOnly"] (typed "boolean")
  ++ [("default", .bool true), ("examples", typed "array")]

def metaData2019 : Json := part2019 "meta/meta-data" descriptions []

def format2019 : Json := part2019 "meta/format" [("format", typed "string")] []

def content2019 : Json := part2019 "meta/content"
  (each ["contentMediaType", "contentEncoding"] (typed "string") ++ [("contentSchema", again2019)])
  []

def draft2019 : Json := object [
  ("$schema", .string "https://json-schema.org/draft/2019-09/schema"),
  ("$id", .string "https://json-schema.org/draft/2019-09/schema"),
  ("$recursiveAnchor", .bool true),
  ("allOf", .array (["meta/core", "meta/applicator", "meta/validation", "meta/meta-data",
    "meta/format", "meta/content"].map reference)),
  ("type", strings ["object", "boolean"]),
  ("properties", object [
    ("definitions", mapOf again2019),
    ("dependencies",
      mapOf (anyOf [again2019, reference "meta/validation#/$defs/stringArray"]))])]

/-- All parts, the whole first. -/
def parts2019 : List Json := [
  draft2019, core2019, applicator2019, validation2019, metaData2019, format2019, content2019]

end PromptKit.Schema.Metaschema
