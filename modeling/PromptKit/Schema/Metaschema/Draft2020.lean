import PromptKit.Schema.Metaschema.Draft2019

/-!
The vocabulary of 2020-12, as one schema for each of its parts.
-/

namespace PromptKit.Schema.Metaschema

/-- The schema from which the check set out. -/
def again2020 : Json := object [("$dynamicRef", .string "#meta")]

/-- A part of the vocabulary. -/
def part2020 (name : String) (keywords defs : Members) : Json := object [
  ("$schema", .string "https://json-schema.org/draft/2020-12/schema"),
  ("$id", .string ("https://json-schema.org/draft/2020-12/" ++ name)),
  ("$dynamicAnchor", .string "meta"),
  ("type", strings ["object", "boolean"]),
  ("properties", object keywords),
  ("$defs", object defs)]

def core2020 : Json := part2020 "meta/core" ([
  ("$id", object [("$ref", .string "#/$defs/uriReferenceString"),
    ("pattern", .string "^[^#]*#?$")]),
  ("$schema", reference "#/$defs/uriString")]
  ++ each ["$ref", "$dynamicRef"] (reference "#/$defs/uriReferenceString")
  ++ each ["$anchor", "$dynamicAnchor"] (reference "#/$defs/anchorString")
  ++ [("$vocabulary", object [("type", .string "object"),
      ("propertyNames", reference "#/$defs/uriString"),
      ("additionalProperties", typed "boolean")]),
    ("$comment", typed "string"),
    ("$defs", mapOf again2020)])
  [("anchorString",
      object [("type", .string "string"), ("pattern", .string "^[A-Za-z_][-A-Za-z0-9._]*$")]),
    ("uriString", textOf "uri"),
    ("uriReferenceString", textOf "uri-reference")]

def applicator2020 : Json := part2020 "meta/applicator" (
  each ["prefixItems", "allOf", "anyOf", "oneOf"] (reference "#/$defs/schemaArray")
  ++ each ["items", "contains", "additionalProperties", "propertyNames", "if", "then", "else",
    "not"] again2020
  ++ each ["properties", "dependentSchemas"] (mapOf again2020)
  ++ [("patternProperties", patternMapOf again2020)])
  [("schemaArray", someOf again2020)]

def unevaluated2020 : Json := part2020 "meta/unevaluated"
  (each ["unevaluatedItems", "unevaluatedProperties"] again2020) []

def validation2020 : Json := part2020 "meta/validation" limits limitDefs

def metaData2020 : Json := part2020 "meta/meta-data" descriptions []

def formatAnnotation2020 : Json := part2020 "meta/format-annotation" [("format", typed "string")] []

def formatAssertion2020 : Json := part2020 "meta/format-assertion" [("format", typed "string")] []

def content2020 : Json := part2020 "meta/content"
  (each ["contentMediaType", "contentEncoding"] (typed "string") ++ [("contentSchema", again2020)])
  []

def draft2020 : Json := object [
  ("$schema", .string "https://json-schema.org/draft/2020-12/schema"),
  ("$id", .string "https://json-schema.org/draft/2020-12/schema"),
  ("$dynamicAnchor", .string "meta"),
  ("allOf", .array (["meta/core", "meta/applicator", "meta/unevaluated", "meta/validation",
    "meta/meta-data", "meta/format-annotation", "meta/content"].map reference)),
  ("type", strings ["object", "boolean"]),
  ("properties", object [
    ("definitions", mapOf again2020),
    ("dependencies",
      mapOf (anyOf [again2020, reference "meta/validation#/$defs/stringArray"])),
    ("$recursiveAnchor", reference "meta/core#/$defs/anchorString"),
    ("$recursiveRef", reference "meta/core#/$defs/uriReferenceString")])]

/-- All parts, the whole first. -/
def parts2020 : List Json := [
  draft2020, core2020, applicator2020, unevaluated2020, validation2020, metaData2020,
  formatAnnotation2020, formatAssertion2020, content2020]

end PromptKit.Schema.Metaschema
