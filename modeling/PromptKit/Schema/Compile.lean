import PromptKit.Schema.Equality
import PromptKit.Schema.Rule

/-!
Compiling schemas.

Each keyword of a schema becomes a rule, which may depend on the keywords beside it. The rules
behind references are compiled once each, into a table.
-/

namespace PromptKit.Schema

/-- The targets of the references met, in the order of the table. -/
abbrev Compile := StateT (List Target) (Except CompileError)

/-- Where a schema is compiled. -/
structure Context where
  registry : Registry
  draft : Draft
  resolver : Resolver
  /-- Formats are conditions even in drafts where they only describe. -/
  assertsFormats : Bool

/-- A keyword with its value and what the value comes to, if it holds schemas. -/
structure Part where
  keyword : String
  value : Json
  schema : Compile Rule
  items : List (Compile Rule)
  members : List (String × Json × Compile Rule)

/-! ### Values of keywords -/

/-- Refuses a value. -/
def unusable {α : Type} (keyword : String) : Compile α := throw (.badValue keyword)

def regex (source : String) : Compile Regex.SearchPattern :=
  match Regex.SearchPattern.compile source with
  | .ok r => pure r
  | .error _ => throw (.pattern source)

/-- The largest count; larger numbers stand for it. -/
def maxCount : Nat := Nat.pow 2 64 - 1

/-- The count that a number stands for; a whole double will do. -/
def count? : Json → Option Nat
  | .number n =>
    if n.isWhole && 0 ≤ n.floor then some (min n.floor.toNat maxCount) else none
  | _ => none

def names (keyword : String) : Json → Compile (List String)
  | .array vs => vs.mapM fun
    | .string s => pure s
    | _ => unusable keyword
  | _ => unusable keyword

def typeName (keyword : String) : Json → Compile TypeName
  | .string s =>
    match TypeName.ofName? s with
    | some t => pure t
    | none => unusable keyword
  | _ => unusable keyword

namespace Part

def number (p : Part) : Compile Number :=
  match p.value with
  | .number n => pure n
  | _ => unusable p.keyword

def count (p : Part) : Compile Nat :=
  match count? p.value with
  | some n => pure n
  | none => unusable p.keyword

def text (p : Part) : Compile String :=
  match p.value with
  | .string s => pure s
  | _ => unusable p.keyword

def types (p : Part) : Compile (List TypeName) :=
  match p.value with
  | .array vs => vs.mapM (typeName p.keyword)
  | v => do pure [← typeName p.keyword v]

/-- The rules of a list of schemas. -/
def rules (p : Part) : Compile (List Rule) :=
  match p.value with
  | .array _ => p.items.mapM id
  | _ => unusable p.keyword

/-- The rules of schemas with names. -/
def named (p : Part) : Compile (List (String × Rule)) :=
  match p.value with
  | .object _ => p.members.mapM fun m => do pure (m.1, ← m.2.2)
  | _ => unusable p.keyword

/-- Lists of names with names. -/
def namedLists (p : Part) : Compile (List (String × List String)) :=
  match p.value with
  | .object ms => ms.mapM fun m => do pure (m.1, ← names p.keyword m.2)
  | _ => unusable p.keyword

/-- A dependency asks for names, or for a schema. -/
def dependencies (p : Part) : Compile (List Rule) :=
  match p.value with
  | .object _ => p.members.mapM fun (name, v, rule) =>
    match v with
    | .array _ => do pure (.dependentNames [(name, ← names p.keyword v)])
    | _ => do pure (.dependentRules [(name, ← rule)] false)
  | _ => unusable p.keyword

end Part

/-! ### Keywords beside each other -/

abbrev Parts := List Part

namespace Parts

def part? (ps : Parts) (keyword : String) : Option Part := ps.find? (·.keyword == keyword)

def value? (ps : Parts) (keyword : String) : Option Json := (part? ps keyword).map (·.value)

/-- The names of the members of a keyword's value. -/
def keys (ps : Parts) (keyword : String) : List String :=
  match value? ps keyword with
  | some (.object ms) => ms.map (·.1)
  | _ => []

def patterns (ps : Parts) : Compile (List Regex.SearchPattern) :=
  (keys ps "patternProperties").mapM regex

/-- The number of items of a keyword's value. -/
def lead (ps : Parts) (keyword : String) : Nat :=
  match value? ps keyword with
  | some (.array vs) => vs.length
  | _ => 0

/-- The rule of the schema under a keyword, and none where there is no such keyword. -/
def ruleOf (ps : Parts) (keyword : String) : Compile Rule :=
  match part? ps keyword with
  | some p => p.schema
  | none => pure Rule.anything

def isFlag (ps : Parts) (keyword : String) (b : Bool) : Bool :=
  match value? ps keyword with
  | some (.bool c) => b = c
  | _ => false

/-- Whether members without a rule of their own have a say in the schema. -/
def limitsOthers (ps : Parts) : Bool :=
  match value? ps "additionalProperties" with
  | some (.bool false) | some (.object _) => true
  | _ => false

/-- The number of members with rules of their own at which two required names go unnoticed. -/
def unnoticedAt : Nat := 15

/-- The rule of the names that an object must have. A single name is looked for among the named
members if no others are allowed. -/
def requiredRule (ps : Parts) (required : List String) : Rule :=
  let known := keys ps "properties"
  match required with
  | [name] =>
    if isFlag ps "additionalProperties" false && (value? ps "properties").isSome
      && (value? ps "patternProperties").isNone then .requiredAmong known name
    else .required required
  | [_, _] =>
    if known.length = unnoticedAt && !limitsOthers ps then Rule.anything else .required required
  | _ => .required required

def otherMembersRule (ps : Parts) (p : Part) : Compile Rule := do
  let known := keys ps "properties"
  let patterns ← patterns ps
  match p.value with
  | .bool false =>
    if (value? ps "properties").isNone && (value? ps "patternProperties").isNone then
      pure .noMembers
    else pure (.onlyMembers known patterns)
  | _ => do pure (.otherMembers known patterns (← p.schema))

def containsRule (d : Draft) (ps : Parts) (p : Part) : Compile Rule := do
  let limit (keyword : String) : Compile (Option Nat) :=
    match part? ps keyword with
    | some p => if d.knows keyword then do pure (some (← p.count)) else pure none
    | none => pure none
  let least ← limit "minContains"
  pure (.contains (← p.schema) (least.getD 1) (← limit "maxContains") (d = .draft2020))

/-- The condition on what a text holds; the form of the bytes is told beside the type. -/
def contentRule (ps : Parts) (p : Part) : Compile Rule := do
  match ← p.text with
  | "application/json" =>
    match part? ps "contentEncoding" with
    | none => pure (.content .json)
    | some e => do pure (if (← e.text) = "base64" then .content .base64Json else Rule.anything)
  | _ => pure Rule.anything

end Parts

/-! ### References -/

/-- The index of a target in the table. -/
def indexOf (t : Target) : Compile Nat := do
  let known ← get
  let isSame (u : Target) : Bool :=
    u.resource.place = t.resource.place && u.resource.draft = t.resource.draft
      && u.resolver = t.resolver
  match known.findIdx? isSame with
  | some i => pure i
  | none => do
    set (known ++ [t])
    pure known.length

def refer (ref : String) : Option Target → Compile Rule
  | some t => do pure (.ref t.resource.place (← indexOf t))
  | none => throw (.unresolved ref)

/-! ### Rules of keywords -/

/-- The formats that a draft knows. -/
def knownFormat? (d : Draft) (name : String) : Option Format :=
  (Format.ofName? name).filter fun f => d.isSince (match f with
    | .pointer | .uriReference | .uriTemplate => .draft6
    | .iri | .iriReference | .internationalHostname | .relativePointer => .draft7
    | _ => .draft4)

/-- The rule of a limit on numbers; in the oldest draft a flag leaves the limit itself out. -/
def limitRule (c : Context) (ps : Parts) (p : Part) (closed strict : Bound) (flag : String) :
    Compile Rule := do
  let kind := if c.draft = .draft4 && Parts.isFlag ps flag true then strict else closed
  pure (.bound kind (← p.number))

/-- The rule of a keyword among the keywords of a schema. Keywords that only join with others
have none of their own. -/
def keywordRule (c : Context) (ps : Parts) (p : Part) : Compile Rule :=
  if !c.draft.knows p.keyword then pure Rule.anything
  else match p.keyword with
    | "$ref" | "$dynamicRef" => do
      let ref ← p.text
      refer ref (c.registry.lookUp? c.resolver ref)
    | "$recursiveRef" => refer "#" (c.registry.lookUpRecursive? c.resolver)
    | "type" => do pure (.type (← p.types) (c.draft != .draft4))
    | "enum" =>
      match p.value with
      | .array vs => pure (.oneOfValues vs)
      | _ => unusable p.keyword
    | "const" => pure (.value p.value)
    | "minimum" => limitRule c ps p .least .above "exclusiveMinimum"
    | "maximum" => limitRule c ps p .most .below "exclusiveMaximum"
    | "exclusiveMinimum" => do pure (.bound .above (← p.number))
    | "exclusiveMaximum" => do pure (.bound .below (← p.number))
    | "multipleOf" => do pure (.multipleOf (← p.number))
    | "minLength" => do pure (.size .characters true (← p.count))
    | "maxLength" => do pure (.size .characters false (← p.count))
    | "minItems" => do pure (.size .items true (← p.count))
    | "maxItems" => do pure (.size .items false (← p.count))
    | "minProperties" => do pure (.size .members true (← p.count))
    | "maxProperties" => do pure (.size .members false (← p.count))
    | "pattern" => do pure (.pattern (← regex (← p.text)))
    | "format" =>
      if c.assertsFormats || !c.draft.isSince .draft2019 then do
        match knownFormat? c.draft (← p.text) with
        | some f => pure (.format f)
        | none => pure Rule.anything
      else pure Rule.anything
    | "contentMediaType" => ps.contentRule p
    | "contentEncoding" =>
      if (ps.value? "contentMediaType").isSome then pure Rule.anything
      else do pure (if (← p.text) = "base64" then .content .base64 else Rule.anything)
    | "uniqueItems" => pure (if ps.isFlag p.keyword true then .distinct else Rule.anything)
    | "required" => do pure (ps.requiredRule (← names p.keyword p.value))
    | "dependentRequired" => do pure (.dependentNames (← p.namedLists))
    | "dependentSchemas" => do pure (.dependentRules (← p.named) true)
    | "dependencies" => do pure (.all (← p.dependencies))
    | "properties" => do pure (.members (← p.named))
    | "patternProperties" => do
      let rules ← p.named
      let patterns ← rules.mapM fun r => regex r.1
      pure (.matchingMembers (patterns.zip (rules.map (·.2))))
    | "additionalProperties" => ps.otherMembersRule p
    | "propertyNames" =>
      match p.value with
      | .bool false => pure .noMemberNames
      | _ => do pure (.memberNames (← p.schema))
    | "prefixItems" => do pure (.firstItems (← p.rules))
    | "items" =>
      match p.value with
      | .array _ => do pure (.firstItems (← p.rules))
      | _ => do pure (.itemsFrom (ps.lead "prefixItems") (← p.schema))
    | "additionalItems" =>
      let lead := ps.lead "items"
      if lead = 0 then pure Rule.anything
      else if ps.isFlag p.keyword false then pure (.noItemsFrom lead)
      else do pure (.itemsFrom lead (← p.schema))
    | "contains" => ps.containsRule c.draft p
    | "allOf" => do pure (.allOf (← p.rules))
    | "anyOf" => do pure (.anyOf (← p.rules))
    | "oneOf" => do pure (.oneOf (← p.rules))
    | "not" => do pure (.not p.value (← p.schema))
    | "if" => do pure (.branch (← p.schema) (← ps.ruleOf "then") (← ps.ruleOf "else"))
    | _ => pure Rule.anything

/-- The rule of a schema with some keywords. What the others leave over is looked at last. -/
def partsRule (c : Context) (ps : Parts) : Compile Rule := do
  let first := Rule.all (← ps.mapM (keywordRule c ps))
  let left (keyword : String) (join : Rule → Rule → Rule) (first : Rule) : Compile Rule :=
    match ps.part? keyword with
    | some p => if c.draft.knows keyword then do pure (join first (← p.schema)) else pure first
    | none => pure first
  left "unevaluatedProperties" .leftMembers (← left "unevaluatedItems" .leftItems first)

/-- Compiles a schema that is an object, given the parts in a context. -/
def objectRule (c : Context) (ms : Members) (parts : Context → Parts) : Compile Rule := do
  let draft := ((Draft.text? ms "$schema").bind Draft.ofUri?).getD c.draft
  let base ← draft.ownBase c.resolver.base ms
  let c := { c with draft, resolver := { c.resolver with base } }
  match Draft.text? ms "$ref" with
  | some ref =>
    if draft.referenceStandsAlone then refer ref (c.registry.lookUp? c.resolver ref)
    else partsRule c (parts c)
  | none => partsRule c (parts c)

mutual

/-- The rule of a schema. -/
def schemaRule (c : Context) : Json → Compile Rule
  | .bool b => pure (if b then Rule.anything else .nothing)
  | .object ms => objectRule c ms fun here => partsOf here ms
  | _ => throw .malformed

/-- The keywords of a schema, in their order. -/
def partsOf (c : Context) : Members → Parts
  | [] => []
  | (k, v) :: rest =>
    ⟨k, v, schemaRule c v, itemRules c v, memberRules c v⟩ :: partsOf c rest

def itemRules (c : Context) : Json → List (Compile Rule)
  | .array vs => listRules c vs
  | _ => []

def listRules (c : Context) : List Json → List (Compile Rule)
  | [] => []
  | v :: rest => schemaRule c v :: listRules c rest

def memberRules (c : Context) : Json → List (String × Json × Compile Rule)
  | .object ms => valueRules c ms
  | _ => []

def valueRules (c : Context) : Members → List (String × Json × Compile Rule)
  | [] => []
  | (k, v) :: rest => (k, v, schemaRule c v) :: valueRules c rest

end

/-- Compiles the schemas behind references until no new one turns up. -/
def tableRules (c : Context) : Nat → List Rule → Compile (List Rule)
  | 0, table => pure table
  | fuel + 1, table => do
    match (← get)[table.length]? with
    | none => pure table
    | some t =>
      let here := { c with draft := t.resource.draft, resolver := t.resolver }
      let r ← schemaRule here t.resource.schema
      tableRules c fuel (table ++ [r])

/-- An upper bound for the number of references that are followed. -/
def maxReferences : Nat := 100000

/-- Compiles a document beside others, without asking whether its vocabulary admits it. -/
def compileBeside (others : Registry) (assertsFormats : Bool) (doc : Json) :
    Except CompileError Compiled := do
  let (base, own) ← Registry.ofDocument 0 .draft2020 doc
  let registry := own ++ others
  match own.mentions.find? fun uri => (registry.resource? uri).isNone with
  | some uri => throw (.unresolved uri)
  | none =>
    let c : Context := ⟨registry, .draft2020, ⟨base, []⟩, assertsFormats⟩
    let build : Compile (Rule × List Rule) := do
      let rule ← schemaRule c doc
      pure (rule, ← tableRules c maxReferences [])
    let ((rule, table), _) ← build.run []
    pure ⟨doc, rule, table⟩

end PromptKit.Schema
