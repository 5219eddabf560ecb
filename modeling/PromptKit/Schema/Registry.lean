import PromptKit.Json.Reader
import PromptKit.Schema.Draft
import PromptKit.Uri.Resolve

/-!
Schemas by name.

A document is a resource, and so is every schema inside it with an identifier of its own. A
reference names a resource, seen from the base of the place it stands in, and then a place in it:
the whole, an anchor, or a JSON pointer.
-/

namespace PromptKit.Schema

inductive CompileError where
  /-- The vocabulary of the schema does not admit it. -/
  | malformed
  /-- A keyword holds a value of a shape that it cannot use. -/
  | badValue (keyword : String)
  | unknownDraft (uri : String)
  | badUri (text : String)
  | unresolved (ref : String)
  | pattern (source : String)
deriving DecidableEq, Repr

def CompileError.message : CompileError → String
  | .malformed => "the value is not a schema"
  | .badValue keyword => "unusable value of a keyword: " ++ keyword
  | .unknownDraft uri => "unknown schema dialect: " ++ uri
  | .badUri text => "malformed identifier: " ++ text
  | .unresolved ref => "unresolvable reference: " ++ ref
  | .pattern source => "unreadable pattern: " ++ source

/-- Where a schema stands: the number of its document and the steps inside. -/
structure Place where
  document : Nat
  path : List Step
deriving DecidableEq, Repr, Inhabited

/-- The place of the document that is compiled. -/
def Place.root : Place := ⟨0, []⟩

def Place.step (p : Place) (s : Step) : Place := ⟨p.document, p.path ++ [s]⟩

structure Resource where
  draft : Draft
  place : Place
  schema : Json

/-- A named place in the resource with a given base. -/
structure Anchor where
  base : String
  name : String
  isDynamic : Bool
  resource : Resource

/-- What a document holds under names. -/
structure Registry where
  resources : List (String × Resource) := []
  anchors : List Anchor := []
  /-- The addresses that references ask for. -/
  mentions : List String := []

namespace Registry

protected def append (a b : Registry) : Registry :=
  ⟨a.resources ++ b.resources, a.anchors ++ b.anchors, a.mentions ++ b.mentions⟩

instance : Append Registry := ⟨Registry.append⟩

def resource? (g : Registry) (uri : String) : Option Resource :=
  (g.resources.find? (·.1 == uri)).map (·.2)

def anchor? (g : Registry) (base name : String) : Option Anchor :=
  g.anchors.find? fun a => a.base == base && a.name == name

end Registry

/-! ### Bases -/

/-- The base of a document that has no identifier. -/
def defaultUri : String := "json-schema:///"

/-- The base that a document gives itself. -/
def rootUri (id : String) : Except CompileError String :=
  let r := Uri.Reference.ofChars id.toList
  if !r.isValid false then throw (.badUri id)
  else if r.scheme.isSome then pure (String.ofList r.normalized.toChars)
  else match Uri.resolveText? defaultUri id with
    | some uri => pure uri
    | none => throw (.badUri id)

/-- An identifier seen from a base. -/
def resolveId (base id : String) : Except CompileError String :=
  match Uri.resolveText? base id with
  | some uri => pure uri
  | none => throw (.badUri id)

/-- The draft of a schema inside one of draft `d`. -/
def Draft.ofMembers (d : Draft) (ms : Members) : Except CompileError Draft :=
  match Draft.text? ms "$schema" with
  | none => pure d
  | some uri =>
    match Draft.ofUri? uri with
    | some d => pure d
    | none => throw (.unknownDraft uri)

/-- The base inside a schema that stands where the base is `base`. -/
def Draft.ownBase (d : Draft) (base : String) (ms : Members) : Except CompileError String :=
  match d.ownId? ms with
  | some id => resolveId base id
  | none => pure base

/-! ### Collecting what a document holds -/

/-- The directories of the vocabularies, which are always at hand. -/
def knownDirectories : List String := [
  "https://json-schema.org/draft/2020-12/", "https://json-schema.org/draft/2019-09/",
  "http://json-schema.org/draft-07/", "http://json-schema.org/draft-06/",
  "http://json-schema.org/draft-04/"]

/-- The address that a reference of a schema asks for, if it lies outside. -/
def mentioned (base : String) (ms : Members) : Except CompileError (List String) :=
  match Draft.text? ms "$ref" with
  | none => pure []
  | some ref =>
    if ref.toList.head? = some '#'
      || knownDirectories.any (fun d => (Text.after? d.toList ref.toList).isSome)
      || (Text.after? "urn:".toList base.toList).isSome then pure []
    else do pure [Uri.withoutFragment (← resolveId base ref)]

/-- What the schema itself holds under names, without the schemas inside it. -/
def ownEntries (base : String) (r : Resource) (ms : Members) : Except CompileError Registry := do
  pure {
    resources := if (r.draft.ownId? ms).isSome then [(base, r)] else []
    anchors := (r.draft.anchors ms).map fun a => ⟨base, a.1, a.2, r⟩
    mentions := ← mentioned base ms }

mutual

/-- What a schema of a draft holds, at a place where the base is `base`. -/
def entries (base : String) (d : Draft) (p : Place) : Json → Except CompileError Registry
  | .object ms => do
    let d ← d.ofMembers ms
    let base ← d.ownBase base ms
    let own ← ownEntries base ⟨d, p, .object ms⟩ ms
    pure (own ++ (← memberEntries base d p ms))
  | _ => pure {}

def memberEntries (base : String) (d : Draft) (p : Place) :
    Members → Except CompileError Registry
  | [] => pure {}
  | (k, v) :: rest => do
    let here := p.step (.key k)
    let inside ← match d.holding? k with
      | some .one => entries base d here v
      | some .list => itemEntries base d here v
      | some .oneOrList => do pure ((← entries base d here v) ++ (← itemEntries base d here v))
      | some .named => namedEntries base d here v
      | none => pure {}
    pure (inside ++ (← memberEntries base d p rest))

def itemEntries (base : String) (d : Draft) (p : Place) : Json → Except CompileError Registry
  | .array vs => listEntries base d p 0 vs
  | _ => pure {}

def listEntries (base : String) (d : Draft) (p : Place) (i : Nat) :
    List Json → Except CompileError Registry
  | [] => pure {}
  | v :: rest => do
    let first ← entries base d (p.step (.index i)) v
    pure (first ++ (← listEntries base d p (i + 1) rest))

def namedEntries (base : String) (d : Draft) (p : Place) : Json → Except CompileError Registry
  | .object ms => valueEntries base d p ms
  | _ => pure {}

def valueEntries (base : String) (d : Draft) (p : Place) : Members → Except CompileError Registry
  | [] => pure {}
  | (k, v) :: rest => do
    let first ← entries base d (p.step (.key k)) v
    pure (first ++ (← valueEntries base d p rest))

end

/-- What a document holds, with its base. -/
def Registry.ofDocument (number : Nat) (d : Draft) (doc : Json) :
    Except CompileError (String × Registry) := do
  let ms : Members := match doc with
    | .object ms => ms
    | _ => []
  let d ← d.ofMembers ms
  let place : Place := ⟨number, []⟩
  let base ← rootUri ((d.ownId? ms).getD defaultUri)
  let inside ← entries base d place doc
  pure (base, { resources := [(base, ⟨d, place, doc⟩)] : Registry } ++ inside)

/-! ### References -/

/-- From where references are seen: the base, and the bases passed on the way. -/
structure Resolver where
  base : String
  scope : List String := []
deriving DecidableEq, Repr

/-- The resolver inside a resource that a reference leads to. -/
def Resolver.moved (r : Resolver) (base : String) : Resolver :=
  if (r.scope.isEmpty || base != r.base) && !r.scope.contains r.base then ⟨base, r.base :: r.scope⟩
  else ⟨base, r.scope⟩

/-- A schema that a reference leads to, and from where its own references are seen. -/
structure Target where
  resolver : Resolver
  resource : Resource

/-- Undoes the escapes of a pointer token. -/
def unescapeToken : List Char → List Char
  | '~' :: '0' :: r => '~' :: unescapeToken r
  | '~' :: '1' :: r => '/' :: unescapeToken r
  | c :: r => c :: unescapeToken r
  | [] => []

/-- The index that a token stands for; a plus sign may stand before it. -/
def tokenIndex? (token : List Char) : Option Nat :=
  match token with
  | '+' :: ds => Decimal.natural? ds
  | ds => Decimal.natural? ds

/-- One step of a pointer. -/
def follow? (token : List Char) : Json → Option (Step × Json)
  | .array vs => do
    let i ← tokenIndex? token
    let v ← vs[i]?
    pure (.index i, v)
  | .object ms => do
    let key := String.ofList (unescapeToken token)
    let v ← Members.get? ms key
    pure (.key key, v)
  | _ => none

/-- Follows a pointer; a schema with an identifier changes the base. The steps since the last
change are `path`. -/
def descend? : List (List Char) → List Step → Target → Option Target
  | [], _, t => some t
  | token :: rest, path, t => do
    let (step, v) ← follow? token t.resource.schema
    let path := path ++ [step]
    let next : Resource := { t.resource with place := t.resource.place.step step, schema := v }
    let draft := t.resource.draft
    let own? := match v with
      | .object ms => if draft.leadsToSchema path then draft.ownId? ms else none
      | _ => none
    match own? with
    | some id =>
      let base ← Uri.resolveText? t.resolver.base id
      if base = t.resolver.base then descend? rest path ⟨t.resolver, next⟩
      else descend? rest [] ⟨{ t.resolver with base }, next⟩
    | none => descend? rest path ⟨t.resolver, next⟩

namespace Registry

/-- A dynamic anchor means the outermost one of that name on the way. -/
def outermost (g : Registry) (scope : List String) (a : Anchor) : Anchor :=
  scope.foldl (fun last base =>
    match g.anchor? base a.name with
    | some b => if b.isDynamic then b else last
    | none => last) a

/-- The schema behind an anchor. -/
def anchored? (g : Registry) (r : Resolver) (a : Anchor) : Option Target :=
  if !a.isDynamic then some ⟨r, a.resource⟩
  else
    let last := g.outermost r.scope a
    let own? := match last.resource.schema with
      | .object ms => last.resource.draft.ownId? ms
      | _ => none
    match own? with
    | none => some ⟨r, last.resource⟩
    | some id => (Uri.resolveText? r.base id).map fun base => ⟨{ r with base }, last.resource⟩

/-- The parts of a reference before and after its last number sign. -/
def splitReference (ref : String) : String × List Char :=
  let cs := ref.toList.reverse
  let fragment := cs.takeWhile (· != '#')
  if fragment.length = cs.length then (ref, [])
  else (String.ofList (cs.drop (fragment.length + 1)).reverse, fragment.reverse)

/-- The schema that a reference names. -/
def lookUp? (g : Registry) (r : Resolver) (ref : String) : Option Target := do
  let (uri, fragment) ← match ref.toList with
    | '#' :: fragment => some (r.base, fragment)
    | _ => (Uri.resolveText? r.base (splitReference ref).1).map (·, (splitReference ref).2)
  let resource ← g.resource? uri
  let inside := r.moved uri
  match fragment with
  | [] => some ⟨inside, resource⟩
  | '/' :: pointer =>
    descend? (Text.split '/' (← Uri.percentDecoded? pointer)) [] ⟨inside, resource⟩
  | name => (g.anchor? uri (String.ofList name)).bind (g.anchored? inside)

/-- Whether a schema hands references to itself on to an outer one. -/
def isRecursive (r : Resource) : Bool :=
  match r.schema with
  | .object ms =>
    match Members.get? ms "$recursiveAnchor" with
    | some (.bool b) => b
    | _ => false
  | _ => false

/-- Hands a recursive reference on as long as the outer resources admit it. -/
def handedOn (g : Registry) (r : Resolver) : List String → Target → Target
  | [], t => t
  | uri :: rest, t =>
    match g.lookUp? r uri with
    | some outer => if isRecursive outer.resource then handedOn g r rest outer else t
    | none => t

/-- The schema that a recursive reference names. -/
def lookUpRecursive? (g : Registry) (r : Resolver) : Option Target :=
  (g.lookUp? r "#").map fun t => if isRecursive t.resource then g.handedOn r r.scope t else t

end Registry

end PromptKit.Schema
