import PromptKit.Expansion
import PromptKit.Notice
import PromptKit.Pack

/-!
Templates with their fragments put in.

A resolution gives a text within a limit of bytes; a fragment that is not defined stays as it
is written and is noted.
-/

namespace PromptKit

/-- Why a template has no resolution. -/
inductive ResolutionError where
  /-- The names along a cycle; the first and the last are the same. -/
  | cycle (path : List String)
  | tooLarge (limit : Nat)
deriving DecidableEq, Repr

def ResolutionError.message : ResolutionError → String
  | .cycle path => "fragment cycle detected: " ++ " → ".intercalate path
  | .tooLarge limit => "fragment expansion exceeds " ++ toString limit ++ " bytes"

/-- Fragments and the delimiters around their names. -/
structure Resolver where
  delimiters : Delimiters := .default
  fragments : NameMap String := .empty
  /-- The most bytes that a resolution may have. -/
  limit : Nat := 1048576

namespace Resolver

/-- The fragments of a pack. -/
def ofPack (p : Pack) : Resolver := { delimiters := p.engine.delimiters, fragments := p.fragments }

def scan (r : Resolver) (template : String) : List Segment :=
  Template.scan r.delimiters template.toList

def bodies (r : Resolver) : Fragments := .ofTexts r.delimiters r.fragments

/-- The text of pieces. -/
def textOf (r : Resolver) (pieces : List Segment) : String :=
  String.ofList (pieces.flatMap (·.raw r.delimiters))

/-- A note for each piece that is a fragment. -/
def notices (pieces : List Segment) : List Notice :=
  (pieces.filterMap Segment.fragmentName?).map .undefinedFragment

/-- The template with its fragments in their places. -/
def resolve (r : Resolver) (template : String) : Traced ResolutionError String := do
  let (w, ending) := Writer.run r.delimiters r.limit r.bodies [] {} (r.scan template)
  let pieces := w.written.reverse
  Traced.noteAll (notices pieces)
  match ending with
  | .done => pure (r.textOf pieces)
  | .cycle path => throw (.cycle path)
  | .full next => do
    Traced.noteAll (notices [next])
    throw (.tooLarge r.limit)

/-- The fragments that are not defined, in the template or in those that it reaches. -/
def missing (r : Resolver) (template : String) : List String :=
  Expansion.missing r.bodies (r.scan template)

end Resolver

end PromptKit
