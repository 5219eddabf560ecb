import PromptKit.Delimiters
import PromptKit.Name

/-!
Templates and the placeholders in them.

`scan` cuts a text into segments. A placeholder is a symbol between the delimiters, with
`fragment:` before the symbol where a fragment is meant; the text between an opening mark and
the first closing mark after it has to be that and nothing more. All else is text.
-/

namespace PromptKit

/-- A piece of a template. -/
inductive Segment where
  | text (cs : List Char)
  /-- A place for the value of a variable. -/
  | slot (name : String)
  /-- A place for the text of a fragment. -/
  | fragment (name : String)
deriving DecidableEq, Repr

namespace Segment

/-- What stands before the name of a fragment. -/
def fragmentMark : List Char := "fragment:".toList

/-- What a segment holds between the delimiters. -/
def inner : Segment → List Char
  | .text cs => cs
  | .slot name => name.toList
  | .fragment name => fragmentMark ++ name.toList

/-- The text of a segment in its template. -/
def raw (d : Delimiters) : Segment → List Char
  | .text cs => cs
  | s => d.wrap s.inner

def slotName? : Segment → Option String
  | .slot name => some name
  | _ => none

def fragmentName? : Segment → Option String
  | .fragment name => some name
  | _ => none

/-- The placeholder with the given text between its delimiters. -/
def ofInner? (cs : List Char) : Option Segment :=
  match Text.after? fragmentMark cs with
  | some name => if Name.isSymbol name then some (.fragment (String.ofList name)) else none
  | none => if Name.isSymbol cs then some (.slot (String.ofList cs)) else none

/-- Puts a character in front, into the first text. -/
def consChar (c : Char) : List Segment → List Segment
  | .text cs :: rest => .text (c :: cs) :: rest
  | segments => .text [c] :: segments

end Segment

namespace Template

/-- The placeholder at the start of a text, with what follows it. -/
def placeholder? (d : Delimiters) (cs : List Char) : Option (Segment × List Char) := do
  let afterLeft ← Text.after? d.left cs
  let (inner, rest) ← Text.cut? d.right afterLeft
  let s ← Segment.ofInner? inner
  pure (s, rest)

theorem length_lt_of_placeholder? {d : Delimiters} {cs r : List Char} {s : Segment}
    (h : placeholder? d cs = some (s, r)) : r.length < cs.length := by
  simp only [placeholder?, Option.bind_eq_bind, Option.bind_eq_some_iff, Option.pure_def,
    Option.some.injEq, Prod.mk.injEq, Prod.exists] at h
  obtain ⟨a, ha, i, q, hq, _, _, _, rfl⟩ := h
  have h1 := Text.after?_eq_some.1 ha
  have h2 := Text.eq_of_cut? hq
  have : 0 < d.left.length := List.length_pos_iff.2 d.left_ne_nil
  subst h1 h2
  simp only [List.length_append]
  omega

/-- The segments of a template, leftmost placeholder first. -/
def scan (d : Delimiters) (cs : List Char) : List Segment :=
  match cs with
  | [] => []
  | c :: rest =>
    match _h : placeholder? d (c :: rest) with
    | some (s, r) => s :: scan d r
    | none => Segment.consChar c (scan d rest)
termination_by cs.length
decreasing_by
  · simpa using length_lt_of_placeholder? _h
  · simp

/-- The variables that a template has places for, each at its first place. -/
def slotNames (segments : List Segment) : List String :=
  (segments.filterMap Segment.slotName?).eraseDups

/-- The fragments that a template has places for, those of its fragments not included. -/
def fragmentNames (segments : List Segment) : List String :=
  (segments.filterMap Segment.fragmentName?).eraseDups

end Template

end PromptKit
