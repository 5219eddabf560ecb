import PromptKit.Text.Blank
import PromptKit.Text.Search

/-!
The marks around a placeholder.

A pack describes them by an example placeholder, such as `$(variable)`, or by the two marks with
a blank between them.
-/

namespace PromptKit

structure Delimiters where
  left : List Char
  right : List Char
  left_ne_nil : left ≠ []
  right_ne_nil : right ≠ []
deriving DecidableEq, Repr

namespace Delimiters

/-- Double braces. -/
def default : Delimiters := ⟨['{', '{'], ['}', '}'], by decide, by decide⟩

instance : Inhabited Delimiters := ⟨default⟩

/-- Two marks, neither of them empty. -/
def ofMarks? (left right : List Char) : Option Delimiters :=
  if h : left ≠ [] ∧ right ≠ [] then some ⟨left, right, h.1, h.2⟩ else none

/-- The word that stands for any name in an example placeholder. -/
def exampleName : List Char := "variable".toList

/-- The marks that a text describes. -/
def ofMarker? (text : List Char) : Option Delimiters :=
  match Text.cut? exampleName (Text.trim text) with
  | some (left, right) => ofMarks? (Text.trim left) (Text.trim right)
  | none =>
    match Text.words text with
    | [left, right] => ofMarks? left right
    | _ => none

def wrap (d : Delimiters) (inner : List Char) : List Char := d.left ++ inner ++ d.right

end Delimiters

end PromptKit
