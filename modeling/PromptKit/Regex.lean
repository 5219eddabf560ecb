import PromptKit.Regex.Group
import PromptKit.Regex.Positions

/-!
Regular expressions over characters.

A `Regex` is searched anywhere in a text. `matchesAtStart` asks whether the leftmost match
starts at the first character, which holds exactly when some match starts there.
-/

namespace PromptKit

structure Regex where
  source : String
  pattern : Regex.Pattern
deriving Inhabited

namespace Regex

def compile (source : String) : Except Error Regex := do
  pure ⟨source, ← compilePattern {} source.toList⟩

/-- Whether a match of a pattern starts in a set of positions of a page. -/
def Page.matches (t : Page) (p : Pattern) (s : Positions) : Bool :=
  (t.track p).reach t.length true s != 0

/-- Whether a match starts anywhere in a text. -/
def isMatch (r : Regex) (text : String) : Bool :=
  let t := Page.ofText text.toList
  t.matches r.pattern t.full

/-- Whether a match starts at the first character. -/
def matchesAtStart (r : Regex) (text : String) : Bool :=
  (Page.ofText text.toList).matches r.pattern 1

end Regex

end PromptKit
