import PromptKit.Regex
import PromptKit.Regex.Backtracking.Machine
import PromptKit.Regex.Backtracking.Reader

/-!
Searching for any pattern.

A pattern that is plain as a whole is searched for by positions, any other by backtracking.
Shorthand classes stand for ASCII here, as long as the pattern does not look around itself and
does not refer back.
-/

namespace PromptKit.Regex

/-- What the shorthand classes stand for in ASCII; blanks include some that are not. -/
def asciiShorthand? : Char → Option (List Char)
  | 'd' => some "[0-9]".toList
  | 'D' => some "[^0-9]".toList
  | 'w' => some "[A-Za-z0-9_]".toList
  | 'W' => some "[^A-Za-z0-9_]".toList
  | 's' => some "[ \t\n\r\u000b\u000c\u00a0\ufeff\u2003\u2029]".toList
  | 'S' => some "[^ \t\n\r\u000b\u000c\u00a0\ufeff\u2003\u2029]".toList
  | _ => none

/-- Writes out the shorthand classes that stand where `places` counts the characters left; the
text has `left` characters. -/
def writeOut (places : List Nat) : Nat → List Char → List Char
  | left, '\\' :: c :: cs =>
    match (if places.contains left then asciiShorthand? c else none) with
    | some t => t ++ writeOut places (left - 2) cs
    | none => '\\' :: c :: writeOut places (left - 2) cs
  | left, c :: cs => c :: writeOut places (left - 1) cs
  | _, [] => []

/-- The text of a pattern in which escaped control characters, at most `n`, and shorthand
classes are written out. -/
def plainText : Nat → List Char → Except Error (List Char)
  | n, cs =>
    match readPattern {} cs with
    | .ok r => pure (writeOut r.shorthands cs.length cs)
    | .error .lookAround | .error .backReference => pure cs
    | .error (.controlEscape left) =>
      let head := cs.take (cs.length - left)
      match n, cs.drop (head.length + 2) with
      | n + 1, c :: rest =>
        if c.isAlpha then plainText n (head ++ Char.ofNat (c.toNat % 32) :: rest)
        else throw (.controlEscape left)
      | _, _ => throw (.controlEscape left)
    | .error e => throw e

inductive Search where
  | byPositions (p : Pattern)
  | byBacktracking (p : Program)
deriving Inhabited

namespace Search

/-- Takes a look ahead at the end for what follows the match. -/
def withoutLastLook : Node → Node
  | .seq ps =>
    match ps.getLast? with
    | some (.look true true p) => .seq [.group 0 (Backtracking.ofParts ps.dropLast), p]
    | _ => .seq ps
  | p => p

/-- Whether a node can only match at the start of the text. -/
def isAnchored : Node → Bool
  | .seq (.anchor .textStart :: _) => true
  | .anchor .textStart => true
  | _ => false

def ofReading (r : Backtracking.Reading) : Except Error Search :=
  let p := withoutLastLook r.node
  if p.isHard r.refs then do
    pure (.byBacktracking (← Program.ofNode r.refs r.groups (isAnchored p) p))
  else if p.toPattern.isTooBig then throw .tooBig
  else pure (.byPositions p.toPattern)

def run (s : Search) (text : String) : Verdict :=
  match s with
  | byPositions p =>
    let t := Page.ofText text.toList
    if t.matches p t.full then .found else .absent
  | byBacktracking p => p.search text

end Search

/-- A pattern with its text, shorthand classes written out. -/
structure SearchPattern where
  text : String
  search : Search
deriving Inhabited

namespace SearchPattern

def compile (source : String) : Except Error SearchPattern := do
  let cs := source.toList
  let text := String.ofList (← plainText cs.length cs)
  pure ⟨text, ← Search.ofReading (← Backtracking.read text)⟩

def run (p : SearchPattern) (text : String) : Verdict := p.search.run text

/-- Whether a match is found before the search is given up. -/
def isFound (p : SearchPattern) (text : String) : Bool := p.run text = .found

end SearchPattern

end PromptKit.Regex
