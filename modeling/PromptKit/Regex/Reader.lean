import PromptKit.Regex.Pattern
import PromptKit.Unicode.Listed
import PromptKit.Text.Search

/-!
The state of reading a pattern.

A pattern is refused for a malformed group, class, repetition or escape, for an unknown
property, for conditions on the surrounding text and back-references, for being nested too
deeply and for taking too much room.
-/

namespace PromptKit.Regex

inductive Error where
  | groupUnclosed
  | groupUnopened
  | groupName
  | groupRepeated (name : String)
  | flag
  | lookAround
  | backReference
  | repetitionMissing
  | repetitionUnclosed
  | repetitionCount
  | classUnclosed
  | classItem
  | escape
  /-- A backslash and a `c`, with so many characters of the pattern left. -/
  | controlEscape (left : Nat)
  | codePoint
  | property (name : String)
  | byteMode
  | tooDeep
  | tooBig
deriving DecidableEq, Repr

def Error.message : Error → String
  | .groupUnclosed => "unclosed group"
  | .groupUnopened => "unopened group"
  | .groupName => "malformed group name"
  | .groupRepeated name => "group name used twice: " ++ name
  | .flag => "malformed flags"
  | .lookAround => "look-around is not supported"
  | .backReference => "back-references are not supported"
  | .repetitionMissing => "repetition of nothing"
  | .repetitionUnclosed => "unclosed repetition count"
  | .repetitionCount => "malformed repetition count"
  | .classUnclosed => "unclosed character class"
  | .classItem => "malformed item in a character class"
  | .escape | .controlEscape _ => "unrecognized escape"
  | .codePoint => "malformed code point"
  | .property name => "unknown property: " ++ name
  | .byteMode => "the pattern could match part of a character"
  | .tooDeep => "nested too deeply"
  | .tooBig => "the pattern is too big"

structure Flags where
  anyCase : Bool := false
  multiLine : Bool := false
  dotAll : Bool := false
  unicode : Bool := true
  crlf : Bool := false
  spaced : Bool := false
  /-- A repetition takes as little as it can, unless it is marked. -/
  sparing : Bool := false

structure State where
  rest : List Char
  flags : Flags := {}
  names : List String := []
  /-- The number of groups opened so far. -/
  groups : Nat := 0
  /-- How much was left of the pattern where a shorthand class was read. -/
  shorthands : List Nat := []

abbrev Reader := StateT State (Except Error)

def peek? : Reader (Option Char) := return (← get).rest.head?

def skip (n : Nat) : Reader Unit := modify fun s => { s with rest := s.rest.drop n }

/-- Drops blanks, and comments that run to the end of their line. -/
def dropSpaced : Nat → List Char → List Char
  | 0, cs => cs
  | _ + 1, [] => []
  | n + 1, c :: cs =>
    if Unicode.whiteSpace.contains c.toNat then dropSpaced n cs
    else if c = '#' then dropSpaced n (cs.dropWhile (· != '\n'))
    else c :: cs

/-- In the spaced mode, skips blanks and comments. -/
def skipSpace : Reader Unit := modify fun s =>
  if s.flags.spaced then { s with rest := dropSpaced s.rest.length s.rest } else s

/-- Skips one character and what the spaced mode lets one skip. -/
def advance : Reader Unit := do
  skip 1
  skipSpace

/-- The next character, or an error at the end. -/
def need (e : Error) : Reader Char := do
  match ← peek? with
  | some c => pure c
  | none => throw e

/-- Skips a fixed text if it comes next. -/
def skipText (t : String) : Reader Bool := do
  match Text.after? t.toList (← get).rest with
  | some r =>
    modify fun s => { s with rest := r }
    pure true
  | none => pure false

end PromptKit.Regex
