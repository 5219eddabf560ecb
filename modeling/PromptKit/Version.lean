import PromptKit.Fault
import PromptKit.Text.Search
import PromptKit.Unicode.Digit

/-!
Version numbers: three numbers between points, then a pre-release after a dash and a build
after a plus, either of which may be left out. A leading `v` is allowed.

A number has no leading zero. Its later digits may be decimal digits of any script, and so may
the digits at the start of a pre-release identifier that is no number; all else is ASCII.
-/

namespace PromptKit.Version

/-- A number without leading zeros. -/
def isNumber : List Char → Bool
  | [] => false
  | ['0'] => true
  | c :: cs => c.isDigit && c != '0' && cs.all Unicode.isDecimalDigit

def isIdentifierChar (c : Char) : Bool := c.isAlphanum || c = '-'

/-- Digits, then a letter or a dash, then more identifier characters. -/
def isWord (cs : List Char) : Bool :=
  match cs.dropWhile Unicode.isDecimalDigit with
  | [] => false
  | c :: rest => (c.isAlpha || c = '-') && rest.all isIdentifierChar

def isPreRelease (cs : List Char) : Bool :=
  (Text.split '.' cs).all fun part => isNumber part || isWord part

def isBuild (cs : List Char) : Bool :=
  (Text.split '.' cs).all fun part => !part.isEmpty && part.all isIdentifierChar

/-- Three numbers between points. -/
def isCore (cs : List Char) : Bool :=
  let parts := Text.split '.' cs
  parts.length == 3 && parts.all isNumber

/-- The part before the first `sep`, and the part after it if there is one. -/
def before (sep : Char) (cs : List Char) : List Char × Option (List Char) :=
  match Text.cut? [sep] cs with
  | some (a, b) => (a, some b)
  | none => (cs, none)

def isVersion (cs : List Char) : Bool :=
  let cs := match cs with
    | 'v' :: rest => rest
    | _ => cs
  let (cs, build) := before '+' cs
  let (core, pre) := before '-' cs
  isCore core && pre.all isPreRelease && build.all isBuild

def check (version : String) : Except Fault Unit :=
  if isVersion version.toList then pure () else throw (.version version)

end PromptKit.Version
