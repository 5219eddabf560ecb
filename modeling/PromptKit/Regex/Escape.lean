import PromptKit.Regex.Reader
import PromptKit.Unicode.Fold
import PromptKit.Unicode.Property

/-!
Reading escapes.

An escape stands for a character, for a set of characters, or for a condition.
-/

namespace PromptKit.Regex

open Unicode (Ranges)

/-- The smallest piece of a pattern. -/
inductive Primitive where
  | char (c : Char)
  | set (s : Ranges)
  | anchor (a : Anchor)

def isMeta (c : Char) : Bool := "\\.+*?()|[]\x7b\x7d^$#&-~".toList.contains c

/-- ASCII characters that stand for themselves after a backslash. -/
def isEscapable (c : Char) : Bool :=
  isMeta c || (c.toNat < 0x80 && !c.isAlphanum && c != '<' && c != '>')

def hexDigit? (c : Char) : Option Nat :=
  if c.isDigit then some (c.toNat - '0'.toNat)
  else if 'a' ≤ c ∧ c ≤ 'f' then some (c.toNat - 'a'.toNat + 10)
  else if 'A' ≤ c ∧ c ≤ 'F' then some (c.toNat - 'A'.toNat + 10)
  else none

def char? (n : Nat) : Option Char := if n.isValidChar then some (Char.ofNat n) else none

def charOf (n : Nat) : Reader Primitive :=
  match char? n with
  | some c => pure (.char c)
  | none => throw .codePoint

/-- A fixed number of hexadecimal digits. -/
def hexFixed : Nat → Nat → Reader Nat
  | 0, n => pure n
  | k + 1, n => do
    match hexDigit? (← need .codePoint) with
    | none => throw .codePoint
    | some d =>
      if k = 0 then skip 1 else advance
      hexFixed k (16 * n + d)

/-- Hexadecimal digits up to a closing brace. -/
def hexBraced : Nat → Nat → Nat → Reader Nat
  | 0, _, _ => throw .codePoint
  | fuel + 1, count, n => do
    match ← need .codePoint with
    | '}' =>
      advance
      if count = 0 then throw .codePoint else pure n
    | c =>
      match hexDigit? c with
      | none => throw .codePoint
      | some d =>
        advance
        hexBraced fuel (count + 1) (16 * n + d)

def codePoint (digits : Nat) : Reader Primitive := do
  advance
  if (← need .codePoint) = '{' then
    advance
    charOf (← hexBraced ((← get).rest.length + 1) 0 0)
  else
    let n ← hexFixed digits 0
    if digits = 2 && 0x80 ≤ n && !(← get).flags.unicode then throw .byteMode
    charOf n

def ascii : Ranges := [(0, 0x7F)]

def asciiDigit : Ranges := [(0x30, 0x39)]

def asciiSpace : Ranges := [(9, 13), (0x20, 0x20)]

def asciiWord : Ranges := [(0x30, 0x39), (0x41, 0x5A), (0x5F, 0x5F), (0x61, 0x7A)]

/-- Closes a set under case in the mode that asks for it. -/
def foldCase (flags : Flags) (s : Ranges) : Ranges :=
  if flags.anyCase then
    if flags.unicode then Unicode.foldCase s else (Unicode.foldCase s).inter ascii
  else s

/-- The complement of a set; without Unicode it would hold parts of characters. -/
def complement (flags : Flags) (s : Ranges) : Reader Ranges :=
  if flags.unicode then pure s.compl else throw .byteMode

/-- A set closed under case, or its complement. -/
def foldAndNegate (flags : Flags) (negated : Bool) (s : Ranges) : Reader Ranges :=
  if negated then complement flags (foldCase flags s) else pure (foldCase flags s)

/-- The text up to a closing brace. -/
def bracedName : Nat → List Char → Reader (List Char)
  | 0, _ => throw .escape
  | fuel + 1, acc => do
    match ← need .escape with
    | '}' =>
      skip 1
      pure acc.reverse
    | c =>
      advance
      bracedName fuel (c :: acc)

/-- The set that a property name, perhaps with a value, stands for; `true` asks for the other
characters. -/
def propertyNamed? (cs : List Char) : Option (Bool × Ranges) :=
  let valued (n v : List Char) : Option Ranges :=
    Unicode.setValued? (Unicode.looseName n) (Unicode.looseName v)
  match Text.cut? ['!', '='] cs with
  | some (n, v) => (valued n v).map (true, ·)
  | none =>
    match Text.cut? [':'] cs <|> Text.cut? ['='] cs with
    | some (n, v) => (valued n v).map (false, ·)
    | none => (Unicode.setNamed? (Unicode.looseName cs)).map (false, ·)

def property (negated : Bool) : Reader Primitive := do
  advance
  let c ← need .escape
  let name ←
    if c = '{' then
      advance
      bracedName ((← get).rest.length + 1) []
    else if c = '\\' then throw .escape
    else
      advance
      pure [c]
  let flags := (← get).flags
  if !flags.unicode then throw .byteMode
  match propertyNamed? name with
  | some (inverted, s) => do pure (.set (← foldAndNegate flags (negated != inverted) s))
  | none => throw (.property (String.ofList name))

/-- Letters and hyphens after `\b` and an opening brace name a kind of word boundary. -/
def boundaryName : Nat → List Char → Reader String
  | 0, _ => throw .escape
  | fuel + 1, acc => do
    match ← need .escape with
    | '}' =>
      skip 1
      pure (String.ofList acc.reverse)
    | c =>
      if c.isAlpha || c = '-' then
        advance
        boundaryName fuel (c :: acc)
      else throw .escape

def wordBoundary : Reader Primitive := do
  skip 1
  let u := (← get).flags.unicode
  let before ← get
  if (← peek?) = some '{' then
    advance
    let c ← need .repetitionUnclosed
    if c.isAlpha || c = '-' then
      match ← boundaryName ((← get).rest.length + 1) [] with
      | "start" => pure (.anchor (.wordStart u))
      | "end" => pure (.anchor (.wordEnd u))
      | "start-half" => pure (.anchor (.wordStartHalf u))
      | "end-half" => pure (.anchor (.wordEndHalf u))
      | _ => throw .escape
    else
      set before
      pure (.anchor (.wordBoundary u))
  else pure (.anchor (.wordBoundary u))

/-- The set of a shorthand class, by its small letter. -/
def shorthand (unicode : Bool) : Char → Ranges
  | 'd' => if unicode then Unicode.Category.ranges .nd else asciiDigit
  | 's' => if unicode then Unicode.whiteSpace else asciiSpace
  | _ => if unicode then Unicode.word else asciiWord

/-- Reads an escape; the backslash comes next. -/
def escapeTail : Reader Primitive := do
  let left := (← get).rest.length
  skip 1
  let c ← need .escape
  let flags := (← get).flags
  let take (p : Primitive) : Reader Primitive := do
    skip 1
    pure p
  let short : Reader Unit := do
    skip 1
    modify fun s => { s with shorthands := left :: s.shorthands }
  match c with
  | 'x' => codePoint 2
  | 'u' => codePoint 4
  | 'U' => codePoint 8
  | 'p' => property false
  | 'P' => property true
  | 'd' | 's' | 'w' =>
    short
    pure (.set (shorthand flags.unicode c))
  | 'D' | 'S' | 'W' =>
    short
    pure (.set (← complement flags (shorthand flags.unicode c.toLower)))
  | 'a' => take (.char (Char.ofNat 7))
  | 'f' => take (.char (Char.ofNat 12))
  | 't' => take (.char '\t')
  | 'n' => take (.char '\n')
  | 'r' => take (.char '\r')
  | 'v' => take (.char (Char.ofNat 11))
  | 'A' => take (.anchor .textStart)
  | 'z' => take (.anchor .textEnd)
  | 'b' => wordBoundary
  | 'B' => take (.anchor (.notWordBoundary flags.unicode))
  | '<' => take (.anchor (.wordStart flags.unicode))
  | '>' => take (.anchor (.wordEnd flags.unicode))
  | 'c' => throw (.controlEscape left)
  | c =>
    if c.isDigit then throw .backReference
    else if isEscapable c then take (.char c)
    else throw .escape

end PromptKit.Regex
