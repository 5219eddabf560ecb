import PromptKit.Decimal.Reading
import PromptKit.Regex.Bracket
import PromptKit.Regex.Room

/-!
Reading whole patterns.

A pattern has branches, a branch has parts, and each part may be repeated. `readPattern` gives
the pattern in normal form.
-/

namespace PromptKit.Regex

/-- A part of a pattern with its nesting depth. -/
structure Item where
  pattern : Pattern
  depth : Nat := 0
  repeatable : Bool := true

/-- How deep some items nest when they stand together. -/
def Item.level (is : List Item) : Nat := (is.map (·.depth)).foldl max 0 + 1

/-- The items of one branch, last item first. -/
def joinItems : List Item → Item
  | [] => ⟨.empty, 0, true⟩
  | [i] => i
  | is => ⟨.concat (is.reverse.map (·.pattern)), Item.level is, true⟩

/-- The branches of a choice, last branch first. -/
def joinBranches : List Item → Item
  | [] => ⟨.empty, 0, true⟩
  | [i] => i
  | is => ⟨.choice (is.reverse.map (·.pattern)), Item.level is, true⟩

/-- A decimal count, blanks around it allowed. -/
def count? : Reader (Option Nat) := do
  let blanks := modify fun s : State =>
    { s with rest := s.rest.dropWhile fun c => Unicode.whiteSpace.contains c.toNat }
  blanks
  let ds := (← get).rest.takeWhile Char.isDigit
  skip ds.length
  skipSpace
  blanks
  if ds.isEmpty then pure none
  else
    let n := Decimal.appendDigits 0 ds
    if n < Nat.pow 2 32 then pure (some n) else throw .repetitionCount

/-- Reads the counts of a repetition; the opening brace comes next. -/
def counts : Reader (Nat × Option Nat) := do
  advance
  let _ ← need .repetitionUnclosed
  let least ← count?
  let c ← need .repetitionUnclosed
  let range ←
    if c = ',' then
      advance
      if (← need .repetitionUnclosed) = '}' then
        match least with
        | some n => pure (n, none)
        | none => throw .repetitionCount
      else
        match least, ← count? with
        | some n, some m => pure (n, some m)
        | _, _ => throw .repetitionCount
    else
      match least with
      | some n => pure (n, some n)
      | none => throw .repetitionCount
  if (← need .repetitionUnclosed) != '}' then throw .repetitionUnclosed
  advance
  match range.2 with
  | some m => if m < range.1 then throw .repetitionCount else pure range
  | none => pure range

/-- Reads the mark of a repetition that goes against the mode, and whether it is greedy. -/
def greediness : Reader Bool := do
  let sparing := (← get).flags.sparing
  if (← peek?) = some '?' then
    skip 1
    pure sparing
  else pure !sparing

/-- Wraps the last item in a repetition. -/
def repeatLast (range : Nat × Option Nat) : List Item → Reader (List Item)
  | [] => throw .repetitionMissing
  | i :: is => do
    if i.repeatable then
      let greedy ← greediness
      pure (⟨.repetition i.pattern range.1 range.2 greedy, i.depth + 1, true⟩ :: is)
    else throw .repetitionMissing

/-- Whether a repetition may follow some items. -/
def needRepeatable : List Item → Reader Unit
  | [] => throw .repetitionMissing
  | i :: _ => if i.repeatable then pure () else throw .repetitionMissing

/-- Sets one flag. -/
def Flags.set (f : Flags) (c : Char) (on : Bool) : Option Flags :=
  match c with
  | 'i' => some { f with anyCase := on }
  | 'm' => some { f with multiLine := on }
  | 's' => some { f with dotAll := on }
  | 'U' => some { f with sparing := on }
  | 'u' => some { f with unicode := on }
  | 'R' => some { f with crlf := on }
  | 'x' => some { f with spaced := on }
  | _ => none

/-- Reads flags up to `:` or `)`; `seen` holds the characters read. -/
def flagList : Nat → List Char → Flags → Reader (List Char × Flags)
  | 0, _, _ => throw .flag
  | fuel + 1, seen, f => do
    let c ← need .flag
    if c = ':' || c = ')' then
      if seen.head? = some '-' then throw .flag else pure (seen, f)
    else if seen.contains c then throw .flag
    else if c = '-' then
      advance
      flagList fuel (c :: seen) f
    else
      match f.set c (!seen.contains '-') with
      | none => throw .flag
      | some f =>
        advance
        flagList fuel (c :: seen) f

/-- Letters of any script, as they begin the name of a group. -/
def isNameStart (c : Char) : Bool := c = '_' || Unicode.alphabetic.contains c.toNat

def isNameChar (c : Char) : Bool :=
  isNameStart c || c = '.' || c = '[' || c = ']'
    || [.nd, .nl, .no].any fun g => (Unicode.Category.ranges g).contains c.toNat

/-- Reads the name of a group up to `>`. -/
def groupName : Reader Unit := do
  let name := (← get).rest.takeWhile (· != '>')
  skip name.length
  let _ ← need .groupName
  skip 1
  match name with
  | [] => throw .groupName
  | c :: cs =>
    if !(isNameStart c && cs.all isNameChar) then throw .groupName
    let name := String.ofList name
    if (← get).names.contains name then throw (.groupRepeated name)
    modify fun s => { s with names := name :: s.names }

/-- How a group opens. -/
inductive Opening where
  | plain (flags : Flags)
  | capture
  | setFlags (flags : Flags)

/-- Reads the opening of a group after its parenthesis. -/
def opening : Reader Opening := do
  skipSpace
  let flags := (← get).flags
  if ← skipText "?=" then throw .lookAround
  else if ← skipText "?!" then throw .lookAround
  else if ← skipText "?<=" then throw .lookAround
  else if ← skipText "?<!" then throw .lookAround
  else if ← skipText "?P<" then
    groupName
    pure .capture
  else if ← skipText "?<" then
    groupName
    pure .capture
  else if ← skipText "?" then
    let _ ← need .groupUnclosed
    let (seen, f) ← flagList ((← get).rest.length + 1) [] flags
    let c ← need .groupUnclosed
    skip 1
    if c = ')' then
      if seen.isEmpty then throw .repetitionMissing else pure (.setFlags f)
    else pure (.plain f)
  else pure .capture

/-- A character, in both cases where the mode asks for them. -/
def charPattern (flags : Flags) (c : Char) : Pattern :=
  if !flags.unicode && 0x80 ≤ c.toNat then .char c
  else .ofSet (foldCase flags (Unicode.Ranges.single c.toNat))

def ofPrimitive (flags : Flags) : Primitive → Item
  | .char c => ⟨charPattern flags c, 0, true⟩
  | .set s => ⟨.ofSet s, 0, true⟩
  | .anchor a => ⟨.anchor a, 0, true⟩

/-- What a dot stands for. -/
def dot (flags : Flags) : Reader Unicode.Ranges :=
  if !flags.unicode then throw .byteMode
  else if flags.dotAll then pure .full
  else if flags.crlf then pure (Unicode.Ranges.compl [(10, 10), (13, 13)])
  else pure (Unicode.Ranges.compl [(10, 10)])

def caret (flags : Flags) : Anchor := if flags.multiLine then .lineStart flags.crlf else .textStart

def dollar (flags : Flags) : Anchor := if flags.multiLine then .lineEnd flags.crlf else .textEnd

/-- Reads the branches of a group or of the whole pattern, `level` groups deep. -/
def branches (level : Nat) : Nat → List Item → List Item → Reader Item
  | 0, _, _ => throw .groupUnclosed
  | fuel + 1, done, items => do
    skipSpace
    let flags := (← get).flags
    let next (i : Item) : Reader Item := branches level fuel done (i :: items)
    let repetition (range : Nat × Option Nat) : Reader Item := do
      skip 1
      branches level fuel done (← repeatLast range items)
    match ← peek? with
    | none =>
      if 0 < level then throw .groupUnclosed else pure (joinBranches (joinItems items :: done))
    | some ')' =>
      if level = 0 then throw .groupUnopened
      skip 1
      pure (joinBranches (joinItems items :: done))
    | some '|' =>
      skip 1
      branches level fuel (joinItems items :: done) []
    | some '(' =>
      skip 1
      match ← opening with
      | .setFlags f =>
        modify fun s => { s with flags := f }
        next ⟨.empty, 0, false⟩
      | .plain f =>
        modify fun s => { s with flags := f }
        let i ← branches (level + 1) fuel [] []
        modify fun s => { s with flags := flags }
        next ⟨i.pattern, i.depth + 1, true⟩
      | .capture =>
        let index := (← get).groups
        modify fun s => { s with groups := index + 1 }
        let i ← branches (level + 1) fuel [] []
        modify fun s => { s with flags := flags }
        next ⟨.group index i.pattern, i.depth + 1, true⟩
    | some '[' =>
      skip 1
      let (s, depth) ← classBody ((← get).rest.length + 1)
      next ⟨.ofSet s, depth, true⟩
    | some '?' => repetition (0, some 1)
    | some '*' => repetition (0, none)
    | some '+' => repetition (1, none)
    | some '{' =>
      needRepeatable items
      let range ← counts
      branches level fuel done (← repeatLast range items)
    | some '.' =>
      skip 1
      next ⟨.ofSet (← dot flags), 0, true⟩
    | some '^' =>
      skip 1
      next ⟨.anchor (caret flags), 0, true⟩
    | some '$' =>
      skip 1
      next ⟨.anchor (dollar flags), 0, true⟩
    | some '\\' => next (ofPrimitive flags (← escapeTail))
    | some c =>
      skip 1
      next (ofPrimitive flags (.char c))

/-- The deepest nesting that is read. -/
def maxDepth : Nat := 250

/-- What is known of a pattern once it is read. -/
structure Reading where
  pattern : Pattern
  /-- How much was left of the text at each shorthand class. -/
  shorthands : List Nat

def readPattern (flags : Flags) (text : List Char) : Except Error Reading := do
  let (item, s) ← (branches 0 (2 * text.length + 2) [] []).run { rest := text, flags := flags }
  if maxDepth < item.depth then throw .tooDeep
  pure ⟨item.pattern, s.shorthands⟩

/-- Reads a pattern that can be searched for. -/
def compilePattern (flags : Flags) (text : List Char) : Except Error Pattern := do
  let r ← readPattern flags text
  if r.pattern.isTooBig then throw .tooBig
  pure r.pattern

end PromptKit.Regex
