import PromptKit.Yaml.Property

/-!
Cutting a YAML text into tokens.

The indentation of a line opens and closes blocks. Whether a scalar is a key is only known at
the colon after it, so each place where a key may start gets a slot of its own, which stays
empty unless a colon follows.
-/

namespace PromptKit.Yaml

/-- A place where a key may have started. -/
structure PossibleKey where
  slot : Nat
  /-- Nothing else may stand here. -/
  required : Bool
  index : Nat
  line : Nat
  column : Nat

structure Lexer where
  cursor : Cursor
  slots : Array (List Token) := #[]
  /-- The columns of the open blocks, innermost first. -/
  indents : List Nat := []
  keyAllowed : Bool := true
  key : Option PossibleKey := none
  /-- The possible keys around each open flow collection, innermost first. -/
  outerKeys : List (Option PossibleKey) := []

namespace Lexer

def inFlow (l : Lexer) : Bool := !l.outerKeys.isEmpty

def emit (l : Lexer) (t : Token) : Lexer := { l with slots := l.slots.push [t] }

/-- A key ends on its line, and within this many bytes. -/
def maxKeyLength : Nat := 1024

/-- A possible key that lies too far behind is none. -/
def refresh (c : Cursor) : Option PossibleKey → Scan (Option PossibleKey)
  | none => pure none
  | some k =>
    if k.line < c.line || k.index + maxKeyLength < c.index then
      if k.required then throw .keyUnfinished else pure none
    else pure (some k)

def refreshKeys (l : Lexer) : Scan Lexer := do
  let key ← refresh l.cursor l.key
  let outerKeys ← l.outerKeys.mapM (refresh l.cursor)
  pure { l with key, outerKeys }

def dropKey (l : Lexer) : Scan Lexer :=
  if l.key.any (·.required) then throw .keyUnfinished else pure { l with key := none }

/-- Marks this place as one where a key may start. -/
def saveKey (l : Lexer) : Scan Lexer := do
  if !l.keyAllowed then pure l
  else
    let l ← l.dropKey
    let c := l.cursor
    let required := !l.inFlow && l.indents.head? == some c.column
    pure { l with
      key := some ⟨l.slots.size, required, c.index, c.line, c.column⟩
      slots := l.slots.push [] }

/-- Whether a block at a column would lie deeper than those that are open. -/
def isDeeper (l : Lexer) (column : Nat) : Bool :=
  !l.inFlow && match l.indents with
    | [] => true
    | i :: _ => i < column

/-- Opens a block here, unless one of this column is open. -/
def openBlock (l : Lexer) (t : Token) : Lexer :=
  if l.isDeeper l.cursor.column then
    { l with indents := l.cursor.column :: l.indents }.emit t
  else l

/-- Closes the blocks that lie deeper than a column, or all of them. -/
def closeBlocks (l : Lexer) (column : Option Nat) : Lexer :=
  if l.inFlow then l
  else
    let deeper := l.indents.takeWhile fun i => match column with
      | some c => c < i
      | none => true
    { l with
      indents := l.indents.drop deeper.length
      slots := deeper.foldl (fun ts _ => ts.push [.blockEnd]) l.slots }

/-- Moves past blanks, comments and breaks; a new line allows a key outside flow collections. -/
def skipGap : Nat → Lexer → Scan Lexer
  | 0, _ => throw .tooLong
  | fuel + 1, l =>
    let c := l.cursor
    let c := if c.index = 0 && c.sees (Char.ofNat 0xFEFF) then c.next else c
    let tabs := l.inFlow || !l.keyAllowed
    let c := c.skipWhile fun x => x = ' ' || (tabs && x = '\t')
    let c := if c.sees '#' then c.skipWhile (!isBreak ·) else c
    if c.peek?.any isBreak then
      skipGap fuel { l with cursor := c.newline.2, keyAllowed := l.keyAllowed || !l.inFlow }
    else pure { l with cursor := c }

/-- Steps over some characters that make a token. -/
def mark (l : Lexer) (t : Token) (n : Nat) : Lexer :=
  { l with cursor := l.cursor.skip n }.emit t

def flowStart (l : Lexer) (t : Token) : Scan Lexer := do
  let l ← l.saveKey
  pure ({ l with key := none, outerKeys := l.key :: l.outerKeys, keyAllowed := true }.mark t 1)

def flowEnd (l : Lexer) (t : Token) : Scan Lexer := do
  let l ← l.dropKey
  let l := match l.outerKeys with
    | [] => l
    | k :: rest => { l with key := k, outerKeys := rest }
  pure ({ l with keyAllowed := false }.mark t 1)

def flowEntry (l : Lexer) : Scan Lexer := do
  let l ← l.dropKey
  pure ({ l with keyAllowed := true }.mark .flowEntry 1)

def blockEntry (l : Lexer) : Scan Lexer := do
  if !l.inFlow && !l.keyAllowed then throw .entryMisplaced
  let l ← (l.openBlock .blockSequenceStart).dropKey
  pure ({ l with keyAllowed := true }.mark .blockEntry 1)

def keyMark (l : Lexer) : Scan Lexer := do
  if !l.inFlow && !l.keyAllowed then throw .keyMisplaced
  let l ← (l.openBlock .blockMappingStart).dropKey
  pure ({ l with keyAllowed := !l.inFlow }.mark .key 1)

/-- A colon turns the possible key before it into a key, which may open a block. -/
def valueMark (l : Lexer) : Scan Lexer :=
  match l.key with
  | some k =>
    let deeper := l.isDeeper k.column
    let start := if deeper then [.blockMappingStart, .key] else [.key]
    pure ({ l with
      slots := l.slots.setIfInBounds k.slot start
      indents := if deeper then k.column :: l.indents else l.indents
      key := none
      keyAllowed := false }.mark .value 1)
  | none => do
    if !l.inFlow && !l.keyAllowed then throw .valueMisplaced
    let l := l.openBlock .blockMappingStart
    pure ({ l with keyAllowed := !l.inFlow }.mark .value 1)

def documentMark (l : Lexer) (t : Token) : Scan Lexer := do
  let l ← (l.closeBlocks none).dropKey
  pure ({ l with keyAllowed := false }.mark t 3)

def directive (l : Lexer) : Scan Lexer := do
  let l ← (l.closeBlocks none).dropKey
  let (t, c) ← readDirective l.cursor.next
  pure ({ l with keyAllowed := false, cursor := c }.emit t)

/-- A token before which a key may start. -/
def keyed (l : Lexer) (read : Cursor → Scan (Token × Cursor)) : Scan Lexer := do
  let l ← l.saveKey
  let (t, c) ← read l.cursor
  pure ({ l with keyAllowed := false, cursor := c }.emit t)

def named (make : String → Token) (c : Cursor) : Scan (Token × Cursor) := do
  let (name, c) ← readName c.next
  pure (make name, c)

def quoted (quote : Char) (c : Cursor) : Scan (Token × Cursor) := do
  let (cs, c) ← readQuoted quote (c.rest.length + 1) [] c.next
  pure (.scalar (String.ofList cs) false, c)

def blockScalar (l : Lexer) (literal : Bool) : Scan Lexer := do
  let l ← l.dropKey
  let (cs, c) ← readBlock literal l.indents.head? l.cursor.next
  pure ({ l with keyAllowed := true, cursor := c }.emit (.scalar (String.ofList cs) false))

def plain (l : Lexer) : Scan Lexer := do
  let l ← l.saveKey
  let indent := match l.indents with
    | [] => 0
    | i :: _ => i + 1
  let (cs, newLine, c) ← readPlain l.inFlow indent (l.cursor.rest.length + 1) [] {} l.cursor
  pure ({ l with keyAllowed := newLine, cursor := c }.emit (.scalar (String.ofList cs) true))

/-- The characters that no plain scalar starts with. -/
def indicators : List Char :=
  ['-', '?', ':', ',', '[', ']', '{', '}', '#', '&', '*', '!', '|', '>', '\'', '"', '%', '@', '`']

/-- The token that starts with a character, at this place. -/
def token (l : Lexer) (x : Char) (r : List Char) : Scan Lexer :=
  let c := l.cursor
  if c.column = 0 && x = '%' then l.directive
  else if c.column = 0 && c.seesWord ['-', '-', '-'] then l.documentMark .documentStart
  else if c.column = 0 && c.seesWord ['.', '.', '.'] then l.documentMark .documentEnd
  else if x = '[' then l.flowStart .flowSequenceStart
  else if x = '{' then l.flowStart .flowMappingStart
  else if x = ']' then l.flowEnd .flowSequenceEnd
  else if x = '}' then l.flowEnd .flowMappingEnd
  else if x = ',' then l.flowEntry
  else if x = '-' && atGap r then l.blockEntry
  else if x = '?' && (l.inFlow || atGap r) then l.keyMark
  else if x = ':' && (l.inFlow || atGap r) then l.valueMark
  else if x = '*' then l.keyed (named .alias)
  else if x = '&' then l.keyed (named .anchor)
  else if x = '!' then l.keyed (readTag l.inFlow)
  else if x = '|' && !l.inFlow then l.blockScalar true
  else if x = '>' && !l.inFlow then l.blockScalar false
  else if x = '\'' || x = '"' then l.keyed (quoted x)
  else if !(indicators.contains x || isBlank x) || (x = '-' && !(r.head?.any isBlank))
    || (!l.inFlow && (x = '?' || x = ':')) then l.plain
  else throw (.unexpected x)

/-- Reads tokens up to the end of the text. -/
def run : Nat → Lexer → Scan Lexer
  | 0, _ => throw .tooLong
  | fuel + 1, l => do
    let l ← skipGap (l.cursor.rest.length + 1) l
    let l ← l.refreshKeys
    let l := l.closeBlocks (some l.cursor.column)
    match l.cursor.rest with
    | [] => do
      let l ← (l.closeBlocks none).dropKey
      pure (l.emit .streamEnd)
    | x :: r => do run fuel (← l.token x r)

end Lexer

/-- The tokens of a text. -/
def Token.scan (text : String) : Scan (List Token) := do
  let cs := text.toList
  match cs.find? (!isAllowed ·) with
  | some c => throw (.character c)
  | none =>
    let l ← Lexer.run (cs.length + 1) { cursor := { rest := cs } }
    pure l.slots.toList.flatten

end PromptKit.Yaml
