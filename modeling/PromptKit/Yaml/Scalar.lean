import PromptKit.Yaml.Cursor

/-!
The texts of scalars: plain, quoted and in blocks.

Between two lines of a plain or quoted scalar, a single break is read as a space and each
further one as itself.
-/

namespace PromptKit.Yaml

abbrev Scan (α : Type) := Except Error α

/-- The blanks and breaks between two runs of characters. -/
structure Gap where
  blanks : List Char := []
  /-- The first break was escaped, or has been read. -/
  broken : Bool := false
  first : List Char := []
  more : List Char := []

/-- What a gap stands for. -/
def Gap.text (g : Gap) : List Char :=
  if !g.broken then g.blanks
  else if g.first == ['\n'] then (if g.more.isEmpty then [' '] else g.more)
  else g.first ++ g.more

/-- Reads a gap. In a plain scalar no tab may stand left of the indentation. -/
def readGap (indent : Option Nat) : Nat → Gap → Cursor → Scan (Gap × Cursor)
  | 0, _, _ => throw .tooLong
  | fuel + 1, g, c =>
    match c.peek? with
    | none => pure (g, c)
    | some x =>
      if isBlank x then
        if g.broken && x = '\t' && indent.any (c.column < ·) then throw .tab
        else if g.broken then readGap indent fuel g c.next
        else readGap indent fuel { g with blanks := g.blanks ++ [x] } c.next
      else if isBreak x then
        let (read, c) := c.newline
        if g.broken then readGap indent fuel { g with more := g.more ++ read } c
        else readGap indent fuel { g with broken := true, first := read } c
      else pure (g, c)

/-! ### Plain scalars -/

def isFlowMark (c : Char) : Bool := c = ',' || c = '[' || c = ']' || c = '{' || c = '}'

/-- The next run of characters of a plain scalar, up to a gap or to what ends the scalar. -/
def plainRun (inFlow : Bool) : List Char → Scan (List Char)
  | [] => pure []
  | x :: r => do
    if isBlank x || isBreak x then pure []
    else
      let closing := match r with
        | y :: _ => isFlowMark y || y = '?'
        | [] => false
      if inFlow && x = ':' && closing then throw .colon
      else if (x = ':' && atGap r) || (inFlow && isFlowMark x) then pure []
      else pure (x :: (← plainRun inFlow r))

/-- A plain scalar with the place after it and whether that is on a new line. -/
def readPlain (inFlow : Bool) (indent : Nat) :
    Nat → List Char → Gap → Cursor → Scan (List Char × Bool × Cursor)
  | 0, _, _, _ => throw .tooLong
  | fuel + 1, text, gap, c => do
    if c.atDocumentMark || c.sees '#' then pure (text, gap.broken, c)
    else
      let run ← plainRun inFlow c.rest
      let (text, gap) := if run.isEmpty then (text, gap) else (text ++ gap.text ++ run, {})
      let c := c.skip run.length
      match c.peek? with
      | none => pure (text, gap.broken, c)
      | some x =>
        if !(isBlank x || isBreak x) then pure (text, gap.broken, c)
        else
          let (gap, c) ← readGap (some indent) (c.rest.length + 1) gap c
          if !inFlow && c.column < indent then pure (text, gap.broken, c)
          else readPlain inFlow indent fuel text gap c

/-! ### Quoted scalars -/

/-- The character that an escape of one letter stands for. -/
def simpleEscape? (c : Char) : Option Char :=
  match c with
  | '0' => some (Char.ofNat 0)
  | 'a' => some (Char.ofNat 7)
  | 'b' => some (Char.ofNat 8)
  | 't' | '\t' => some '\t'
  | 'n' => some '\n'
  | 'v' => some (Char.ofNat 11)
  | 'f' => some (Char.ofNat 12)
  | 'r' => some '\r'
  | 'e' => some (Char.ofNat 27)
  | ' ' => some ' '
  | '"' => some '"'
  | '/' => some '/'
  | '\\' => some '\\'
  | 'N' => some (Char.ofNat 0x85)
  | '_' => some (Char.ofNat 0xA0)
  | 'L' => some (Char.ofNat 0x2028)
  | 'P' => some (Char.ofNat 0x2029)
  | _ => none

/-- The number of hexadecimal digits after an escape letter. -/
def escapeWidth? (c : Char) : Option Nat :=
  match c with
  | 'x' => some 2
  | 'u' => some 4
  | 'U' => some 8
  | _ => none

def hexNumber? (cs : List Char) : Option Nat :=
  cs.foldlM (fun n c => (Json.hexValue? c).map (16 * n + ·)) 0

/-- The character of an escape, and how many characters the escape has after its backslash. -/
def readEscape : List Char → Scan (Char × Nat)
  | [] => throw .escape
  | x :: r =>
    match simpleEscape? x, escapeWidth? x with
    | some c, _ => pure (c, 1)
    | none, none => throw .escape
    | none, some w =>
      let digits := r.take w
      match hexNumber? digits with
      | some n =>
        if digits.length = w ∧ n.isValidChar then pure (Char.ofNat n, w + 1) else throw .escape
      | none => throw .escape

/-- The next run of characters between single quotes. -/
def singleRun : List Char → List Char × Nat
  | '\'' :: '\'' :: r => let (cs, n) := singleRun r; ('\'' :: cs, n + 2)
  | x :: r =>
    if x = '\'' || isBlank x || isBreak x then ([], 0)
    else let (cs, n) := singleRun r; (x :: cs, n + 1)
  | [] => ([], 0)

/-- The next run of characters between double quotes, up to a gap or an escaped break. -/
def doubleRun : Nat → List Char → Scan (List Char × Nat)
  | 0, _ => throw .tooLong
  | _ + 1, [] => pure ([], 0)
  | fuel + 1, x :: r => do
    if x = '"' || isBlank x || isBreak x then pure ([], 0)
    else if x = '\\' then
      if r.head?.any isBreak then pure ([], 0)
      else
        let (c, w) ← readEscape r
        let (cs, n) ← doubleRun fuel (r.drop w)
        pure (c :: cs, n + w + 1)
    else
      let (cs, n) ← doubleRun fuel r
      pure (x :: cs, n + 1)

/-- The inside of a quoted scalar, and the place after its closing quote. -/
def readQuoted (quote : Char) : Nat → List Char → Cursor → Scan (List Char × Cursor)
  | 0, _, _ => throw .tooLong
  | fuel + 1, text, c => do
    if c.atDocumentMark then throw .documentMark
    let (run, n) ← if quote = '\'' then pure (singleRun c.rest)
      else doubleRun (c.rest.length + 1) c.rest
    let text := text ++ run
    let c := c.skip n
    match c.peek? with
    | none => throw .quoteUnclosed
    | some x =>
      if x = quote then pure (text, c.next)
      else
        let (gap, c) := if x = '\\' then ({ broken := true : Gap }, c.next.newline.2) else ({}, c)
        let (gap, c) ← readGap none (c.rest.length + 1) gap c
        readQuoted quote fuel (text ++ gap.text) c

/-! ### Block scalars -/

/-- What becomes of the breaks at the end of a block scalar. -/
inductive Chomp where
  | strip
  | clip
  | keep
deriving DecidableEq, Repr

/-- The header of a block scalar: how its end is treated, and its indentation if it is given. -/
def readHeader (c : Cursor) : Scan (Chomp × Option Nat × Cursor) := do
  let chomp? (c : Cursor) : Option Chomp :=
    if c.sees '+' then some .keep else if c.sees '-' then some .strip else none
  let digit? (c : Cursor) : Scan (Option Nat) :=
    match c.peek? with
    | some d =>
      if d = '0' then throw .blockHeader
      else if d.isDigit then pure (some (d.toNat - '0'.toNat)) else pure none
    | none => pure none
  match chomp? c with
  | some chomp =>
    match ← digit? c.next with
    | some d => pure (chomp, some d, c.next.next)
    | none => pure (chomp, none, c.next)
  | none =>
    match ← digit? c with
    | some d =>
      match chomp? c.next with
      | some chomp => pure (chomp, some d, c.next.next)
      | none => pure (.clip, some d, c.next)
    | none => pure (.clip, none, c)

/-- The empty lines before a line of a block scalar; `deepest` is the largest column met. An
indentation of zero is still to be found out. -/
def readEmptyLines (indent : Nat) :
    Nat → List Char → Nat → Cursor → Scan (List Char × Nat × Cursor)
  | 0, _, _, _ => throw .tooLong
  | fuel + 1, breaks, deepest, c =>
    let spaces := (c.rest.takeWhile (· = ' ')).length
    let c := c.skip (if indent = 0 then spaces else min spaces (indent - c.column))
    let deepest := max deepest c.column
    if (indent = 0 || c.column < indent) && c.sees '\t' then throw .tab
    else if c.peek?.any isBreak then
      let (read, c) := c.newline
      readEmptyLines indent fuel (breaks ++ read) deepest c
    else pure (breaks, deepest, c)

/-- The lines of a block scalar. `last` is the break after the line before, and `breaks` are
those of the empty lines after it. -/
def readLines (literal : Bool) (indent : Nat) :
    Nat → List Char → (last breaks : List Char) → (ledByBlank : Bool) → Cursor →
    Scan (List Char × List Char × List Char × Cursor)
  | 0, _, _, _, _, _ => throw .tooLong
  | fuel + 1, text, last, breaks, ledByBlank, c => do
    match c.peek? with
    | none => pure (text, last, breaks, c)
    | some x =>
      if c.column != indent then pure (text, last, breaks, c)
      else
        let blank := isBlank x
        let joined :=
          if !literal && last == ['\n'] && !ledByBlank && !blank then
            if breaks.isEmpty then [' '] else breaks
          else last ++ breaks
        let (line, c) := c.takeWhile (!isBreak ·)
        let (last, c) := c.newline
        let (breaks, _, c) ← readEmptyLines indent (c.rest.length + 1) [] 0 c
        readLines literal indent fuel (text ++ joined ++ line) last breaks blank c

/-- A block scalar after its indicator, inside a block of the given indentation. -/
def readBlock (literal : Bool) (parent : Option Nat) (c : Cursor) : Scan (List Char × Cursor) := do
  let (chomp, given, c) ← readHeader c
  let c := c.skipWhile isBlank
  let c := if c.sees '#' then c.skipWhile (!isBreak ·) else c
  if !atLineEnd c.rest then throw .blockHeader
  let c := c.newline.2
  let least := match parent with
    | some p => p + 1
    | none => 0
  let indent := match given with
    | some n => parent.getD 0 + n
    | none => 0
  let (breaks, deepest, c) ← readEmptyLines indent (c.rest.length + 1) [] 0 c
  let indent := if indent = 0 then max (max deepest least) 1 else indent
  let (text, last, breaks, c) ← readLines literal indent (c.rest.length + 1) [] [] breaks false c
  let tail := match chomp with
    | .strip => []
    | .clip => last
    | .keep => last ++ breaks
  pure (text ++ tail, c)

end PromptKit.Yaml
