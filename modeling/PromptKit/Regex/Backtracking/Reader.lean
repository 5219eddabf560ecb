import PromptKit.Regex.Backtracking.Node

/-!
Reading patterns with conditions on the surrounding text.

Look-around, back-references, atomic parts, possessive repetitions and conditions are read here.
Sets of characters are handed on, as texts, to the reader of plain patterns.
-/

namespace PromptKit.Regex.Backtracking

structure Mode where
  anyCase : Bool := false
  multiLine : Bool := false
  dotAll : Bool := false
  spaced : Bool := false
  sparing : Bool := false

structure State where
  rest : List Char
  mode : Mode := {}
  /-- The number of groups opened so far. -/
  groups : Nat := 0
  names : List (String × Nat) := []
  /-- The groups that are referred to. -/
  refs : List Nat := []
  /-- Whether a group is referred to by a bare number. -/
  byNumber : Bool := false
  /-- The length of the whole pattern in bytes. -/
  size : Nat := 0

abbrev Reader := StateT State (Except Error)

def rest : Reader (List Char) := return (← get).rest

def goTo (cs : List Char) : Reader Unit := modify fun s => { s with rest := cs }

def skip (n : Nat) : Reader Unit := do goTo ((← rest).drop n)

/-- Skips a fixed text if it comes next. -/
def skipText (t : String) : Reader Bool := do
  match Text.after? t.toList (← rest) with
  | some r =>
    goTo r
    pure true
  | none => pure false

/-- The text after a comment, which ends at a bracket that is not escaped. -/
def afterComment : List Char → Option (List Char)
  | [] => none
  | ')' :: cs => some cs
  | '\\' :: _ :: cs => afterComment cs
  | _ :: cs => afterComment cs

/-- Drops blanks and comments where the mode allows them, and bracketed comments. -/
def dropGaps (spaced : Bool) : Nat → List Char → Except Error (List Char)
  | 0, cs => pure cs
  | n + 1, cs =>
    match cs with
    | '(' :: '?' :: '#' :: r =>
      match afterComment r with
      | some r => dropGaps spaced n r
      | none => throw .groupUnclosed
    | '#' :: r =>
      if spaced then dropGaps spaced n ((r.dropWhile (· != '\n')).drop 1) else pure cs
    | c :: r =>
      if spaced && (c = ' ' || c = '\r' || c = '\n' || c = '\t') then dropGaps spaced n r
      else pure cs
    | [] => pure []

def skipGaps : Reader Unit := do
  let s ← get
  goTo (← dropGaps s.mode.spaced (s.rest.length + 1) s.rest)

def close : Reader Unit := do
  if !(← skipText ")") then throw .groupUnclosed

/-- A decimal number, if digits come next. -/
def decimal? : Reader (Option Nat) := do
  let ds := (← rest).takeWhile Char.isDigit
  skip ds.length
  pure (Decimal.natural? ds)

/-- Refers to a group by its number. -/
def refer (group : Nat) : Reader Nat := do
  modify fun s => { s with refs := group :: s.refs }
  pure group

def numberedGroup : Reader Nat := do
  match ← decimal? with
  | some n =>
    if n < (← get).size / 2 then
      modify fun s => { s with byNumber := true }
      refer n
    else throw .backReference
  | none => throw .backReference

def isNamePart (c : Char) : Bool :=
  c = '_' || c.isAlphanum || (0x80 ≤ c.toNat && Unicode.alphabetic.contains c.toNat)

/-- A name between two marks. -/
def nameBetween (opening closing : String) : Reader String := do
  if !(← skipText opening) then throw .groupName
  let cs ← rest
  let sign := if cs.head? = some '-' then 1 else 0
  let name := (cs.drop sign).takeWhile isNamePart
  skip (sign + name.length)
  if name.isEmpty || !(← skipText closing) then throw .groupName
  pure (String.ofList (cs.take sign ++ name))

/-- Refers to a group by its name, its number, or its distance back. -/
def namedGroup (opening closing : String) : Reader Nat := do
  let name ← nameBetween opening closing
  let s ← get
  match s.names.find? (·.1 == name) with
  | some (_, n) => refer n
  | none =>
    match Decimal.integer? name.toList with
    | some (.ofNat n) => refer n
    | some (.negSucc n) => if n < s.groups then refer (s.groups - n) else throw .backReference
    | none => throw .backReference

/-- A set of characters from its text. -/
def setOf (cs : List Char) : Reader Node := do
  match compilePattern { anyCase := (← get).mode.anyCase } cs with
  | .ok p => pure (.set p)
  | .error e => throw e

def charNode (c : Char) : Reader Node := return .char c (← get).mode.anyCase

/-- Hexadecimal digits, as many as asked for, or between braces at most eight. -/
def hexChar (digits : Nat) : Reader Char := do
  let cs ← rest
  let ds := cs.take digits
  let ds ←
    if ds.length = digits && ds.all fun c => (hexDigit? c).isSome then
      skip digits
      pure ds
    else if cs.head? = some '{' then
      let ds := (cs.drop 1).takeWhile fun c => (hexDigit? c).isSome
      skip (ds.length + 1)
      if ds.isEmpty || 8 < ds.length || !(← skipText "\x7d") then throw .codePoint
      pure ds
    else throw .codePoint
  match char? (ds.foldl (fun n c => 16 * n + (hexDigit? c).getD 0) 0) with
  | some c => pure c
  | none => throw .codePoint

/-- The text of a property after its letter. -/
def propertyText : Reader (List Char) := do
  match ← rest with
  | '{' :: r =>
    let name := r.takeWhile (· != '}')
    skip (name.length + 2)
    if name.length = r.length then throw .escape
    pure ('{' :: name ++ ['}'])
  | c :: _ =>
    skip 1
    pure [c]
  | [] => throw .escape

/-- What an escape stands for inside and outside of classes. -/
inductive Escaped where
  | char (c : Char)
  | set (text : List Char)

/-- Letters that stand for characters. -/
def letterEscape? : Char → Option Char
  | 'a' => some (Char.ofNat 7)
  | 'b' => some (Char.ofNat 8)
  | 'e' => some (Char.ofNat 27)
  | 'f' => some (Char.ofNat 12)
  | 'n' => some '\n'
  | 'r' => some '\r'
  | 't' => some '\t'
  | 'v' => some (Char.ofNat 11)
  | _ => none

/-- Reads an escape that may stand in a class, after its backslash. -/
def commonEscape : Reader Escaped := do
  match ← rest with
  | [] => throw .escape
  | c :: _ =>
    skip 1
    match c with
    | 'x' => return .char (← hexChar 2)
    | 'u' => return .char (← hexChar 4)
    | 'U' => return .char (← hexChar 8)
    | 'h' => return .set "[0-9A-Fa-f]".toList
    | 'H' => return .set "[^0-9A-Fa-f]".toList
    | 'd' | 's' | 'w' | 'D' | 'S' | 'W' => return .set ['\\', c]
    | 'p' | 'P' => return .set ('\\' :: c :: (← propertyText))
    | _ =>
      match letterEscape? c with
      | some d => return .char d
      | none =>
        if c.isDigit then throw .backReference
        else if c.isAlpha then throw .escape
        else return .char c

/-- A character as the text of a plain class shows it. -/
def escaped (c : Char) : List Char := if isMeta c then ['\\', c] else [c]

/-- Copies a class, `depth` brackets deep, with its escapes written plainly. -/
def classText : Nat → Nat → List Char → Reader (List Char)
  | 0, _, _ => throw .classUnclosed
  | fuel + 1, depth, acc => do
    match ← rest with
    | [] => throw .classUnclosed
    | '\\' :: _ =>
      skip 1
      match ← commonEscape with
      | .char c => classText fuel depth ((escaped c).reverse ++ acc)
      | .set cs => classText fuel depth (cs.reverse ++ acc)
    | '[' :: _ =>
      skip 1
      classText fuel (depth + 1) ('[' :: acc)
    | ']' :: _ =>
      skip 1
      if depth = 1 then pure (']' :: acc).reverse else classText fuel (depth - 1) (']' :: acc)
    | c :: _ =>
      skip 1
      classText fuel depth (c :: acc)

/-- Reads a class after its opening bracket. -/
def readClass : Reader Node := do
  let negated ← skipText "^"
  let bracket ← skipText "]"
  let start := '[' :: (if negated then ['^'] else []) ++ (if bracket then [']'] else [])
  setOf (← classText ((← rest).length + 1) 1 start.reverse)

/-- The word boundary that is named between braces, if one is. -/
def boundary : Reader Node := do
  for (name, a) in [("\x7bstart\x7d", Anchor.wordStart true), ("\x7bend\x7d", .wordEnd true),
      ("\x7bstart-half\x7d", .wordStartHalf true), ("\x7bend-half\x7d", .wordEndHalf true)] do
    if ← skipText name then return .anchor a
  if (← rest).head? = some '{' then throw .escape
  pure (.anchor (.wordBoundary true))

/-- Reads an escape after its backslash. -/
def readEscape : Reader Node := do
  let cs ← rest
  let take (n : Node) : Reader Node := do
    skip 1
    pure n
  match cs with
  | 'k' :: r =>
    skip 1
    let i ← if r.head? = some '\'' then namedGroup "'" "'" else namedGroup "<" ">"
    pure (.again i (← get).mode.anyCase)
  | 'A' :: _ => take (.anchor .textStart)
  | 'z' :: _ => take (.anchor .textEnd)
  | 'Z' :: _ =>
    take (.look true true (.seq [.repeated (.char '\n' false) 0 none true, .anchor .textEnd]))
  | 'b' :: _ =>
    skip 1
    boundary
  | 'B' :: _ => take (.anchor (.notWordBoundary true))
  | '<' :: _ => take (.anchor (.wordStart true))
  | '>' :: _ => take (.anchor (.wordEnd true))
  | 'K' :: _ => take .keepOut
  | 'G' :: _ => take .searchStart
  | 'O' :: _ => take (.any true)
  | c :: _ =>
    if c.isDigit then pure (.again (← numberedGroup) (← get).mode.anyCase)
    else
      match ← commonEscape with
      | .char c => charNode c
      | .set cs => setOf cs
  | [] => throw .escape

/-- The counts between braces, if that is what comes next. -/
def braces? : Reader (Option (Nat × Option Nat)) := do
  let start ← get
  skip 1
  skipGaps
  let first ← decimal?
  skipGaps
  let range ←
    if ← skipText "," then
      skipGaps
      let last ← decimal?
      skipGaps
      pure (some (first.getD 0, last))
    else pure (first.map fun n => (n, some n))
  if range.isSome && (← skipText "\x7d") then pure range
  else
    set start
    pure none

/-- The counts of a repetition, if one comes next. -/
def quantifier? : Reader (Option (Nat × Option Nat)) := do
  match ← rest with
  | '?' :: _ =>
    skip 1
    pure (some (0, some 1))
  | '*' :: _ =>
    skip 1
    pure (some (0, none))
  | '+' :: _ =>
    skip 1
    pure (some (1, none))
  | '{' :: _ => braces?
  | _ => pure none

/-- Wraps a node in the repetition that comes next, if one does. -/
def quantified (p : Node) : Reader Node := do
  skipGaps
  match ← quantifier? with
  | none => pure p
  | some (least, most) =>
    if !p.isRepeatable then throw .repetitionMissing
    skipGaps
    let against ← skipText "?"
    let greedy := (!against) != (← get).mode.sparing
    let p := Node.repeated p least most greedy
    if ← skipText "+" then pure (.atomic p) else pure p

/-- Sets one letter of the mode. -/
def Mode.set (m : Mode) (c : Char) (on : Bool) : Option Mode :=
  match c with
  | 'i' => some { m with anyCase := on }
  | 'm' => some { m with multiLine := on }
  | 's' => some { m with dotAll := on }
  | 'x' => some { m with spaced := on }
  | 'U' => some { m with sparing := on }
  | 'u' => if on then some m else none
  | _ => none

/-- Reads the letters of a mode; gives whether a colon ends them. -/
def modeLetters : Nat → Bool → Bool → Reader Bool
  | 0, _, _ => throw .flag
  | fuel + 1, negated, isFirst => do
    skipGaps
    match ← rest with
    | [] => throw .groupUnclosed
    | '-' :: _ =>
      if negated then throw .flag
      skip 1
      modeLetters fuel true isFirst
    | ')' :: _ =>
      if isFirst then throw .flag
      skip 1
      pure false
    | ':' :: _ =>
      if isFirst && negated then throw .flag
      skip 1
      pure true
    | c :: _ =>
      match (← get).mode.set c !negated with
      | none => throw .flag
      | some m =>
        skip 1
        modify fun s => { s with mode := m }
        modeLetters fuel negated false

/-- Opens a group; gives its index. -/
def openGroup : Reader Nat := modifyGet fun s => (s.groups + 1, { s with groups := s.groups + 1 })

def openNamed (opening closing : String) : Reader Nat := do
  let i ← openGroup
  let name ← nameBetween opening closing
  modify fun s => { s with names := (name, i) :: s.names }
  pure i

/-- How deep groups may nest. -/
def maxGroups : Nat := 64

/-- The parts of one branch as a node. -/
def ofParts : List Node → Node
  | [] => .empty
  | [p] => p
  | ps => .seq ps

/-- Splits a choice into its first branch and the others. -/
def splitChoice : Node → Node × Node
  | .alt [p, q] => (p, q)
  | .alt (p :: ps) => (p, .alt ps)
  | p => (p, .empty)

mutual

/-- Reads a choice between branches. -/
def readChoice (depth : Nat) : Nat → Reader Node
  | 0 => throw .tooDeep
  | fuel + 1 => do
    let p ← readBranch depth fuel []
    skipGaps
    if (← rest).head? = some '|' then pure (.alt (p :: (← readMore depth fuel))) else pure p

/-- Reads the branches that follow a bar. -/
def readMore (depth : Nat) : Nat → Reader (List Node)
  | 0 => throw .tooDeep
  | fuel + 1 => do
    if ← skipText "|" then
      let p ← readBranch depth fuel []
      skipGaps
      pure (p :: (← readMore depth fuel))
    else pure []

/-- Reads the parts of a branch, the last part first in `acc`. -/
def readBranch (depth : Nat) : Nat → List Node → Reader Node
  | 0, _ => throw .tooDeep
  | fuel + 1, acc => do
    let before := (← rest).length
    if before = 0 then pure (ofParts acc.reverse)
    else
      let p ← quantified (← readAtom depth fuel)
      if (← rest).length = before then pure (ofParts acc.reverse)
      else readBranch depth fuel (if p.isEmpty then acc else p :: acc)

def readAtom (depth : Nat) : Nat → Reader Node
  | 0 => throw .tooDeep
  | fuel + 1 => do
    skipGaps
    let mode := (← get).mode
    match ← rest with
    | [] => pure .empty
    | '.' :: _ =>
      skip 1
      pure (.any mode.dotAll)
    | '^' :: _ =>
      skip 1
      pure (.anchor (caret { multiLine := mode.multiLine }))
    | '$' :: _ =>
      skip 1
      pure (.anchor (dollar { multiLine := mode.multiLine }))
    | '(' :: _ =>
      skip 1
      readGroup (depth + 1) fuel
    | '\\' :: _ =>
      skip 1
      readEscape
    | '[' :: _ =>
      skip 1
      readClass
    | c :: _ =>
      if c = '+' || c = '*' || c = '?' || c = '|' || c = ')' then pure .empty
      else
        skip 1
        charNode c

/-- Reads a group after its opening bracket. -/
def readGroup (depth : Nat) : Nat → Reader Node
  | 0 => throw .tooDeep
  | fuel + 1 => do
    if maxGroups ≤ depth then throw .tooDeep
    skipGaps
    let inner (wrap : Node → Node) : Reader Node := do
      let p ← readChoice depth fuel
      close
      pure (wrap p)
    if ← skipText "?=" then inner (.look true true)
    else if ← skipText "?!" then inner (.look true false)
    else if ← skipText "?<=" then inner (.look false true)
    else if ← skipText "?<!" then inner (.look false false)
    else if (← rest).take 2 = ['?', '<'] then
      skip 1
      inner (.group (← openNamed "<" ">"))
    else if (← rest).take 2 = ['?', '\''] then
      skip 1
      inner (.group (← openNamed "'" "'"))
    else if (← rest).take 3 = ['?', 'P', '<'] then
      skip 2
      inner (.group (← openNamed "<" ">"))
    else if ← skipText "?P=" then
      let i ← namedGroup "" ")"
      pure (.again i (← get).mode.anyCase)
    else if ← skipText "?>" then inner .atomic
    else if ← skipText "?(" then readCondition depth fuel
    else if ← skipText "?" then
      let outer := (← get).mode
      if ← modeLetters ((← rest).length + 2) false true then
        let p ← readChoice depth fuel
        modify fun s => { s with mode := outer }
        close
        pure p
      else pure .empty
    else inner (.group (← openGroup))

/-- Reads a condition and its two branches. -/
def readCondition (depth : Nat) : Nat → Reader Node
  | 0 => throw .tooDeep
  | fuel + 1 => do
    let test ←
      match ← rest with
      | [] => throw .groupUnclosed
      | '\'' :: _ => do pure (.matchedGroup (← namedGroup "'" "'"))
      | '<' :: _ => do pure (.matchedGroup (← namedGroup "<" ">"))
      | c :: _ =>
        if c.isDigit then pure (.matchedGroup (← numberedGroup)) else readChoice depth fuel
    close
    let before := (← rest).length
    let p ← readChoice depth fuel
    let isBare := (← rest).length = before
    close
    if isBare then
      match test with
      | .matchedGroup i => pure (.matchedGroup i)
      | _ => throw .groupUnclosed
    else
      let (yes, no) := splitChoice p
      pure (if yes.isEmpty && no.isEmpty then test else .cond test yes no)

end

/-- What is known of a pattern once it is read. -/
structure Reading where
  node : Node
  groups : Nat
  refs : List Nat

def read (text : String) : Except Error Reading := do
  let cs := text.toList
  let (p, s) ← (readChoice 0 (6 * cs.length + 12)).run { rest := cs, size := text.utf8ByteSize }
  if !s.rest.isEmpty then throw .groupUnopened
  if s.byNumber && !s.names.isEmpty then throw .backReference
  if s.refs.any fun i => i = 0 || s.groups < i then throw .backReference
  pure ⟨p, s.groups, s.refs⟩

end PromptKit.Regex.Backtracking
