import PromptKit.Regex.Escape

/-!
Reading classes between brackets.

A class holds characters, ranges and other classes, and combines them: `&&` keeps what both
sides hold, `--` what only the left side holds, `~~` what one side alone holds.
-/

namespace PromptKit.Regex

open Unicode (Ranges)

/-- The ASCII class of a given name. -/
def asciiNamed? (name : String) : Option Ranges :=
  match name with
  | "alnum" => some [(0x30, 0x39), (0x41, 0x5A), (0x61, 0x7A)]
  | "alpha" => some [(0x41, 0x5A), (0x61, 0x7A)]
  | "ascii" => some ascii
  | "blank" => some [(9, 9), (0x20, 0x20)]
  | "cntrl" => some [(0, 0x1F), (0x7F, 0x7F)]
  | "digit" => some asciiDigit
  | "graph" => some [(0x21, 0x7E)]
  | "lower" => some [(0x61, 0x7A)]
  | "print" => some [(0x20, 0x7E)]
  | "punct" => some [(0x21, 0x2F), (0x3A, 0x40), (0x5B, 0x60), (0x7B, 0x7E)]
  | "space" => some asciiSpace
  | "upper" => some [(0x41, 0x5A)]
  | "word" => some asciiWord
  | "xdigit" => some [(0x30, 0x39), (0x41, 0x46), (0x61, 0x66)]
  | _ => none

/-- A class such as `[:alpha:]`, if that is what comes next. -/
def asciiClass? (cs : List Char) : Option (Bool × Ranges × List Char) := do
  let r ← Text.after? ['[', ':'] cs
  let (negated, r) := match r with
    | '^' :: r => (true, r)
    | r => (false, r)
  let name := r.takeWhile (· != ':')
  let r ← Text.after? [':', ']'] (r.drop name.length)
  let s ← asciiNamed? (String.ofList name)
  pure (negated, s, r)

/-- How two parts of a class combine. -/
inductive ClassOp where
  | inter
  | diff
  | symmDiff

def ClassOp.apply (flags : Flags) (op : ClassOp) (a b : Ranges) : Ranges :=
  let a := foldCase flags a
  let b := foldCase flags b
  match op with
  | .inter => a.inter b
  | .diff => a.diff b
  | .symmDiff => a.symmDiff b

/-- A part of a class: its items so far and how deep they nest. -/
structure ClassPart where
  set : Ranges := []
  items : Nat := 0
  depth : Nat := 0

namespace ClassPart

def add (p : ClassPart) (s : Ranges) (depth : Nat) : ClassPart :=
  ⟨p.set.union s, p.items + 1, max p.depth depth⟩

/-- How deep the part nests; several items make a level. -/
def level (p : ClassPart) : Nat := if p.items < 2 then p.depth else p.depth + 1

end ClassPart

/-- The parts of a class to the left of its last operator. -/
structure ClassLeft where
  op : ClassOp
  set : Ranges
  level : Nat

/-- The set and the depth of what has been read. -/
def combine (flags : Flags) (left : Option ClassLeft) (p : ClassPart) : Ranges × Nat :=
  match left with
  | some l => (l.op.apply flags l.set p.set, max l.level p.level + 1)
  | none => (p.set, p.level)

def classChar (flags : Flags) (c : Char) : Reader Ranges :=
  if !flags.unicode && 0x80 ≤ c.toNat then throw .byteMode else pure (Ranges.single c.toNat)

/-- One item of a class: a character, or a set written as an escape. -/
def classItem : Reader Primitive := do
  let c ← need .classUnclosed
  if c = '\\' then escapeTail
  else
    skip 1
    pure (.char c)

/-- Whether a hyphen comes next that makes a range with what follows it. -/
def rangeAhead : Reader Bool := do
  match (← get).rest with
  | '-' :: _ =>
    let here ← get
    advance
    let next ← peek?
    set here
    pure (next != some ']' && next != some '-')
  | _ => pure false

/-- An item of a class, or a range of characters. -/
def classRange : Reader Ranges := do
  let a ← classItem
  skipSpace
  let _ ← need .classUnclosed
  let flags := (← get).flags
  if ← rangeAhead then
    advance
    match a, ← classItem with
    | .char a, .char b =>
      if b < a then throw .classItem
      else
        let _ ← classChar flags b
        pure [(a.toNat, b.toNat)]
    | _, _ => throw .classItem
  else
    match a with
    | .char c => classChar flags c
    | .set s => pure s
    | .anchor _ => throw .classItem

/-- Hyphens at the start of a class stand for themselves. -/
def leadingHyphens : Nat → ClassPart → Reader ClassPart
  | 0, p => pure p
  | fuel + 1, p => do
    if (← need .classUnclosed) = '-' then
      advance
      leadingHyphens fuel (p.add (Ranges.single '-'.toNat) 0)
    else pure p

mutual

/-- Reads a class after its opening bracket; gives its depth too. -/
def classBody : Nat → Reader (Ranges × Nat)
  | 0 => throw .classUnclosed
  | fuel + 1 => do
    skipSpace
    let negated := (← need .classUnclosed) = '^'
    if negated then advance
    let start ← leadingHyphens ((← get).rest.length + 1) {}
    let bracket := start.items = 0 && (← need .classUnclosed) = ']'
    if bracket then advance
    let start := if bracket then start.add (Ranges.single ']'.toNat) 0 else start
    let (s, depth) ← classItems fuel start none
    let flags := (← get).flags
    pure (← foldAndNegate flags negated s, depth + 1)

def classItems : Nat → ClassPart → Option ClassLeft → Reader (Ranges × Nat)
  | 0, _, _ => throw .classUnclosed
  | fuel + 1, part, left => do
    skipSpace
    let flags := (← get).flags
    let rest := (← get).rest
    let operator (op : ClassOp) : Reader (Ranges × Nat) := do
      skip 2
      let (s, level) := combine flags left part
      classItems fuel {} (some ⟨op, s, level⟩)
    match rest with
    | [] => throw .classUnclosed
    | ']' :: _ =>
      skip 1
      pure (combine flags left part)
    | '&' :: '&' :: _ => operator .inter
    | '-' :: '-' :: _ => operator .diff
    | '~' :: '~' :: _ => operator .symmDiff
    | '[' :: r =>
      match asciiClass? ('[' :: r) with
      | some (negated, a, r) =>
        modify fun st => { st with rest := r }
        classItems fuel (part.add (← foldAndNegate flags negated a) 0) left
      | none =>
        skip 1
        let (a, inner) ← classBody fuel
        classItems fuel (part.add a inner) left
    | _ => do
      let a ← classRange
      classItems fuel (part.add a 0) left

end

end PromptKit.Regex
