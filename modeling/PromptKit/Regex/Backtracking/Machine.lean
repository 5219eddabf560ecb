import PromptKit.Regex.Backtracking.Program
import PromptKit.Regex.Positions

/-!
Running programs.

A state is tried until an instruction fails; then the last of the states left open is tried,
until none is left. A search that goes back too often is given up.
-/

namespace PromptKit.Regex

/-- What came of a search. -/
inductive Verdict where
  | found
  | absent
  | givenUp
deriving DecidableEq, Repr

/-- A leaf on a page: where its matches start, where they end, and its track. -/
structure Leaf where
  starts : Array Bool
  ends : Array Bool
  track : Track
deriving Inhabited

/-- The bits of a set of positions, one more than a length. -/
def bits (length : Nat) (s : Positions) : Array Bool :=
  Array.ofFn fun i : Fin (length + 1) => s.testBit i

def Page.leaf (t : Page) (use : LeafUse) (p : Pattern) : Leaf :=
  let track := t.track p
  let n := t.length
  ⟨if use = .ending then #[] else bits n (track.reach n false t.full),
    if use = .ending then bits n (track.reach n true t.full) else #[], track⟩

namespace Backtracking

/-- A place in the program and in the text, with the slots and the notes of `enter`. -/
structure Spot where
  pc : Nat
  pos : Nat
  slots : Array (Option Nat)
  notes : List Nat := []
deriving Inhabited

/-- The spots left open, with their number. -/
structure Open where
  spots : List Spot := []
  count : Nat := 0

def Open.push (o : Open) (s : Spot) : Open := ⟨s :: o.spots, o.count + 1⟩

/-- Keeps the oldest spots. -/
def Open.cut (o : Open) (count : Nat) : Open := ⟨o.spots.drop (o.count - count), count⟩

/-- Drops the newest spots up to one at a given instruction, and that one. -/
def Open.dropTo (pc : Nat) : List Spot → Nat → Open
  | [], _ => {}
  | s :: ss, n => if s.pc = pc then ⟨ss, n - 1⟩ else dropTo pc ss (n - 1)

def Spot.slot (s : Spot) (i : Nat) : Option Nat := (s.slots[i]?).join

def Spot.set (s : Spot) (i : Nat) (n : Nat) : Spot := { s with slots := s.slots.setIfInBounds i n }

/-- The spot at another instruction. -/
def Spot.at (s : Spot) (pc : Nat) : Spot := { s with pc }

inductive Outcome where
  | next (s : Spot) (o : Open)
  | fail (o : Open)
  | accept

/-- Characters that are equal, or differ in case only. -/
def alike (anyCase : Bool) (a b : Char) : Bool :=
  a == b || (anyCase && (Unicode.foldCase (Unicode.Ranges.single a.toNat)).contains b.toNat)

/-- Whether a part of the text comes again at a position. -/
def repeats (text : Array Char) (anyCase : Bool) (lo size pos : Nat) : Bool :=
  (List.range size).all fun i =>
    match text[lo + i]?, text[pos + i]? with
    | some a, some b => alike anyCase a b
    | _, _ => false

/-- One instruction. -/
def step (text : Array Char) (instr : Instr Leaf) (s : Spot) (o : Open) : Outcome :=
  let on (s : Spot) : Outcome := .next (s.at (s.pc + 1)) o
  match instr with
  | .leaf use a =>
    match use with
    | .fixed size =>
      if a.starts.getD s.pos false then on { s with pos := s.pos + size } else .fail o
    | .starting => if a.starts.getD s.pos false then on s else .fail o
    | .ending => if a.ends.getD s.pos false then on s else .fail o
    | .preferred =>
      if a.starts.getD s.pos false then
        match a.track.prefer text.size s.pos (Nat.pow 2 (text.size + 1) - 1) with
        | some pos => on { s with pos }
        | none => .fail o
      else .fail o
  | .split a b => .next (s.at a) (o.push (s.at b))
  | .jump a => .next (s.at a) o
  | .save i => on (s.set i s.pos)
  | .zero i => on (s.set i 0)
  | .restore i => on { s with pos := (s.slot i).getD s.pos }
  | .rounds least most greedy next i =>
    let n := (s.slot i).getD 0
    if most = some n then .next (s.at next) o
    else
      let s := s.set i (n + 1)
      if n < least then on s
      else if greedy then .next (s.at (s.pc + 1)) (o.push (s.at next))
      else .next (s.at next) (o.push (s.at (s.pc + 1)))
  | .newRounds least greedy next i last =>
    let n := (s.slot i).getD 0
    if 0 < n && s.slot last == some s.pos then .fail o
    else
      let s := s.set i (n + 1)
      if n < least then on s
      else
        let s := s.set last s.pos
        if greedy then .next (s.at (s.pc + 1)) (o.push (s.at next))
        else .next (s.at next) (o.push (s.at (s.pc + 1)))
  | .refuse => .fail (Open.dropTo (s.pc + 1) o.spots o.count)
  | .goBack n => if n ≤ s.pos then on { s with pos := s.pos - n } else .fail o
  | .again i anyCase =>
    match s.slot (2 * i), s.slot (2 * i + 1) with
    | some lo, some hi =>
      if lo ≤ hi && repeats text anyCase lo (hi - lo) s.pos then
        on { s with pos := s.pos + (hi - lo) }
      else .fail o
    | _, _ => .fail o
  | .enter => on { s with notes := o.count :: s.notes }
  | .leave =>
    match s.notes with
    | n :: notes => .next { s with pc := s.pc + 1, notes } (o.cut n)
    | [] => on s
  | .searchStart => if s.pos = 0 then on s else .fail o
  | .matchedGroup i => if (s.slot (2 * i)).isSome then on s else .fail o
  | .accept => .accept

/-- How often a search may go back. -/
def maxReturns : Nat := 1000000

/-- Runs a program for at most `fuel` instructions, with `returns` times gone back so far. -/
def run (text : Array Char) (program : Array (Instr Leaf)) : Nat → Nat → Spot → Open → Verdict
  | 0, _, _, _ => .givenUp
  | fuel + 1, returns, s, o =>
    match step text (program.getD s.pc Instr.accept) s o with
    | .accept => .found
    | .next s o => run text program fuel returns s o
    | .fail o =>
      match o.spots with
      | [] => .absent
      | s :: spots =>
        if returns = maxReturns then .givenUp
        else run text program fuel (returns + 1) s ⟨spots, o.count - 1⟩

end Backtracking

/-- A pattern that is searched for by backtracking. -/
structure Program where
  code : Array (Instr Pattern)
  slots : Nat
deriving Inhabited

namespace Program

/-- The code that moves a search on by a character before each new try. -/
def sweep : Code :=
  [.split 3 1, .leaf (.fixed 1) (.set .full), .jump 0]

/-- The program of a node with so many groups; one that starts at the start of the text is not
moved on. -/
def ofNode (refs : List Nat) (groups : Nat) (anchored : Bool) (p : Node) :
    Except Error Program := do
  let lead := if anchored then [] else sweep
  let (code, slots) ← (codeOf refs false true p lead.length).run (2 * (groups + 1))
  pure ⟨(lead ++ code ++ [Instr.accept]).toArray, slots⟩

def search (p : Program) (text : String) : Verdict :=
  let page := Page.ofText text.toList
  let chars := page.chars.toArray
  let fuel := (Backtracking.maxReturns + 1) * (p.code.size + 1) * (chars.size + 2)
  Backtracking.run chars (p.code.map (·.map page.leaf)) fuel 0
    { pc := 0, pos := 0, slots := Array.replicate p.slots none } {}

end Program

end PromptKit.Regex
