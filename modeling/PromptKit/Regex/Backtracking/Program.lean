import PromptKit.Regex.Backtracking.Node

/-!
Programs that search by backtracking.

A program is a list of instructions, numbered from zero. The parts of a pattern that are plain
are leaves: each is matched in one step. Slots hold positions and counts; the slots `2 * i` and
`2 * i + 1` hold the start and the end of group `i`.
-/

namespace PromptKit.Regex

/-- What a leaf does with the position. -/
inductive LeafUse where
  /-- Goes on by a fixed number of characters. -/
  | fixed (size : Nat)
  /-- Asks only for a match that starts here. -/
  | starting
  /-- Asks only for a match that ends here. -/
  | ending
  /-- Goes on to the preferred end. -/
  | preferred
deriving DecidableEq, Repr

/-- Instructions with leaves of a type. -/
inductive Instr (α : Type) where
  | leaf (use : LeafUse) (a : α)
  /-- Goes on at the first place, and later at the second. -/
  | split (first second : Nat)
  | jump (goal : Nat)
  /-- Stores the position. -/
  | save (slot : Nat)
  | zero (slot : Nat)
  /-- Goes back to a stored position. -/
  | restore (slot : Nat)
  /-- Counts the rounds of a repetition in a slot; `next` follows it. -/
  | rounds (least : Nat) (most : Option Nat) (greedy : Bool) (next slot : Nat)
  /-- The same without a limit; a round from the position in `last` fails. -/
  | newRounds (least : Nat) (greedy : Bool) (next slot last : Nat)
  /-- Drops what was left open since the negative look that ends here, and fails. -/
  | refuse
  | goBack (size : Nat)
  | again (group : Nat) (anyCase : Bool)
  /-- Notes what is left open. -/
  | enter
  /-- Drops what was left open since the matching `enter`. -/
  | leave
  | searchStart
  | matchedGroup (group : Nat)
  | accept
deriving Inhabited

/-- Replaces the leaves. -/
def Instr.map {α β : Type} (f : LeafUse → α → β) : Instr α → Instr β
  | leaf use a => leaf use (f use a)
  | split a b => split a b
  | jump a => jump a
  | save s => save s
  | zero s => zero s
  | restore s => restore s
  | rounds l m g n s => rounds l m g n s
  | newRounds l g n s t => newRounds l g n s t
  | refuse => refuse
  | goBack n => goBack n
  | again g c => again g c
  | enter => enter
  | leave => leave
  | searchStart => searchStart
  | matchedGroup g => matchedGroup g
  | accept => accept

abbrev Code := List (Instr Pattern)

/-- Emits code; the state is the next free slot. -/
abbrev Emit := StateT Nat (Except Error)

def newSlot : Emit Nat := modifyGet fun n => (n, n + 1)

/-- A leaf of plain nodes; `isLast` says that its end is of no use. -/
def leafOf (ps : List Node) (isLast : Bool) : Emit Code :=
  let p := Pattern.concat (Node.toPatterns ps)
  if ps.isEmpty then pure []
  else if p.isTooBig then throw .tooBig
  else
    let use : LeafUse :=
      if Node.allFixed ps then .fixed (Node.minSizes ps)
      else if isLast then .starting else .preferred
    pure [.leaf use p]

/-- Joins the code of the branches of a choice, each with its length known. -/
def chooseBetween (pc : Nat) : List (Nat → Emit Code) → Emit Code
  | [] => pure []
  | [p] => p pc
  | p :: ps => do
    let a ← p (pc + 1)
    let next := pc + 1 + a.length + 1
    let b ← chooseBetween next ps
    pure (.split (pc + 1) next :: a ++ .jump (next + b.length) :: b)

/-- Joins code that follows other code. -/
def oneByOne : List (Nat → Emit Code) → Nat → Emit Code
  | [], _ => pure []
  | p :: ps, pc => do
    let a ← p pc
    pure (a ++ (← oneByOne ps (pc + a.length)))

/-- The text before the position: goes back, or asks for a match that ends here. -/
def lookBack (refs : List Nat) (p : Node) (code : Nat → Emit Code) (pc : Nat) : Emit Code := do
  if p.isFixed then pure (.goBack p.minSize :: (← code (pc + 1)))
  else if p.isHard refs then throw .lookAround
  else if p.toPattern.isTooBig then throw .tooBig
  else pure [.leaf .ending p.toPattern]

/-- Code that looks around the position, given the code of what it looks for. -/
def lookAround (positive : Bool) (code : Nat → Emit Code) (pc : Nat) : Emit Code := do
  if positive then
    let slot ← newSlot
    pure (.save slot :: (← code (pc + 1)) ++ [.restore slot])
  else
    let a ← code (pc + 1)
    pure (.split (pc + 1) (pc + a.length + 2) :: a ++ [.refuse])

/-- Code that repeats a part, given the code of the part. -/
def repeatCode (least : Nat) (most : Option Nat) (greedy mayBeEmpty : Bool)
    (code : Nat → Emit Code) (pc : Nat) : Emit Code := do
  let either (first second : Nat) : Instr Pattern :=
    if greedy then .split first second else .split second first
  match most with
  | none =>
    if mayBeEmpty then
      let slot ← newSlot
      let last ← newSlot
      let a ← code (pc + 2)
      let next := pc + 2 + a.length + 1
      pure (.zero slot :: .newRounds least greedy next slot last :: a ++ [.jump (pc + 1)])
    else if least = 0 then
      let a ← code (pc + 1)
      pure (either (pc + 1) (pc + 1 + a.length + 1) :: a ++ [.jump pc])
    else if least = 1 then
      let a ← code pc
      pure (a ++ [either pc (pc + a.length + 1)])
    else counted
  | some _ => counted
where
  counted : Emit Code := do
    let slot ← newSlot
    let a ← code (pc + 2)
    let next := pc + 2 + a.length + 1
    pure (.zero slot :: .rounds least most greedy next slot :: a ++ [.jump (pc + 1)])

mutual

/-- The code of a node that starts at `pc`; `hard` says that what follows may come back into
it, `isLast` that its end is of no use. -/
def codeOf (refs : List Nat) (hard isLast : Bool) : Node → Nat → Emit Code
  | .seq ps, pc => do
    if !hard && !Node.anyHard refs ps then leafOf [.seq ps] isLast
    else
      let easy (p : Node) : Bool := !p.isHard refs
      let lead := ps.takeWhile fun p => easy p && p.isFixed
      let rest := ps.drop lead.length
      let trail := (rest.reverse.takeWhile fun p => easy p && (!hard || p.isFixed)).reverse
      let a ← leafOf lead isLast
      let b ← codeOfRange refs (isLast && trail.isEmpty) ps lead.length
        (rest.length - trail.length) (pc + a.length)
      let c ← leafOf trail isLast
      pure (a ++ b ++ c)
  | .alt ps, pc => do
    if !hard && !Node.anyHard refs ps then leafOf [.alt ps] isLast
    else chooseBetween pc (codeOfBranches refs hard isLast ps)
  | .group i p, pc => do
    if !hard && !(Node.group i p).isHard refs then leafOf [.group i p] isLast
    else
      let a ← codeOf refs hard false p (pc + 1)
      pure (.save (2 * i) :: a ++ [.save (2 * i + 1)])
  | .repeated p least most greedy, pc => do
    if !hard && !p.isHard refs then leafOf [.repeated p least most greedy] isLast
    else if least = 0 && most = some 1 then
      let a ← codeOf refs hard false p (pc + 1)
      let next := pc + 1 + a.length
      pure ((if greedy then .split (pc + 1) next else .split next (pc + 1)) :: a)
    else
      repeatCode least most greedy (p.minSize = 0) (codeOf refs (hard || p.isHard refs) false p) pc
  | .look ahead positive (.alt ps), pc =>
    if ahead || (Node.alt ps).isFixed then
      lookAround positive
        (fun pc =>
          let code (pc : Nat) : Emit Code := do
            if !Node.anyHard refs ps then leafOf [.alt ps] true
            else chooseBetween pc (codeOfBranches refs false true ps)
          if ahead then code pc else lookBack refs (.alt ps) code pc) pc
    else if positive then chooseBetween pc (codeOfLooks refs positive ps)
    else oneByOne (codeOfLooks refs positive ps) pc
  | .look ahead positive p, pc =>
    lookAround positive
      (fun pc => if ahead then codeOf refs false true p pc
        else lookBack refs p (codeOf refs false true p) pc) pc
  | .again i c, _ => pure [.again i c]
  | .atomic p, pc => do
    let a ← codeOf refs false false p (pc + 1)
    pure (.enter :: a ++ [.leave])
  | .keepOut, _ => pure [.save 0]
  | .searchStart, _ => pure [.searchStart]
  | .matchedGroup i, _ => pure [.matchedGroup i]
  | .cond test yes no, pc => do
    let a ← codeOf refs hard false test (pc + 2)
    let b ← codeOf refs hard isLast yes (pc + 3 + a.length)
    let other := pc + 4 + a.length + b.length
    let c ← codeOf refs hard isLast no other
    pure (.enter :: .split (pc + 2) other :: a ++ .leave :: b ++ .jump (other + c.length) :: c)
  | p, _ => leafOf (if p.isEmpty then [] else [p]) isLast

/-- The code of the nodes of a list that are left when some are dropped and some taken. -/
def codeOfRange (refs : List Nat) (isLast : Bool) : List Node → Nat → Nat → Nat → Emit Code
  | [], _, _, _ => pure []
  | _ :: ps, n + 1, k, pc => codeOfRange refs isLast ps n k pc
  | _ :: _, 0, 0, _ => pure []
  | p :: ps, 0, k + 1, pc => do
    let a ← codeOf refs true (isLast && k = 0) p pc
    pure (a ++ (← codeOfRange refs isLast ps 0 k (pc + a.length)))

def codeOfBranches (refs : List Nat) (hard isLast : Bool) : List Node → List (Nat → Emit Code)
  | [] => []
  | p :: ps => codeOf refs hard isLast p :: codeOfBranches refs hard isLast ps

/-- Looks for each branch of a choice in the text before the position. -/
def codeOfLooks (refs : List Nat) (positive : Bool) : List Node → List (Nat → Emit Code)
  | [] => []
  | p :: ps =>
    lookAround positive (lookBack refs p (codeOf refs false true p))
      :: codeOfLooks refs positive ps

end

end PromptKit.Regex
