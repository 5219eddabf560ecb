import PromptKit.Regex.Pattern
import PromptKit.Unicode.Utf8

/-!
The room that a compiled pattern takes.

A pattern is compiled to a machine over bytes, once to read forward and once to read backward.
A state of a machine takes 32 bytes, an edge of a state with several edges 8, and a choice 4 for
each of its branches. A repetition is written out as often as it counts.
-/

namespace PromptKit.Regex

open Unicode (Ranges ByteSequence utf8Bytes sequences)

def stateRoom : Nat := 32

/-- The room of a state with some edges to different bytes. -/
def edgesRoom (n : Nat) : Nat := stateRoom + 8 * n

/-- The room of a state that branches without reading. -/
def branchRoom (n : Nat) : Nat := stateRoom + 4 * n

/-! ### Sets -/

/-- The sequences by their first byte range, in order. -/
def byLead : List ByteSequence → List ((Nat × Nat) × List ByteSequence)
  | [] => []
  | [] :: ss => byLead ss
  | (b :: s) :: ss =>
    match byLead ss with
    | (c, t) :: gs => if b = c then (c, s :: t) :: gs else (b, [s]) :: (c, t) :: gs
    | [] => [(b, [s])]

/-- The states of the tree of some sequences, each with the sequences that go on from it. -/
def treeStates : Nat → List ByteSequence → List (List ByteSequence)
  | 0, _ => []
  | n + 1, ss =>
    let gs := byLead ss
    if gs.isEmpty then [] else ss :: gs.flatMap fun g => treeStates n g.2

/-- The number of edges of the tree of some sequences. -/
def treeEdges : Nat → List ByteSequence → Nat
  | 0, _ => 0
  | n + 1, ss => (byLead ss).foldl (fun k g => k + 1 + treeEdges n g.2) 0

def setRoom (forward : Bool) (s : Ranges) : Nat :=
  if s.all fun r => r.2 < 0x80 then stateRoom + edgesRoom s.length
  else
    let ss := sequences s
    if forward then
      ((treeStates 4 ss).eraseDups).foldl (fun n t => n + edgesRoom (byLead t).length) stateRoom
    else stateRoom + branchRoom ss.length + stateRoom * treeEdges 4 ss

/-! ### Choices between texts -/

/-- A tree of texts as bytes. Its branches are in runs: an end of a text closes a run. -/
inductive TextTree where
  | node (closed : List (List (Nat × TextTree))) (last : List (Nat × TextTree))
deriving Inhabited

namespace TextTree

def leaf : TextTree := node [] []

/-- Marks that a text ends here. -/
def close : TextTree → TextTree
  | node closed last =>
    if last.isEmpty && !closed.isEmpty then node closed last else node (closed ++ [last]) []

/-- The tree of one text. -/
def ofBytes : List Nat → TextTree
  | [] => close leaf
  | b :: bs => node [] [(b, ofBytes bs)]

mutual

def insert : TextTree → List Nat → TextTree
  | t, [] => close t
  | node closed last, b :: bs => node closed (insertAt last b bs)

/-- Goes on in the branch of a byte, or opens one. -/
def insertAt : List (Nat × TextTree) → Nat → List Nat → List (Nat × TextTree)
  | [], b, bs => [(b, ofBytes bs)]
  | (c, t) :: rest, b, bs =>
    if b = c then (c, insert t bs) :: rest else (c, t) :: insertAt rest b bs

end

/-- The room of a run of edges. -/
def runRoom (n : Nat) : Nat := if n = 0 then 0 else if n = 1 then stateRoom else edgesRoom n

mutual

def room : TextTree → Nat
  | node closed last =>
    if closed.all List.isEmpty && last.isEmpty then 0
    else
      let runs := closed.map List.length ++ [last.length]
      runs.foldl (fun n k => n + runRoom k) 0
        + branchRoom ((runs.filter (· != 0)).length + closed.length)
        + roomOfRuns closed + roomOfRun last

def roomOfRuns : List (List (Nat × TextTree)) → Nat
  | [] => 0
  | r :: rs => roomOfRun r + roomOfRuns rs

def roomOfRun : List (Nat × TextTree) → Nat
  | [] => 0
  | (_, t) :: ts => room t + roomOfRun ts

end

end TextTree

/-- The bytes of a text in the order in which a machine reads them. -/
def bytesOf (forward : Bool) (cs : List Char) : List Nat :=
  let bs := cs.flatMap fun c => utf8Bytes c.toNat
  if forward then bs else bs.reverse

/-- The texts of branches that are all fixed texts, at least two. -/
def texts? (ps : List Pattern) : Option (List (List Char)) :=
  if ps.length < 2 then none
  else ps.mapM fun p => match p with
    | .text cs => some cs
    | _ => none

/-! ### Patterns -/

namespace Pattern

mutual

/-- The room of the machine that reads forward or backward. -/
def room (forward : Bool) : Pattern → Nat
  | empty => stateRoom
  | text cs => stateRoom * (bytesOf forward cs).length
  | set s => setRoom forward s
  | anchor _ => stateRoom
  | seq ps => totalRoom forward ps
  | alt ps =>
    match texts? ps with
    | some ts =>
      let tree := ts.foldl (fun t cs => t.insert (bytesOf forward cs)) TextTree.leaf
      stateRoom + tree.room
    | none => totalRoom forward ps + branchRoom ps.length + stateRoom
  | repeated p least most _ =>
    let one := room forward p
    match most with
    | none =>
      if least = 0 then
        if ((minLength? p).getD 0) = 0 then one + branchRoom 2 + branchRoom 2 + stateRoom
        else one + branchRoom 2
      else least * one + branchRoom 2
    | some most =>
      if least = 0 && most = 1 then one + branchRoom 2 + stateRoom
      else if least = most then max stateRoom (least * one)
      else (if least = 0 then stateRoom else least * one) + stateRoom
        + (most - least) * (one + branchRoom 2)
  | group _ p => room forward p + (if forward then 2 * stateRoom else 0)

def totalRoom (forward : Bool) : List Pattern → Nat
  | [] => 0
  | p :: ps => room forward p + totalRoom forward ps

end

/-- The room that a machine may take. -/
def maxRoom : Nat := 10 * Nat.pow 2 20

/-- The room around a pattern, for the start and the end of a search. -/
def frameRoom : Nat := 208

/-- Whether a machine of a pattern takes too much room. -/
def isTooBig (p : Pattern) : Bool :=
  maxRoom < room true p + frameRoom || maxRoom < room false p + frameRoom

end Pattern

end PromptKit.Regex
