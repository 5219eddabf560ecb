import PromptKit.Unicode.Ranges

/-!
Patterns in normal form.

`concat`, `choice` and `repetition` build patterns and keep a form in which equal patterns look
alike: a sequence holds no sequence and no two texts side by side, a choice between characters
is a set, and what all branches of a choice start with stands before the choice.
-/

namespace PromptKit.Regex

open Unicode (Ranges)

/-- A condition on a position. -/
inductive Anchor where
  | textStart
  | textEnd
  | lineStart (crlf : Bool)
  | lineEnd (crlf : Bool)
  | wordBoundary (unicode : Bool)
  | notWordBoundary (unicode : Bool)
  | wordStart (unicode : Bool)
  | wordEnd (unicode : Bool)
  | wordStartHalf (unicode : Bool)
  | wordEndHalf (unicode : Bool)
deriving DecidableEq, Repr, Inhabited

inductive Pattern where
  | empty
  /-- A fixed text, not empty. -/
  | text (cs : List Char)
  | set (s : Ranges)
  | anchor (a : Anchor)
  | seq (ps : List Pattern)
  | alt (ps : List Pattern)
  | repeated (p : Pattern) (least : Nat) (most : Option Nat) (greedy : Bool)
  | group (index : Nat) (p : Pattern)
deriving Inhabited

namespace Pattern

mutual

/-- Whether two patterns are built alike. -/
def same : Pattern → Pattern → Bool
  | empty, empty => true
  | text a, text b => a == b
  | set s, set t => s == t
  | anchor a, anchor b => a == b
  | seq ps, seq qs => sameList ps qs
  | alt ps, alt qs => sameList ps qs
  | repeated p a b c, repeated q d e f => same p q && a == d && b == e && c == f
  | group i p, group j q => i == j && same p q
  | _, _ => false

def sameList : List Pattern → List Pattern → Bool
  | [], [] => true
  | p :: ps, q :: qs => same p q && sameList ps qs
  | _, _ => false

end

mutual

/-- Whether every match is empty. -/
def isBlank : Pattern → Bool
  | empty => true
  | text _ => false
  | set _ => false
  | anchor _ => true
  | seq ps => areBlank ps
  | alt ps => areBlank ps
  | repeated p _ most _ => isBlank p || most == some 0
  | group _ p => isBlank p

def areBlank : List Pattern → Bool
  | [] => true
  | p :: ps => isBlank p && areBlank ps

end

mutual

/-- The length of the shortest match, if there is any. -/
def minLength? : Pattern → Option Nat
  | empty => some 0
  | text cs => some cs.length
  | set s => if s.isEmpty then none else some 1
  | anchor _ => some 0
  | seq ps => totalLength? ps
  | alt ps => shortest? ps
  | repeated p least _ _ => (minLength? p).map (least * ·)
  | group _ p => minLength? p

def totalLength? : List Pattern → Option Nat
  | [] => some 0
  | p :: ps => do pure ((← minLength? p) + (← totalLength? ps))

def shortest? : List Pattern → Option Nat
  | [] => none
  | p :: ps =>
    match minLength? p, shortest? ps with
    | some m, some n => some (min m n)
    | some m, none => some m
    | none, n => n

end

/-- The pattern that matches nothing. -/
def never : Pattern := set []

def char (c : Char) : Pattern := text [c]

/-- A set of one character is that character. -/
def ofSet (s : Ranges) : Pattern :=
  match s with
  | [(a, b)] => if a = b && a.isValidChar then char (Char.ofNat a) else set s
  | _ => set s

/-- The parts of a sequence. -/
def parts : Pattern → List Pattern
  | empty => []
  | seq ps => ps
  | p => [p]

/-- Puts a part before others; two texts become one. -/
def before : Pattern → List Pattern → List Pattern
  | text a, text b :: ps => text (a ++ b) :: ps
  | p, ps => p :: ps

def concat (ps : List Pattern) : Pattern :=
  match (ps.flatMap parts).foldr before [] with
  | [] => empty
  | [p] => p
  | ps => seq ps

/-- The branches of a choice. -/
def branches : Pattern → List Pattern
  | alt ps => ps
  | p => [p]

/-- The characters of branches that are one character each. -/
def characters? (ps : List Pattern) : Option Ranges :=
  (ps.mapM fun p => match p with
    | text [c] => some (c.toNat, c.toNat)
    | _ => none).map Ranges.ofList

/-- The union of branches that are sets. -/
def union? (ps : List Pattern) : Option Ranges :=
  (ps.mapM fun p => match p with
    | set s => some s
    | _ => none).map (List.foldl Ranges.union [])

/-- How many parts two lists have in common at their start. -/
def commonLength : List Pattern → List Pattern → Nat
  | p :: ps, q :: qs => if same p q then commonLength ps qs + 1 else 0
  | _, _ => 0

/-- How many parts all of some sequences start with; branches that are no sequences share
none. -/
def sharedLength (ps : List Pattern) : Nat :=
  let seqs? := ps.mapM fun p => match p with
    | seq qs => some qs
    | _ => none
  match seqs? with
  | some (q :: qs) => qs.foldl (fun n r => min n (commonLength q r)) q.length
  | _ => 0

/-- A choice, with what its branches share brought to the front at most `n` times. -/
def choiceWithin : Nat → List Pattern → Pattern
  | n, ps =>
    match ps.flatMap branches with
    | [] => never
    | [p] => p
    | ps =>
      match characters? ps <|> union? ps with
      | some s => ofSet s
      | none =>
        match n, sharedLength ps with
        | n + 1, k + 1 =>
          let rests := ps.map fun p => concat (p.parts.drop (k + 1))
          concat ((ps.head?.elim [] parts).take (k + 1) ++ [choiceWithin n rests])
        | _, _ => alt ps

/-- A choice between branches, the first preferred. -/
def choice (ps : List Pattern) : Pattern := choiceWithin (ps.length + 1) ps

/-- A repetition; one of empty matches is repeated at most once. -/
def repetition (p : Pattern) (least : Nat) (most : Option Nat) (greedy : Bool) : Pattern :=
  let (least, most) :=
    if isBlank p then (min least 1, some (min (most.getD 1) 1)) else (least, most)
  if least = 0 && most = some 0 then empty
  else if least = 1 && most = some 1 then p
  else repeated p least most greedy

end Pattern

end PromptKit.Regex
