import PromptKit.Regex.Group

/-!
Patterns that look around themselves and refer back to their groups.

A node is plain when it could stand in a `Pattern`. The others, and the word boundaries, are
searched for by backtracking; groups that are referred to are not plain, as a search may have to
come back into them.
-/

namespace PromptKit.Regex

inductive Node where
  | empty
  | char (c : Char) (anyCase : Bool)
  /-- Any character, or any but a line feed. -/
  | any (lineFeed : Bool)
  /-- A set of characters, as a pattern. -/
  | set (p : Pattern)
  | anchor (a : Anchor)
  | seq (ps : List Node)
  | alt (ps : List Node)
  | group (index : Nat) (p : Node)
  | repeated (p : Node) (least : Nat) (most : Option Nat) (greedy : Bool)
  /-- The text after or before the position matches, or does not. -/
  | look (ahead positive : Bool) (p : Node)
  /-- What a group has matched. -/
  | again (group : Nat) (anyCase : Bool)
  /-- Only the first match of the part is tried. -/
  | atomic (p : Node)
  /-- The match is to be counted from here. -/
  | keepOut
  /-- The place where the search starts. -/
  | searchStart
  /-- Whether a group has matched. -/
  | matchedGroup (group : Nat)
  | cond (test yes no : Node)
deriving Inhabited

namespace Node

/-- Whether nothing is to be matched. -/
def isEmpty : Node → Bool
  | empty => true
  | _ => false

/-- Whether a quantifier may follow. -/
def isRepeatable : Node → Bool
  | look .. => false
  | empty => false
  | anchor _ => false
  | _ => true

def isWordAnchor : Anchor → Bool
  | .wordBoundary _ | .notWordBoundary _ | .wordStart _ | .wordEnd _ => true
  | .wordStartHalf _ | .wordEndHalf _ => true
  | _ => false

mutual

/-- The least number of characters of a match. -/
def minSize : Node → Nat
  | char .. => 1
  | any _ => 1
  | set _ => 1
  | seq ps => minSizes ps
  | alt ps => leastSize ps
  | group _ p => minSize p
  | repeated p least _ _ => minSize p * least
  | atomic p => minSize p
  | cond test yes no => minSize test + min (minSize yes) (minSize no)
  | _ => 0

def minSizes : List Node → Nat
  | [] => 0
  | p :: ps => minSize p + minSizes ps

def leastSize : List Node → Nat
  | [] => 0
  | [p] => minSize p
  | p :: ps => min (minSize p) (leastSize ps)

end

mutual

/-- Whether all matches have one number of characters. -/
def isFixed : Node → Bool
  | seq ps => allFixed ps
  | alt ps => allFixed ps && sameSizes ps
  | group _ p => isFixed p
  | repeated p least most _ => isFixed p && most == some least
  | again .. => false
  | atomic p => isFixed p
  | cond test yes no =>
    isFixed test && isFixed yes && isFixed no && minSize test + minSize yes == minSize no
  | _ => true

def allFixed : List Node → Bool
  | [] => true
  | p :: ps => isFixed p && allFixed ps

/-- Whether neighbours have equal least sizes. -/
def sameSizes : List Node → Bool
  | p :: q :: ps => minSize p == minSize q && sameSizes (q :: ps)
  | _ => true

end

mutual

/-- Whether a node is to be searched for by backtracking, if some groups are referred to. -/
def isHard (refs : List Nat) : Node → Bool
  | anchor a => isWordAnchor a
  | seq ps => anyHard refs ps
  | alt ps => anyHard refs ps
  | group i p => isHard refs p || refs.contains i
  | repeated p _ _ _ => isHard refs p
  | empty => false
  | char .. => false
  | any _ => false
  | set _ => false
  | _ => true

def anyHard (refs : List Nat) : List Node → Bool
  | [] => false
  | p :: ps => isHard refs p || anyHard refs ps

end

mutual

/-- A plain node as a pattern. -/
def toPattern : Node → Pattern
  | empty => .empty
  | char c anyCase => charPattern { anyCase } c
  | any lineFeed => .ofSet (if lineFeed then .full else Unicode.Ranges.compl [(10, 10)])
  | set p => p
  | anchor a => .anchor a
  | seq ps => .concat (toPatterns ps)
  | alt ps => .choice (toPatterns ps)
  | group i p => .group i (toPattern p)
  | repeated p least most greedy => .repetition (toPattern p) least most greedy
  | _ => .never

def toPatterns : List Node → List Pattern
  | [] => []
  | p :: ps => toPattern p :: toPatterns ps

end

end Node

end PromptKit.Regex
