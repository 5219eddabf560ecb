/-!
Sets of code points as lists of closed ranges.

The operations keep a list in order, with a gap between each range and the next; a set then has
one list. Complements are taken among all code points.
-/

namespace PromptKit.Unicode

abbrev Ranges := List (Nat × Nat)

/-- The last code point. -/
def maxCode : Nat := 0x10FFFF

namespace Ranges

def contains (rs : Ranges) (n : Nat) : Bool := rs.any fun r => r.1 ≤ n && n ≤ r.2

def single (n : Nat) : Ranges := [(n, n)]

/-- Every code point. -/
def full : Ranges := [(0, maxCode)]

/-- Joins ranges that are in order of their starts; the first is given apart. -/
def joinFrom (lo hi : Nat) : Ranges → Ranges
  | [] => [(lo, hi)]
  | (a, b) :: rs => if a ≤ hi + 1 then joinFrom lo (max hi b) rs else (lo, hi) :: joinFrom a b rs

def join : Ranges → Ranges
  | [] => []
  | (a, b) :: rs => joinFrom a b rs

/-- The list of a set that is given by ranges in any order. -/
def ofList (rs : List (Nat × Nat)) : Ranges := join (rs.mergeSort fun r s => r.1 ≤ s.1)

/-- Puts a range into a list by its start; `rest` does the same for what comes after it. -/
def mergeFrom (r : Nat × Nat) (rest : Ranges → Ranges) : Ranges → Ranges
  | [] => r :: rest []
  | s :: ss => if r.1 ≤ s.1 then r :: rest (s :: ss) else s :: mergeFrom r rest ss

/-- The ranges of two ordered lists in the order of their starts. -/
def merge (r s : Ranges) : Ranges := r.foldr mergeFrom id s

def union (r s : Ranges) : Ranges := join (merge r s)

/-- What is left from `n` on. -/
def complFrom (n : Nat) : Ranges → Ranges
  | [] => if n ≤ maxCode then [(n, maxCode)] else []
  | (a, b) :: rs => if n < a then (n, a - 1) :: complFrom (b + 1) rs else complFrom (b + 1) rs

def compl (r : Ranges) : Ranges := complFrom 0 r

def inter (r s : Ranges) : Ranges := compl (union (compl r) (compl s))

def diff (r s : Ranges) : Ranges := inter r (compl s)

def symmDiff (r s : Ranges) : Ranges := union (diff r s) (diff s r)

end Ranges

end PromptKit.Unicode
