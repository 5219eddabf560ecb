import PromptKit.Decimal.Exact

/-!
When two values count as equal in a schema.

Numbers are equal by their exact values, and objects when they have equal members in the same
order. Long lists are told apart by the doubles of their numbers as well, so that the two zeros
differ there.
-/

namespace PromptKit.Schema

mutual

/-- Equality with `eq` on numbers. -/
def equalBy (eq : Number → Number → Bool) : Json → Json → Bool
  | .null, .null => true
  | .bool a, .bool b => a == b
  | .number a, .number b => eq a b
  | .string a, .string b => a == b
  | .array as, .array bs => equalItemsBy eq as bs
  | .object as, .object bs => equalMembersBy eq as bs
  | _, _ => false

def equalItemsBy (eq : Number → Number → Bool) : List Json → List Json → Bool
  | [], [] => true
  | a :: as, b :: bs => equalBy eq a b && equalItemsBy eq as bs
  | _, _ => false

def equalMembersBy (eq : Number → Number → Bool) : Members → Members → Bool
  | [], [] => true
  | (k, a) :: as, (l, b) :: bs => k == l && equalBy eq a b && equalMembersBy eq as bs
  | _, _ => false

end

def equal (a b : Json) : Bool := equalBy Number.equal a b

/-- Equal numbers with equal doubles, bit by bit. -/
def sameDouble (a b : Number) : Bool := a.toFloat.toBits == b.toFloat.toBits && a.equal b

/-- Whether no two values of a list are equal. -/
def allDistinct (eq : Json → Json → Bool) : List Json → Bool
  | [] => true
  | v :: vs => !vs.any (eq v) && allDistinct eq vs

/-- The length up to which items are compared two by two. -/
def shortLength : Nat := 15

def isDistinct (vs : List Json) : Bool :=
  allDistinct (equalBy (if vs.length ≤ shortLength then Number.equal else sameDouble)) vs

end PromptKit.Schema
