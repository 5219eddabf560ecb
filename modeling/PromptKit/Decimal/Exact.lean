import PromptKit.Json.Basic

/-!
Exact comparison and divisibility of JSON numbers.
-/

namespace PromptKit

open Decimal

namespace Double

/-- The power of two that scales a double to a whole number. -/
def binaryPlaces (x : Float) : Nat := (-(Binary.ofBits x.toBits).exp).toNat

/-- The double times `2 ^ places`, for at least `binaryPlaces` places. -/
def scaledBy (places : Nat) (x : Float) : Int :=
  let b := Binary.ofBits x.toBits
  let m := Int.ofNat (b.mant * Nat.pow 2 (b.exp + Int.ofNat places).toNat)
  if Nat.pow 2 63 ≤ x.toBits.toNat then -m else m

/-- The largest whole number that is not above the double. -/
def floor (x : Float) : Int := scaledBy (binaryPlaces x) x / Int.ofNat (Nat.pow 2 (binaryPlaces x))

/-- A double without a fraction. -/
def isWhole (x : Float) : Bool := x.floor == x

/-- The shortest decimal of a double, with its sign left out. -/
def shortest (x : Float) : Scaled := (Binary.ofBits x.toBits).shortest .toEven

/-- Whether the first double is a whole multiple of the second. Where the second has a fraction
both count as their shortest decimals; then only zero and doubles that are not below the second
can be multiples. -/
def isMultipleOf (x y : Float) : Bool :=
  if isWhole y then isWhole x && floor y != 0 && floor x % floor y == 0
  else if x == 0 then true
  else if x < y then false
  else
    let s := shortest x
    let t := shortest y
    let e := min s.exp t.exp
    let n := s.coeff * powAbove 10 (s.exp - e)
    let d := t.coeff * powAbove 10 (t.exp - e)
    d != 0 && n % d == 0

end Double

namespace Number

/-- The power of two that scales the numbers at hand to whole numbers. -/
def binaryPlaces : Number → Nat
  | .int _ => 0
  | .float x _ => Double.binaryPlaces x

/-- The number times `2 ^ places`, for at least `binaryPlaces` places. -/
def scaledBy (places : Nat) : Number → Int
  | .int n => n.val * Int.ofNat (Nat.pow 2 places)
  | .float x _ => Double.scaledBy places x

/-- The largest whole number that is not above the number. -/
def floor : Number → Int
  | .int n => n.val
  | .float x _ => Double.floor x

/-- Compares two numbers exactly. -/
def compare (a b : Number) : Ordering :=
  let places := max a.binaryPlaces b.binaryPlaces
  Ord.compare (a.scaledBy places) (b.scaledBy places)

/-- Numbers with the same exact value, whatever their kinds. -/
def equal (a b : Number) : Bool := a.compare b = .eq

/-- A double without a fraction is a whole number too. -/
def isWhole : Number → Bool
  | .int _ => true
  | .float x _ => Double.isWhole x

/-- Whether the first number is a whole multiple of the second, both as doubles. -/
def isMultipleOf (a b : Number) : Bool := Double.isMultipleOf a.toFloat b.toFloat

end Number

end PromptKit
