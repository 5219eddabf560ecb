import PromptKit.Decimal.Layout

/-!
JSON values.

The members of an object keep the order in which they were written, and a number keeps whether
it was a whole number or a double; `1` and `1.0` are different values with equal magnitude.
-/

namespace PromptKit

/-- A whole number that 64 bits hold, with or without a sign: from `-2 ^ 63` to below `2 ^ 64`. -/
@[ext] structure Whole where
  val : Int
  low : -Int.ofNat (Nat.pow 2 63) ≤ val
  high : val < Int.ofNat (Nat.pow 2 64)
deriving DecidableEq, Repr

namespace Whole

/-- A count of 64 bits. -/
def ofNat (n : Nat) (h : n < Nat.pow 2 64) : Whole where
  val := Int.ofNat n
  low := Int.le_trans (Int.neg_nonpos_of_nonneg (Int.natCast_nonneg _)) (Int.natCast_nonneg n)
  high := Int.ofNat_lt.mpr h

/-- A literal is taken modulo `2 ^ 64`. -/
instance (n : Nat) : OfNat Whole n :=
  ⟨.ofNat (n % Nat.pow 2 64) (Nat.mod_lt n (Nat.pow_pos (Nat.succ_pos 1)))⟩

instance : Inhabited Whole := ⟨0⟩

def ofInt? (n : Int) : Option Whole :=
  if h : -Int.ofNat (Nat.pow 2 63) ≤ n ∧ n < Int.ofNat (Nat.pow 2 64) then some ⟨n, h.1, h.2⟩
  else none

/-- The number as a count, for one that is not negative. -/
def toNat (k : Whole) : Nat := k.val.toNat

theorem ofInt?_val (k : Whole) : ofInt? k.val = some k := dif_pos ⟨k.low, k.high⟩

end Whole

/-- A JSON number: a whole number of 64 bits, or a finite double. -/
inductive Number where
  | int (n : Whole)
  | float (x : Float) (finite : x.isFinite)
deriving Inhabited

namespace Number

/-- The number as a double, rounded to nearest. -/
def toFloat : Number → Float
  | .int n => Float.ofInt n.val
  | .float x _ => x

/-- The count that a whole number stands for. -/
def toCount? : Number → Option Nat
  | .int n => if 0 ≤ n.val then some n.toNat else none
  | .float _ _ => none

theorem toCount?_ofNat {n : Nat} (h : n < Nat.pow 2 64) :
    (int (.ofNat n h)).toCount? = some n := by
  have hval : 0 ≤ (Whole.ofNat n h).val := Int.natCast_nonneg n
  rw [toCount?, if_pos hval]
  rfl

/-- A finite double as a number. -/
def ofFloat? (x : Float) : Option Number :=
  if h : x.isFinite then some (.float x h) else none

/-- The compact text of a number. -/
def compact : Number → String
  | .int n => toString n.val
  | .float x _ => Decimal.compact.write x

/-- The text of a number in a template: no exponent, no point in a whole number, no sign on
zero. -/
def canonical : Number → String
  | .int n => toString n.val
  | .float x _ => if x == 0 then "0" else Decimal.plain.write x

/-- Equal values of the same kind. -/
protected def beq : Number → Number → Bool
  | .int m, .int n => m == n
  | .float x _, .float y _ => x == y
  | _, _ => false

instance : BEq Number := ⟨Number.beq⟩

/-- Equal as doubles, whatever the kinds. -/
def near (a b : Number) : Bool := a.toFloat == b.toFloat

end Number

inductive Json where
  | null
  | bool (b : Bool)
  | number (n : Number)
  | string (s : String)
  | array (items : List Json)
  | object (members : List (String × Json))
deriving Inhabited

/-- The members of an object in the order of the document. -/
abbrev Members := List (String × Json)

namespace Json

/-- The six shapes of a JSON value. -/
inductive Kind where
  | null
  | boolean
  | number
  | string
  | array
  | object
deriving DecidableEq, Repr

def Kind.name : Kind → String
  | .null => "null"
  | .boolean => "boolean"
  | .number => "number"
  | .string => "string"
  | .array => "array"
  | .object => "object"

def kind : Json → Kind
  | .null => .null
  | .bool _ => .boolean
  | .number _ => .number
  | .string _ => .string
  | .array _ => .array
  | .object _ => .object

def isNull (v : Json) : Bool := v.kind = .null

/-- A count as a number; null where 64 bits do not hold it. -/
def nat (n : Nat) : Json :=
  if h : n < Nat.pow 2 64 then .number (.int (.ofNat n h)) else .null

theorem nat_of_lt {n : Nat} (h : n < Nat.pow 2 64) : nat n = .number (.int (.ofNat n h)) :=
  dif_pos h

mutual

/-- Equality of values up to the order of members, with `eq` on numbers. -/
def same (eq : Number → Number → Bool) : Json → Json → Bool
  | .null, .null => true
  | .bool a, .bool b => a == b
  | .number a, .number b => eq a b
  | .string a, .string b => a == b
  | .array as, .array bs => sameItems eq as bs
  | .object as, .object bs => as.length == bs.length && sameMembers eq as bs
  | _, _ => false

def sameItems (eq : Number → Number → Bool) : List Json → List Json → Bool
  | [], [] => true
  | a :: as, b :: bs => same eq a b && sameItems eq as bs
  | _, _ => false

def sameMembers (eq : Number → Number → Bool) : Members → Members → Bool
  | [], _ => true
  | (k, a) :: as, bs =>
    (match bs.find? (·.1 == k) with
      | some (_, b) => same eq a b
      | none => false) && sameMembers eq as bs

end

instance : BEq Json := ⟨same (· == ·)⟩

end Json

namespace Members

/-- The value of a member. -/
def get? (ms : Members) (key : String) : Option Json :=
  match ms with
  | [] => none
  | (k, v) :: rest => if k = key then some v else get? rest key

/-- Sets a member; a known key keeps its place. -/
def set (ms : Members) (key : String) (v : Json) : Members :=
  match ms with
  | [] => [(key, v)]
  | (k, w) :: rest => if k = key then (k, v) :: rest else (k, w) :: set rest key v

/-- A member that is there and not null. -/
def present? (ms : Members) (key : String) : Option Json :=
  (ms.get? key).filter (!·.isNull)

end Members

end PromptKit
