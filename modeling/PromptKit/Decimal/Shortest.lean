/-!
The shortest decimal that reads back as a given double.

A finite double is `mant * 2 ^ exp`. The decimals that read back as it fill an interval around
it, ends included exactly when `mant` is even. The grids of 1, 2, … digits are tried in turn;
on each only the two neighbours of the value matter, and the nearer one inside wins.
-/

namespace PromptKit.Decimal

/-- The magnitude of a finite double, `mant * 2 ^ exp`. -/
structure Binary where
  mant : Nat
  exp : Int
  /-- The next smaller double is only half as far away as the next larger one. -/
  narrowBelow : Bool
deriving Repr, DecidableEq

/-- A decimal `coeff * 10 ^ exp`. -/
structure Scaled where
  coeff : Nat
  exp : Int
deriving Repr, DecidableEq, Inhabited

/-- What is chosen when two decimals are equally near. -/
inductive Tie where
  | up
  | toEven
deriving Repr, DecidableEq

/-- The magnitude of a double by its bits; the sign bit, infinities and NaN are the caller's. -/
def Binary.ofBits (bits : UInt64) : Binary :=
  let e := (bits.toNat / Nat.pow 2 52) % Nat.pow 2 11
  let f := bits.toNat % Nat.pow 2 52
  if e = 0 then ⟨f, -1074, false⟩
  else ⟨Nat.pow 2 52 + f, Int.ofNat e - 1075, f = 0 && e != 1⟩

/-- `b ^ e` or `1`, whichever makes a numerator. -/
def powAbove (b : Nat) (e : Int) : Nat := Nat.pow b e.toNat

/-- `b ^ (-e)` or `1`, whichever makes a denominator. -/
def powBelow (b : Nat) (e : Int) : Nat := Nat.pow b (-e).toNat

/-- The least `k` in a range with `x * 10 ^ k ≥ y`, counted from `k`. -/
def raise (x y : Nat) : Nat → Nat → Nat
  | 0, k => k
  | fuel + 1, k => if y ≤ x then k else raise (x * 10) y fuel (k + 1)

/-- The exponent of the leading decimal digit. -/
def Binary.magnitude (b : Binary) : Int :=
  let x := b.mant * powAbove 2 b.exp
  let y := powBelow 2 b.exp
  if y ≤ x then Int.ofNat ((toString (x / y)).length - 1)
  else - Int.ofNat (raise x y 400 0)

/-- The neighbour on the grid `10 ^ p` that reads back, if one does. -/
def Binary.onGrid? (tie : Tie) (b : Binary) (p : Int) : Option Nat :=
  let a := powAbove 2 (b.exp - 2) * powBelow 10 p
  let d := powBelow 2 (b.exp - 2) * powAbove 10 p
  let v := 4 * b.mant * a
  let lo := (4 * b.mant - if b.narrowBelow then 1 else 2) * a
  let hi := (4 * b.mant + 2) * a
  let k := v / d
  let closed := b.mant % 2 = 0
  let below := if closed then lo ≤ k * d else lo < k * d
  let above := if closed then (k + 1) * d ≤ hi else (k + 1) * d < hi
  let dn := v - k * d
  let up := (k + 1) * d - v
  if below ∧ above then
    if dn < up then some k
    else if up < dn then some (k + 1)
    else match tie with
      | .up => some (k + 1)
      | .toEven => some (if k % 2 = 0 then k else k + 1)
  else if below then some k
  else if above then some (k + 1)
  else none

/-- Moves trailing zeros of the coefficient into the exponent. -/
def Scaled.strip : Nat → Scaled → Scaled
  | 0, s => s
  | fuel + 1, s =>
    if s.coeff % 10 = 0 ∧ s.coeff ≠ 0 then strip fuel ⟨s.coeff / 10, s.exp + 1⟩ else s

def Binary.firstGrid (tie : Tie) (b : Binary) (top : Int) : List Nat → Scaled
  | [] => ⟨0, 0⟩
  | n :: ns =>
    let p := top - Int.ofNat n
    match b.onGrid? tie p with
    | some c => ⟨c, p⟩
    | none => firstGrid tie b top ns

/-- The shortest decimal that reads back, without trailing zeros; zero is `0 * 10 ^ 0`. -/
def Binary.shortest (tie : Tie) (b : Binary) : Scaled :=
  if b.mant = 0 then ⟨0, 0⟩
  else (b.firstGrid tie b.magnitude (List.range 18)).strip 20

end PromptKit.Decimal
