import PromptKit.Decimal.Shortest

/-!
How a double is written.

A `Layout` fixes the choices: which exponents are written out in full, whether a whole number
keeps a `.0`, and the spelling of zero and of the values that are no numbers.
-/

namespace PromptKit.Decimal

structure Layout where
  tie : Tie
  /-- Exponents of the leading digit that are written in full; `none` writes all of them so. -/
  positional : Option (Int × Int)
  /-- A whole number written in full ends in `.0`. -/
  pointed : Bool

def zeros (n : Nat) : String := String.ofList (List.replicate n '0')

/-- Writes `coeff * 10 ^ exp` without an exponent. -/
def Scaled.inFull (pointed : Bool) (s : Scaled) : String :=
  let ds := toString s.coeff
  if 0 ≤ s.exp then ds ++ zeros s.exp.toNat ++ (if pointed then ".0" else "")
  else
    let frac := (-s.exp).toNat
    if frac < ds.length then
      let cs := ds.toList
      let places := ds.length - frac
      String.ofList (cs.take places) ++ "." ++ String.ofList (cs.drop places)
    else "0." ++ zeros (frac - ds.length) ++ ds

/-- Writes one digit before the point and the exponent after an `e` with its sign. -/
def Scaled.withExponent (s : Scaled) : String :=
  let ds := toString s.coeff
  let e := s.exp + Int.ofNat (ds.length - 1)
  let frac := ds.toList.drop 1
  String.ofList (ds.toList.take 1) ++ (if frac.isEmpty then "" else "." ++ String.ofList frac)
    ++ (if 0 ≤ e then "e+" ++ toString e.toNat else "e-" ++ toString (-e).toNat)

def Scaled.write (l : Layout) (s : Scaled) : String :=
  let e := s.exp + Int.ofNat ((toString s.coeff).length - 1)
  match l.positional with
  | none => s.inFull l.pointed
  | some (lo, hi) => if lo ≤ e ∧ e ≤ hi then s.inFull l.pointed else s.withExponent

/-- Writes any double; NaN has no sign. -/
def Layout.write (l : Layout) (x : Float) : String :=
  let bits := x.toBits
  let neg := Nat.pow 2 63 ≤ bits.toNat
  if x.isNaN then "NaN"
  else (if neg then "-" else "") ++
    (if x.isInf then "inf" else ((Binary.ofBits bits).shortest l.tie).write l)

/-- Every digit is written and a whole number has no point. -/
def plain : Layout := ⟨.up, none, false⟩

/-- From `0.00001` to below `1e16` in full, a whole number with `.0`; else with an exponent. -/
def compact : Layout := ⟨.toEven, some (-5, 15), true⟩

end PromptKit.Decimal
