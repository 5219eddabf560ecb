import PromptKit.Decimal.Reading
import PromptKit.Json.Basic

/-!
JSON numerals.

A whole numeral that fits 64 bits is kept exactly. Every other numeral becomes a double: its
leading digits, as many as fit 64 bits, are scaled by one power of ten, which can be a last
place away from the nearest double. A numeral beyond the doubles is refused.
-/

namespace PromptKit.Json

open Decimal (digitValue)

inductive NumeralError where
  | malformed
  | outOfRange
deriving DecidableEq, Repr

/-- The parts of a numeral as written. -/
structure Numeral where
  negative : Bool
  whole : List Char
  frac : Option (List Char)
  exponent : Option (Bool × List Char)

/-- Reads the longest numeral at the start of a text. -/
def Numeral.scan? (cs : List Char) : Except NumeralError (Numeral × List Char) := do
  let (negative, cs) := match cs with
    | '-' :: r => (true, r)
    | r => (false, r)
  let whole := cs.takeWhile Char.isDigit
  let cs := cs.dropWhile Char.isDigit
  if whole.isEmpty || (whole.head? == some '0' && whole.length != 1) then
    throw .malformed
  let (frac, cs) ← match cs with
    | '.' :: r =>
      if (r.takeWhile Char.isDigit).isEmpty then throw .malformed
      else pure (some (r.takeWhile Char.isDigit), r.dropWhile Char.isDigit)
    | r => pure (none, r)
  match cs with
  | c :: r =>
    if c = 'e' || c = 'E' then
      let (neg, r) := Decimal.splitSign r
      if (r.takeWhile Char.isDigit).isEmpty then throw .malformed
      else
        let e := (neg, r.takeWhile Char.isDigit)
        pure (⟨negative, whole, frac, some e⟩, r.dropWhile Char.isDigit)
    else pure (⟨negative, whole, frac, none⟩, c :: r)
  | [] => pure (⟨negative, whole, frac, none⟩, [])

/-- Appends digits while the result fits 64 bits; gives the digits left over too. -/
def appendWhileFits : Nat → List Char → Nat × List Char
  | n, [] => (n, [])
  | n, d :: ds =>
    if 10 * n + digitValue d < Nat.pow 2 64 then appendWhileFits (10 * n + digitValue d) ds
    else (n, d :: ds)

/-- Scales by a power of ten, below `1e-308` in several divisions. -/
def scale (x : Float) (e : Int) : Nat → Except NumeralError Float
  | 0 => pure x
  | fuel + 1 =>
    if e.natAbs ≤ 308 then
      let p := Float.ofScientific 1 false e.natAbs
      if 0 ≤ e then
        if (x * p).isInf then throw .outOfRange else pure (x * p)
      else pure (x / p)
    else if x == 0 then pure x
    else if 0 ≤ e then throw .outOfRange
    else scale (x / Float.ofScientific 1 false 308) (e + 308) fuel

/-- The double that a numeral stands for. -/
def Numeral.toFloat (n : Numeral) : Except NumeralError Float := do
  let (lead, left) := appendWhileFits 0 n.whole
  let fracDigits := n.frac.getD []
  let (lead, unread) := appendWhileFits lead fracDigits
  let shift := Int.ofNat left.length - Int.ofNat (fracDigits.length - unread.length)
  let x ← match n.exponent with
    | none => scale (Float.ofNat lead) shift 4
    | some (neg, ds) =>
      let e := Decimal.appendDigits 0 ds
      if Nat.pow 2 31 ≤ e then
        if lead ≠ 0 ∧ !neg then throw .outOfRange else pure 0
      else scale (Float.ofNat lead) (if neg then shift - Int.ofNat e else shift + Int.ofNat e) 4
  pure (if n.negative then -x else x)

/-- The whole number that a numeral stands for; a zero with a sign is a double. -/
def Numeral.toWhole? (n : Numeral) : Option Whole :=
  let k := Decimal.appendDigits 0 n.whole
  if n.frac.isSome || n.exponent.isSome || (n.negative && k = 0) then none
  else Whole.ofInt? (if n.negative then -Int.ofNat k else Int.ofNat k)

def Numeral.toNumber (n : Numeral) : Except NumeralError Number := do
  match n.toWhole? with
  | some k => pure (.int k)
  | none =>
    match Number.ofFloat? (← n.toFloat) with
    | some x => pure x
    | none => throw .outOfRange

end PromptKit.Json
