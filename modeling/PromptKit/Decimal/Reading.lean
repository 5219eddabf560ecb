import PromptKit.Text.Blank

/-!
Reading a decimal as a double.

`read?` takes an optional sign, digits with an optional point and an optional exponent, or the
name of an infinity or of NaN, and rounds to nearest. `integer?` takes a sign and digits.
-/

namespace PromptKit.Decimal

def digitValue (c : Char) : Nat := c.toNat - '0'.toNat

/-- The number written by a list of decimal digits, after the digits of `n`. -/
def appendDigits (n : Nat) (ds : List Char) : Nat := ds.foldl (fun n c => 10 * n + digitValue c) n

/-- Digits alone, at least one. -/
def natural? (cs : List Char) : Option Nat :=
  if cs.isEmpty || !cs.all Char.isDigit then none else some (appendDigits 0 cs)

/-- Takes off a leading sign; `true` stands for minus. -/
def splitSign : List Char → Bool × List Char
  | '+' :: cs => (false, cs)
  | '-' :: cs => (true, cs)
  | cs => (false, cs)

/-- A whole number with an optional sign. -/
def integer? (cs : List Char) : Option Int :=
  let (neg, ds) := splitSign cs
  (natural? ds).map fun n => if neg then -Int.ofNat n else Int.ofNat n

/-- The double nearest to `n * 10 ^ e`; beyond the range it is infinite or zero. -/
def nearest (n : Nat) (e : Int) : Float :=
  if n = 0 then 0
  else
    let top := e + Int.ofNat (toString n).length
    if 400 < top then Float.ofScientific 1 false 400
    else if top < -400 then 0
    else if 0 ≤ e then Float.ofScientific n false e.toNat
    else Float.ofScientific n true (-e).toNat

/-- The exponent part, empty or `e` with a whole number. -/
def exponent? : List Char → Option Int
  | [] => some 0
  | c :: cs => if c = 'e' || c = 'E' then integer? cs else none

/-- A decimal without sign. -/
def magnitude? (cs : List Char) : Option Float :=
  let whole := cs.takeWhile Char.isDigit
  let rest := cs.dropWhile Char.isDigit
  let (frac, rest) := match rest with
    | '.' :: r => (r.takeWhile Char.isDigit, r.dropWhile Char.isDigit)
    | r => ([], r)
  if whole.isEmpty && frac.isEmpty then none
  else (exponent? rest).map fun e =>
    nearest (appendDigits 0 (whole ++ frac)) (e - Int.ofNat frac.length)

/-- Reads a double; names of the special values are taken in any case. -/
def read? (s : String) : Option Float :=
  let (neg, cs) := splitSign s.toList
  let named := Text.lowerAscii (String.ofList cs)
  let x? :=
    if named = "inf" || named = "infinity" then some (1.0 / 0.0 : Float)
    else if named = "nan" then some (0.0 / 0.0 : Float)
    else magnitude? cs
  x?.map fun x => if neg then -x else x

end PromptKit.Decimal
