/-!
Bytes written with sixty-four characters.

Four characters stand for three bytes. A last group of one or two bytes is filled up with equals
signs, and the bits that it leaves over are zero, so that each list of bytes has one text.
-/

namespace PromptKit.Text

/-- The six bits that a character stands for. -/
def sixBits? (c : Char) : Option Nat :=
  if c.isUpper then some (c.toNat - 65)
  else if c.isLower then some (c.toNat - 71)
  else if c.isDigit then some (c.toNat + 4)
  else if c = '+' then some 62
  else if c = '/' then some 63
  else none

/-- The bytes that a text stands for. -/
def base64? : List Char → Option (List Nat)
  | [] => some []
  | [a, b, '=', '='] => do
    let a ← sixBits? a
    let b ← sixBits? b
    if b % 16 = 0 then some [a * 4 + b / 16] else none
  | [a, b, c, '='] => do
    let a ← sixBits? a
    let b ← sixBits? b
    let c ← sixBits? c
    if c % 4 = 0 then some [a * 4 + b / 16, b % 16 * 16 + c / 4] else none
  | a :: b :: c :: d :: rest => do
    let a ← sixBits? a
    let b ← sixBits? b
    let c ← sixBits? c
    let d ← sixBits? d
    let bytes ← base64? rest
    some ([a * 4 + b / 16, b % 16 * 16 + c / 4, c % 4 * 64 + d] ++ bytes)
  | _ => none

end PromptKit.Text
