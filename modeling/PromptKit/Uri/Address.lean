import PromptKit.Json.Reader

/-!
Addresses of hosts.

A numeric address has four decimal numbers between points, or eight groups of hexadecimal
digits between colons. Two colons stand for one or more groups of zeros, and the last two groups
may be written as four decimal numbers.
-/

namespace PromptKit.Uri

def isHexDigit (c : Char) : Bool := (Json.hexValue? c).isSome

/-- A number below 256, without leading zeros. -/
def isOctet (cs : List Char) : Bool :=
  match cs with
  | ['0'] => true
  | '0' :: _ => false
  | _ =>
    cs.length ≤ 3 && match Decimal.natural? cs with
      | some n => n < 256
      | none => false

def isIpv4 (cs : List Char) : Bool :=
  let parts := Text.split '.' cs
  parts.length = 4 && parts.all isOctet

def isGroup (cs : List Char) : Bool := !cs.isEmpty && cs.length ≤ 4 && cs.all isHexDigit

/-- How many groups some parts stand for; only the last may be decimal, where that is allowed. -/
def groupCount? (decimalEnd : Bool) : List (List Char) → Option Nat
  | [] => some 0
  | [p] => if isGroup p then some 1 else if decimalEnd && isIpv4 p then some 2 else none
  | p :: ps => if isGroup p then (groupCount? decimalEnd ps).map (· + 1) else none

/-- The number of groups in a text, none of them for the empty text. -/
def groups? (decimalEnd : Bool) (cs : List Char) : Option Nat :=
  if cs.isEmpty then some 0 else groupCount? decimalEnd (Text.split ':' cs)

def isIpv6 (cs : List Char) : Bool :=
  match Text.cut? [':', ':'] cs with
  | none => groups? true cs == some 8
  | some (a, b) =>
    match groups? false a, groups? true b with
    | some m, some n => m + n < 8
    | _, _ => false

end PromptKit.Uri
