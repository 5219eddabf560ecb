import PromptKit.Json.Numeral
import PromptKit.Text.Search

/-!
Reading JSON text.

A text holds one value between blanks. Arrays and objects nest at most 127 deep. A repeated key
keeps the place of its first member and the value of its last.
-/

namespace PromptKit.Json

inductive SyntaxError where
  | endOfText
  | unexpected (c : Char)
  | numeral (cause : NumeralError)
  | badEscape
  | bareControl
  | tooDeep
  | trailing
deriving DecidableEq, Repr

def SyntaxError.message : SyntaxError → String
  | .endOfText => "the text ends inside a value"
  | .unexpected c => "unexpected character " ++ quote c
  | .numeral .malformed => "malformed number"
  | .numeral .outOfRange => "number out of range"
  | .badEscape => "malformed escape in a string"
  | .bareControl => "control character in a string"
  | .tooDeep => "nested too deeply"
  | .trailing => "characters after the value"
where
  quote (c : Char) : String := String.ofList ['\'', c, '\'']

def isGap (c : Char) : Bool := c = ' ' || c = '\t' || c = '\n' || c = '\r'

def skipGap (cs : List Char) : List Char := cs.dropWhile isGap

def hexValue? (c : Char) : Option Nat :=
  if c.isDigit then some (c.toNat - '0'.toNat)
  else if 'a' ≤ c ∧ c ≤ 'f' then some (c.toNat - 'a'.toNat + 10)
  else if 'A' ≤ c ∧ c ≤ 'F' then some (c.toNat - 'A'.toNat + 10)
  else none

/-- Four hexadecimal digits. -/
def unit? : List Char → Option (Nat × List Char)
  | a :: b :: c :: d :: r => do
    let a ← hexValue? a
    let b ← hexValue? b
    let c ← hexValue? c
    let d ← hexValue? d
    pure (((a * 16 + b) * 16 + c) * 16 + d, r)
  | _ => none

/-- The character of a numeric escape; two units make one character above the first plane, and
half a pair makes none. -/
def numericEscape? (cs : List Char) : Option (Char × List Char) := do
  let (u, r) ← unit? cs
  if 0xD800 ≤ u ∧ u < 0xDC00 then
    match r with
    | '\\' :: 'u' :: r =>
      let (v, r) ← unit? r
      if 0xDC00 ≤ v ∧ v < 0xE000 then
        pure (Char.ofNat (0x10000 + (u - 0xD800) * 0x400 + (v - 0xDC00)), r)
      else none
    | _ => none
  else if 0xDC00 ≤ u ∧ u < 0xE000 then none
  else pure (Char.ofNat u, r)

def simpleEscape? : Char → Option Char
  | '"' => some '"'
  | '\\' => some '\\'
  | '/' => some '/'
  | 'b' => some (Char.ofNat 8)
  | 'f' => some (Char.ofNat 12)
  | 'n' => some '\n'
  | 'r' => some '\r'
  | 't' => some '\t'
  | _ => none

/-- Reads a string after its opening quote. -/
def stringTail : Nat → List Char → List Char → Except SyntaxError (String × List Char)
  | 0, _, _ => throw .endOfText
  | _ + 1, _, [] => throw .endOfText
  | fuel + 1, acc, c :: cs =>
    if c = '"' then pure (String.ofList acc.reverse, cs)
    else if c = '\\' then
      match cs with
      | [] => throw .endOfText
      | 'u' :: r =>
        match numericEscape? r with
        | some (d, r) => stringTail fuel (d :: acc) r
        | none => throw .badEscape
      | e :: r =>
        match simpleEscape? e with
        | some d => stringTail fuel (d :: acc) r
        | none => throw .badEscape
    else if c.toNat < 0x20 then throw .bareControl
    else stringTail fuel (c :: acc) cs

/-- Takes a fixed word off the text. -/
def word (w : String) (v : Json) (cs : List Char) : Except SyntaxError (Json × List Char) :=
  match Text.after? w.toList cs with
  | some r => pure (v, r)
  | none => throw (match cs with | c :: _ => .unexpected c | [] => .endOfText)

mutual

/-- Reads a value at nesting depth `128 - depth`. -/
def value (depth : Nat) : Nat → List Char → Except SyntaxError (Json × List Char)
  | 0, _ => throw .endOfText
  | fuel + 1, cs =>
    match skipGap cs with
    | [] => throw .endOfText
    | 'n' :: r => word "null" .null ('n' :: r)
    | 't' :: r => word "true" (.bool true) ('t' :: r)
    | 'f' :: r => word "false" (.bool false) ('f' :: r)
    | '"' :: r => do
      let (s, r) ← stringTail (r.length + 1) [] r
      pure (.string s, r)
    | '[' :: r =>
      if depth ≤ 1 then throw .tooDeep
      else match skipGap r with
        | ']' :: r => pure (.array [], r)
        | r => do
          let (items, r) ← items (depth - 1) fuel r
          pure (.array items, r)
    | '{' :: r =>
      if depth ≤ 1 then throw .tooDeep
      else match skipGap r with
        | '}' :: r => pure (.object [], r)
        | r => do
          let (ms, r) ← members (depth - 1) fuel [] r
          pure (.object ms, r)
    | c :: r =>
      if c = '-' || c.isDigit then
        match Numeral.scan? (c :: r) with
        | .error e => throw (.numeral e)
        | .ok (n, r) =>
          match n.toNumber with
          | .error e => throw (.numeral e)
          | .ok n => pure (.number n, r)
      else throw (.unexpected c)

/-- Reads the values of an array up to its closing bracket. -/
def items (depth : Nat) : Nat → List Char → Except SyntaxError (List Json × List Char)
  | 0, _ => throw .endOfText
  | fuel + 1, cs => do
    let (v, r) ← value depth fuel cs
    match skipGap r with
    | ',' :: r =>
      let (vs, r) ← items depth fuel r
      pure (v :: vs, r)
    | ']' :: r => pure ([v], r)
    | c :: _ => throw (.unexpected c)
    | [] => throw .endOfText

/-- Reads the members of an object up to its closing brace. -/
def members (depth : Nat) : Nat → Members → List Char → Except SyntaxError (Members × List Char)
  | 0, _, _ => throw .endOfText
  | fuel + 1, acc, cs =>
    match skipGap cs with
    | '"' :: r => do
      let (k, r) ← stringTail (r.length + 1) [] r
      match skipGap r with
      | ':' :: r =>
        let (v, r) ← value depth fuel r
        let acc := acc.set k v
        match skipGap r with
        | ',' :: r => members depth fuel acc r
        | '}' :: r => pure (acc, r)
        | c :: _ => throw (.unexpected c)
        | [] => throw .endOfText
      | c :: _ => throw (.unexpected c)
      | [] => throw .endOfText
    | c :: _ => throw (.unexpected c)
    | [] => throw .endOfText

end

/-- Reads a text that holds exactly one value. -/
def read (text : String) : Except SyntaxError Json := do
  let cs := text.toList
  let (v, r) ← value 128 (2 * cs.length + 2) cs
  if (skipGap r).isEmpty then pure v else throw .trailing

end PromptKit.Json
