/-!
Bytes read as text.

A character takes one to four bytes, and only the shortest way to write it is admitted. What
does not fit is told by its place and by the number of bytes that spoil the text.
-/

namespace PromptKit.Unicode

/-- Why some bytes are no text; without a length, they end inside a character. -/
structure DecodeError where
  offset : Nat
  length : Option Nat
deriving DecidableEq, Repr

def DecodeError.message (e : DecodeError) : String :=
  match e.length with
  | some n =>
    "invalid utf-8 sequence of " ++ toString n ++ " bytes from index " ++ toString e.offset
  | none => "incomplete utf-8 byte sequence from index " ++ toString e.offset

def isTailByte (b : Nat) : Bool := 0x80 ≤ b && b < 0xC0

/-- How many of the bytes after a lead byte fit it. -/
def fittingTails (lead : Nat) : List Nat → Nat
  | [] => 0
  | b :: rest =>
    let least := if lead = 0xE0 then 0xA0 else if lead = 0xF0 then 0x90 else 0x80
    let most := if lead = 0xED then 0x9F else if lead = 0xF4 then 0x8F else 0xBF
    if least ≤ b && b ≤ most then 1 + (rest.takeWhile isTailByte).length else 0

/-- The first character of some bytes and how many bytes follow the first one, or else the length
of an error. -/
def firstChar (lead : Nat) (rest : List Nat) : Except (Option Nat) (Char × Nat) :=
  if lead < 0x80 then pure (Char.ofNat lead, 0)
  else if lead < 0xC2 || 0xF4 < lead then throw (some 1)
  else
    let count := if lead < 0xE0 then 1 else if lead < 0xF0 then 2 else 3
    let tails := rest.take count
    let fitting := fittingTails lead tails
    if fitting = count then
      let top := if count = 1 then lead - 0xC0 else if count = 2 then lead - 0xE0 else lead - 0xF0
      pure (Char.ofNat (tails.foldl (fun n b => n * 64 + (b - 0x80)) top), count)
    else throw (if fitting = tails.length then none else some (fitting + 1))

/-- Reads some bytes after others, of which there are `offset`; the fuel is their number. -/
def decodeFrom (offset : Nat) : Nat → List Nat → Except DecodeError (List Char)
  | _, [] => pure []
  | 0, _ => pure []
  | fuel + 1, lead :: rest =>
    match firstChar lead rest with
    | .error length => throw ⟨offset, length⟩
    | .ok (c, count) => do
      pure (c :: (← decodeFrom (offset + count + 1) fuel (rest.drop count)))

def decode (bytes : List Nat) : Except DecodeError (List Char) :=
  decodeFrom 0 bytes.length bytes

end PromptKit.Unicode
