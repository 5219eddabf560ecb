import PromptKit.Unicode.Derived
import PromptKit.Unicode.Script
import PromptKit.Uri.Address

/-!
Names of hosts.

A name has labels between points: letters, digits and hyphens, no hyphen at the ends. A label
that starts with `xn--` stands for a label with characters beyond ASCII, and such labels may also
be written as they are where international names are allowed.
-/

namespace PromptKit.Format

/-! ### Labels beyond ASCII, written in ASCII -/

/-- The value of a digit: a letter, or a decimal digit after the letters. -/
def labelDigit? (c : Char) : Option Nat :=
  let c := c.toLower
  if 'a' ≤ c && c ≤ 'z' then some (c.toNat - 97)
  else if c.isDigit then some (c.toNat - 48 + 26)
  else none

/-- The bias after a step of a given length, for texts of a given number of characters. -/
def adapted (delta count : Nat) (isFirst : Bool) : Nat :=
  let delta := if isFirst then delta / 700 else delta / 2
  shrink 20 0 (delta + delta / count)
where
  shrink : Nat → Nat → Nat → Nat
    | 0, k, delta => k + 36 * delta / (delta + 38)
    | n + 1, k, delta =>
      if 455 < delta then shrink n (k + 36) (delta / 35) else k + 36 * delta / (delta + 38)

/-- A number of variable length: its value, and the characters after it. -/
def variableNumber? (bias : Nat) : Nat → Nat → Nat → List Char → Option (Nat × List Char)
  | _, _, _, [] => none
  | k, weight, n, c :: cs => do
    let d ← labelDigit? c
    let t := if k ≤ bias then 1 else min 26 (k - bias)
    let n := n + d * weight
    if Nat.pow 2 32 ≤ n then none
    else if d < t then some (n, cs)
    else variableNumber? bias (k + 36) (weight * (36 - t)) n cs

/-- Inserts the characters that the numbers in a text stand for. -/
def insertCoded : Nat → Nat → Nat → Nat → List Char → List Char → Option (List Char)
  | 0, _, _, _, _, _ => none
  | _ + 1, _, _, _, out, [] => some out
  | fuel + 1, code, i, bias, out, cs => do
    let (delta, rest) ← variableNumber? bias 36 1 0 cs
    let count := out.length + 1
    let place := i + delta
    let code := code + place / count
    if !code.isValidChar then none
    else
      let spot := place % count
      insertCoded fuel code (spot + 1) (adapted delta count (i = 0))
        (out.take spot ++ Char.ofNat code :: out.drop spot) rest

/-- The label that the part after `xn--` stands for. -/
def decodedLabel? (cs : List Char) : Option (List Char) :=
  let tail := (cs.reverse.takeWhile (· != '-')).reverse
  let lead := (cs.take (cs.length - tail.length)).dropLast
  if tail.isEmpty then none else insertCoded (cs.length + 1) 0x80 0 72 lead tail

/-! ### Labels -/

/-- Marks that take the vowel from a consonant. -/
def isKiller (c : Char) : Bool :=
  [0x94D, 0x9CD, 0xA4D, 0xACD, 0xB4D, 0xBCD, 0xC4D, 0xCCD, 0xD4D].contains c.toNat

/-- Characters that stand in a label only beside certain others, and what must stand there:
the character before and the character after. -/
def fitsBetween (before : Option Char) (c : Char) (after : Option Char) (label : List Char) :
    Bool :=
  let isIn (script : String) (d : Char) : Bool :=
    ((Unicode.script? script).getD []).contains d.toNat
  match c.toNat with
  | 0xB7 => before == some 'l' && after == some 'l'
  | 0x375 => after.any (isIn "grek")
  | 0x5F3 | 0x5F4 => before.any (isIn "hebr")
  | 0x30FB =>
    label.any fun d => d.toNat != 0x30FB && (isIn "hira" d || isIn "kana" d || isIn "hani" d)
  | 0x200C => before.any isKiller || (before.any (isIn "arab") && after.any (isIn "arab"))
  | 0x200D => before.any isKiller
  | n =>
    if 0x660 ≤ n && n ≤ 0x669 then !label.any fun d => 0x6F0 ≤ d.toNat && d.toNat ≤ 0x6F9
    else true

/-- Characters that no label admits. -/
def isBarred (c : Char) : Bool :=
  [0x640, 0x7FA, 0x302E, 0x302F, 0x3031, 0x3032, 0x3033, 0x3034, 0x3035, 0x303B].contains c.toNat

def isInternationalChar (c : Char) : Bool :=
  c.isAlphanum || c = '-'
    || (0x80 ≤ c.toNat && !isBarred c
      && (Unicode.word.contains c.toNat
        || [0xB7, 0x375, 0x5F3, 0x5F4, 0x6FD, 0x6FE, 0xF0B, 0x30FB].contains c.toNat))

/-- Each character with its neighbours. -/
def fitsAlong (label : List Char) : Option Char → List Char → Bool
  | _, [] => true
  | before, c :: cs => fitsBetween before c cs.head? label && fitsAlong label (some c) cs

def hasEdgeHyphen (cs : List Char) : Bool := cs.head? == some '-' || cs.getLast? == some '-'

def isInternationalLabel (cs : List Char) : Bool :=
  !cs.isEmpty && !hasEdgeHyphen cs && (cs.drop 2).take 2 != ['-', '-']
    && cs.all isInternationalChar && fitsAlong cs none cs
    && !(cs.head?.any fun c => (Unicode.ofCategories Unicode.marks).contains c.toNat)

def isAsciiLabel (cs : List Char) : Bool :=
  !cs.isEmpty && cs.length ≤ 63 && !hasEdgeHyphen cs && cs.all (fun c => c.isAlphanum || c = '-')
    && (if (cs.take 4).map Char.toLower = ['x', 'n', '-', '-'] then
          match decodedLabel? (cs.drop 4) with
          | some label => isInternationalLabel label
          | none => false
        else true)

def isHostname (cs : List Char) : Bool :=
  cs.length ≤ 253 && (Text.split '.' cs).all isAsciiLabel

def isInternationalHostname (cs : List Char) : Bool :=
  let points := cs.map fun c => if [0x3002, 0xFF0E, 0xFF61].contains c.toNat then '.' else c
  cs.length ≤ 253 && (Text.split '.' points).all fun l =>
    isAsciiLabel l || (isInternationalLabel l && l.any (0x80 ≤ ·.toNat) && l.length ≤ 63)

end PromptKit.Format
