import PromptKit.Decimal.Reading
import PromptKit.Text.Search

/-!
Dates and times as texts.

A date has a year of four digits, a month and a day between hyphens. A time has an hour, a
minute and a second between colons, perhaps a fraction, and then `Z` or the distance from
universal time. A second of 60 is the last of a universal day.
-/

namespace PromptKit.Format

/-- A number of exactly so many digits. -/
def digits? (count : Nat) (cs : List Char) : Option Nat :=
  if cs.length = count then Decimal.natural? cs else none

def isLeapYear (year : Nat) : Bool := year % 4 = 0 && (year % 100 != 0 || year % 400 = 0)

def daysIn (year month : Nat) : Nat :=
  match month with
  | 2 => if isLeapYear year then 29 else 28
  | 4 | 6 | 9 | 11 => 30
  | _ => 31

def isDate (cs : List Char) : Bool :=
  match (Text.split '-' cs) with
  | [y, m, d] =>
    match digits? 4 y, digits? 2 m, digits? 2 d with
    | some y, some m, some d => 1 ≤ m && m ≤ 12 && 1 ≤ d && d ≤ daysIn y m
    | _, _, _ => false
  | _ => false

/-- The minutes by which a local time is ahead of universal time. -/
def offset? (cs : List Char) : Option Int :=
  match cs with
  | ['Z'] | ['z'] => some 0
  | sign :: rest =>
    match Text.split ':' rest with
    | [h, m] =>
      match digits? 2 h, digits? 2 m with
      | some h, some m =>
        if 23 < h || 59 < m then none
        else if sign = '+' then some (Int.ofNat (60 * h + m))
        else if sign = '-' then some (-Int.ofNat (60 * h + m))
        else none
      | _, _ => none
    | _ => none
  | [] => none

/-- What follows a fraction, if there is one. -/
def afterFraction? (cs : List Char) : Option (List Char) :=
  match cs with
  | '.' :: r =>
    let ds := r.takeWhile Char.isDigit
    if ds.isEmpty then none else some (r.drop ds.length)
  | _ => some cs

def isTime (cs : List Char) : Bool :=
  match Text.split ':' (cs.take 8) with
  | [h, m, s] =>
    match digits? 2 h, digits? 2 m, digits? 2 s, (afterFraction? (cs.drop 8)).bind offset? with
    | some h, some m, some s, some offset =>
      let minute := (Int.ofNat (60 * h + m) - offset) % 1440
      h ≤ 23 && m ≤ 59 && (s ≤ 59 || (s = 60 && minute = 1439))
    | _, _, _, _ => false
  | _ => false

def isDateTime (cs : List Char) : Bool :=
  let date := cs.takeWhile fun c => c != 'T' && c != 't'
  match cs.drop date.length with
  | _ :: time => isDate date && isTime time
  | [] => false

end PromptKit.Format
