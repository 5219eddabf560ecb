import PromptKit.Unicode.Ranges

/-!
Code points as bytes.

`sequences` writes the characters of a range as sequences of byte ranges: each sequence stands
for the characters whose bytes lie in its ranges, place by place.
-/

namespace PromptKit.Unicode

abbrev ByteSequence := List (Nat × Nat)

/-- The bytes of a code point, the lead byte first. -/
def utf8Bytes (n : Nat) : List Nat :=
  if n < 0x80 then [n]
  else if n < 0x800 then [0xC0 + n / 64, 0x80 + n % 64]
  else if n < 0x10000 then [0xE0 + n / 4096, 0x80 + n / 64 % 64, 0x80 + n % 64]
  else [0xF0 + n / 262144, 0x80 + n / 4096 % 64, 0x80 + n / 64 % 64, 0x80 + n % 64]

/-- Where a range must be cut so that each part needs one sequence: the first code point of the
second part. -/
def cutAt? (lo hi : Nat) : Option Nat :=
  if lo < 0xE000 && 0xD7FF < hi then some 0xE000
  else
    match [0x80, 0x800, 0x10000].find? fun n => lo < n && n ≤ hi with
    | some n => some n
    | none =>
      if hi < 0x80 then none
      else [64, 4096, 262144].findSome? fun m =>
        if lo / m = hi / m then none
        else if lo % m != 0 then some ((lo / m + 1) * m)
        else if hi % m != m - 1 then some (hi / m * m)
        else none

/-- The sequences of a range that needs at most `n` cuts in a row. -/
def sequencesWithin : Nat → Nat → Nat → List ByteSequence
  | 0, lo, hi => [(utf8Bytes lo).zip (utf8Bytes hi)]
  | n + 1, lo, hi =>
    match cutAt? lo hi with
    | none => [(utf8Bytes lo).zip (utf8Bytes hi)]
    | some c =>
      if c = 0xE000 && lo < 0xE000 then
        (if lo < 0xD800 then sequencesWithin n lo 0xD7FF else [])
          ++ (if 0xE000 ≤ hi then sequencesWithin n 0xE000 hi else [])
      else sequencesWithin n lo (c - 1) ++ sequencesWithin n c hi

/-- The sequences of a set, in the order of its characters; surrogates have none. -/
def sequences (s : Ranges) : List ByteSequence := s.flatMap fun r => sequencesWithin 32 r.1 r.2

end PromptKit.Unicode
