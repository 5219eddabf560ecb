import PromptKit.Regex.Pattern
import PromptKit.Unicode.Derived

/-!
Where patterns match in a text.

A text of `n` characters has the positions `0` to `n`. A set of positions is a natural number
whose bit `i` stands for position `i`. A `Track` is a pattern seen on one text: its leaves are
sets of positions. `Track.reach` takes a set of positions to all the positions where a match
that starts in the set can end; what a choice or a repetition prefers makes no difference to it.
`Track.prefer` finds the end that is preferred among some ends.
-/

namespace PromptKit.Regex

open Unicode (Ranges)

abbrev Positions := Nat

/-- The set of the positions that satisfy a test, counted from the start of a list. -/
def positionsOf {τ : Type} (test : τ → Bool) (xs : List τ) : Positions :=
  xs.foldr (fun x acc => 2 * acc + (if test x then 1 else 0)) 0

/-- A position seen by its two neighbours. -/
abbrev Gap := Option Char × Option Char

/-- The gaps of a text, one more than it has characters. -/
def gaps (text : List Char) : List Gap := (none :: text.map some).zip (text.map some ++ [none])

def isWordChar (unicode : Bool) : Option Char → Bool
  | none => false
  | some c =>
    c.isAlphanum || c = '_' || (unicode && 0x80 ≤ c.toNat && Unicode.word.contains c.toNat)

/-- Whether a gap satisfies an anchor. -/
def Anchor.holds : Anchor → Gap → Bool
  | .textStart, (b, _) => b.isNone
  | .textEnd, (_, a) => a.isNone
  | .lineStart false, (b, _) => b.isNone || b == some '\n'
  | .lineStart true, (b, a) => b.isNone || b == some '\n' || (b == some '\r' && a != some '\n')
  | .lineEnd false, (_, a) => a.isNone || a == some '\n'
  | .lineEnd true, (b, a) => a.isNone || a == some '\r' || (a == some '\n' && b != some '\r')
  | .wordBoundary u, (b, a) => isWordChar u b != isWordChar u a
  | .notWordBoundary u, (b, a) => isWordChar u b == isWordChar u a
  | .wordStart u, (b, a) => !isWordChar u b && isWordChar u a
  | .wordEnd u, (b, a) => isWordChar u b && !isWordChar u a
  | .wordStartHalf u, (b, _) => !isWordChar u b
  | .wordEndHalf u, (_, a) => !isWordChar u a

/-- A pattern on a text. -/
inductive Track where
  /-- Stays where it is, in some positions. -/
  | stay (m : Positions)
  /-- Reads one character, from some positions. -/
  | step (m : Positions)
  | seq (p q : Track)
  | alt (p q : Track)
  | repeated (p : Track) (least : Nat) (most : Option Nat) (greedy : Bool)
deriving Inhabited

/-- A text as patterns see it. -/
structure Page where
  chars : List Char
  gaps : List Gap
  /-- All positions. -/
  full : Positions

def Page.ofText (text : List Char) : Page :=
  ⟨text, Regex.gaps text, Nat.pow 2 (text.length + 1) - 1⟩

namespace Page

def length (t : Page) : Nat := t.chars.length

/-- The track of a fixed text. -/
def spelled (t : Page) (cs : List Char) : Track :=
  cs.foldr (fun c p => .seq (.step (positionsOf (· == c) t.chars)) p) (.stay t.full)

mutual

def track (t : Page) : Pattern → Track
  | .empty => .stay t.full
  | .text cs => t.spelled cs
  | .set s => .step (positionsOf (fun c => s.contains c.toNat) t.chars)
  | .anchor a => .stay (positionsOf a.holds t.gaps)
  | .seq ps => tracksInTurn t ps
  | .alt ps => trackOfOne t ps
  | .repeated p least most greedy => .repeated (track t p) least most greedy
  | .group _ p => track t p

def tracksInTurn (t : Page) : List Pattern → Track
  | [] => .stay t.full
  | p :: ps => .seq (track t p) (tracksInTurn t ps)

def trackOfOne (t : Page) : List Pattern → Track
  | [] => .stay 0
  | p :: ps => .alt (track t p) (trackOfOne t ps)

end

end Page

namespace Track

/-- Adds the images of a set under `f` until nothing new comes, at most `n` times. -/
def upTo (f : Positions → Positions) : Nat → Positions → Positions
  | 0, s => s
  | n + 1, s => if s ||| f s = s then s else upTo f n (s ||| f s)

/-- `n` rounds of `f`. -/
def iterate (f : Positions → Positions) : Nat → Positions → Positions
  | 0, s => s
  | n + 1, s => if s = 0 then 0 else iterate f n (f s)

/-- The ends of the matches that start in a set (`ahead`), or the starts of those that end
in it, on a text of some length. -/
def reach (length : Nat) (ahead : Bool) : Track → Positions → Positions
  | stay m, s => s &&& m
  | step m, s => if ahead then (s &&& m) <<< 1 else (s >>> 1) &&& m
  | seq p q, s =>
    if ahead then q.reach length ahead (p.reach length ahead s)
    else p.reach length ahead (q.reach length ahead s)
  | alt p q, s => p.reach length ahead s ||| q.reach length ahead s
  | repeated p least most _, s =>
    let s := iterate (p.reach length ahead) least s
    upTo (p.reach length ahead) (match most with
      | none => length + 1
      | some most => most - least) s

/-- The rounds of a repetition from a position: the position where the next round should end is
asked for as long as rounds are due, or wanted and of use. `back n s` holds the positions from
which `n` rounds less lead into `s`. -/
def rounds (prefer : Nat → Positions → Option Nat) (back : Nat → Positions) (ends : Positions)
    (greedy : Bool) (due : Nat) (more : Option Nat) : Nat → Nat → Nat → Option Nat
  | 0, _, _ => none
  | fuel + 1, n, i =>
    let next : Option Nat :=
      if more = some (n - due) && due ≤ n then none
      else
        let s := back (n + 1)
        let s := if n < due then s else s &&& ((s ||| (1 <<< i)) ^^^ (1 <<< i))
        prefer i s
    let onward := next.bind fun j => rounds prefer back ends greedy due more fuel (n + 1) j
    if n < due then onward
    else
      let here := if ends.testBit i then some i else none
      if greedy then onward <|> here else here <|> onward

/-- The preferred end, among some ends, of the matches that start at a position. -/
def prefer (length : Nat) : Track → Nat → Positions → Option Nat
  | stay m, i, ends => if m.testBit i && ends.testBit i then some i else none
  | step m, i, ends => if m.testBit i && ends.testBit (i + 1) then some (i + 1) else none
  | seq p q, i, ends => do q.prefer length (← p.prefer length i (q.reach length false ends)) ends
  | alt p q, i, ends => p.prefer length i ends <|> q.prefer length i ends
  | repeated p least most greedy, i, ends =>
    let back (n : Nat) : Positions :=
      (repeated p (least - n) (most.map (· - n)) greedy).reach length false ends
    rounds (p.prefer length) back ends greedy least (most.map (· - least))
      (least + length + 2) 0 i

end Track

end PromptKit.Regex
