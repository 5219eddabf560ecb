import PromptKit.Json.Reader
import PromptKit.Yaml.Token

/-!
A place in a YAML text and the steps from it.

The cursor knows the characters that are left, how many bytes came before, the line, and the
column in characters.
-/

namespace PromptKit.Yaml

structure Cursor where
  rest : List Char
  index : Nat := 0
  line : Nat := 0
  column : Nat := 0

/-- The characters that a text may hold. -/
def isAllowed (c : Char) : Bool :=
  let n := c.toNat
  n = 9 || n = 10 || n = 13 || (0x20 ≤ n && n ≤ 0x7E) || n = 0x85 || (0xA0 ≤ n && n ≤ 0xD7FF)
    || (0xE000 ≤ n && n ≤ 0xFFFD) || 0x10000 ≤ n

def isBreak (c : Char) : Bool :=
  c = '\n' || c = '\r' || c.toNat = 0x85 || c.toNat = 0x2028 || c.toNat = 0x2029

def isBlank (c : Char) : Bool := c = ' ' || c = '\t'

/-- The characters of anchors and of the handles of tags. -/
def isNameChar (c : Char) : Bool := c.isAlphanum || c = '_' || c = '-'

/-- Whether a text starts with a blank or a break, or is at its end. -/
def atGap : List Char → Bool
  | [] => true
  | c :: _ => isBlank c || isBreak c

/-- Whether a text starts with a break or is at its end. -/
def atLineEnd : List Char → Bool
  | [] => true
  | c :: _ => isBreak c

namespace Cursor

/-- The next character. -/
def peek? (c : Cursor) : Option Char := c.rest.head?

def sees (c : Cursor) (x : Char) : Bool := c.peek? == some x

/-- Whether the text goes on with the characters and a gap after them. -/
def seesWord (c : Cursor) (w : List Char) : Bool :=
  match Text.after? w c.rest with
  | some r => atGap r
  | none => false

/-- Steps over some characters of the line. -/
def skip (c : Cursor) (n : Nat) : Cursor :=
  let width := (c.rest.take n).foldl (fun w x => w + x.utf8Size) 0
  ⟨c.rest.drop n, c.index + width, c.line, c.column + n⟩

/-- Steps over one character of the line. -/
def next (c : Cursor) : Cursor := c.skip 1

/-- The characters that hold `p`, and the place after them. -/
def takeWhile (c : Cursor) (p : Char → Bool) : List Char × Cursor :=
  let cs := c.rest.takeWhile p
  (cs, c.skip cs.length)

def skipWhile (c : Cursor) (p : Char → Bool) : Cursor := (c.takeWhile p).2

/-- Steps over a line break, if there is one. The break reads as a line feed, but for the two
separators of lines and paragraphs, which stay as they are. -/
def newline (c : Cursor) : List Char × Cursor :=
  match c.rest with
  | '\r' :: '\n' :: r => (['\n'], ⟨r, c.index + 2, c.line + 1, 0⟩)
  | x :: r =>
    if !isBreak x then ([], c)
    else
      let read := if x.toNat = 0x2028 || x.toNat = 0x2029 then [x] else ['\n']
      (read, ⟨r, c.index + x.utf8Size, c.line + 1, 0⟩)
  | [] => ([], c)

/-- Whether a document mark stands at the start of this line. -/
def atDocumentMark (c : Cursor) : Bool :=
  c.column = 0 && (c.seesWord ['-', '-', '-'] || c.seesWord ['.', '.', '.'])

end Cursor

end PromptKit.Yaml
