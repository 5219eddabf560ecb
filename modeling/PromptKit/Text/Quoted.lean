import PromptKit.Json.Printer
import PromptKit.Unicode.Printable

/-!
Quoted text in messages.

A quoted text shows every character: one that leaves no mark of its own is written by its code
point.
-/

namespace PromptKit.Text

/-- The hexadecimal digits of a number, without leading zeros. -/
def hex (n : Nat) : List Char :=
  if n < 16 then [Json.hexDigit n] else hex (n / 16) ++ [Json.hexDigit (n % 16)]

/-- A character as it stands between double quotes. -/
def shown (c : Char) : List Char :=
  match c with
  | '"' => ['\\', '"']
  | '\\' => ['\\', '\\']
  | '\n' => ['\\', 'n']
  | '\r' => ['\\', 'r']
  | '\t' => ['\\', 't']
  | c =>
    if c.toNat = 0 then ['\\', '0']
    else if Unicode.isPrintable c then [c]
    else ['\\', 'u', '{'] ++ hex c.toNat ++ ['}']

def quoted (s : String) : String := "\"" ++ String.ofList (s.toList.flatMap shown) ++ "\""

/-- A list of quoted texts between brackets. -/
def quotedList (ss : List String) : String := "[" ++ ", ".intercalate (ss.map quoted) ++ "]"

end PromptKit.Text
