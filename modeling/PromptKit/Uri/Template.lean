import PromptKit.Uri.Reference

/-!
Templates of resource identifiers.

A template has expressions between braces. An expression names variables, perhaps after a mark
that says how they are joined; a variable may be cut to a number of characters or be spread out.
-/

namespace PromptKit.Uri

def isTemplateChar (c : Char) : Bool :=
  0x20 < c.toNat && c.toNat != 0x7F && !"\"'<>\\^`|\x7b\x7d".toList.contains c

/-- Between one and four digits, the first of them not zero. -/
def isPrefixLength (cs : List Char) : Bool :=
  !cs.isEmpty && cs.length ≤ 4 && cs.all Char.isDigit && cs.head? != some '0'

def isVariableName (cs : List Char) : Bool :=
  (Text.split '.' cs).all fun part =>
    !part.isEmpty && isEncoded (fun c => c.isAlphanum || c = '_') part

def isVariableSpec (cs : List Char) : Bool :=
  if cs.getLast? = some '*' then isVariableName cs.dropLast
  else
    match cutAt ':' cs with
    | (name, some length) => isVariableName name && isPrefixLength length
    | (name, none) => isVariableName name

/-- What stands between two braces. -/
def isExpression (cs : List Char) : Bool :=
  let list := match cs with
    | c :: rest => if "+#./;?&=,!@|".toList.contains c then rest else cs
    | [] => []
  (Text.split ',' list).all isVariableSpec

/-- A part of a template after an opening brace. -/
def isExpressionAndText (cs : List Char) : Bool :=
  match cutAt '}' cs with
  | (list, some rest) => isExpression list && isEncoded isTemplateChar rest
  | (_, none) => false

def isTemplate (s : String) : Bool :=
  match Text.split '{' s.toList with
  | [] => true
  | first :: rest => isEncoded isTemplateChar first && rest.all isExpressionAndText

end PromptKit.Uri
