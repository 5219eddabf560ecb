import PromptKit.Fault
import PromptKit.Text.Blank

/-!
Names of packs, prompts, variables and tools.

A symbol is a letter or an underscore followed by letters, digits and underscores; letters are
those of ASCII throughout.
-/

namespace PromptKit.Name

/-- A character that a symbol may hold after its first. -/
def isWordChar (c : Char) : Bool := c.isAlphanum || c = '_'

def isSymbol : List Char → Bool
  | [] => false
  | c :: cs => (c.isAlpha || c = '_') && cs.all isWordChar

def isIdChar (underscores : Bool) (c : Char) : Bool :=
  c.isLower || c.isDigit || c = '-' || (underscores && c = '_')

/-- A lower-case letter followed by lower-case letters, digits, dashes and, where they are
allowed, underscores. -/
def isLowercaseId (underscores : Bool) : List Char → Bool
  | [] => false
  | c :: cs => c.isLower && cs.all (isIdChar underscores)

/-- The most bytes that the identifier of a pack may have. -/
def maxPackId : Nat := 100

/-- The most characters that a display name may have. -/
def maxDisplayName : Nat := 200

def checkPackId (id : String) : Except Fault Unit :=
  if maxPackId < id.utf8ByteSize then throw .packIdLength
  else if isLowercaseId false id.toList then pure ()
  else throw (.lowercaseId id false)

def checkPromptId (id : String) : Except Fault Unit :=
  if isLowercaseId true id.toList then pure () else throw (.lowercaseId id true)

def checkDisplayName (name : String) : Except Fault Unit :=
  if Text.allBlank name then throw .emptyName
  else if maxDisplayName < name.length then throw .nameLength
  else pure ()

def checkSymbol (name : String) : Except Fault Unit :=
  if isSymbol name.toList then pure () else throw (.symbol name)

end PromptKit.Name
