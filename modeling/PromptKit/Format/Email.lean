import PromptKit.Format.Host
import PromptKit.Text.Blank

/-!
Addresses of mail.

An address has a local part, which may be quoted, and after an at sign the name or the number of
a host. A name may stand before an address between angle brackets.
-/

namespace PromptKit.Format

def isAtomChar (c : Char) : Bool :=
  c.isAlphanum || 0x80 ≤ c.toNat || "!#$%&'*+-/=?^_`\x7b|\x7d~".toList.contains c

def isAtom (cs : List Char) : Bool := !cs.isEmpty && cs.all isAtomChar

/-- Characters that a quoted local part holds without a backslash. -/
def isQuotable (c : Char) : Bool :=
  c = ' ' || c = '\t' || 0x80 ≤ c.toNat
    || (0x21 ≤ c.toNat && c.toNat ≤ 0x7E && c != '"' && c != '\\')

def isQuotedText : List Char → Bool
  | [] => true
  | '\\' :: cs =>
    match cs with
    | c :: rest => 0x21 ≤ c.toNat && c.toNat ≤ 0x7E && isQuotedText rest
    | [] => false
  | c :: cs => isQuotable c && isQuotedText cs

/-- The number of bytes of a text. -/
def bytes (cs : List Char) : Nat := (String.ofList cs).utf8ByteSize

def isLocalPart (cs : List Char) : Bool :=
  !cs.isEmpty && bytes cs ≤ 64
    && (if cs.head? = some '"' && cs.getLast? = some '"' then
          3 ≤ cs.length && isQuotedText (cs.drop 1).dropLast
        else (Text.split '.' cs).all isAtom)

/-- The text between square brackets, if that is all. -/
def bracketed? (cs : List Char) : Option (List Char) :=
  if cs.head? = some '[' && cs.getLast? = some ']' then some (cs.drop 1).dropLast else none

def isNumericHost (cs : List Char) : Bool :=
  match Text.after? "IPv6:".toList cs with
  | some address => Uri.isIpv6 address
  | none => Uri.isIpv4 cs

def isMailDomain (isHost : List Char → Bool) (cs : List Char) : Bool :=
  !cs.isEmpty && bytes cs ≤ 254
    && match bracketed? cs with
      | some number => isNumericHost number
      | none =>
        (Text.split '.' cs).all (fun l => isAtom l && bytes l ≤ 63 && !hasEdgeHyphen l) && isHost cs

/-- The parts before and after the last occurrence of a text. -/
def cutLast? (p cs : List Char) : Option (List Char × List Char) :=
  (Text.cut? p.reverse cs.reverse).map fun q => (q.2.reverse, q.1.reverse)

/-- The address itself, without a name before it. -/
def bareAddress? (cs : List Char) : Option (List Char) :=
  match cutLast? [' ', '<'] cs with
  | none => some cs
  | some (_, address) =>
    let address := Text.trim address
    if address.getLast? = some '>' then some address.dropLast else none

def isEmail (isHost : List Char → Bool) (cs : List Char) : Bool :=
  match (bareAddress? cs).bind (cutLast? ['@']) with
  | some (user, domain) => isLocalPart user && isMailDomain isHost domain
  | none => false

end PromptKit.Format
