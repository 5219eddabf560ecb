import PromptKit.Uri.Address

/-!
Uniform resource identifiers.

A reference has up to five parts: a scheme before a colon, an authority after two slashes, a
path, a query after a question mark and a fragment after a number sign. Each part admits its own
characters; any byte may be written as a percent sign with two hexadecimal digits.
-/

namespace PromptKit.Uri

structure Reference where
  scheme : Option (List Char) := none
  authority : Option (List Char) := none
  path : List Char := []
  query : Option (List Char) := none
  fragment : Option (List Char) := none
deriving DecidableEq, Repr, Inhabited

/-- The parts of a text before and after the first occurrence of a character. -/
def cutAt (c : Char) (cs : List Char) : List Char × Option (List Char) :=
  match Text.cut? [c] cs with
  | some (a, b) => (a, some b)
  | none => (cs, none)

def isSchemeChar (c : Char) : Bool := c.isAlphanum || c = '+' || c = '-' || c = '.'

/-- The scheme of a text, with the rest after the colon. -/
def scheme? (cs : List Char) : Option (List Char × List Char) :=
  let s := cs.takeWhile isSchemeChar
  match s, cs.drop s.length with
  | c :: _, ':' :: rest => if c.isAlpha then some (s, rest) else none
  | _, _ => none

namespace Reference

/-- Splits a text into the parts of a reference. -/
def ofChars (cs : List Char) : Reference :=
  let (cs, fragment) := cutAt '#' cs
  let (cs, query) := cutAt '?' cs
  let (scheme, cs) := match scheme? cs with
    | some (s, rest) => (some s, rest)
    | none => (none, cs)
  match cs with
  | '/' :: '/' :: rest =>
    let authority := rest.takeWhile (· != '/')
    { scheme, authority, path := rest.drop authority.length, query, fragment }
  | _ => { scheme, path := cs, query, fragment }

/-- A part with a mark before it, if there is one. -/
def marked (mark : List Char) : Option (List Char) → List Char
  | some cs => mark ++ cs
  | none => []

def toChars (r : Reference) : List Char :=
  (match r.scheme with
    | some s => s ++ [':']
    | none => [])
    ++ marked ['/', '/'] r.authority ++ r.path ++ marked ['?'] r.query ++ marked ['#'] r.fragment

end Reference

/-! ### Characters of the parts -/

def isUnreserved (c : Char) : Bool :=
  c.isAlphanum || c = '-' || c = '.' || c = '_' || c = '~'

def isSubDelimiter (c : Char) : Bool := "!$&'()*+,;=".toList.contains c

/-- Characters beyond ASCII that an international reference admits everywhere. -/
def isInternational (c : Char) : Bool :=
  let n := c.toNat
  (0xA0 ≤ n && n ≤ 0xD7FF) || (0xF900 ≤ n && n ≤ 0xFDCF) || (0xFDF0 ≤ n && n ≤ 0xFFEF)
    || (0x10000 ≤ n && n ≤ 0xEFFFD && n % 0x10000 ≤ 0xFFFD
      && !(0xE0000 ≤ n && n ≤ 0xE0FFF))

/-- Private characters, which an international reference admits in its query. -/
def isPrivate (c : Char) : Bool :=
  let n := c.toNat
  (0xE000 ≤ n && n ≤ 0xF8FF) || (0xF0000 ≤ n && n % 0x10000 ≤ 0xFFFD)

/-- Whether all characters are admitted, or are a byte written with a percent sign. -/
def isEncoded (admits : Char → Bool) : List Char → Bool
  | [] => true
  | '%' :: cs =>
    match cs with
    | a :: b :: rest => isHexDigit a && isHexDigit b && isEncoded admits rest
    | _ => false
  | c :: cs => admits c && isEncoded admits cs

/-- What is admitted in names, in the wider sense of international references if asked for. -/
def isNameChar (wide : Bool) (c : Char) : Bool :=
  isUnreserved c || isSubDelimiter c || (wide && isInternational c)

def isPathChar (wide : Bool) (c : Char) : Bool := isNameChar wide c || c = ':' || c = '@'

/-- The kind of address that names its version first. -/
def isFutureAddress (cs : List Char) : Bool :=
  match cs with
  | v :: rest =>
    let (version, address) := cutAt '.' rest
    (v = 'v' || v = 'V') && !version.isEmpty && version.all isHexDigit
      && match address with
        | some cs => !cs.isEmpty && cs.all fun c => isUnreserved c || isSubDelimiter c || c = ':'
        | none => false
  | [] => false

def isAuthority (wide : Bool) (cs : List Char) : Bool :=
  let (user, host) := match cutAt '@' cs with
    | (a, some b) => (a, b)
    | (a, none) => ([], a)
  let isPort (cs : List Char) : Bool :=
    match cs with
    | [] => true
    | c :: ds => c = ':' && ds.all Char.isDigit
  isEncoded (fun c => isNameChar wide c || c = ':') user
    && match host with
      | '[' :: rest =>
        match cutAt ']' rest with
        | (a, some port) => (isIpv6 a || isFutureAddress a) && isPort port
        | (_, none) => false
      | _ =>
        let name := host.takeWhile (· != ':')
        isEncoded (isNameChar wide) name && isPort (host.drop name.length)

namespace Reference

/-- Whether every part admits its characters. Without scheme and authority, a colon must not
stand in the first step of the path. -/
def isValid (wide : Bool) (r : Reference) : Bool :=
  let inPath (c : Char) : Bool := isPathChar wide c || c = '/'
  let tail (extra : Char → Bool) : Option (List Char) → Bool
    | some cs => isEncoded (fun c => inPath c || c = '?' || extra c) cs
    | none => true
  r.authority.all (isAuthority wide)
    && isEncoded inPath r.path
    && (r.scheme.isSome || r.authority.isSome
      || !(r.path.takeWhile (· != '/')).contains ':')
    && tail (fun c => wide && isPrivate c) r.query
    && tail (fun _ => false) r.fragment

end Reference

/-- Whether a text is a reference, and one with a scheme if that is asked for. -/
def isReference (wide absolute : Bool) (s : String) : Bool :=
  let r := Reference.ofChars s.toList
  r.isValid wide && (!absolute || r.scheme.isSome)

end PromptKit.Uri
