import PromptKit.Unicode.Decode
import PromptKit.Unicode.Utf8
import PromptKit.Uri.Reference

/-!
References seen from a base.

`resolve?` completes a reference by the parts of a base; `normalized` writes equal references
alike: small letters in scheme and host, large hexadecimal digits, no escapes where none are
needed, and no dots for steps in an absolute path.
-/

namespace PromptKit.Uri

def upper (c : Char) : Char := if 'a' ≤ c && c ≤ 'f' then Char.ofNat (c.toNat - 32) else c

def lower (c : Char) : Char := c.toLower

/-- Writes each escape in one way; other characters are mapped by `f`. -/
def normalizeEscapes (f : Char → Char) : List Char → List Char
  | '%' :: a :: b :: cs =>
    match Json.hexValue? a, Json.hexValue? b with
    | some m, some n =>
      let c := Char.ofNat (16 * m + n)
      if c.toNat < 0x80 && isUnreserved c then f c :: normalizeEscapes f cs
      else '%' :: upper a :: upper b :: normalizeEscapes f cs
    | _, _ => '%' :: a :: b :: normalizeEscapes f cs
  | c :: cs => f c :: normalizeEscapes f cs
  | [] => []

/-- Walks the steps of a path; the steps so far are in reverse. -/
def walk : List (List Char) → List (List Char) → List (List Char)
  | done, [] => done.reverse
  | done, [s] =>
    if s = ['.'] then ([] :: done).reverse
    else if s = ['.', '.'] then ([] :: done.drop 1).reverse
    else (s :: done).reverse
  | done, s :: rest =>
    if s = ['.'] then walk done rest
    else if s = ['.', '.'] then walk (done.drop 1) rest
    else walk (s :: done) rest

/-- An absolute path without steps that are dots; another path stays as it is. -/
def withoutDots (path : List Char) : List Char :=
  match path with
  | '/' :: rest => (walk [] (Text.split '/' rest)).flatMap fun s => '/' :: s
  | _ => path

/-- Normalizes user, host and port; an empty port is left out. -/
def normalizeAuthority (cs : List Char) : List Char :=
  let (user, host) := match cutAt '@' cs with
    | (a, some b) => (normalizeEscapes id a ++ ['@'], b)
    | (a, none) => ([], a)
  let host := normalizeEscapes lower host
  user ++ (if host.getLast? = some ':' then host.dropLast else host)

namespace Reference

def normalized (r : Reference) : Reference :=
  let path := normalizeEscapes id r.path
  { scheme := r.scheme.map (·.map lower)
    authority := r.authority.map normalizeAuthority
    path := if r.scheme.isSome then withoutDots path else path
    query := r.query.map (normalizeEscapes id)
    fragment := r.fragment.map (normalizeEscapes id) }

/-- Whether nothing can be said relative to the base. -/
def isOpaque (base : Reference) : Bool := base.authority.isNone && base.path.head? != some '/'

/-- The path of a reference seen from the path of a base. -/
def mergedPath (base r : Reference) : List Char :=
  match r.path with
  | '/' :: _ => r.path
  | _ =>
    if base.authority.isSome && base.path.isEmpty then '/' :: r.path
    else (base.path.reverse.dropWhile (· != '/')).reverse ++ r.path

/-- A reference seen from a base, normalized. -/
def resolve? (base r : Reference) : Option Reference :=
  if r.scheme.isSome then some r.normalized
  else if r.authority.isSome then some { r with scheme := base.scheme }.normalized
  else if r.path.isEmpty && r.query.isNone then
    some { base with fragment := r.fragment }.normalized
  else if base.isOpaque then none
  else if r.path.isEmpty then some { base with query := r.query, fragment := r.fragment }.normalized
  else
    some { base with
      path := mergedPath base r, query := r.query, fragment := r.fragment }.normalized

end Reference

/-- The text of a reference seen from a base; both must be valid. -/
def resolveText? (base ref : String) : Option String :=
  let r := Reference.ofChars ref.toList
  if r.isValid false then
    ((Reference.ofChars base.toList).resolve? r).map fun r => String.ofList r.toChars
  else none

/-- Turns escapes into bytes; other characters stand for their own bytes. -/
def unescapedBytes : List Char → List Nat
  | '%' :: a :: b :: cs =>
    match Json.hexValue? a, Json.hexValue? b with
    | some m, some n => (16 * m + n) :: unescapedBytes cs
    | _, _ => '%'.toNat :: unescapedBytes (a :: b :: cs)
  | c :: cs => Unicode.utf8Bytes c.toNat ++ unescapedBytes cs
  | [] => []
termination_by cs => cs.length

/-- A text with its escapes undone, if they make up characters. -/
def percentDecoded? (cs : List Char) : Option (List Char) :=
  (Unicode.decode (unescapedBytes cs)).toOption

/-- A text without its fragment. -/
def withoutFragment (s : String) : String := String.ofList (cutAt '#' s.toList).1

end PromptKit.Uri
