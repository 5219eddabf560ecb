import PromptKit.Format.Calendar
import PromptKit.Format.Email
import PromptKit.Regex.Search
import PromptKit.Uri.Template

/-!
Named formats of texts.
-/

namespace PromptKit

inductive Format where
  | date
  | time
  | dateTime
  | email
  | internationalEmail
  | hostname
  | internationalHostname
  | ipv4
  | ipv6
  | uri
  | uriReference
  | iri
  | iriReference
  | uriTemplate
  | pointer
  | relativePointer
  | regex
deriving DecidableEq, Repr

namespace Format

def name : Format → String
  | .date => "date"
  | .time => "time"
  | .dateTime => "date-time"
  | .email => "email"
  | .internationalEmail => "idn-email"
  | .hostname => "hostname"
  | .internationalHostname => "idn-hostname"
  | .ipv4 => "ipv4"
  | .ipv6 => "ipv6"
  | .uri => "uri"
  | .uriReference => "uri-reference"
  | .iri => "iri"
  | .iriReference => "iri-reference"
  | .uriTemplate => "uri-template"
  | .pointer => "json-pointer"
  | .relativePointer => "relative-json-pointer"
  | .regex => "regex"

def all : List Format := [
  .date, .time, .dateTime, .email, .internationalEmail, .hostname, .internationalHostname, .ipv4,
  .ipv6, .uri, .uriReference, .iri, .iriReference, .uriTemplate, .pointer, .relativePointer,
  .regex]

def ofName? (s : String) : Option Format := all.find? (·.name == s)

/-- Whether every tilde is followed by a zero or a one. -/
def isEscaped : List Char → Bool
  | [] => true
  | '~' :: '0' :: cs | '~' :: '1' :: cs => isEscaped cs
  | c :: cs => c != '~' && isEscaped cs

/-- A pointer is empty or starts with a slash. -/
def isPointer (cs : List Char) : Bool :=
  match cs with
  | [] => true
  | c :: rest => c = '/' && isEscaped rest

/-- A number of steps up, and then a pointer or a number sign. -/
def isRelativePointer (cs : List Char) : Bool :=
  let steps := cs.takeWhile Char.isDigit
  let rest := cs.drop steps.length
  !steps.isEmpty && (steps.length = 1 || steps.head? != some '0')
    && (rest = ['#'] || isPointer rest)

/-- Whether a text has a format. -/
def admits (f : Format) (s : String) : Bool :=
  match f with
  | .date => isDate s.toList
  | .time => isTime s.toList
  | .dateTime => isDateTime s.toList
  | .email => isEmail isHostname s.toList
  | .internationalEmail => isEmail isInternationalHostname s.toList
  | .hostname => isHostname s.toList
  | .internationalHostname => isInternationalHostname s.toList
  | .ipv4 => Uri.isIpv4 s.toList
  | .ipv6 => Uri.isIpv6 s.toList
  | .uri => Uri.isReference false true s
  | .uriReference => Uri.isReference false false s
  | .iri => Uri.isReference true true s
  | .iriReference => Uri.isReference true false s
  | .uriTemplate => Uri.isTemplate s
  | .pointer => isPointer s.toList
  | .relativePointer => isRelativePointer s.toList
  | .regex => (Regex.SearchPattern.compile s).toBool

end Format

end PromptKit
