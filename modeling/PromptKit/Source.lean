import PromptKit.Document
import PromptKit.Json.Reader
import PromptKit.Yaml

/-!
Where packs come from: texts and files, in JSON or YAML.
-/

namespace PromptKit

/-- The format of a source. -/
inductive SourceFormat where
  /-- Left to the name of the file and the text. -/
  | auto
  | json
  | yaml
deriving DecidableEq, Repr, Inhabited

namespace SourceFormat

def name : SourceFormat → String
  | .auto => "auto"
  | .json => "json"
  | .yaml => "yaml"

/-- A text whose first character, blanks aside, is an opening brace counts as JSON. -/
def guess (text : String) : SourceFormat :=
  if (Text.trimStart text.toList).head? == some '{' then .json else .yaml

def forText (f : SourceFormat) (text : String) : SourceFormat :=
  match f with
  | .auto => guess text
  | f => f

/-- The file that a path ends in, if it is not a directory above. -/
def fileName? (path : String) : Option (List Char) :=
  let parts := (Text.split '/' path.toList).filter fun p => p != [] && p != ['.']
  parts.getLast?.filter (· != ['.', '.'])

/-- What follows the last point of a file name; a point at its start does not count. -/
def extension? (path : String) : Option String := do
  let name ← fileName? path
  let ext := (name.reverse.takeWhile (· != '.')).reverse
  if ext.length + 1 < name.length then some (String.ofList ext) else none

/-- The format of a file: its extension decides, then its text. -/
def forPath (f : SourceFormat) (path text : String) : SourceFormat :=
  match f with
  | .auto =>
    match (extension? path).map Text.lowerAscii with
    | some "json" => .json
    | some "yaml" | some "yml" => .yaml
    | _ => guess text
  | f => f

end SourceFormat

/-- How sources are read. -/
structure LoaderConfig where
  format : SourceFormat := .auto
  /-- The most bytes that a source may have. -/
  maxBytes : Option Nat := some 16777216

inductive Source where
  | text (s : String)
  /-- A file, with its content or the reason why it has none. -/
  | file (path : String) (content : Except FileFault String)

namespace Source

/-- The value that a text in a given format holds. -/
def parse (format : SourceFormat) (text : String) : Except SourceFault Json :=
  match format with
  | .yaml => (Yaml.read text).mapError fun e => .yaml e.message
  | _ => (Json.read text).mapError fun e => .json e.message

/-- Refuses a text above the limit before it is read. -/
def readText (c : LoaderConfig) (format : SourceFormat) (text : String) :
    Except SourceFault Json :=
  match c.maxBytes with
  | some limit =>
    if limit < text.utf8ByteSize then throw (.tooLong text.utf8ByteSize limit)
    else parse format text
  | none => parse format text

/-- The document of a source. -/
def readTree (c : LoaderConfig) : Source → Traced PackError Json
  | .text s => lift (c.format.forText s) s
  | .file path (.error fault) => throw (.unreadable path fault)
  | .file path (.ok s) => do
    Traced.note (.fileRead path s.utf8ByteSize)
    lift (c.format.forPath path s) s
where
  lift (format : SourceFormat) (s : String) : Traced PackError Json :=
    ⟨(readText c format s).mapError .malformed, []⟩

/-- The pack of a source. -/
def load (c : LoaderConfig) (s : Source) : Traced PackError Pack := do
  Document.readPack (← s.readTree c)

end Source

end PromptKit
