/-!
The tokens of a YAML stream and what can be wrong with a stream.
-/

namespace PromptKit.Yaml

/-- The bytes of a tag. Escapes in a tag may stand for bytes that make no character. -/
abbrev TagBytes := List UInt8

/-- A token; the scalars carry their text with all folding and escaping undone. -/
inductive Token where
  | streamEnd
  | version (major minor : Nat)
  | tagShorthand (handle : String) (target : TagBytes)
  | documentStart
  | documentEnd
  | blockSequenceStart
  | blockMappingStart
  | blockEnd
  | flowSequenceStart
  | flowSequenceEnd
  | flowMappingStart
  | flowMappingEnd
  | blockEntry
  | flowEntry
  | key
  | value
  | alias (name : String)
  | anchor (name : String)
  | tag (handle : String) (suffix : TagBytes)
  | scalar (text : String) (plain : Bool)
deriving DecidableEq, Repr, Inhabited

inductive Error where
  | character (c : Char)
  | directive
  | tag
  | anchor
  | quoteUnclosed
  | documentMark
  | escape
  | blockHeader
  | tab
  | colon
  | keyUnfinished
  | entryMisplaced
  | keyMisplaced
  | valueMisplaced
  | unexpected (c : Char)
  | content
  | sequenceEntry
  | mappingKey
  | flowSequence
  | flowMapping
  | documentStart
  | tagHandle (handle : String)
  | repeatedDirective
  | version
  | unknownAnchor (name : String)
  | secondDocument
  | tooDeep
  | tooManyAliases
  | keyNotScalar
  | applicationTag (name : String)
  | tagMismatch (tag text : String)
  | integerRange (text : String)
  | tooLong
deriving DecidableEq, Repr

def Error.message : Error → String
  | .character c => "character not allowed: " ++ toString c.toNat
  | .directive => "malformed directive"
  | .tag => "malformed tag"
  | .anchor => "malformed anchor or alias"
  | .quoteUnclosed => "a quoted scalar does not end"
  | .documentMark => "a document mark inside a quoted scalar"
  | .escape => "malformed escape"
  | .blockHeader => "malformed header of a block scalar"
  | .tab => "a tab in the indentation"
  | .colon => "a colon before an indicator"
  | .keyUnfinished => "a key without its colon"
  | .entryMisplaced => "a sequence entry is not allowed here"
  | .keyMisplaced => "a mapping key is not allowed here"
  | .valueMisplaced => "a mapping value is not allowed here"
  | .unexpected c => "no token starts with character " ++ toString c.toNat
  | .content => "a node has no content"
  | .sequenceEntry => "a sequence entry is missing"
  | .mappingKey => "a mapping key is missing"
  | .flowSequence => "a flow sequence wants a comma or its end"
  | .flowMapping => "a flow mapping wants a comma or its end"
  | .documentStart => "a document start is missing"
  | .tagHandle handle => "undefined tag handle: " ++ handle
  | .repeatedDirective => "a directive is repeated"
  | .version => "unknown version"
  | .unknownAnchor name => "unknown anchor: " ++ name
  | .secondDocument => "more than one document"
  | .tooDeep => "nested too deeply"
  | .tooManyAliases => "too many aliases"
  | .keyNotScalar => "a key is not a scalar"
  | .applicationTag name => "unknown tag: " ++ name
  | .tagMismatch name text => "not of the type of its tag " ++ name ++ ": " ++ text
  | .integerRange text => "integer out of range: " ++ text
  | .tooLong => "the text goes on for too long"

end PromptKit.Yaml
