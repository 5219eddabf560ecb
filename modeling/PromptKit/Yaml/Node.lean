import PromptKit.Yaml.Lexer

/-!
The nodes of a YAML document.

A document is one node, after its directives if there are any; nothing but document marks may
follow it.
-/

namespace PromptKit.Yaml

/-- What may stand before the content of a node. -/
structure Properties where
  anchor : Option String := none
  tag : Option TagBytes := none
deriving Repr

inductive Node where
  | alias (name : String)
  | scalar (props : Properties) (text : String) (plain : Bool)
  | sequence (props : Properties) (items : List Node)
  | mapping (props : Properties) (entries : List (Node × Node))
deriving Inhabited, Repr

namespace Node

/-- A node that is left out. -/
def absent : Node := .scalar {} "" true

/-- Tag handles and what they stand for. -/
abbrev Handles := List (String × TagBytes)

def resolveTag (hs : Handles) (handle : String) (suffix : TagBytes) : Except Error TagBytes :=
  if handle.isEmpty then pure suffix
  else
    match hs.find? (·.1 == handle) with
    | some (_, target) => pure (target ++ suffix)
    | none => throw (.tagHandle handle)

/-- An anchor and a tag, in either order. -/
def properties (hs : Handles) : List Token → Scan (Properties × List Token)
  | .anchor a :: .tag h s :: ts => do pure (⟨some a, some (← resolveTag hs h s)⟩, ts)
  | .tag h s :: .anchor a :: ts => do pure (⟨some a, some (← resolveTag hs h s)⟩, ts)
  | .anchor a :: ts => pure (⟨some a, none⟩, ts)
  | .tag h s :: ts => do pure (⟨none, some (← resolveTag hs h s)⟩, ts)
  | ts => pure ({}, ts)

/-- Where a node stands, which decides what may be left out. -/
inductive Place where
  | block
  /-- In a block mapping, where a sequence may stand at the column of its key. -/
  | blockValue
  | flow
deriving DecidableEq, Repr

/-- The tokens before which a node is left out. -/
def endsBlockEntry : List Token → Bool
  | .blockEntry :: _ | .blockEnd :: _ => true
  | _ => false

def endsLooseEntry : List Token → Bool
  | .blockEntry :: _ | .key :: _ | .value :: _ | .blockEnd :: _ => true
  | _ => false

def endsBlockPart : List Token → Bool
  | .key :: _ | .value :: _ | .blockEnd :: _ => true
  | _ => false

def endsFlowKey : List Token → Bool
  | .value :: _ | .flowEntry :: _ | .flowMappingEnd :: _ => true
  | _ => false

def endsFlowValue : List Token → Bool
  | .flowEntry :: _ | .flowMappingEnd :: _ => true
  | _ => false

def endsPairKey : List Token → Bool
  | .value :: _ | .flowEntry :: _ | .flowSequenceEnd :: _ => true
  | _ => false

def endsPairValue : List Token → Bool
  | .flowEntry :: _ | .flowSequenceEnd :: _ => true
  | _ => false

mutual

/-- A node at a place. -/
def parse (hs : Handles) (place : Place) : Nat → List Token → Scan (Node × List Token)
  | 0, _ => throw .tooLong
  | _ + 1, .alias name :: ts => pure (.alias name, ts)
  | fuel + 1, ts => do
    let (props, ts) ← properties hs ts
    match ts with
    | .blockEntry :: _ =>
      if place = .blockValue then do
        let (items, ts) ← looseItems hs fuel ts
        pure (.sequence props items, ts)
      else bare props ts
    | .scalar text plain :: ts => pure (.scalar props text plain, ts)
    | .flowSequenceStart :: ts => do
      let (items, ts) ← flowItems hs true fuel ts
      pure (.sequence props items, ts)
    | .flowMappingStart :: ts => do
      let (entries, ts) ← flowEntries hs true fuel ts
      pure (.mapping props entries, ts)
    | .blockSequenceStart :: ts' =>
      if place = .flow then bare props ts
      else do
        let (items, ts) ← blockItems hs fuel ts'
        pure (.sequence props items, ts)
    | .blockMappingStart :: ts' =>
      if place = .flow then bare props ts
      else do
        let (entries, ts) ← blockEntries hs fuel ts'
        pure (.mapping props entries, ts)
    | ts => bare props ts

/-- Properties may stand without a content. -/
def bare (props : Properties) (ts : List Token) : Scan (Node × List Token) :=
  if props.anchor.isSome || props.tag.isSome then pure (.scalar props "" true, ts)
  else throw .content

/-- A node, unless it is left out. -/
def parseUnless (hs : Handles) (place : Place) (isAbsent : List Token → Bool) :
    Nat → List Token → Scan (Node × List Token)
  | 0, _ => throw .tooLong
  | fuel + 1, ts => if isAbsent ts then pure (absent, ts) else parse hs place fuel ts

def blockItems (hs : Handles) : Nat → List Token → Scan (List Node × List Token)
  | 0, _ => throw .tooLong
  | fuel + 1, .blockEntry :: ts => do
    let (v, ts) ← parseUnless hs .block endsBlockEntry fuel ts
    let (vs, ts) ← blockItems hs fuel ts
    pure (v :: vs, ts)
  | _ + 1, .blockEnd :: ts => pure ([], ts)
  | _ + 1, _ => throw .sequenceEntry

/-- The items of a sequence that opens no block of its own. -/
def looseItems (hs : Handles) : Nat → List Token → Scan (List Node × List Token)
  | 0, _ => throw .tooLong
  | fuel + 1, .blockEntry :: ts => do
    let (v, ts) ← parseUnless hs .block endsLooseEntry fuel ts
    let (vs, ts) ← looseItems hs fuel ts
    pure (v :: vs, ts)
  | _ + 1, ts => pure ([], ts)

def blockEntries (hs : Handles) : Nat → List Token → Scan (List (Node × Node) × List Token)
  | 0, _ => throw .tooLong
  | fuel + 1, .key :: ts => do
    let (k, ts) ← parseUnless hs .blockValue endsBlockPart fuel ts
    let (v, ts) ← match ts with
      | .value :: ts => parseUnless hs .blockValue endsBlockPart fuel ts
      | ts => pure (absent, ts)
    let (es, ts) ← blockEntries hs fuel ts
    pure ((k, v) :: es, ts)
  | _ + 1, .blockEnd :: ts => pure ([], ts)
  | _ + 1, _ => throw .mappingKey

/-- The items of a flow sequence; a pair among them makes a mapping of one entry. -/
def flowItems (hs : Handles) (first : Bool) : Nat → List Token → Scan (List Node × List Token)
  | 0, _ => throw .tooLong
  | _ + 1, .flowSequenceEnd :: ts => pure ([], ts)
  | fuel + 1, ts => do
    let ts ← match first, ts with
      | true, ts => pure ts
      | false, .flowEntry :: ts => pure ts
      | false, _ => throw .flowSequence
    match ts with
    | .flowSequenceEnd :: ts => pure ([], ts)
    | .key :: ts => do
      let (v, ts) ← flowPair hs fuel ts
      let (vs, ts) ← flowItems hs false fuel ts
      pure (v :: vs, ts)
    | ts => do
      let (v, ts) ← parse hs .flow fuel ts
      let (vs, ts) ← flowItems hs false fuel ts
      pure (v :: vs, ts)

/-- A pair after its key mark. Where the key is left out, the token there is passed over. -/
def flowPair (hs : Handles) : Nat → List Token → Scan (Node × List Token)
  | 0, _ => throw .tooLong
  | fuel + 1, ts => do
    let (k, ts) ← if endsPairKey ts then pure (absent, ts.drop 1) else parse hs .flow fuel ts
    let (v, ts) ← match ts with
      | .value :: ts => parseUnless hs .flow endsPairValue fuel ts
      | ts => pure (absent, ts)
    pure (.mapping {} [(k, v)], ts)

def flowEntries (hs : Handles) (first : Bool) :
    Nat → List Token → Scan (List (Node × Node) × List Token)
  | 0, _ => throw .tooLong
  | _ + 1, .flowMappingEnd :: ts => pure ([], ts)
  | fuel + 1, ts => do
    let ts ← match first, ts with
      | true, ts => pure ts
      | false, .flowEntry :: ts => pure ts
      | false, _ => throw .flowMapping
    match ts with
    | .flowMappingEnd :: ts => pure ([], ts)
    | .key :: ts => do
      let (k, ts) ← parseUnless hs .flow endsFlowKey fuel ts
      let (v, ts) ← match ts with
        | .value :: ts => parseUnless hs .flow endsFlowValue fuel ts
        | ts => pure (absent, ts)
      let (es, ts) ← flowEntries hs false fuel ts
      pure ((k, v) :: es, ts)
    | ts => do
      let (k, ts) ← parse hs .flow fuel ts
      let (es, ts) ← flowEntries hs false fuel ts
      pure ((k, absent) :: es, ts)

end

/-- The handles that every document knows. -/
def defaultHandles : Handles :=
  [("!", "!".toUTF8.toList), ("!!", "tag:yaml.org,2002:".toUTF8.toList)]

/-- The directives before a document: the handles that they define, in their order. -/
def directives (version : Bool) (hs : Handles) : List Token → Except Error (Handles × List Token)
  | .version major minor :: ts =>
    if version then throw .repeatedDirective
    else if major != 1 || (minor != 1 && minor != 2) then throw .version
    else directives true hs ts
  | .tagShorthand h target :: ts =>
    if hs.any (·.1 == h) then throw .repeatedDirective
    else directives version (hs ++ [(h, target)]) ts
  | ts => pure (hs, ts)

def startsDirective : List Token → Bool
  | .version .. :: _ | .tagShorthand .. :: _ => true
  | _ => false

/-- The node of a document after its start; it may be left out. -/
def documentContent (hs : Handles) (ts : List Token) : Scan (Node × List Token) :=
  match ts with
  | .version .. :: _ | .tagShorthand .. :: _ | .documentStart :: _ | .documentEnd :: _
  | .streamEnd :: _ => pure (absent, ts)
  | ts => parse (hs ++ defaultHandles) .block (4 * ts.length + 4) ts

def document (ts : List Token) : Scan (Node × List Token) := do
  if startsDirective ts then
    let (hs, ts) ← directives false [] ts
    match ts with
    | .documentStart :: ts => documentContent hs ts
    | _ => throw .documentStart
  else
    match ts with
    | .documentStart :: ts => documentContent [] ts
    | ts => parse defaultHandles .block (4 * ts.length + 4) ts

/-- The only document of a stream; an empty stream has none. -/
def ofTokens? : List Token → Except Error (Option Node)
  | [.streamEnd] => pure none
  | ts => do
    let (n, ts) ← document ts
    match ts.dropWhile (· == .documentEnd) with
    | [.streamEnd] => pure (some n)
    | _ => throw .secondDocument

end Node

end PromptKit.Yaml
