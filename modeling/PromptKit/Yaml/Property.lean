import PromptKit.Yaml.Scalar

/-!
Anchors, aliases, tags and directives.
-/

namespace PromptKit.Yaml

/-- The name of an anchor or alias, with the place after it. -/
def readName (c : Cursor) : Scan (String × Cursor) :=
  let (name, c) := c.takeWhile isNameChar
  let ends := match c.peek? with
    | none => true
    | some x => isBlank x || isBreak x || ['?', ':', ',', ']', '}', '%', '@', '`'].contains x
  if name.isEmpty || !ends then throw .anchor else pure (String.ofList name, c)

/-! ### Tags -/

def isUriChar (wide : Bool) (c : Char) : Bool :=
  isNameChar c
    || [';', '/', '?', ':', '@', '&', '=', '+', '$', '.', '%', '!', '~', '*', '\'', '(',
      ')'].contains c
    || (wide && (c = ',' || c = '[' || c = ']'))

/-- One escaped byte. -/
def readByte : List Char → Scan (UInt8 × List Char)
  | '%' :: a :: b :: r =>
    match Json.hexValue? a, Json.hexValue? b with
    | some x, some y => pure (UInt8.ofNat (16 * x + y), r)
    | _, _ => throw .tag
  | _ => throw .tag

/-- The bytes that go on a row of escaped bytes. -/
def readTrailing : Nat → List Char → Scan (TagBytes × List Char)
  | 0, cs => pure ([], cs)
  | k + 1, cs => do
    let (b, cs) ← readByte cs
    if b / 64 != 2 then throw .tag
    let (bs, cs) ← readTrailing k cs
    pure (b :: bs, cs)

/-- A row of escaped bytes, whose first byte says how many there are. -/
def readEscapedBytes (cs : List Char) : Scan (TagBytes × List Char) := do
  let (b, cs) ← readByte cs
  let more ← if b < 0x80 then pure 0
    else if b / 32 = 6 then pure 1
    else if b / 16 = 14 then pure 2
    else if b / 8 = 30 then pure 3
    else throw .tag
  let (bs, cs) ← readTrailing more cs
  pure (b :: bs, cs)

/-- The bytes of a URI, with its escapes undone, and how many characters were read. -/
def readUriBytes (wide : Bool) : Nat → List Char → Scan (TagBytes × Nat)
  | 0, _ => throw .tooLong
  | _ + 1, [] => pure ([], 0)
  | fuel + 1, x :: r => do
    if !isUriChar wide x then pure ([], 0)
    else
      let (ys, rest) ← if x = '%' then readEscapedBytes (x :: r)
        else pure ((String.singleton x).toUTF8.toList, r)
      let (bs, n) ← readUriBytes wide fuel rest
      pure (ys ++ bs, n + (r.length + 1 - rest.length))

/-- A URI; it may be empty only when something stands before it. It ends before a zero byte. -/
def readUri (wide mayBeEmpty : Bool) (c : Cursor) : Scan (TagBytes × Cursor) := do
  let (bs, n) ← readUriBytes wide (c.rest.length + 1) c.rest
  if bs.isEmpty && !mayBeEmpty then throw .tag
  pure (bs.takeWhile (· != 0), c.skip n)

/-- A handle: an exclamation mark, a name, and another mark where there is one. -/
def readHandle (c : Cursor) : Scan (List Char × Cursor) :=
  if !c.sees '!' then throw .tag
  else
    let (name, c) := c.next.takeWhile isNameChar
    if c.sees '!' then pure ('!' :: name ++ ['!'], c.next) else pure ('!' :: name, c)

/-- The handle and the suffix of a tag; a tag between angle brackets has no handle, and neither
has a lone exclamation mark. -/
def readTagParts (c : Cursor) : Scan (List Char × TagBytes × Cursor) := do
  if c.next.sees '<' then
    let (uri, c) ← readUri true false c.next.next
    if !c.sees '>' then throw .tag
    pure ([], uri, c.next)
  else
    let (handle, c) ← readHandle c
    if 1 < handle.length && handle.getLast? == some '!' then
      let (suffix, c) ← readUri false false c
      pure (handle, suffix, c)
    else
      let (rest, c) ← readUri false true c
      let suffix := (String.ofList (handle.drop 1)).toUTF8.toList ++ rest
      if suffix.isEmpty then pure ([], "!".toUTF8.toList, c) else pure (['!'], suffix, c)

def readTag (inFlow : Bool) (c : Cursor) : Scan (Token × Cursor) := do
  let (handle, suffix, c) ← readTagParts c
  if !atGap c.rest && !(inFlow && c.sees ',') then throw .tag
  pure (.tag (String.ofList handle) suffix, c)

/-! ### Directives -/

def maxVersionDigits : Nat := 9

def readVersionNumber (c : Cursor) : Scan (Nat × Cursor) :=
  let (ds, c) := c.takeWhile Char.isDigit
  if ds.isEmpty || maxVersionDigits < ds.length then throw .directive
  else pure (Decimal.appendDigits 0 ds, c)

def readVersion (c : Cursor) : Scan (Token × Cursor) := do
  let (major, c) ← readVersionNumber (c.skipWhile isBlank)
  if !c.sees '.' then throw .directive
  let (minor, c) ← readVersionNumber c.next
  pure (.version major minor, c)

def readShorthand (c : Cursor) : Scan (Token × Cursor) := do
  let (handle, c) ← readHandle (c.skipWhile isBlank)
  if handle.getLast? != some '!' then throw .directive
  if !c.peek?.any isBlank then throw .directive
  let (target, c) ← readUri true false (c.skipWhile isBlank)
  if !atGap c.rest then throw .directive
  pure (.tagShorthand (String.ofList handle) target, c)

/-- A directive after its percent sign, and the place on the next line. -/
def readDirective (c : Cursor) : Scan (Token × Cursor) := do
  let (name, c) := c.takeWhile isNameChar
  if !atGap c.rest then throw .directive
  let (token, c) ← match String.ofList name with
    | "YAML" => readVersion c
    | "TAG" => readShorthand c
    | _ => throw .directive
  let c := c.skipWhile isBlank
  let c := if c.sees '#' then c.skipWhile (!isBreak ·) else c
  if !atLineEnd c.rest then throw .directive
  pure (token, c.newline.2)

end PromptKit.Yaml
