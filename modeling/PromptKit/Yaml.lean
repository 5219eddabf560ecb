import PromptKit.Yaml.Node
import PromptKit.Yaml.Plain

/-!
YAML text as JSON values.

A text holds one document. Aliases stand for the nodes with their anchors; keys are scalars, taken
as they are written, and a repeated key keeps the place of its first entry and the value of its
last.
-/

namespace PromptKit.Yaml

/-- A node whose aliases have numbers. -/
inductive Linked where
  | alias (id : Nat)
  | scalar (tag : Option TagBytes) (text : String) (plain : Bool)
  | sequence (tag : Option TagBytes) (items : List Linked)
  | mapping (tag : Option TagBytes) (entries : List (Linked × Linked))
deriving Inhabited

/-- What has been met of a document. An anchor takes the number of the names known before it, so
that a name that is given twice may share a number with the next new one; the node met last
has it. -/
structure Anchors where
  names : List (String × Nat) := []
  /-- The starts of the nodes with anchors, latest first. -/
  starts : List (Nat × Nat) := []
  /-- The nodes with anchors, by their starts. -/
  nodes : List (Nat × Linked) := []
  /-- How many starts and ends have been met. -/
  events : Nat := 0

namespace Anchors

def known (a : Anchors) : List String := (a.names.map (·.1)).eraseDups

/-- Notes the start of a node. -/
def enter (a : Anchors) (anchor : Option String) : Anchors :=
  match anchor with
  | none => { a with events := a.events + 1 }
  | some name =>
    let id := a.known.length
    { a with
      names := (name, id) :: a.names
      starts := (id, a.events) :: a.starts
      events := a.events + 1 }

/-- Notes the end of the node that started at a place. -/
def leave (a : Anchors) (anchor : Option String) (start : Nat) (n : Linked) (ends : Nat) :
    Anchors :=
  { a with
    nodes := if anchor.isSome then (start, n) :: a.nodes else a.nodes
    events := a.events + ends }

/-- The node that a number stands for. -/
def target? (a : Anchors) (id : Nat) : Option Linked := do
  let (_, start) ← a.starts.find? (·.1 == id)
  let (_, n) ← a.nodes.find? (·.1 == start)
  pure n

end Anchors

abbrev Link := StateT Anchors (Except Error)

mutual

/-- Gives the aliases of a node their numbers. -/
def link : Node → Link Linked
  | .alias name => do
    match (← get).names.find? (·.1 == name) with
    | none => throw (.unknownAnchor name)
    | some (_, id) => do
      modify fun a => { a with events := a.events + 1 }
      pure (.alias id)
  | .scalar props text plain => do
    let start := (← get).events
    let n := Linked.scalar props.tag text plain
    modify fun a => (a.enter props.anchor).leave props.anchor start n 0
    pure n
  | .sequence props items => do
    let start := (← get).events
    modify (·.enter props.anchor)
    let n := Linked.sequence props.tag (← linkItems items)
    modify (·.leave props.anchor start n 1)
    pure n
  | .mapping props entries => do
    let start := (← get).events
    modify (·.enter props.anchor)
    let n := Linked.mapping props.tag (← linkEntries entries)
    modify (·.leave props.anchor start n 1)
    pure n

def linkItems : List Node → Link (List Linked)
  | [] => pure []
  | n :: rest => do
    let v ← link n
    pure (v :: (← linkItems rest))

def linkEntries : List (Node × Node) → Link (List (Linked × Linked))
  | [] => pure []
  | (k, n) :: rest => do
    let k ← link k
    let v ← link n
    pure ((k, v) :: (← linkEntries rest))

end

/-- How deep collections may nest, aliases followed. -/
def maxDepth : Nat := 128

/-- How many aliases may be followed for each start and end in the document. -/
def aliasesPerEvent : Nat := 100

/-- The count of the aliases that have been followed. -/
abbrev Build := StateT Nat (Except Error)

/-- The node itself, or the one that it is an alias of. -/
def follow (a : Anchors) : Linked → Build Linked
  | .alias id => do
    let n := (← get) + 1
    if a.events * aliasesPerEvent < n then throw .tooManyAliases
    set n
    match a.target? id with
    | some v => pure v
    | none => throw .content
  | v => pure v

def buildKey (a : Anchors) (k : Linked) : Build String := do
  match ← follow a k with
  | .scalar _ text _ => pure text
  | _ => throw .keyNotScalar

/-- The value of a node, within a depth. -/
def build (a : Anchors) (depth : Nat) (n : Linked) : Build Json := do
  match ← follow a n with
  | .scalar tag text plain => readScalar tag text plain
  | .sequence tag items => do
    checkTag tag
    match depth with
    | 0 => throw .tooDeep
    | d + 1 => pure (.array (← items.mapM (build a d)))
  | .mapping tag entries => do
    checkTag tag
    match depth with
    | 0 => throw .tooDeep
    | d + 1 =>
      let members ← entries.mapM fun e => do
        let k ← buildKey a e.1
        pure (k, ← build a d e.2)
      pure (.object (members.foldl (fun ms m => Members.set ms m.1 m.2) []))
  | .alias _ => throw .content

/-- Reads the one document of a text; a text without a document is null. -/
def read (text : String) : Except Error Json := do
  match ← Node.ofTokens? (← Token.scan text) with
  | none => pure .null
  | some n => do
    let (v, a) ← (link n).run {}
    let (json, _) ← (build a maxDepth v).run 0
    pure json

end PromptKit.Yaml
