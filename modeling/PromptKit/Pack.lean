import PromptKit.Delimiters
import PromptKit.Prompt

/-!
Packs: prompts with the tools and fragments that they share.
-/

namespace PromptKit

/-- The template language of a pack: its version, and the text that describes its delimiters. -/
structure Engine where
  version : String := "v1"
  marker : String := "\x7b\x7bvariable\x7d\x7d"
  delimiters : Delimiters := .default
deriving Inhabited

/-- The engine with the delimiters that a text describes. -/
def Engine.ofMarker? (version text : String) : Option Engine :=
  (Delimiters.ofMarker? text.toList).map (⟨version, text, ·⟩)

structure Pack where
  id : String
  name : String
  version : String
  description : Option String := none
  engine : Engine := {}
  prompts : NameMap Prompt := .empty
  tools : List Tool := []
  fragments : NameMap String := .empty

namespace Pack

/-- A change to a pack. -/
inductive Edit where
  | description (text : String)
  | engine (e : Engine)
  | prompt (name : String) (p : Prompt)
  | tool (t : Tool)
  | fragment (name text : String)

/-- Puts a tool at the end, or into the place of the tool of its name. -/
def placeTool (t : Tool) : List Tool → List Tool
  | [] => [t]
  | u :: rest => if u.name = t.name then t :: rest else u :: placeTool t rest

/-- Tools put one after the other into an empty list. -/
def placeTools (ts : List Tool) : List Tool := ts.foldl (fun placed t => placeTool t placed) []

def edit (p : Pack) : Edit → Pack
  | .description s => { p with description := some s }
  | .engine e => { p with engine := e }
  | .prompt name q => { p with prompts := p.prompts.insert name q }
  | .tool t => { p with tools := placeTool t p.tools }
  | .fragment name text => { p with fragments := p.fragments.insert name text }

def prompt? (p : Pack) (name : String) : Option Prompt := p.prompts.get? name

def tool? (p : Pack) (name : String) : Option Tool := p.tools.find? (·.name == name)

def fragment? (p : Pack) (name : String) : Option String := p.fragments.get? name

end Pack

end PromptKit
