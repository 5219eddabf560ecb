import PromptKit.Format
import PromptKit.Schema.Registry

/-!
Schemas ready to be checked.

A `Rule` is one condition on an instance. References are kept as indices of a table, so a schema
may refer to itself.
-/

namespace PromptKit.Schema

/-- A limit on a number. -/
inductive Bound where
  | least
  | most
  | above
  | below
deriving DecidableEq, Repr

/-- What a limit on a size counts. -/
inductive Sized where
  | characters
  | items
  | members
deriving DecidableEq, Repr

/-- What a text must hold. -/
inductive Content where
  /-- Bytes in a written form. -/
  | base64
  /-- The text of a JSON value. -/
  | json
  /-- Bytes in a written form that are the text of a JSON value. -/
  | base64Json
deriving DecidableEq, Repr

inductive Rule where
  | nothing
  /-- The conditions of one schema, side by side. -/
  | all (parts : List Rule)
  /-- Several schemas, all of which must hold. -/
  | allOf (rules : List Rule)
  | ref (place : Place) (index : Nat)
  /-- One of some types; a double without a fraction may count as an integer. -/
  | type (types : List TypeName) (wholeDoubles : Bool)
  | oneOfValues (options : List Json)
  | value (v : Json)
  | bound (kind : Bound) (limit : Number)
  | multipleOf (divisor : Number)
  | size (of : Sized) (atLeast : Bool) (limit : Nat)
  | pattern (regex : Regex.SearchPattern)
  | format (f : Format)
  | content (c : Content)
  | distinct
  | required (names : List String)
  /-- A member that is only looked for among those with known names. -/
  | requiredAmong (known : List String) (name : String)
  | dependentNames (needs : List (String × List String))
  /-- Schemas for objects that have a member; they may account for members. -/
  | dependentRules (needs : List (String × Rule)) (account : Bool)
  | members (rules : List (String × Rule))
  | matchingMembers (rules : List (Regex.SearchPattern × Rule))
  /-- No member at all is allowed. -/
  | noMembers
  /-- Only the members that are named or match are allowed. -/
  | onlyMembers (names : List String) (patterns : List Regex.SearchPattern)
  | otherMembers (names : List String) (patterns : List Regex.SearchPattern) (rule : Rule)
  | memberNames (rule : Rule)
  /-- No name is allowed, so only an object without members is. -/
  | noMemberNames
  /-- A condition and then one on the members that it does not account for. -/
  | leftMembers (first rule : Rule)
  | firstItems (rules : List Rule)
  | itemsFrom (start : Nat) (rule : Rule)
  | noItemsFrom (start : Nat)
  /-- A condition and then one on the items that it does not account for. -/
  | leftItems (first rule : Rule)
  /-- A number of items meet a condition; those that do may be accounted for. -/
  | contains (rule : Rule) (least : Nat) (most : Option Nat) (account : Bool)
  | anyOf (rules : List Rule)
  | oneOf (rules : List Rule)
  | not (schema : Json) (rule : Rule)
  | branch (cond yes no : Rule)
deriving Inhabited

/-- The condition that holds of everything. -/
def Rule.anything : Rule := .all []

/-- A compiled schema with the rules of its references. -/
structure Compiled where
  source : Json
  rule : Rule
  table : List Rule
deriving Inhabited

end PromptKit.Schema
