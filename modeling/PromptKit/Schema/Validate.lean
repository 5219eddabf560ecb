import PromptKit.Schema.Compile
import PromptKit.Schema.Violation

/-!
Checking an instance against a compiled schema.

Every violation of every rule is reported, with the place in the instance where it was found.
The conditions that only ask whether another schema holds report themselves alone. A report also
tells which members and items of the value the rules account for.
-/

namespace PromptKit.Schema

/-- What comes of checking a value: the violations, and the members and items accounted for. -/
structure Findings where
  violations : List Violation := []
  names : List String := []
  indices : List Nat := []
deriving Inhabited

namespace Findings

protected def append (a b : Findings) : Findings :=
  ⟨a.violations ++ b.violations, a.names ++ b.names, a.indices ++ b.indices⟩

instance : Append Findings := ⟨Findings.append⟩

def passes (f : Findings) : Bool := f.violations.isEmpty

/-- Several findings as one. -/
def join (fs : List Findings) : Findings := fs.foldr (· ++ ·) {}

/-- The violations, without an account of members and items. -/
def unaccounted (f : Findings) : Findings := { violations := f.violations }

/-- The violations inside a member with a rule of its own, which is accounted for in any case. -/
def ofMember (name : String) (f : Findings) : Findings :=
  { violations := f.violations, names := [name] }

/-- The violations inside a member under a rule for many, which is accounted for if it passes. -/
def ofOther (name : String) (f : Findings) : Findings :=
  { violations := f.violations, names := if f.passes then [name] else [] }

/-- The violations inside an item, which is accounted for in any case. -/
def ofItem (i : Nat) (f : Findings) : Findings := { violations := f.violations, indices := [i] }

end Findings

/-- A schema that is being checked at a place of the instance. -/
abbrev Entered := List (Place × List Step)

/-- What comes of checking a value at a place, within a number of steps. A reference to a schema
that is being checked at the same place says nothing. -/
def check (table : List Rule) : Nat → Entered → Rule → List Step → Json → Findings
  | 0, _, _, _, _ => {}
  | fuel + 1, entered, rule, place, v =>
    let here (r : Rule) : Findings := check table fuel entered r place v
    let say (complaint : String) : Findings := { violations := [⟨place, complaint⟩] }
    let sayAll (complaints : List String) : Findings :=
      { violations := complaints.map (⟨place, ·⟩) }
    let demand (ok : Bool) (complaint : String) : Findings := if ok then {} else say complaint
    let member (m : String × Json) (r : Rule) : Findings :=
      check table fuel entered r (place ++ [.key m.1]) m.2
    let item (x : Nat × Json) (r : Rule) : Findings :=
      check table fuel entered r (place ++ [.index x.1]) x.2
    let members : Members := match v with
      | .object ms => ms
      | _ => []
    let items : List Json := match v with
      | .array vs => vs
      | _ => []
    let numbered : List (Nat × Json) := (List.range items.length).zip items
    match rule with
    | .nothing => say ("False schema does not allow " ++ v.compact)
    | .all parts => .join (parts.map here)
    | .allOf rules =>
      let all := Findings.join (rules.map here)
      if all.passes then all else all.unaccounted
    | .ref target index =>
      if entered.contains (target, place) then {}
      else match table[index]? with
        | some r => check table fuel ((target, place) :: entered) r place v
        | none => {}
    | .type ts wholeDoubles => demand (ts.any (hasType wholeDoubles v)) (typeComplaint v ts)
    | .oneOfValues options =>
      demand (options.any (equal v)) (v.compact ++ " is not one of " ++ listed options)
    | .value w => demand (equal v w) (w.compact ++ " was expected")
    | .bound b limit =>
      match v with
      | .number x => demand (b.holds x limit) (v.compact ++ b.complaint ++ limit.compact)
      | _ => {}
    | .multipleOf d =>
      match v with
      | .number x =>
        demand (x.isMultipleOf d)
          (v.compact ++ " is not a multiple of " ++ Decimal.plain.write d.toFloat)
      | _ => {}
    | .size of atLeast n =>
      match sizeOf? of v with
      | some k =>
        demand (if atLeast then n ≤ k else k ≤ n) (v.compact ++ sizeComplaint of atLeast n)
      | none => {}
    | .pattern r =>
      match v with
      | .string s => sayAll (patternComplaint? r s).toList
      | _ => {}
    | .format f =>
      match v with
      | .string s => demand (f.admits s) (v.compact ++ " is not a \"" ++ f.name ++ "\"")
      | _ => {}
    | .content c =>
      match v with
      | .string s => sayAll (c.complaint? s).toList
      | _ => {}
    | .distinct => demand (isDistinct items) (v.compact ++ " has non-unique elements")
    | .required names =>
      match v with
      | .object ms => sayAll (missing ms names)
      | _ => {}
    | .requiredAmong known name =>
      match v with
      | .object ms => demand (known.contains name && (Members.get? ms name).isSome) (absence name)
      | _ => {}
    | .dependentNames needs =>
      sayAll (needs.flatMap fun need =>
        if (members.get? need.1).isSome then missing members need.2 else [])
    | .dependentRules needs account =>
      let all := Findings.join (needs.map fun need =>
        if (members.get? need.1).isSome then here need.2 else {})
      if account then all else all.unaccounted
    | .members rules =>
      .join (rules.map fun r =>
        match members.get? r.1 with
        | some w => .ofMember r.1 (member (r.1, w) r.2)
        | none => {})
    | .matchingMembers rules =>
      .join (members.flatMap fun m =>
        rules.map fun r => if r.1.isFound m.1 then .ofMember m.1 (member m r.2) else {})
    | .noMembers =>
      match members with
      | [] => {}
      | m :: _ => say ("False schema does not allow " ++ m.2.compact)
    | .onlyMembers names patterns =>
      match others members names patterns with
      | [] => {}
      | ms => say (unexpected "Additional properties" (ms.map fun m => inQuotes m.1))
    | .otherMembers names patterns r =>
      .join ((others members names patterns).map fun m => .ofOther m.1 (member m r))
    | .memberNames r =>
      (Findings.join (members.map fun m => check table fuel [] r place (.string m.1))).unaccounted
    | .noMemberNames => demand members.isEmpty ("False schema does not allow " ++ v.compact)
    | .leftMembers first r =>
      let f := here first
      let left := members.filter fun m => !f.names.contains m.1
      let bad := left.filter fun m => !(member m r).passes
      let good := left.filter fun m => (member m r).passes
      f ++ { names := good.map (·.1) }
        ++ demand bad.isEmpty
          (unexpected "Unevaluated properties" (bad.map fun m => inQuotes m.1))
    | .firstItems rules =>
      .join ((numbered.zip rules).map fun x => .ofItem x.1.1 (item x.1 x.2))
    | .itemsFrom start r =>
      .join ((numbered.drop start).map fun x => .ofItem x.1 (item x r))
    | .noItemsFrom start =>
      match items.drop start with
      | [] => {}
      | vs => say (unexpected "Additional items" (vs.map (·.compact)))
    | .leftItems first r =>
      let f := here first
      let left := numbered.filter fun x => !f.indices.contains x.1
      let bad := left.filter fun x => !(item x r).passes
      let good := left.filter fun x => (item x r).passes
      f ++ { indices := good.map (·.1) }
        ++ demand bad.isEmpty
          (unexpected "Unevaluated items" (bad.map fun x => inQuotes x.2.compact))
    | .contains r least most account =>
      match v with
      | .array _ =>
        let good := numbered.filter fun x => (item x r).passes
        let n := good.length
        demand (least ≤ n && match most with
          | some m => n ≤ m
          | none => true)
          ("None of " ++ v.compact ++ " are valid under the given schema")
          ++ { indices := if account then good.map (·.1) else [] }
      | _ => {}
    | .anyOf rules =>
      match (rules.map here).filter (·.passes) with
      | [] =>
        say (v.compact ++ " is not valid under any of the schemas listed in the 'anyOf' keyword")
      | good => .join good
    | .oneOf rules =>
      match (rules.map here).filter (·.passes) with
      | [] =>
        say (v.compact ++ " is not valid under any of the schemas listed in the 'oneOf' keyword")
      | [good] => good
      | _ =>
        say (v.compact
          ++ " is valid under more than one of the schemas listed in the 'oneOf' keyword")
    | .not schema r =>
      demand (!(here r).passes) (schema.compact ++ " is not allowed for " ++ v.compact)
    | .branch cond yes no =>
      let c := here cond
      if c.passes then c ++ here yes else here no

/-- How many rules may be nested while one instance is checked. -/
def maxSteps : Nat := 1000000

/-- All violations of a schema, as texts. -/
def Compiled.violations (c : Compiled) (v : Json) : List String :=
  (check c.table maxSteps [(Place.root, [])] c.rule [] v).violations.map (·.text)

end PromptKit.Schema
