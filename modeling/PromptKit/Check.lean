import PromptKit.Json.Reader
import PromptKit.Notice
import PromptKit.Text.Quoted
import PromptKit.Validator

/-!
Checking the text that a model gives back.

A runner has at most one check for each kind of validator. A validator whose check finds
something gives a violation; one that is disabled, or of a kind without a check, gives none.
-/

namespace PromptKit

/-- What a check finds wrong with a text. -/
inductive Finding where
  | bannedWords (found : List String)
  | tooLong (length most : Nat)
  | tooShort (length least : Nat)
  | unmatched (pattern : String)
  | forbidden (pattern : String)
  | notJson (cause : Json.SyntaxError)
  | schema (violations : List String)
  | other (text : String)
deriving DecidableEq, Repr

namespace Finding

/-- What stands between the violations of a schema. -/
def separator : String := "; "

def message : Finding → String
  | bannedWords found => "Content contains banned words: " ++ Text.quotedList found
  | tooLong length most =>
    "Content exceeds max length: " ++ toString length ++ " > " ++ toString most
  | tooShort length least =>
    "Content below min length: " ++ toString length ++ " < " ++ toString least
  | unmatched pattern => "Content does not match required pattern: " ++ pattern
  | forbidden pattern => "Content matches forbidden pattern: " ++ pattern
  | notJson cause => "Content is not valid JSON: " ++ cause.message
  | schema violations =>
    "Content does not satisfy JSON schema: " ++ separator.intercalate violations
  | other text => text

end Finding

/-- A check of a text against parameters; it finds nothing with those of a foreign kind. -/
abbrev Check := String → ValidatorParams → Option Finding

namespace Check

def bannedWords : Check
  | text, .bannedWords words =>
    match words.filter fun w => w != "" && Text.occursIn w.toList text.toList with
    | [] => none
    | found => some (.bannedWords found)
  | _, _ => none

/-- Lengths are counted in characters. -/
def maxLength : Check
  | text, .maxLength n => if n < text.length then some (.tooLong text.length n) else none
  | _, _ => none

def minLength : Check
  | text, .minLength n => if text.length < n then some (.tooShort text.length n) else none
  | _, _ => none

def regexMatch : Check
  | text, .regexMatch p wanted =>
    match p.isMatch text, wanted with
    | false, true => some (.unmatched p.source)
    | true, false => some (.forbidden p.source)
    | _, _ => none
  | _, _ => none

def jsonSchema : Check
  | text, .jsonSchema s =>
    match Json.read text with
    | .error e => some (.notJson e)
    | .ok v =>
      match s.violations v with
      | [] => none
      | vs => some (.schema vs)
  | _, _ => none

/-- The check that belongs to a kind. -/
def ofKind : ValidatorKind → Check
  | .bannedWords => bannedWords
  | .maxLength => maxLength
  | .minLength => minLength
  | .regexMatch => regexMatch
  | .jsonSchema => jsonSchema

end Check

/-- A validator that found something. -/
structure ContentViolation where
  kind : ValidatorKind
  finding : Finding
  blocking : Bool
deriving DecidableEq, Repr

/-- What comes of checking a text. -/
structure Report where
  violations : List ContentViolation
deriving DecidableEq, Repr

namespace Report

def blocking (r : Report) : List ContentViolation := r.violations.filter (·.blocking)

def hasBlocking (r : Report) : Bool := r.violations.any (·.blocking)

/-- Only blocking violations make a text invalid. -/
def isValid (r : Report) : Bool := !r.hasBlocking

end Report

/-- Checks by kind. -/
structure Runner where
  check? : ValidatorKind → Option Check

namespace Runner

def empty : Runner := ⟨fun _ => none⟩

/-- Gives a kind a check, which takes the place of an earlier one. -/
def register (r : Runner) (k : ValidatorKind) (c : Check) : Runner :=
  ⟨fun k' => if k' = k then some c else r.check? k'⟩

/-- Every kind, registered with its own check. -/
def default : Runner :=
  ValidatorKind.all.foldl (fun r k => r.register k (Check.ofKind k)) empty

@[simp] theorem check?_default (k : ValidatorKind) : default.check? k = some (Check.ofKind k) := by
  cases k <;> rfl

def handles (r : Runner) (k : ValidatorKind) : Bool := (r.check? k).isSome

/-- A runner as a log shows it. -/
def shown (r : Runner) : String :=
  "ValidatorRunner \x7b kinds: ["
    ++ ", ".intercalate ((ValidatorKind.all.filter r.handles).map (·.shown)) ++ "] \x7d"

/-- The violation of one validator. -/
def violation? (r : Runner) (text : String) (v : Validator) : Option ContentViolation :=
  if v.enabled then
    (r.check? v.kind).bind fun c => (c text v.params).map (⟨v.kind, ·, v.blocking⟩)
  else none

def notice? (r : Runner) (v : Validator) : Option Notice :=
  if v.enabled && !r.handles v.kind then some (.checkMissing v.kind.name) else none

def report (r : Runner) (text : String) (vs : List Validator) : Report :=
  ⟨vs.filterMap (r.violation? text)⟩

/-- Checks a text against validators, in their order. -/
def run {ε : Type} (r : Runner) (text : String) (vs : List Validator) : Traced ε Report := do
  let result := r.report text vs
  Traced.noteAll (vs.filterMap r.notice?)
  Traced.note (.contentValidated vs.length result.violations.length result.isValid)
  pure result

end Runner

end PromptKit
