import Mathlib.Algebra.Group.Nat.Defs
import PromptKit.Proofs.Text.Numeral
import PromptKit.Validator

/-!
The document form of validators.

An entry of a document has the name of a type and some members; a constructor has arguments. The
members that write the arguments of a constructor make the validator that the constructor makes,
whatever other members stand beside them.
-/

namespace PromptKit

open Text (Blanks)

/-! ### Members that write arguments -/

/-- A count is written as a whole number or as a text of its digits with any blanks around them. -/
inductive WritesCount (n : Nat) : Json → Prop
  | number : WritesCount n (.nat n)
  | text {s : String} {before after : List Char} (hbefore : Blanks before) (hafter : Blanks after)
      (hs : s.toList = before ++ (toString n).toList ++ after) : WritesCount n (.string s)

/-- A word of lower case with any of its letters in upper case. -/
def IsCased (word s : String) : Prop :=
  List.Forall₂ (fun c d => d = c ∨ d = c.toUpper) word.toList s.toList

/-- A flag is written as a boolean or as the name of one; one that is left out is true. -/
inductive WritesFlag : Bool → Option Json → Prop
  | bool (b : Bool) : WritesFlag b (some (.bool b))
  | text {b : Bool} {s : String} (hs : IsCased (toString b) s) : WritesFlag b (some (.string s))
  | absent : WritesFlag true none

namespace Validator

/-- A validator with its flags set. -/
def flagged (v : Validator) (enabled blocking : Bool) : Validator :=
  { v with enabled := enabled, blocking := blocking }

/-- The members of an entry of a type write the arguments of a constructor, which makes a
validator if they are any good. -/
inductive Writes (ms : Members) : String → Except PackError Validator → Prop
  | bannedWords {words : List String}
      (hwords : ms.get? "words" = some (.array (words.map Json.string))) :
      Writes ms "banned_words" (.ok (.bannedWords words))
  | bannedWord {word : String} (hword : ms.get? "words" = some (.string word)) :
      Writes ms "banned_words" (.ok (.bannedWords [word]))
  | maxLength {n : Nat} {count : Json} (hn : n < 2 ^ 64)
      (hget : ms.get? "max_characters" = some count) (hcount : WritesCount n count) :
      Writes ms "max_length" (.ok (.maxLength n))
  | minLength {n : Nat} {count : Json} (hn : n < 2 ^ 64)
      (hget : ms.get? "min_characters" = some count) (hcount : WritesCount n count) :
      Writes ms "min_length" (.ok (.minLength n))
  | regexMatch {pattern : String} {r : Regex} {wanted : Bool}
      (hget : ms.get? "pattern" = some (.string pattern)) (hpattern : Regex.compile pattern = .ok r)
      (hwanted : WritesFlag wanted (ms.get? "must_match")) :
      Writes ms "regex_match" (Validator.regexMatch pattern wanted)
  | jsonSchema {schema : Json} {compiled : Schema.Compiled}
      (hget : ms.get? "schema" = some schema)
      (hkind : schema.kind = .object ∨ schema.kind = .boolean)
      (hschema : Schema.compile schema = .ok compiled) :
      Writes ms "json_schema" (Validator.jsonSchema schema)

end Validator

/-! ### Counts and flags -/

namespace ValidatorParams

lemma countOfText?_eq {n : Nat} {s : String} {before after : List Char} (hn : n < 2 ^ 64)
    (hbefore : Blanks before) (hafter : Blanks after)
    (hs : s.toList = before ++ (toString n).toList ++ after) : countOfText? s = some n := by
  have hdigits : ∀ c ∈ Nat.toDigits 10 n, c.isDigit :=
    fun c hc => Decimal.isDigit_of_mem_toDigits hc
  have htrimmed : Text.Trimmed (Nat.toDigits 10 n) :=
    Text.trimmed_of_solid fun c hc => Text.not_isBlank_of_isDigit (hdigits c hc)
  have htrim : Text.trim s.toList = Nat.toDigits 10 n := by
    rw [hs, Decimal.toList_toString_nat, htrimmed.trim_padded hbefore hafter]
  unfold countOfText?
  simp only [htrim]
  split
  · rename_i ds hplus
    exact absurd (hdigits '+' (hplus ▸ List.mem_cons_self)) (by decide)
  · rw [Decimal.natural?_toDigits]
    exact Option.filter_some_pos (by simpa using hn)

lemma countOf?_of_writesCount {n : Nat} {v : Json} (hn : n < 2 ^ 64) (h : WritesCount n v) :
    countOf? v = some n := by
  cases h with
  | number =>
    rw [Json.nat_of_lt hn]
    simp only [countOf?, Number.toCount?_ofNat]
  | text hbefore hafter hs => exact countOfText?_eq hn hbefore hafter hs

lemma readCount_of_writesCount {ms : Members} {key : String} {n : Nat} {v : Json}
    (hn : n < 2 ^ 64) (hget : ms.get? key = some v) (h : WritesCount n v) :
    readCount ms key = .ok n := by
  simp only [readCount, hget, countOf?_of_writesCount hn h]
  rfl

lemma map_toLower_eq {word t : List Char}
    (hword : ∀ c ∈ word, c.toLower = c ∧ c.toUpper.toLower = c)
    (ht : List.Forall₂ (fun c d => d = c ∨ d = c.toUpper) word t) : t.map Char.toLower = word := by
  induction ht with
  | nil => rfl
  | cons hd _ ih =>
    obtain ⟨hc, hword⟩ := List.forall_mem_cons.mp hword
    rw [List.map_cons, ih hword]
    rcases hd with rfl | rfl
    · rw [hc.1]
    · rw [hc.2]

/-- The names of the booleans are read in any case. -/
lemma lowerAscii_of_isCased {b : Bool} {s : String} (h : IsCased (toString b) s) :
    Text.lowerAscii s = toString b := by
  have hletters : ∀ c ∈ (toString b).toList, c.toLower = c ∧ c.toUpper.toLower = c := by
    have htest : ∀ b : Bool,
        (toString b).toList.all fun c => c.toLower == c && c.toUpper.toLower == c := by decide
    simpa using htest b
  rw [Text.lowerAscii, map_toLower_eq hletters h, String.ofList_toList]

lemma readFlag_of_writesFlag {ms : Members} {key : String} {b : Bool}
    (h : WritesFlag b (ms.get? key)) : readFlag ms key = .ok b := by
  unfold readFlag
  generalize ms.get? key = v at h
  cases h with
  | bool => rfl
  | text hs =>
    simp only [lowerAscii_of_isCased hs]
    cases b with
    | true => rfl
    | false => rfl
  | absent => rfl

lemma readWords_map_string (path : FieldPath) (i : Nat) (words : List String) :
    readWords path i (words.map Json.string) = .ok words := by
  induction words generalizing i with
  | nil => rfl
  | cons w words ih =>
    simp only [List.map_cons, readWords, wordOf?, ih]
    rfl

/-! ### Members that are read -/

/-- The members that are read for a kind. -/
def keys : ValidatorKind → List String
  | .bannedWords => ["words"]
  | .maxLength => ["max_characters"]
  | .minLength => ["min_characters"]
  | .regexMatch => ["pattern", "must_match"]
  | .jsonSchema => ["schema"]

/-- Other members are ignored. -/
lemma read_congr {kind : ValidatorKind} {ms ms' : Members}
    (h : ∀ key ∈ keys kind, ms.get? key = ms'.get? key) (path : FieldPath) :
    read kind ms path = read kind ms' path := by
  cases kind with
  | bannedWords =>
    have hwords := h "words" (by decide)
    simp only [read, hwords]
  | maxLength =>
    have hcount := h "max_characters" (by decide)
    simp only [read, readCount, hcount]
  | minLength =>
    have hcount := h "min_characters" (by decide)
    simp only [read, readCount, hcount]
  | regexMatch =>
    have hpattern := h "pattern" (by decide)
    have hflag := h "must_match" (by decide)
    simp only [read, readFlag, hpattern, hflag]
  | jsonSchema =>
    have hschema := h "schema" (by decide)
    simp only [read, hschema]

end ValidatorParams

namespace Validator

lemma ofName?_name (kind : ValidatorKind) : ValidatorKind.ofName? kind.name = some kind := by
  cases kind with
  | _ => rfl

lemma ofConfig_name (kind : ValidatorKind) (enabled blocking : Bool) (ms : Members)
    (path : FieldPath) : ofConfig kind.name enabled blocking ms path =
      (ValidatorParams.read kind ms (path.key "params")).map fun params =>
        ⟨params, enabled, blocking⟩ := by
  simp only [ofConfig, ofName?_name]
  cases ValidatorParams.read kind ms (path.key "params") with
  | error e => rfl
  | ok params => rfl

lemma ofConfig_of_read {kind : ValidatorKind} {ms : Members} {path : FieldPath}
    {params : ValidatorParams} (h : ValidatorParams.read kind ms (path.key "params") = .ok params)
    (enabled blocking : Bool) :
    ofConfig kind.name enabled blocking ms path = .ok ⟨params, enabled, blocking⟩ := by
  rw [ofConfig_name, h]
  rfl

/-- Members that write arguments give the validator of the constructor. -/
lemma ofConfig_of_writes {ms : Members} {name : String} {made : Except PackError Validator}
    (h : Writes ms name made) (enabled blocking : Bool) (path : FieldPath) :
    ∃ v, made = .ok v ∧
      ofConfig name enabled blocking ms path = .ok (v.flagged enabled blocking) := by
  cases h with
  | @bannedWords words hwords =>
    have hread : ValidatorParams.read .bannedWords ms (path.key "params") =
        .ok (.bannedWords words) := by
      simp only [ValidatorParams.read, hwords, ValidatorParams.readWords_map_string]
      rfl
    exact ⟨_, rfl, ofConfig_of_read hread enabled blocking⟩
  | @bannedWord word hword =>
    have hread : ValidatorParams.read .bannedWords ms (path.key "params") =
        .ok (.bannedWords [word]) := by
      simp only [ValidatorParams.read, hword]
      rfl
    exact ⟨_, rfl, ofConfig_of_read hread enabled blocking⟩
  | @maxLength n _ hn hget hcount =>
    have hread : ValidatorParams.read .maxLength ms (path.key "params") = .ok (.maxLength n) := by
      simp only [ValidatorParams.read, ValidatorParams.readCount_of_writesCount hn hget hcount]
      rfl
    exact ⟨_, rfl, ofConfig_of_read hread enabled blocking⟩
  | @minLength n _ hn hget hcount =>
    have hread : ValidatorParams.read .minLength ms (path.key "params") = .ok (.minLength n) := by
      simp only [ValidatorParams.read, ValidatorParams.readCount_of_writesCount hn hget hcount]
      rfl
    exact ⟨_, rfl, ofConfig_of_read hread enabled blocking⟩
  | @regexMatch pattern r wanted hget hpattern hwanted =>
    have hmade : regexMatch pattern wanted = .ok ⟨.regexMatch r wanted, true, false⟩ := by
      simp only [regexMatch, ValidatorParams.readPattern, hpattern]
      rfl
    have hread : ValidatorParams.read .regexMatch ms (path.key "params") =
        .ok (.regexMatch r wanted) := by
      simp only [ValidatorParams.read, hget, ValidatorParams.readPattern, hpattern,
        ValidatorParams.readFlag_of_writesFlag hwanted]
      rfl
    exact ⟨_, hmade, ofConfig_of_read hread enabled blocking⟩
  | @jsonSchema schema compiled hget hkind hschema =>
    have hmade : jsonSchema schema = .ok ⟨.jsonSchema compiled, true, false⟩ := by
      simp only [jsonSchema, ValidatorParams.readSchema, hschema]
      rfl
    have hread : ValidatorParams.read .jsonSchema ms (path.key "params") =
        .ok (.jsonSchema compiled) := by
      cases schema with
      | object s =>
        simp only [ValidatorParams.read, hget, ValidatorParams.readSchema, hschema]
        rfl
      | bool b =>
        simp only [ValidatorParams.read, hget, ValidatorParams.readSchema, hschema]
        rfl
      | _ => simp [Json.kind] at hkind
    exact ⟨_, hmade, ofConfig_of_read hread enabled blocking⟩

/-- How the entry of a document with the given flags at the given path is read. -/
structure FromDocument (enabled blocking : Bool) (path : FieldPath) : Prop where
  /-- It gives the validator of the constructor whose arguments its members write. -/
  written : ∀ ms name made, Writes ms name made →
    ∃ v, made = .ok v ∧ ofConfig name enabled blocking ms path = .ok (v.flagged enabled blocking)
  /-- Members that are not of the kind are ignored. -/
  others : ∀ kind ms ms', (∀ key ∈ ValidatorParams.keys kind, ms.get? key = ms'.get? key) →
    ofConfig kind.name enabled blocking ms path = ofConfig kind.name enabled blocking ms' path
  /-- A type that is not known is blamed, whatever the members are. -/
  unregistered : ∀ ms name, name ∉ ValidatorKind.names → ofConfig name enabled blocking ms path =
    .error (.misconfigured (path.key "type") (.validatorType name ValidatorKind.names))

/-- **The document form is the constructor form**. -/
theorem fromDocument (enabled blocking : Bool) (path : FieldPath) :
    FromDocument enabled blocking path where
  written _ _ _ h := ofConfig_of_writes h enabled blocking path
  others kind ms ms' h := by rw [ofConfig_name, ofConfig_name, ValidatorParams.read_congr h]
  unregistered ms name h := by
    have hname : ValidatorKind.ofName? name = none := by
      rw [ValidatorKind.ofName?, List.find?_eq_none]
      intro kind hkind heq
      exact h (List.mem_map.mpr ⟨kind, hkind, eq_of_beq heq⟩)
    rw [ofConfig, hname]
    rfl

/-- The largest count as a text, a flag in capitals and a type that is not known. -/
theorem fromDocument_texts :
    ofConfig "max_length" false true [("max_characters", .string " 18446744073709551615\t")] .root =
        .ok ((maxLength 18446744073709551615).flagged false true) ∧
      (∃ v, regexMatch "a" false = .ok v ∧ ofConfig "regex_match" true true
        [("pattern", .string "a"), ("must_match", .string "False")] .root =
          .ok (v.flagged true true)) ∧
      ofConfig "profanity" true false [] .root = .error (.misconfigured (.key .root "type")
        (.validatorType "profanity" ValidatorKind.names)) := by
  have hcount : WritesCount 18446744073709551615 (.string " 18446744073709551615\t") :=
    @WritesCount.text _ _ [' '] ['\t'] (List.forall_mem_singleton.mpr rfl)
      (List.forall_mem_singleton.mpr rfl) (by decide +kernel)
  have hflag : WritesFlag false (some (.string "False")) := by
    refine .text ?_
    unfold IsCased
    decide
  refine ⟨?_, ?_, ?_⟩
  · have hwrites : Writes [("max_characters", .string " 18446744073709551615\t")] "max_length"
        (.ok (.maxLength 18446744073709551615)) := .maxLength (by decide) rfl hcount
    obtain ⟨v, hv, h⟩ := (fromDocument false true .root).written _ _ _ hwrites
    obtain rfl := Except.ok.inj hv
    exact h
  · exact (fromDocument true true .root).written _ _ _ (.regexMatch rfl rfl hflag)
  · exact (fromDocument true false .root).unregistered [] "profanity" (by decide)

end Validator

end PromptKit
