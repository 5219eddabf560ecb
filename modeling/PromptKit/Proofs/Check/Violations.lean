import Mathlib.Data.List.Infix
import PromptKit.Check
import PromptKit.Proofs.Success
import PromptKit.Proofs.Text.Occurrence

/-!
What the checks of a text report.

The parameters of a validator say what a text has to be. The default checks report the enabled
validators that are not met, each once and in their order, and nothing else; a text is valid when
none of the reported validators is a blocking one.
-/

namespace PromptKit

namespace ValidatorParams

/-- The text is not what the parameters ask for. -/
def FailsOn (text : String) : ValidatorParams → Prop
  | .bannedWords words => ∃ w ∈ words, w ≠ "" ∧ w.toList <:+: text.toList
  | .maxLength most => most < text.toList.length
  | .minLength least => text.toList.length < least
  | .regexMatch pattern wanted => pattern.isMatch text ≠ wanted
  | .jsonSchema schema =>
    (∀ v, Json.read text ≠ .ok v) ∨ ∃ v, Json.read text = .ok v ∧ schema.violations v ≠ []

end ValidatorParams

namespace Check

open ValidatorParams

/-- What there is to say of a text that is not what the parameters ask for. -/
inductive Finds (text : String) : ValidatorParams → Finding → Prop
  | bannedWords {words : List String} {found : List String} (hne : found ≠ [])
      (hfound : found = words.filter fun w => w ≠ "" ∧ w.toList <:+: text.toList) :
      Finds text (.bannedWords words) (.bannedWords found)
  | tooLong {most : Nat} (h : most < text.toList.length) :
      Finds text (.maxLength most) (.tooLong text.toList.length most)
  | tooShort {least : Nat} (h : text.toList.length < least) :
      Finds text (.minLength least) (.tooShort text.toList.length least)
  | unmatched {pattern : Regex} (h : pattern.isMatch text = false) :
      Finds text (.regexMatch pattern true) (.unmatched pattern.source)
  | forbidden {pattern : Regex} (h : pattern.isMatch text = true) :
      Finds text (.regexMatch pattern false) (.forbidden pattern.source)
  | notJson {schema : Schema.Compiled} {e : Json.SyntaxError} (h : Json.read text = .error e) :
      Finds text (.jsonSchema schema) (.notJson e)
  | schema {schema : Schema.Compiled} {v : Json} (h : Json.read text = .ok v)
      (hne : schema.violations v ≠ []) :
      Finds text (.jsonSchema schema) (.schema (schema.violations v))

variable {text : String} {finding : Finding}

/-! ### Check by check -/

lemma bannedWords_eq_some {words : List String} :
    bannedWords text (.bannedWords words) = some finding ↔
      Finds text (.bannedWords words) finding := by
  have hfilter : (words.filter fun w => w != "" && Text.occursIn w.toList text.toList) =
      words.filter fun w => w ≠ "" ∧ w.toList <:+: text.toList := by
    refine List.filter_congr fun w _ => ?_
    rw [Bool.eq_iff_iff]
    simp
  rw [bannedWords, hfilter]
  constructor
  · intro h
    split at h
    · cases h
    · rename_i found hne
      obtain rfl := Option.some.inj h
      exact .bannedWords hne rfl
  · rintro ⟨hne, rfl⟩
    split
    · rename_i hnil
      exact absurd hnil hne
    · rfl

lemma maxLength_eq_some {most : Nat} :
    maxLength text (.maxLength most) = some finding ↔ Finds text (.maxLength most) finding := by
  rw [maxLength, ← String.length_toList]
  constructor
  · intro h
    split at h
    · rename_i hlt
      obtain rfl := Option.some.inj h
      exact .tooLong hlt
    · cases h
  · intro h
    cases h with
    | tooLong hlt => rw [if_pos hlt]

lemma minLength_eq_some {least : Nat} :
    minLength text (.minLength least) = some finding ↔ Finds text (.minLength least) finding := by
  rw [minLength, ← String.length_toList]
  constructor
  · intro h
    split at h
    · rename_i hlt
      obtain rfl := Option.some.inj h
      exact .tooShort hlt
    · cases h
  · intro h
    cases h with
    | tooShort hlt => rw [if_pos hlt]

lemma regexMatch_eq_some {pattern : Regex} {wanted : Bool} :
    regexMatch text (.regexMatch pattern wanted) = some finding ↔
      Finds text (.regexMatch pattern wanted) finding := by
  have hcheck : regexMatch text (.regexMatch pattern wanted) =
      if pattern.isMatch text = wanted then none
      else some (if wanted then .unmatched pattern.source else .forbidden pattern.source) := by
    rcases hmatch : pattern.isMatch text with _ | _
    · cases wanted <;> simp [regexMatch, hmatch]
    · cases wanted <;> simp [regexMatch, hmatch]
  rw [hcheck]
  constructor
  · intro h
    split at h
    · cases h
    · rename_i hne
      obtain rfl := Option.some.inj h
      cases wanted with
      | true => exact .unmatched (Bool.not_eq_true _ ▸ hne)
      | false => exact .forbidden (Bool.not_eq_false _ ▸ hne)
  · intro h
    cases h with
    | unmatched hmatch => simp [hmatch]
    | forbidden hmatch => simp [hmatch]

lemma jsonSchema_eq_some {schema : Schema.Compiled} :
    jsonSchema text (.jsonSchema schema) = some finding ↔
      Finds text (.jsonSchema schema) finding := by
  rw [jsonSchema]
  constructor
  · intro h
    split at h
    · rename_i e he
      obtain rfl := Option.some.inj h
      exact .notJson he
    · rename_i v hv
      split at h
      · cases h
      · rename_i hne
        obtain rfl := Option.some.inj h
        exact .schema hv hne
  · intro h
    cases h with
    | notJson he => rw [he]
    | @schema _ v hv hne =>
      rw [hv]
      rcases hvs : schema.violations v with _ | ⟨message, rest⟩
      · exact absurd hvs hne
      · simp only [hvs]

/-- **A kind's own check** says what there is to say, and of nothing else. -/
theorem ofKind_eq_some {params : ValidatorParams} :
    ofKind params.kind text params = some finding ↔ Finds text params finding := by
  cases params with
  | bannedWords words => exact bannedWords_eq_some
  | maxLength most => exact maxLength_eq_some
  | minLength least => exact minLength_eq_some
  | regexMatch pattern wanted => exact regexMatch_eq_some
  | jsonSchema schema => exact jsonSchema_eq_some

/-- There is something to say exactly where the text is not what is asked for. -/
lemma exists_finds_iff {params : ValidatorParams} :
    (∃ finding, Finds text params finding) ↔ params.FailsOn text := by
  constructor
  · rintro ⟨finding, h⟩
    cases h with
    | bannedWords hne hfound =>
      obtain ⟨w, hw⟩ := List.exists_mem_of_ne_nil _ hne
      rw [hfound, List.mem_filter, decide_eq_true_iff] at hw
      exact ⟨w, hw⟩
    | tooLong hlt => exact hlt
    | tooShort hlt => exact hlt
    | unmatched hmatch => simp [FailsOn, hmatch]
    | forbidden hmatch => simp [FailsOn, hmatch]
    | notJson he => exact .inl fun v hv => by simp [he] at hv
    | schema hv hne => exact .inr ⟨_, hv, hne⟩
  · intro h
    cases params with
    | bannedWords words =>
      obtain ⟨w, hw, hword⟩ := h
      have hfound : w ∈ words.filter fun w => w ≠ "" ∧ w.toList <:+: text.toList :=
        List.mem_filter.mpr ⟨hw, decide_eq_true hword⟩
      exact ⟨_, .bannedWords (List.ne_nil_of_mem hfound) rfl⟩
    | maxLength most => exact ⟨_, .tooLong h⟩
    | minLength least => exact ⟨_, .tooShort h⟩
    | regexMatch pattern wanted =>
      cases wanted with
      | true => exact ⟨_, .unmatched (by simpa [FailsOn] using h)⟩
      | false => exact ⟨_, .forbidden (by simpa [FailsOn] using h)⟩
    | jsonSchema schema =>
      rcases hread : Json.read text with e | v
      · exact ⟨_, .notJson hread⟩
      · rcases h with h | ⟨w, hw, hne⟩
        · exact absurd hread (h v)
        · exact ⟨_, .schema hw hne⟩

end Check

instance (text : String) (params : ValidatorParams) : Decidable (params.FailsOn text) :=
  decidable_of_iff (Check.ofKind params.kind text params).isSome (by
    rw [Option.isSome_iff_exists, ← Check.exists_finds_iff]
    exact exists_congr fun _ => Check.ofKind_eq_some)

namespace Runner

variable {text : String} {v : Validator} {x : ContentViolation}

/-- What a validator reports of a text that fails it. -/
structure Reports (text : String) (v : Validator) (x : ContentViolation) : Prop where
  kind_eq : x.kind = v.kind
  blocking_eq : x.blocking = v.blocking
  finds : Check.Finds text v.params x.finding

/-- What the default runner has to say on one validator. -/
lemma violation?_default_eq_some :
    default.violation? text v = some x ↔ v.enabled ∧ Reports text v x := by
  have hcheck : default.violation? text v =
      if v.enabled then (Check.ofKind v.kind text v.params).map (⟨v.kind, ·, v.blocking⟩)
      else none := by
    rw [violation?, check?_default, Option.bind_some]
  rw [hcheck]
  by_cases henabled : v.enabled
  · rw [if_pos henabled, Option.map_eq_some_iff]
    constructor
    · rintro ⟨finding, hfinding, rfl⟩
      exact ⟨henabled, rfl, rfl, Check.ofKind_eq_some.mp hfinding⟩
    · rintro ⟨-, hkind, hblocking, hfinds⟩
      refine ⟨x.finding, Check.ofKind_eq_some.mpr hfinds, ?_⟩
      rw [← hkind, ← hblocking]
  · simp [henabled]

lemma violation?_default_eq_none :
    default.violation? text v = none ↔ ¬ (v.enabled ∧ v.params.FailsOn text) := by
  rw [Option.eq_none_iff_forall_ne_some]
  constructor
  · rintro hnone ⟨henabled, hfails⟩
    obtain ⟨finding, hfinds⟩ := Check.exists_finds_iff.mpr hfails
    exact hnone ⟨v.kind, finding, v.blocking⟩
      (violation?_default_eq_some.mpr ⟨henabled, rfl, rfl, hfinds⟩)
  · intro hmet x hx
    obtain ⟨henabled, hreports⟩ := violation?_default_eq_some.mp hx
    exact hmet ⟨henabled, Check.exists_finds_iff.mp ⟨_, hreports.finds⟩⟩

/-- The violations are those of the enabled validators that the text fails, in their order. -/
lemma forall₂_reports (text : String) (vs : List Validator) :
    List.Forall₂ (Reports text) (vs.filter fun v => v.enabled ∧ v.params.FailsOn text)
      (default.report text vs).violations := by
  refine forall₂_filterMap (fun v x hx => ?_) (fun v hnone => ?_) vs
  · obtain ⟨henabled, hreports⟩ := violation?_default_eq_some.mp hx
    have hfails := Check.exists_finds_iff.mp ⟨_, hreports.finds⟩
    exact ⟨decide_eq_true ⟨henabled, hfails⟩, hreports⟩
  · rw [decide_eq_true_iff]
    exact violation?_default_eq_none.mp hnone

lemma hasBlocking_report (text : String) (vs : List Validator) :
    (default.report text vs).hasBlocking ↔
      ∃ v ∈ vs, v.enabled ∧ v.blocking ∧ v.params.FailsOn text := by
  simp only [Report.hasBlocking, report, List.any_eq_true, List.mem_filterMap]
  constructor
  · rintro ⟨x, ⟨v, hv, hx⟩, hblocking⟩
    obtain ⟨henabled, hreports⟩ := violation?_default_eq_some.mp hx
    rw [hreports.blocking_eq] at hblocking
    exact ⟨v, hv, henabled, hblocking, Check.exists_finds_iff.mp ⟨_, hreports.finds⟩⟩
  · rintro ⟨v, hv, henabled, hblocking, hfails⟩
    obtain ⟨finding, hfinds⟩ := Check.exists_finds_iff.mpr hfails
    exact ⟨⟨v.kind, finding, v.blocking⟩,
      ⟨v, hv, violation?_default_eq_some.mpr ⟨henabled, rfl, rfl, hfinds⟩⟩, hblocking⟩

/-- **A run reports exactly what fails.** The default runner comes to a report, which has one
violation for each enabled validator that the text fails, in the order of the validators, with
the kind and the flag of its validator and what there is to say of the text, and has no other.
The text is valid exactly when it fails no enabled blocking validator. -/
theorem run_exact {ε : Type} (text : String) (vs : List Validator) :
    ∃ report : Report, (default.run text vs : Traced ε Report).result = .ok report ∧
      List.Forall₂ (Reports text) (vs.filter fun v => v.enabled ∧ v.params.FailsOn text)
        report.violations ∧
      (report.isValid ↔
        ∀ v ∈ vs, v.enabled → v.blocking → ¬ v.params.FailsOn text) ∧
      ∀ r : Report, r.isValid = !r.violations.any (·.blocking) ∧ r.isValid = !r.hasBlocking := by
  refine ⟨default.report text vs, rfl, forall₂_reports text vs, ?_, fun r => ⟨rfl, rfl⟩⟩
  have hblocking := hasBlocking_report text vs
  rw [Report.isValid, Bool.not_eq_true', ← Bool.not_eq_true, hblocking]
  push Not
  rfl

end Runner

end PromptKit
