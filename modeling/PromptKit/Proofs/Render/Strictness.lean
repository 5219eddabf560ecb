import PromptKit.Proofs.Render.Course
import PromptKit.Proofs.Template.Concatenation

/-!
Strictness as a check on top of a lenient rendering.

A lenient rendering keeps a placeholder without a value as it is written. A strict one makes the
same steps, and ends at the leftmost placeholder that the lenient one keeps.
-/

namespace PromptKit

/-! ### What a strict rendering objects to -/

namespace Segment

/-- A place for a variable that is not available, or for a fragment. -/
def Offends (available : String → Prop) : Segment → Prop
  | .text _ => False
  | .slot n => ¬ available n
  | .fragment _ => True

/-- The error that names a placeholder. -/
inductive IsNamedBy : Segment → RenderError → Prop
  | slot (n : String) : IsNamedBy (.slot n) (.undefinedPlaceholder n)
  | fragment (n : String) : IsNamedBy (.fragment n) (.undefinedFragment n)

lemma slotName?_eq_some {s : Segment} {n : String} : s.slotName? = some n ↔ s = .slot n := by
  cases s with
  | text cs => simp [slotName?]
  | slot m => simp [slotName?]
  | fragment m => simp [slotName?]

lemma mem_slotNames {segments : List Segment} {n : String} :
    n ∈ Template.slotNames segments ↔ .slot n ∈ segments := by
  simp only [Template.slotNames, List.mem_eraseDups, List.mem_filterMap, slotName?_eq_some,
    exists_eq_right]

end Segment

namespace Resolver

variable {r : Resolver} {available : String → Prop} {text : String}

/-- Every variable that a text has a place for is available, and it has no place for a
fragment. -/
def IsComplete (r : Resolver) (available : String → Prop) (text : String) : Prop :=
  (∀ n ∈ Template.slotNames (r.scan text), available n) ∧
    Template.fragmentNames (r.scan text) = []

lemma isComplete_iff : r.IsComplete available text ↔
    ∀ s ∈ r.scan text, ¬ s.Offends available := by
  constructor
  · rintro ⟨hslots, hfragments⟩ s hs hoffends
    cases s with
    | text cs => exact hoffends
    | slot n => exact hoffends (hslots n (Segment.mem_slotNames.mpr hs))
    | fragment n =>
      have hn : n ∈ Template.fragmentNames (r.scan text) := Segment.mem_fragmentNames.mpr hs
      simp [hfragments] at hn
  · intro h
    refine ⟨fun n hn => ?_, List.eq_nil_iff_forall_not_mem.mpr fun n hn => ?_⟩
    · exact not_not.mp (h _ (Segment.mem_slotNames.mp hn))
    · exact h _ (Segment.mem_fragmentNames.mp hn) trivial

/-- The template is complete once its fragments are in place, if they can be put there. -/
def Accepts (r : Resolver) (available : String → Prop) (template : String) : Prop :=
  ∀ expanded, (r.resolve template).result = .ok expanded → r.IsComplete available expanded

/-- The error names the leftmost placeholder of the expanded text that offends, and the output
has that placeholder as it is written. -/
def Blames (r : Resolver) (available : String → Prop) (expanded out : String) (e : RenderError) :
    Prop :=
  ∃ before s behind, r.scan expanded = before ++ s :: behind ∧
    (∀ t ∈ before, ¬ t.Offends available) ∧ s.Offends available ∧ s.IsNamedBy e ∧
    s.raw r.delimiters <:+: out.toList

end Resolver

/-! ### Which variables are available -/

/-- A variable that a prompt declares, or an input of a prompt that declares none. -/
def Prompt.Supplies (p : Prompt) (inputs : Inputs) (n : String) : Prop :=
  n ∈ p.declared.map (·.name) ∨ p.declared = [] ∧ inputs.contains n

namespace Inputs

lemma contains_texts (inputs : Inputs) (n : String) :
    inputs.texts.contains n ↔ inputs.contains n := by
  rw [NameMap.contains, texts, NameMap.get?_map, Option.isSome_map, NameMap.contains]

lemma contains_textsFor (p : Prompt) (inputs : Inputs) (n : String) :
    (inputs.textsFor p.declared).contains n ↔ p.Supplies inputs n := by
  unfold textsFor Prompt.Supplies
  split
  · rename_i hempty
    have hnil : p.declared = [] := List.isEmpty_iff.mp hempty
    simp [contains_texts, hnil]
  · rename_i hempty
    have hne : p.declared ≠ [] := fun hnil => hempty (List.isEmpty_iff.mpr hnil)
    simp [NameMap.contains_ofList, hne]

end Inputs

namespace Render

variable {pack : Pack} {r : Resolver} {d : Delimiters} {values : NameMap String}
variable {available : String → Prop}

lemma undefined?_eq_some (h : ∀ n, values.contains n ↔ available n) {s : Segment}
    {e : RenderError} :
    undefined? values s = some e ↔ s.Offends available ∧ s.IsNamedBy e := by
  cases s with
  | text cs => exact ⟨fun hs => (nomatch hs), fun hs => hs.1.elim⟩
  | slot n =>
    rw [undefined?, Segment.Offends, ← h n]
    constructor
    · intro hs
      split at hs
      · cases hs
      · rename_i hn
        obtain rfl := Option.some.inj hs
        exact ⟨hn, .slot n⟩
    · rintro ⟨hn, ⟨⟩⟩
      rw [if_neg hn]
  | fragment n =>
    constructor
    · intro hs
      obtain rfl := Option.some.inj hs
      exact ⟨trivial, .fragment n⟩
    · rintro ⟨-, ⟨⟩⟩
      rfl

lemma undefined?_eq_none (h : ∀ n, values.contains n ↔ available n) {s : Segment} :
    undefined? values s = none ↔ ¬ s.Offends available := by
  cases s with
  | text cs => exact ⟨fun _ => id, fun _ => rfl⟩
  | slot n => simp [undefined?, Segment.Offends, ← h n]
  | fragment n => simp [undefined?, Segment.Offends]

/-- What offends stays as it is written. -/
lemma filled_of_offends (h : ∀ n, values.contains n ↔ available n) {s : Segment}
    (hs : s.Offends available) : filled d values s = s.raw d := by
  cases s with
  | text cs => rfl
  | fragment n => rfl
  | slot n =>
    have hnone : values.get? n = none := by
      have hn : ¬ values.contains n := fun hn => hs ((h n).mp hn)
      simpa [NameMap.contains] using hn
    simp [filled, hnone]

/-- A segment that offends is in the text that a lenient rendering gives. -/
lemma raw_infix_of_offends (h : ∀ n, values.contains n ↔ available n)
    {before behind : List Segment} {s : Segment} (hs : s.Offends available) :
    s.raw d <:+: (before ++ s :: behind).flatMap (filled d values) := by
  refine ⟨before.flatMap (filled d values), behind.flatMap (filled d values), ?_⟩
  rw [List.flatMap_append, List.flatMap_cons, filled_of_offends h hs, List.append_assoc]

/-! ### One template -/

/-- Two results of a template, of which the second is that of the first with a check of the
expanded text. -/
structure IsChecked (r : Resolver) (available : String → Prop) (template : String)
    (lenient strict : Except RenderError String) : Prop where
  error : ∀ e, lenient = .error e → strict = .error e
  ok : ∀ out, lenient = .ok out → ∃ expanded, (r.resolve template).result = .ok expanded ∧
    (strict = .ok out ↔ r.IsComplete available expanded) ∧
    (¬ r.IsComplete available expanded → ∃ e, strict = .error e ∧
      r.Blames available expanded out e)

lemma isChecked_error {t : String} (e : RenderError) :
    IsChecked r available t (.error e) (.error e) :=
  ⟨fun _ h => h, fun _ h => nomatch h⟩

/-- Filling strictly is filling leniently and a check. -/
theorem isChecked_fill (h : ∀ n, values.contains n ↔ available n) (r : Resolver)
    (template : String) :
    IsChecked r available template (fill r .lenient values template).result
      (fill r .strict values template).result := by
  rcases hresolve : (r.resolve template).result with cause | expanded
  · rw [fill_of_resolve_error hresolve, fill_of_resolve_error hresolve]
    exact isChecked_error _
  rw [fill_of_resolve_ok hresolve, fill_of_resolve_ok hresolve, substitute_lenient]
  refine ⟨fun _ h => (nomatch h), fun out hout => ⟨expanded, hresolve, ?_⟩⟩
  obtain rfl := Except.ok.inj hout
  rcases hfind : (r.scan expanded).findSome? (undefined? values) with _ | e
  · have hcomplete : r.IsComplete available expanded := Resolver.isComplete_iff.mpr fun s hs =>
      (undefined?_eq_none h).mp (List.findSome?_eq_none_iff.mp hfind s hs)
    rw [substitute_strict_of_none hfind]
    exact ⟨iff_of_true rfl hcomplete, fun hnot => absurd hcomplete hnot⟩
  · obtain ⟨before, s, behind, hscan, hs, hbefore⟩ := List.findSome?_eq_some_iff.mp hfind
    obtain ⟨hoffends, hnamed⟩ := (undefined?_eq_some h).mp hs
    have hnot : ¬ r.IsComplete available expanded := fun hcomplete =>
      Resolver.isComplete_iff.mp hcomplete s (by simp [hscan]) hoffends
    rw [substitute_strict_of_some hfind]
    refine ⟨iff_of_false (by simp) hnot, fun _ => ⟨e, rfl, before, s, behind, hscan,
      fun t ht => (undefined?_eq_none h).mp (hbefore t ht), hoffends, hnamed, ?_⟩⟩
    rw [String.toList_ofList, hscan]
    exact raw_infix_of_offends h hoffends

/-! ### A prompt -/

namespace IsChecked

variable {t : String} {lenient strict : Except RenderError String}

/-- The strict result is a text if the lenient one is, and nothing in the template is in the
way. -/
lemma strict_eq_ok (h : IsChecked r available t lenient strict) {out : String} :
    strict = .ok out ↔ lenient = .ok out ∧ r.Accepts available t := by
  rcases hlenient : lenient with e | out'
  · simp [h.error e hlenient]
  obtain ⟨expanded, hresolve, hok, herror⟩ := h.ok out' hlenient
  have haccepts : r.Accepts available t ↔ r.IsComplete available expanded := by
    simp [Resolver.Accepts, hresolve]
  rw [haccepts]
  constructor
  · intro hstrict
    have hcomplete : r.IsComplete available expanded := by
      by_contra hnot
      obtain ⟨e, he, -⟩ := herror hnot
      simp [hstrict] at he
    exact ⟨(hok.mpr hcomplete).symm.trans hstrict, hcomplete⟩
  · rintro ⟨hout, hcomplete⟩
    exact (hok.mpr hcomplete).trans hout

/-- An error of the strict result alone names something in the template. -/
lemma of_strict_eq_error (h : IsChecked r available t lenient strict) {e : RenderError}
    (hstrict : strict = .error e) :
    lenient = .error e ∨ ∃ expanded out, (r.resolve t).result = .ok expanded ∧
      lenient = .ok out ∧ r.Blames available expanded out e := by
  rcases hlenient : lenient with e' | out
  · exact .inl ((h.error e' hlenient).symm.trans hstrict)
  obtain ⟨expanded, hresolve, hok, herror⟩ := h.ok out hlenient
  have hnot : ¬ r.IsComplete available expanded := by
    intro hcomplete
    simp [hok.mpr hcomplete] at hstrict
  obtain ⟨e', he', hblames⟩ := herror hnot
  obtain rfl := Except.error.inj (he'.symm.trans hstrict)
  exact .inr ⟨expanded, out, hresolve, rfl, hblames⟩

end IsChecked

/-- A message of a strict rendering is that of the lenient one, if its template is accepted. -/
lemma message?_strict_eq_ok (h : ∀ n, values.contains n ↔ available n) {model : Option String}
    {role : Role} {t? : Option String} {ms : List ChatMessage} :
    (message? pack { strictness := .strict, model } values role t?).result = .ok ms ↔
      (message? pack { strictness := .lenient, model } values role t?).result = .ok ms ∧
        ∀ t ∈ t?, (Resolver.ofPack pack).Accepts available t := by
  cases t? with
  | none => simp
  | some t =>
    have hchecked := isChecked_fill h (.ofPack pack) t
    simp only [result_message?_some, map_eq_ok, hchecked.strict_eq_ok, Option.mem_some_iff,
      forall_eq']
    constructor
    · rintro ⟨out, ⟨hout, haccepts⟩, hms⟩
      exact ⟨⟨out, hout, hms⟩, haccepts⟩
    · rintro ⟨⟨out, hout, hms⟩, haccepts⟩
      exact ⟨out, ⟨hout, haccepts⟩, hms⟩

/-- An error that names a placeholder which the lenient text of a template keeps. -/
def Rejects (pack : Pack) (available : String → Prop) (values : NameMap String) (t : String)
    (e : RenderError) : Prop :=
  ∃ expanded out, ((Resolver.ofPack pack).resolve t).result = .ok expanded ∧
    (fill (.ofPack pack) .lenient values t).result = .ok out ∧
    (Resolver.ofPack pack).Blames available expanded out e

lemma of_message?_strict_eq_error (h : ∀ n, values.contains n ↔ available n)
    {model : Option String} {role : Role} {t? : Option String} {e : RenderError}
    (hstrict : (message? pack { strictness := .strict, model } values role t?).result = .error e) :
    (message? pack { strictness := .lenient, model } values role t?).result = .error e ∨
      ∃ t ∈ t?, Rejects pack available values t e := by
  cases t? with
  | none => cases hstrict
  | some t =>
    rw [result_message?_some, map_eq_error] at hstrict ⊢
    exact ((isChecked_fill h (.ofPack pack) t).of_strict_eq_error hstrict).imp_right
      fun hrejects => ⟨t, rfl, hrejects⟩

/-- **The messages of a strict rendering.** They are those of the lenient one, if each template
is accepted. An error that the lenient rendering does not end with is over a template of the
prompt: it names the leftmost placeholder in the way, which the lenient text of that template has
as it is written. -/
theorem messages_strict (pack : Pack) (model : Option String) (name : String) (p : Prompt)
    (hp : pack.prompt? name = some p) (inputs : Inputs) :
    (∀ ms, (messages pack { strictness := .strict, model } name inputs).result = .ok ms ↔
      (messages pack { strictness := .lenient, model } name inputs).result = .ok ms ∧
        ∀ t, p.systemFor model = some t ∨ p.user = some t →
          (Resolver.ofPack pack).Accepts (p.Supplies inputs) t) ∧
    ∀ e, (messages pack { strictness := .strict, model } name inputs).result = .error e →
      (messages pack { strictness := .lenient, model } name inputs).result = .error e ∨
        ∃ t, (p.systemFor model = some t ∨ p.user = some t) ∧
          Rejects pack (p.Supplies inputs) (inputs.textsFor p.declared) t e := by
  have hsupplies := Inputs.contains_textsFor p inputs
  rcases hcheck : inputs.check p.declared with _ | ⟨i, rest⟩
  · rw [result_messages hp hcheck, result_messages hp hcheck]
    refine ⟨fun ms => ?_, fun e he => ?_⟩
    · simp only [bind_eq_ok, message?_strict_eq_ok hsupplies]
      constructor
      · rintro ⟨system, ⟨hsystem, hs⟩, user, ⟨huser, hu⟩, hms⟩
        exact ⟨⟨system, hsystem, user, huser, hms⟩, fun t ht => ht.elim (hs t) (hu t)⟩
      · rintro ⟨⟨system, hsystem, user, huser, hms⟩, haccepts⟩
        exact ⟨system, ⟨hsystem, fun t ht => haccepts t (.inl ht)⟩,
          user, ⟨huser, fun t ht => haccepts t (.inr ht)⟩, hms⟩
    · rcases bind_eq_error.mp he with hstrict | ⟨system, hsystem, he⟩
      · rcases of_message?_strict_eq_error hsupplies hstrict with hlenient | ⟨t, ht, hrejects⟩
        · exact .inl (bind_eq_error.mpr (.inl hlenient))
        · exact .inr ⟨t, .inl ht, hrejects⟩
      · rcases bind_eq_error.mp he with hstrict | ⟨user, -, hpure⟩
        · rcases of_message?_strict_eq_error hsupplies hstrict with hlenient | ⟨t, ht, hrejects⟩
          · have hsystem := ((message?_strict_eq_ok hsupplies).mp hsystem).1
            exact .inl (bind_eq_error.mpr
              (.inr ⟨system, hsystem, bind_eq_error.mpr (.inl hlenient)⟩))
          · exact .inr ⟨t, .inr ht, hrejects⟩
        · cases hpure
  · rw [result_messages_of_issue hp hcheck, result_messages_of_issue hp hcheck]
    exact ⟨fun ms => by simp, fun e he => .inl he⟩

end Render

end PromptKit
