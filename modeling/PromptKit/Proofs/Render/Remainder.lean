import PromptKit.Proofs.Render.Marks

/-!
What a lenient rendering leaves.

Where values and texts hold no character of a mark, values come in place of placeholders and no new
placeholder arises, neither in a value nor across its ends. So the placeholders of the output are
those of the source that have no value, and putting the same values into the output changes nothing.
-/

namespace PromptKit

namespace Segment

/-- The segments that are no text. -/
def placeholders (segments : List Segment) : List Segment := segments.filter fun s => !s.isText

/-- A place for a variable that has a value. -/
def hasValue (values : NameMap String) : Segment → Bool
  | .slot n => values.contains n
  | _ => false

lemma placeholders_cons_of_isText {s : Segment} (hs : s.isText) (rest : List Segment) :
    placeholders (s :: rest) = placeholders rest := by
  rw [placeholders, List.filter_cons_of_neg (by simpa using hs), placeholders]

lemma placeholders_cons_of_not_isText {s : Segment} (hs : ¬ s.isText) (rest : List Segment) :
    placeholders (s :: rest) = s :: placeholders rest := by
  rw [placeholders, List.filter_cons_of_pos (by simpa using hs), placeholders]

lemma placeholders_merge (segments : List Segment) :
    placeholders (merge segments) = placeholders segments := by
  have hguard : ∀ t, Option.guard (fun s => !isText s) (.text t) = none := fun _ => rfl
  rw [placeholders, placeholders, ← List.filterMap_eq_filter, filterMap_merge hguard]

end Segment

namespace Render

open Segment Template

/-- No value has a character of a mark. -/
def Unmarked (d : Delimiters) (values : NameMap String) : Prop :=
  ∀ n v, values.get? n = some v → ∀ c ∈ v.toList, ¬ d.Uses c

/-- A text has no marker of a variable: the scan finds none, and none is written there. -/
structure HasNoMarker (d : Delimiters) (n : String) (out : String) : Prop where
  not_mem : .slot n ∉ scan d out.toList
  not_written : Name.IsSymbol n → ¬ d.wrap n.toList <:+: out.toList

/-- The outcome for a text is an output that has, of the placeholders of the text, those without a
value, in their order. It has no marker of a variable that is available, and the values put in
once more change nothing. -/
def LeavesOthers (d : Delimiters) (values : NameMap String) (available : String → Prop)
    (text : String) (outcome : Except RenderError String) : Prop :=
  ∃ out, outcome = .ok out ∧
    placeholders (scan d out.toList) =
      (placeholders (scan d text.toList)).filter (fun s => !s.hasValue values) ∧
    (∀ n, available n → HasNoMarker d n out) ∧
    (substitute d values .lenient (scan d out.toList)).result = .ok out

variable {d : Delimiters} {values : NameMap String} {available : String → Prop}
variable {segments : List Segment} {text : String}

/-- What becomes of a segment: a value in its place, or the segment itself. -/
lemma settled_cases (values : NameMap String) (s : Segment) :
    (∃ n v, s = .slot n ∧ values.get? n = some v ∧ settled values s = .text v.toList) ∨
      (s.hasValue values = false ∧ settled values s = s) := by
  cases s with
  | text t => exact .inr ⟨rfl, rfl⟩
  | fragment n => exact .inr ⟨rfl, rfl⟩
  | slot n =>
    rcases hv : values.get? n with _ | v
    · refine .inr ⟨?_, by simp [settled, hv]⟩
      simp [hasValue, NameMap.contains, hv]
    · exact .inl ⟨n, v, rfl, hv, by simp [settled, hv]⟩

/-- What came of a segment is no place for a value any more. -/
lemma hasValue_settled (values : NameMap String) (s : Segment) :
    (settled values s).hasValue values = false := by
  rcases settled_cases values s with ⟨n, v, -, -, hs⟩ | ⟨hno, hs⟩
  · rw [hs]
    rfl
  · rwa [hs]

/-- Segments stay plain when values without a character of a mark come in. -/
lemma plain_map_settled (h : Plain d segments) (hvalues : Unmarked d values) :
    Plain d (segments.map (settled values)) where
  clean t ht := by
    obtain ⟨s, hs, heq⟩ := List.mem_map.mp ht
    rcases settled_cases values s with ⟨n, v, -, hv, hvalue⟩ | ⟨-, hsame⟩
    · obtain rfl : v.toList = t := Segment.text.inj (hvalue.symm.trans heq)
      exact hvalues n v hv
    · obtain rfl : s = .text t := hsame.symm.trans heq
      exact h.clean t hs
  isPlaceholder p hp htext := by
    obtain ⟨s, hs, rfl⟩ := List.mem_map.mp hp
    rcases settled_cases values s with ⟨n, v, -, -, hvalue⟩ | ⟨-, hsame⟩
    · simp [hvalue, isText] at htext
    · rw [hsame] at htext ⊢
      exact h.isPlaceholder s hs htext

/-- The placeholders left are those without a value. -/
lemma placeholders_map_settled (values : NameMap String) (segments : List Segment) :
    placeholders (segments.map (settled values)) =
      (placeholders segments).filter fun s => !s.hasValue values := by
  induction segments with
  | nil => rfl
  | cons s rest ih =>
    rw [List.map_cons]
    rcases settled_cases values s with ⟨n, v, rfl, hv, hvalue⟩ | ⟨hno, hsame⟩
    · have hn : (Segment.slot n).hasValue values := by simp [hasValue, NameMap.contains, hv]
      rw [hvalue, placeholders_cons_of_isText rfl, ih,
        placeholders_cons_of_not_isText (by simp [isText]), List.filter_cons_of_neg (by simp [hn])]
    · rw [hsame]
      by_cases htext : s.isText
      · rw [placeholders_cons_of_isText htext, placeholders_cons_of_isText htext, ih]
      · rw [placeholders_cons_of_not_isText htext, placeholders_cons_of_not_isText htext, ih,
          List.filter_cons_of_pos (by simp [hno])]

/-- Values put in once more leave what came of a segment as it is written. -/
lemma filled_settled (values : NameMap String) (s : Segment) :
    filled d values (settled values s) = (settled values s).raw d := by
  rcases settled_cases values s with ⟨n, v, -, -, hvalue⟩ | ⟨-, hsame⟩
  · rw [hvalue]
    rfl
  · rw [← raw_settled, hsame, hsame]

/-- The values find no place in what came of segments. -/
lemma substitute_map_settled (values : NameMap String) (segments : List Segment) :
    (substitute d values .lenient (merge (segments.map (settled values)))).result =
      .ok (write d (segments.map (settled values))) := by
  have hfilled : ∀ s ∈ segments.map (settled values), filled d values s = s.raw d := by
    intro s hs
    obtain ⟨u, -, rfl⟩ := List.mem_map.mp hs
    exact filled_settled values u
  rw [substitute_lenient, flatMap_merge fun _ => rfl, List.flatMap_congr hfilled, write]

/-- A variable that has a value has no place in what came of the segments. -/
lemma slot_not_mem_map_settled {n : String} (hn : values.contains n) :
    .slot n ∉ segments.map (settled values) := by
  intro hmem
  obtain ⟨s, -, hs⟩ := List.mem_map.mp hmem
  have hno := hasValue_settled values s
  rw [hs] at hno
  exact absurd (hn.symm.trans hno) (by decide)

/-- The placeholders of the output, as the scan finds them. -/
lemma placeholders_scan_write (hd : d.ApartFromNames) (h : Plain d segments)
    (hvalues : Unmarked d values) :
    placeholders (scan d (write d (segments.map (settled values))).toList) =
      (placeholders segments).filter fun s => !s.hasValue values := by
  rw [scan_write hd (plain_map_settled h hvalues), placeholders_merge, placeholders_map_settled]

lemma hasNoMarker_write (hd : d.ApartFromNames) (hlead : d.LeadApart) (h : Plain d segments)
    (hvalues : Unmarked d values) {n : String} (hn : values.contains n) :
    HasNoMarker d n (write d (segments.map (settled values))) where
  not_mem hmem := by
    have hplace : .slot n ∈ placeholders (scan d (write d (segments.map (settled values))).toList) :=
      List.mem_filter.mpr ⟨hmem, rfl⟩
    rw [placeholders_scan_write hd h hvalues] at hplace
    have hno : !values.contains n := (List.mem_filter.mp hplace).2
    simp [hn] at hno
  not_written hsymbol hinfix := by
    have hplain := plain_map_settled h hvalues
    have hslot : (Segment.slot n).IsPlaceholder := Name.isSymbol_iff.mpr hsymbol
    rw [write, String.toList_ofList] at hinfix
    have hmem := mem_of_raw_infix hd hlead hslot hplain.clean hplain.isPlaceholder hinfix
    exact slot_not_mem_map_settled hn hmem

/-- A lenient substitution leaves the placeholders that have no value. -/
lemma leavesOthers_substitute (hd : d.ApartFromNames) (hlead : d.LeadApart)
    (htext : Clean d (scan d text.toList)) (hvalues : Unmarked d values)
    (h : ∀ n, values.contains n ↔ available n) :
    LeavesOthers d values available text
      (substitute d values .lenient (scan d text.toList)).result := by
  have hplain : Plain d (scan d text.toList) := ⟨htext, fun s => isPlaceholder_of_mem_scan⟩
  -- the output is written by segments again, those with their values in place
  refine ⟨write d ((scan d text.toList).map (settled values)), ?_, ?_, fun n hn => ?_, ?_⟩
  · rw [substitute_lenient, write_map_settled]
  · exact placeholders_scan_write hd hplain hvalues
  · exact hasNoMarker_write hd hlead hplain hvalues ((h n).mpr hn)
  · rw [scan_write hd (plain_map_settled hplain hvalues), substitute_map_settled]

lemma leavesOthers_fill {r : Resolver} {expanded : String} (hd : r.delimiters.ApartFromNames)
    (hlead : r.delimiters.LeadApart) (hresolve : (r.resolve text).result = .ok expanded)
    (hclean : Clean r.delimiters (r.scan expanded)) (hvalues : Unmarked r.delimiters values)
    (h : ∀ n, values.contains n ↔ available n) :
    LeavesOthers r.delimiters values available expanded (fill r .lenient values text).result := by
  rw [fill_of_resolve_ok hresolve]
  exact leavesOthers_substitute hd hlead hclean hvalues h

/-- **No marker is left of a variable that had a value.** Take marks that have no part in names,
the closing one without the first character of the opening one, an expanded text whose texts have
no character of a mark, and values without such a character. A lenient substitution succeeds, and
the scan of its output finds the placeholders of the expanded text that have no value, these alone
and in the same order. So it is where a template is filled: with the inputs, where it belongs to
no prompt, and for a prompt, where every variable that it declares has a value. -/
theorem lenient_leaves_others (d : Delimiters) (hd : d.ApartFromNames) (hlead : d.LeadApart) :
    (∀ (values : NameMap String) (text : String), Clean d (scan d text.toList) →
      Unmarked d values → LeavesOthers d values (values.contains ·) text
        (substitute d values .lenient (scan d text.toList)).result) ∧
    (∀ (r : Resolver) (values : NameMap String) (text expanded : String), r.delimiters = d →
      (r.resolve text).result = .ok expanded → Clean d (r.scan expanded) → Unmarked d values →
      LeavesOthers d values (values.contains ·) expanded (fill r .lenient values text).result) ∧
    (∀ (fragments : NameMap String) (inputs : Inputs) (text expanded : String), d = .default →
      (({ fragments } : Resolver).resolve text).result = .ok expanded →
      Clean d (scan d expanded.toList) → Unmarked d inputs.texts →
      LeavesOthers d inputs.texts (inputs.contains ·) expanded
        (freeText text fragments inputs).result) ∧
    ∀ (pack : Pack) (model : Option String) (inputs : Inputs), pack.engine.delimiters = d →
      (∀ text expanded, ((Resolver.ofPack pack).resolve text).result = .ok expanded →
        Clean d (scan d expanded.toList) → Unmarked d inputs.texts →
        LeavesOthers d inputs.texts (inputs.contains ·) expanded
          (template pack { strictness := .lenient, model } text inputs).result) ∧
      ∀ name p expanded, pack.prompt? name = some p → inputs.check p.declared = [] →
        ((Resolver.ofPack pack).resolve (mainTemplate p model)).result = .ok expanded →
        Clean d (scan d expanded.toList) → Unmarked d (inputs.textsFor p.declared) →
        LeavesOthers d (inputs.textsFor p.declared) (p.Supplies inputs) expanded
          (prompt pack { strictness := .lenient, model } name inputs).result := by
  refine ⟨fun values text htext hvalues => ?_, ?_, ?_, ?_⟩
  · exact leavesOthers_substitute hd hlead htext hvalues fun n => Iff.rfl
  · rintro r values text expanded rfl hresolve hclean hvalues
    exact leavesOthers_fill hd hlead hresolve hclean hvalues fun n => Iff.rfl
  · rintro fragments inputs text expanded rfl hresolve hclean hvalues
    exact leavesOthers_fill hd hlead hresolve hclean hvalues (Inputs.contains_texts inputs)
  · rintro pack model inputs rfl
    refine ⟨fun text expanded hresolve hclean hvalues => ?_,
      fun name p expanded hp hcheck hresolve hclean hvalues => ?_⟩
    · exact leavesOthers_fill hd hlead hresolve hclean hvalues (Inputs.contains_texts inputs)
    · rw [result_prompt hp hcheck]
      exact leavesOthers_fill hd hlead hresolve hclean hvalues (Inputs.contains_textsFor p inputs)

/-! ### A letter to which only the name is known -/

/-- A text that is written to a name, over another that is not known, with no seal. -/
def unsealed : String :=
  "\x7b\x7bname\x7d\x7d, \x7b\x7bother\x7d\x7d\x7b\x7bfragment:seal\x7d\x7d"

lemma scan_unsealed : scan .default unsealed.toList =
    [.slot "name", .text [',', ' '], .slot "other", .fragment "seal"] := by decide +kernel

lemma resolve_unsealed : (({} : Resolver).resolve unsealed).result = .ok unsealed :=
  Resolver.resolve_self (fun _ _ => rfl) (by decide)

lemma resolve_greeting : ((Resolver.ofPack greetings).resolve (mainTemplate greeting none)).result =
    .ok (mainTemplate greeting none) :=
  Resolver.resolve_self (fun _ _ => rfl) (by decide)

lemma unmarked_ada : Unmarked .default (NameMap.ofList [("name", "Ada")]) := by
  intro n v hv
  obtain ⟨-, rfl⟩ : n = "name" ∧ v = "Ada" := by simpa using NameMap.mem_of_get?_ofList hv
  simp [Delimiters.uses_default]

theorem lenient_leaves_others_unsealed :
    Delimiters.default.ApartFromNames ∧ Delimiters.default.LeadApart ∧
    LeavesOthers .default plain.texts (plain.contains ·) unsealed
      (freeText unsealed .empty plain).result ∧
    LeavesOthers .default (plain.textsFor greeting.declared) (greeting.Supplies plain)
      "Hi \x7b\x7bname\x7d\x7d!" (prompt greetings {} "greeting" plain).result := by
  have hlead : Delimiters.default.LeadApart := by simp [Delimiters.LeadApart, Delimiters.default]
  have hunsealed : Clean .default (scan .default unsealed.toList) := by
    rw [scan_unsealed]
    simp [Clean, Delimiters.Uses, Delimiters.default]
  have hgreeting : Clean .default (scan .default (mainTemplate greeting none).toList) := by
    have hscan : scan .default (mainTemplate greeting none).toList =
        [.text ['H', 'i', ' '], .slot "name", .text ['!']] := by decide +kernel
    rw [hscan]
    simp [Clean, Delimiters.Uses, Delimiters.default]
  obtain ⟨-, -, hfree, hpack⟩ :=
    lenient_leaves_others .default Delimiters.apartFromNames_default hlead
  exact ⟨Delimiters.apartFromNames_default, hlead,
    hfree .empty plain unsealed unsealed rfl resolve_unsealed hunsealed unmarked_ada,
    (hpack greetings none plain rfl).2 "greeting" greeting _ rfl rfl resolve_greeting hgreeting
      unmarked_ada⟩

end Render

end PromptKit
