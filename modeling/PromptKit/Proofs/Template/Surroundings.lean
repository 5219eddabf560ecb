import PromptKit.Proofs.Template.Concatenation

/-!
A placeholder among any other text.

An opening mark in front of a written placeholder has a placeholder of its own that ends in front of
it, or the first closing mark is that of the written one and a mark is in between: then it is text.
So the scan of a text around a placeholder is the scan of what stands before it and the scan of what
stands behind it, however the marks in these are nested, cut off or left open.
-/

namespace PromptKit

namespace Segment

/-- A character in front of segments stays clear of the first that is no text. -/
lemma consChar_append_cons {p : Segment} (hp : ¬ p.isText) (c : Char)
    (segments rest : List Segment) :
    consChar c (segments ++ p :: rest) = consChar c segments ++ p :: rest := by
  cases segments with
  | nil =>
    cases p with
    | text t => simp [isText] at hp
    | slot name => rfl
    | fragment name => rfl
  | cons s segments =>
    cases s with
    | text t => rfl
    | slot name => rfl
    | fragment name => rfl

/-- Where no two texts are neighbours there is nothing to merge. -/
lemma merge_eq_self {segments : List Segment} (hne : .text [] ∉ segments)
    (hapart : segments.IsChain fun s t => ¬ (s.isText ∧ t.isText)) : merge segments = segments := by
  induction segments with
  | nil => rfl
  | cons s rest ih =>
    have hrest : merge rest = rest :=
      ih (fun hm => hne (List.mem_cons_of_mem _ hm)) hapart.tail
    cases s with
    | slot name => rw [merge, hrest]; simp
    | fragment name => rw [merge, hrest]; simp
    | text t =>
      have ht : t ≠ [] := fun ht => hne (ht ▸ List.mem_cons_self)
      have hhead : ∀ s ∈ rest.head?, ¬ s.isText := by
        intro s hs
        simpa [isText] using (List.isChain_cons.mp hapart).1 s hs
      rw [merge, hrest, Template.glue_of_head hhead, Template.textOf, if_neg ht]
      rfl

end Segment

namespace Template

open Segment

variable {d : Delimiters}

/-- A text starts with a placeholder where this is written at its start. -/
lemma startsWith_iff (hd : d.ApartFromNames) {s : Segment} {cs rest : List Char} :
    StartsWith d s cs rest ↔ s.IsPlaceholder ∧ cs = s.raw d ++ rest := by
  constructor
  · exact fun h => ⟨h.isPlaceholder, h.eq_raw_append⟩
  · rintro ⟨hs, rfl⟩
    exact startsWith_raw hd hs rest

/-- **The seam**: a placeholder that starts in front of a written one ends in front of it. -/
lemma startsWith_append_raw_iff (hd : d.ApartFromNames) (hlead : d.LeadApart) {p s : Segment}
    (hp : p.IsPlaceholder) {t u rest : List Char} (ht : t ≠ []) :
    StartsWith d s (t ++ (p.raw d ++ u)) rest ↔
      ∃ between, StartsWith d s t between ∧ rest = between ++ (p.raw d ++ u) := by
  simp only [startsWith_iff hd]
  constructor
  · rintro ⟨hs, heq⟩
    rcases List.append_eq_append_iff.mp heq with ⟨beyond, hraw, hbeyond⟩ | ⟨between, rfl, hrest⟩
    · by_cases hne : beyond = []
      · subst hne
        rw [List.append_nil] at hraw
        exact ⟨[], ⟨hs, by rw [hraw, List.append_nil]⟩, by simpa using hbeyond.symm⟩
      · -- the opening mark of `p` would stand inside the placeholder
        have hleft : d.left <+: beyond ++ rest :=
          hbeyond ▸ StartsWith.left_prefix (startsWith_raw hd hp u)
        exact absurd (eq_nil_of_raw_eq hd hlead hs hne hraw hleft) ht
    · exact ⟨between, ⟨hs, rfl⟩, hrest⟩
  · rintro ⟨between, ⟨hs, rfl⟩, rfl⟩
    exact ⟨hs, List.append_assoc ..⟩

/-- **The scan divides at a placeholder.** -/
lemma scan_append_raw (hd : d.ApartFromNames) (hlead : d.LeadApart) {p : Segment}
    (hp : p.IsPlaceholder) (t u : List Char) :
    scan d (t ++ (p.raw d ++ u)) = scan d t ++ p :: scan d u := by
  fun_induction scan d t with
  | case1 => exact scan_of_startsWith (startsWith_raw hd hp u)
  | case2 c cs s r h ih =>
    have hstart : StartsWith d s (c :: cs ++ (p.raw d ++ u)) (r ++ (p.raw d ++ u)) :=
      (startsWith_append_raw_iff hd hlead hp (List.cons_ne_nil c cs)).mpr
        ⟨r, placeholder?_eq_some.mp h, rfl⟩
    rw [scan_of_startsWith hstart, ih, List.cons_append]
  | case3 c cs h ih =>
    have hnone : ∀ s rest, ¬ StartsWith d s (c :: (cs ++ (p.raw d ++ u))) rest := by
      intro s rest hstart
      obtain ⟨between, hs, -⟩ :=
        (startsWith_append_raw_iff hd hlead hp (List.cons_ne_nil c cs)).mp hstart
      exact placeholder?_eq_none.mp h s between hs
    rw [List.cons_append, scan_of_not_startsWith hnone, ih,
      consChar_append_cons (not_isText_of_isPlaceholder hp)]

/-- **A placeholder that is written is found.** Where no mark has a letter, a digit, an underscore
or a colon, and the closing mark is without the first character of the opening mark, the scan finds
a symbol between the marks whatever stands before and behind it, and reads these as if they stood
alone. Segments are read back from their text, if their texts are not empty, not next to each
other and without a character of the marks. -/
theorem scan_written (d : Delimiters) (hd : d.ApartFromNames) (hlead : d.LeadApart) :
    (∀ (t u : List Char) (n : String), Name.IsSymbol n →
      scan d (t ++ d.wrap n.toList ++ u) = scan d t ++ [.slot n] ++ scan d u ∧
      scan d (t ++ d.wrap ("fragment:".toList ++ n.toList) ++ u) =
        scan d t ++ [.fragment n] ++ scan d u) ∧
    ∀ segments : List Segment, .text [] ∉ segments →
      (segments.IsChain fun s t => ¬ (s.isText ∧ t.isText)) → Clean d segments →
      (∀ s ∈ segments, ¬ s.isText → s.IsPlaceholder) →
      scan d (segments.flatMap (Segment.raw d)) = segments := by
  refine ⟨fun t u n hn => ?_, fun segments hne hapart hclean hsegments => ?_⟩
  · have hsymbol : Name.isSymbol n.toList := Name.isSymbol_iff.mpr hn
    have hslot := scan_append_raw hd hlead (p := .slot n) hsymbol t u
    have hfragment := scan_append_raw hd hlead (p := .fragment n) hsymbol t u
    simp only [List.append_assoc, List.singleton_append]
    exact ⟨hslot, hfragment⟩
  · rw [scan_flatMap_raw hd hclean hsegments, merge_eq_self hne hapart]

/-! ### A placeholder in a row of braces -/

theorem scan_written_braces :
    Delimiters.default.ApartFromNames ∧ Delimiters.default.LeadApart ∧ Name.IsSymbol "x" ∧
    scan .default "\x7b\x7by\x7d \x7b\x7b\x7b\x7bx\x7d\x7d\x7d \x7b\x7by\x7d\x7d".toList =
      [.text "\x7b\x7by\x7d \x7b\x7b".toList, .slot "x", .text "\x7d ".toList, .slot "y"] ∧
    scan .default "a\x7b\x7bx\x7d\x7d".toList = [.text ['a'], .slot "x"] := by
  have hlead : Delimiters.default.LeadApart := by
    intro c hc
    obtain rfl : '\x7b' = c := by simpa [Delimiters.default] using hc
    decide
  have hx : Name.IsSymbol "x" := Name.isSymbol_iff.mp (by decide)
  obtain ⟨hfind, hback⟩ := scan_written .default Delimiters.apartFromNames_default hlead
  have hbefore : scan .default "\x7b\x7by\x7d \x7b\x7b".toList =
      [.text "\x7b\x7by\x7d \x7b\x7b".toList] := by decide +kernel
  have hbehind : scan .default "\x7d \x7b\x7by\x7d\x7d".toList =
      [.text "\x7d ".toList, .slot "y"] := by decide +kernel
  have hbetween := (hfind "\x7b\x7by\x7d \x7b\x7b".toList "\x7d \x7b\x7by\x7d\x7d".toList "x" hx).1
  rw [hbefore, hbehind] at hbetween
  refine ⟨Delimiters.apartFromNames_default, hlead, hx, hbetween, ?_⟩
  refine hback [.text ['a'], .slot "x"] (by decide) (by simp [isText]) ?_ ?_
  · intro t ht c hc hu
    obtain rfl : t = ['a'] := by simpa using ht
    obtain rfl := List.mem_singleton.mp hc
    exact absurd hu (by simp [Delimiters.Uses, Delimiters.default])
  · rintro s hs hno
    rcases List.mem_cons.mp hs with rfl | hs
    · simp [isText] at hno
    · obtain rfl := List.mem_singleton.mp hs
      exact Name.isSymbol_iff.mpr hx

end Template

end PromptKit
