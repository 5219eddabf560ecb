import PromptKit.Proofs.Template.Concatenation

/-!
Text around a template.

A placeholder ends with its closing mark, and what stands behind that has no part in it. So text
without a character of a mark, put in front of a template or behind it, makes no placeholder and
takes none away, and the scan finds it as text beside the segments of the template. The marks may
be any, and the template may have parts of them at its ends.
-/

namespace PromptKit

namespace Segment

/-- A character is put in front before segments are merged, or afterwards. -/
lemma merge_consChar_append (c : Char) (segments more : List Segment) :
    merge (consChar c segments ++ more) = consChar c (merge (segments ++ more)) := by
  cases segments with
  | nil => rfl
  | cons s rest =>
    cases s with
    | text t => rfl
    | slot name => rfl
    | fragment name => rfl

end Segment

namespace Template

open Segment

variable {d : Delimiters} {s : Segment} {t u cs rest : List Char}

/-- Two texts that end alike end with the same character. -/
lemma getLast_mem_of_append_eq {a b x y : List Char} (hb : b ≠ []) (hy : y ≠ [])
    (h : a ++ b = x ++ y) : b.getLast hb ∈ y := by
  have hlast : b.getLast? = y.getLast? := by
    rw [← List.getLast?_append_of_ne_nil a hb, h, List.getLast?_append_of_ne_nil x hy]
  rw [List.getLast?_eq_some_getLast hb] at hlast
  exact List.mem_of_getLast? hlast.symm

/-- **What stands behind a placeholder has no part in it.** -/
lemma StartsWith.with_rest (h : StartsWith d s cs rest) (u : List Char) :
    StartsWith d s (s.raw d ++ u) u := by
  refine ⟨h.isPlaceholder, by rw [raw_of_isPlaceholder h.isPlaceholder], fun k hk hin => ?_⟩
  have hdrop : ∀ r : List Char,
      (s.inner ++ d.right ++ r).drop k = (s.inner ++ d.right).drop k ++ r := by
    intro r
    rw [List.drop_append_of_le_length (by rw [List.length_append]; omega)]
  -- the closing mark is no longer than what is left of the placeholder
  have hlength : d.right.length ≤ ((s.inner ++ d.right).drop k).length := by
    rw [List.length_drop, List.length_append]
    omega
  rw [hdrop] at hin
  have hwithin : d.right <+: (s.inner ++ d.right).drop k :=
    List.prefix_of_prefix_length_le hin (List.prefix_append _ _) hlength
  refine h.first k hk ?_
  rw [hdrop]
  exact hwithin.trans (List.prefix_append _ _)

/-- Text behind a template makes no placeholder and takes none away. -/
lemma startsWith_append_iff (hu : ∀ c ∈ u, ¬ d.Uses c) :
    StartsWith d s (t ++ u) rest ↔
      ∃ between, StartsWith d s t between ∧ rest = between ++ u := by
  constructor
  · intro h
    rcases List.append_eq_append_iff.mp h.eq_raw_append with ⟨beyond, hraw, hbeyond⟩ |
      ⟨between, rfl, hrest⟩
    · by_cases hne : beyond = []
      · subst hne
        rw [List.append_nil] at hraw
        refine ⟨[], ?_, by simpa using hbeyond.symm⟩
        have hstart := h.with_rest []
        rwa [List.append_nil, hraw] at hstart
      · -- the last character of the closing mark would be one of the text
        rw [raw_of_isPlaceholder h.isPlaceholder] at hraw
        have hlast := getLast_mem_of_append_eq d.right_ne_nil hne hraw
        have hmem : d.right.getLast d.right_ne_nil ∈ u := by
          rw [hbeyond]
          exact List.mem_append_left _ hlast
        exact absurd (.inr (List.getLast_mem d.right_ne_nil)) (hu _ hmem)
    · exact ⟨between, h.with_rest between, hrest⟩
  · rintro ⟨between, hs, rfl⟩
    rw [hs.eq_raw_append, List.append_assoc]
    exact hs.with_rest (between ++ u)

/-- The scan of a template with text behind it. -/
lemma scan_append_clean (hu : ∀ c ∈ u, ¬ d.Uses c) (t : List Char) :
    scan d (t ++ u) = merge (scan d t ++ [.text u]) := by
  fun_induction scan d t with
  | case1 =>
    have hscan := scan_clean_append hu []
    rwa [List.append_nil, scan_nil] at hscan
  | case2 c cs s r h ih =>
    have hs := placeholder?_eq_some.mp h
    have hstart : StartsWith d s (c :: cs ++ u) (r ++ u) :=
      (startsWith_append_iff hu).mpr ⟨r, hs, rfl⟩
    rw [scan_of_startsWith hstart, ih, List.cons_append,
      merge_cons_of_not_isText (not_isText_of_isPlaceholder hs.isPlaceholder)]
  | case3 c cs h ih =>
    have hnone : ∀ s rest, ¬ StartsWith d s (c :: (cs ++ u)) rest := by
      intro s rest hstart
      obtain ⟨between, hs, -⟩ := (startsWith_append_iff (t := c :: cs) hu).mp hstart
      exact placeholder?_eq_none.mp h s between hs
    rw [List.cons_append, scan_of_not_startsWith hnone, ih, merge_consChar_append]

/-- **A template is read between its margins as it is read alone.** -/
theorem scan_margins {a : List Char} (ha : ∀ c ∈ a, ¬ d.Uses c) (hu : ∀ c ∈ u, ¬ d.Uses c)
    (t : List Char) : scan d (a ++ t ++ u) = merge (.text a :: (scan d t ++ [.text u])) := by
  rw [List.append_assoc, scan_clean_append ha, scan_append_clean hu, merge]

end Template

end PromptKit
