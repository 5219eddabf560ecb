import Mathlib.Tactic.Common
import PromptKit.Text.Search

/-!
Texts that are split at a character.

The parts of a text are the only ones without the character that make up the text again.
-/

namespace PromptKit.Text

variable {sep : Char}

lemma split_eq_splitOn (cs : List Char) : split sep cs = cs.splitOn sep := by
  induction cs with
  | nil => rfl
  | cons c cs ih =>
    rw [List.splitOn_cons_eq_if_modifyHead, split, ih]
    by_cases hc : c = sep
    · simp [hc]
    · rw [if_neg hc, if_neg (by simpa using hc)]
      obtain ⟨t, ts, hparts⟩ := List.exists_cons_of_ne_nil (List.splitOn_ne_nil sep cs)
      rw [hparts]
      rfl

lemma notMem_of_mem_split {cs t : List Char} (h : t ∈ split sep cs) : sep ∉ t := by
  induction cs generalizing t with
  | nil =>
    obtain rfl := List.mem_singleton.mp h
    exact List.not_mem_nil
  | cons c cs ih =>
    rw [split] at h
    split at h
    · rcases List.mem_cons.mp h with rfl | h
      · exact List.not_mem_nil
      · exact ih h
    · rename_i hc
      split at h
      · obtain rfl := List.mem_singleton.mp h
        simpa using Ne.symm hc
      · rename_i u us hsplit
        rw [hsplit] at ih
        rcases List.mem_cons.mp h with rfl | h
        · simp [Ne.symm hc, ih List.mem_cons_self]
        · exact ih (List.mem_cons_of_mem u h)

/-- **The parts of a text.** -/
theorem split_eq_iff {cs : List Char} {parts : List (List Char)} :
    split sep cs = parts ↔
      parts ≠ [] ∧ cs = [sep].intercalate parts ∧ ∀ t ∈ parts, sep ∉ t := by
  constructor
  · rintro rfl
    refine ⟨?_, ?_, fun t ht => notMem_of_mem_split ht⟩
    · rw [split_eq_splitOn]
      exact List.splitOn_ne_nil sep cs
    · rw [split_eq_splitOn, List.intercalate_splitOn]
  · rintro ⟨hne, rfl, hparts⟩
    rw [split_eq_splitOn, List.splitOn_intercalate sep hparts hne]

end PromptKit.Text
