import Mathlib.Data.List.DropRight
import Mathlib.Data.List.TakeWhile
import Mathlib.Tactic.Common
import PromptKit.Text.Blank

/-!
Texts and the blanks in them.

Trimming takes off the padding of a text and nothing else. The words of a text are those that it
is put together from, with blanks between them and around them.
-/

namespace PromptKit.Text

lemma dropWhile_isBlank_eq_self {cs : List Char} (h : ∀ c ∈ cs.head?, ¬ isBlank c) :
    cs.dropWhile isBlank = cs := by
  cases cs with
  | nil => rfl
  | cons c cs => exact List.dropWhile_cons_of_neg (h c rfl)

lemma not_isBlank_of_isDigit {c : Char} (h : c.isDigit) : ¬ isBlank c := by
  have hle : 48 ≤ c.toNat ∧ c.toNat ≤ 57 := Char.isDigit_iff_toNat.mp h
  simp only [isBlank, Bool.or_eq_true, Bool.and_eq_true, decide_eq_true_eq]
  omega

/-! ### Padding -/

/-- Blanks and nothing else. -/
def Blanks (t : List Char) : Prop := ∀ c ∈ t, isBlank c

/-- A text without blanks at its ends. -/
structure Trimmed (t : List Char) : Prop where
  head : ∀ c ∈ t.head?, ¬ isBlank c
  last : ∀ c ∈ t.getLast?, ¬ isBlank c

/-- A text without blanks, of at least one character. -/
structure IsWord (t : List Char) : Prop where
  ne_nil : t ≠ []
  solid : ∀ c ∈ t, ¬ isBlank c

lemma blanks_nil : Blanks [] := fun _ h => absurd h List.not_mem_nil

lemma Blanks.append {s t : List Char} (hs : Blanks s) (ht : Blanks t) : Blanks (s ++ t) :=
  List.forall_mem_append.mpr ⟨hs, ht⟩

/-- Whether a text is a word can be tested. -/
lemma isWord_of_test {t : List Char} (h : !t.isEmpty && t.all (!isBlank ·)) : IsWord t := by
  rw [Bool.and_eq_true, List.all_eq_true] at h
  exact ⟨by simpa using h.1, fun c hc => by simpa using h.2 c hc⟩

lemma trimmed_of_solid {t : List Char} (h : ∀ c ∈ t, ¬ isBlank c) : Trimmed t :=
  ⟨fun c hc => h c (List.mem_of_mem_head? hc), fun c hc => h c (List.mem_of_getLast? hc)⟩

lemma IsWord.trimmed {t : List Char} (h : IsWord t) : Trimmed t := trimmed_of_solid h.solid

/-- Trimming takes off the blanks around a text that has none at its ends. -/
lemma Trimmed.trim_padded {before t after : List Char} (h : Trimmed t) (hbefore : Blanks before)
    (hafter : Blanks after) : trim (before ++ t ++ after) = t := by
  have hstart : trimStart (before ++ t ++ after) = (t ++ after).dropWhile isBlank := by
    rw [trimStart, List.append_assoc, List.dropWhile_append_of_pos hbefore]
  have hend : trimEnd (t ++ after) = t := by
    have hreverse : ∀ c ∈ after.reverse, isBlank c := fun c hc => hafter c (List.mem_reverse.mp hc)
    rw [trimEnd, List.reverse_append, List.dropWhile_append_of_pos hreverse,
      dropWhile_isBlank_eq_self (by simpa using h.last), List.reverse_reverse]
  cases t with
  | nil =>
    have hblank : after.dropWhile isBlank = [] := List.dropWhile_eq_nil_iff.mpr hafter
    rw [trim, hstart, List.nil_append, hblank]
    rfl
  | cons c cs =>
    have hkept : (c :: cs ++ after).dropWhile isBlank = c :: cs ++ after :=
      dropWhile_isBlank_eq_self (by simpa using h.head)
    rw [trim, hstart, hkept, hend]

lemma not_isBlank_of_mem_trimStart {t : List Char} {c : Char} (h : c ∈ (trimStart t).head?) :
    ¬ isBlank c := by
  have hnot := List.head?_dropWhile_not isBlank t
  rw [trimStart] at h
  rw [Option.mem_def.mp h] at hnot
  simpa using hnot

lemma trimmed_trim (t : List Char) : Trimmed (trim t) := by
  have hprefix : trim t <+: trimStart t := List.rdropWhile_prefix isBlank (trimStart t)
  constructor
  · intro c hc
    obtain ⟨r, hr⟩ := hprefix
    refine not_isBlank_of_mem_trimStart (t := t) ?_
    rw [← hr, List.head?_append, Option.mem_def.mp hc]
    rfl
  · intro c hc
    obtain ⟨hne, rfl⟩ := List.mem_getLast?_eq_getLast hc
    exact List.rdropWhile_last_not isBlank (trimStart t) hne

/-- A text is what trimming leaves with blanks around it. -/
lemma exists_padding (t : List Char) :
    ∃ before after, Blanks before ∧ Blanks after ∧ t = before ++ trim t ++ after := by
  refine ⟨t.takeWhile isBlank, (trimStart t).rtakeWhile isBlank, ?_, ?_, ?_⟩
  · exact fun c hc => List.mem_takeWhile_imp hc
  · exact fun c hc => List.mem_rtakeWhile_imp hc
  · have hend : trim t ++ (trimStart t).rtakeWhile isBlank = trimStart t :=
      List.rdropWhile_append_rtakeWhile
    rw [List.append_assoc, hend, trimStart, List.takeWhile_append_dropWhile]

lemma trim_infix (t : List Char) : trim t <:+: t := by
  obtain ⟨before, after, -, -, ht⟩ := exists_padding t
  exact ⟨before, after, ht.symm⟩

/-! ### Words -/

/-- A text is put together from words: each has blanks before it and ends where the text ends or
another blank stands. -/
inductive Spaced : List (List Char) → List Char → Prop
  | nil {gap : List Char} (hgap : Blanks gap) : Spaced [] gap
  | cons {gap word rest : List Char} {words : List (List Char)} (hgap : Blanks gap)
      (hword : IsWord word) (hend : ∀ c ∈ rest.head?, isBlank c) (hrest : Spaced words rest) :
      Spaced (word :: words) (gap ++ word ++ rest)

lemma words_of_trimStart_eq_nil {t : List Char} (h : trimStart t = []) : words t = [] := by
  rw [words]
  split
  · rfl
  · rename_i c r hcons
    rw [h] at hcons
    cases hcons

lemma words_of_trimStart_eq_cons {t r : List Char} {c : Char} (h : trimStart t = c :: r) :
    words t = (c :: r.takeWhile (!isBlank ·)) :: words (r.dropWhile (!isBlank ·)) := by
  rw [words]
  split
  · rename_i hnil
    rw [h] at hnil
    cases hnil
  · rename_i d s hcons
    rw [h] at hcons
    obtain ⟨rfl, rfl⟩ := List.cons.inj hcons
    rfl

/-- **A text is put together from its words**. -/
lemma spaced_words (t : List Char) : Spaced (words t) t := by
  induction hlength : t.length using Nat.strong_induction_on generalizing t with
  | _ n ih =>
    have ht : t = t.takeWhile isBlank ++ trimStart t := List.takeWhile_append_dropWhile.symm
    have hgap : Blanks (t.takeWhile isBlank) := fun c hc => List.mem_takeWhile_imp hc
    rcases hstart : trimStart t with _ | ⟨c, r⟩
    · rw [words_of_trimStart_eq_nil hstart]
      refine .nil fun c hc => hgap c ?_
      rwa [ht, hstart, List.append_nil] at hc
    · rw [words_of_trimStart_eq_cons hstart]
      have hrest : (c :: r.takeWhile (!isBlank ·)) ++ r.dropWhile (!isBlank ·) = c :: r := by
        rw [List.cons_append, List.takeWhile_append_dropWhile]
      have hshorter : (r.dropWhile (!isBlank ·)).length < n := by
        have hr : (c :: r).length ≤ t.length := hstart ▸ length_trimStart_le t
        have hdrop := length_dropWhile_le (!isBlank ·) r
        rw [List.length_cons] at hr
        omega
      have hc : ¬ isBlank c := not_isBlank_of_mem_trimStart (by rw [hstart]; rfl)
      have hspaced : Spaced ((c :: r.takeWhile (!isBlank ·)) :: words (r.dropWhile (!isBlank ·)))
          (t.takeWhile isBlank ++ (c :: r.takeWhile (!isBlank ·)) ++
            r.dropWhile (!isBlank ·)) := by
        refine .cons hgap ⟨by simp, ?_⟩ ?_ (ih _ hshorter _ rfl)
        · rw [List.forall_mem_cons]
          refine ⟨hc, fun d hd => ?_⟩
          simpa using List.mem_takeWhile_imp hd
        · intro d hd
          have hnot := List.head?_dropWhile_not (!isBlank ·) r
          rw [Option.mem_def.mp hd] at hnot
          simpa using hnot
      rwa [List.append_assoc, hrest, ← hstart, ← ht] at hspaced

/-- The words that a text is put together from are the words of it. -/
lemma words_eq_of_spaced {ws : List (List Char)} {t : List Char} (h : Spaced ws t) :
    words t = ws := by
  induction h with
  | nil hgap => exact words_of_trimStart_eq_nil (List.dropWhile_eq_nil_iff.mpr hgap)
  | @cons gap word rest ws hgap hword hend _ ih =>
    obtain ⟨c, cs, rfl⟩ := List.exists_cons_of_ne_nil hword.ne_nil
    obtain ⟨hc, hcs⟩ := List.forall_mem_cons.mp hword.solid
    have hstart : trimStart (gap ++ (c :: cs) ++ rest) = c :: (cs ++ rest) := by
      rw [trimStart, List.append_assoc, List.dropWhile_append_of_pos hgap]
      exact List.dropWhile_cons_of_neg hc
    have hsolid : ∀ d ∈ cs, !isBlank d := fun d hd => by simpa using hcs d hd
    -- the word ends before the rest
    have hstop : rest.takeWhile (!isBlank ·) = [] ∧ rest.dropWhile (!isBlank ·) = rest := by
      cases rest with
      | nil => exact ⟨rfl, rfl⟩
      | cons d rest =>
        have hd : ¬ (!isBlank d) = true := by simpa using hend d rfl
        exact ⟨List.takeWhile_cons_of_neg hd, List.dropWhile_cons_of_neg hd⟩
    rw [words_of_trimStart_eq_cons hstart, List.takeWhile_append_of_pos hsolid,
      List.dropWhile_append_of_pos hsolid, hstop.1, hstop.2, List.append_nil, ih]

/-- **The words of a text** are those that it is put together from. -/
theorem words_eq_iff {ws : List (List Char)} {t : List Char} : words t = ws ↔ Spaced ws t := by
  constructor
  · rintro rfl
    exact spaced_words t
  · exact words_eq_of_spaced

end PromptKit.Text
