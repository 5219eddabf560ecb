import Mathlib.Data.List.TakeWhile
import PromptKit.Proofs.Version.Grammar

/-!
The semantic versions among the accepted ones.

Semantic Versioning knows the digits of ASCII alone. That is all by which its rules differ from
those of the check: an accepted version without other decimal digits is a semantic one.
-/

namespace PromptKit.Version

open Name (IsLetter IsDigit)

/-- Whatever is a decimal digit is one of ASCII. -/
def IsPlain (c : Char) : Prop := Unicode.isDecimalDigit c → IsDigit c

lemma isPlain_of_isIdentifierChar {c : Char} (h : IsIdentifierChar c) : IsPlain c :=
  isDigit_of_isIdentifierChar h

lemma isNumeric_iff {t : List Char} :
    IsNumeric t ↔ IsScriptedNumber t ∧ ∀ c ∈ t, IsPlain c := by
  constructor
  · rintro ⟨hne, hdigits, hzero⟩
    refine ⟨?_, fun c hc _ => hdigits c hc⟩
    obtain ⟨c, cs, rfl⟩ := List.exists_cons_of_ne_nil hne
    by_cases hc : c = '0'
    · exact .inl (hzero (by rw [hc]; rfl))
    · have hdigit := isDigit_iff_toNat.mp (hdigits c List.mem_cons_self)
      have hne48 : c.toNat ≠ 48 := fun h => hc (Char.toNat_inj.mp h)
      have hrange : 49 ≤ c.toNat ∧ c.toNat ≤ 57 := by omega
      refine .inr ⟨c, cs, rfl, hrange, fun d hd => ?_⟩
      exact isDecimalDigit_of_isDigit (hdigits d (List.mem_cons_of_mem c hd))
  · rintro ⟨h, hplain⟩
    have hdigits : ∀ c ∈ t, IsDigit c := fun c hc => hplain c hc (h.isDecimalDigit c hc)
    rcases h with rfl | ⟨c, cs, rfl, hc, -⟩
    · exact ⟨by simp, hdigits, fun _ => rfl⟩
    · refine ⟨by simp, hdigits, fun hhead => ?_⟩
      obtain rfl : c = '0' := Option.some.inj hhead
      exact absurd hc.1 (by decide)

lemma isPreReleaseId_iff {t : List Char} :
    IsPreReleaseId t ↔ scripted.preRelease t ∧ ∀ c ∈ t, IsPlain c := by
  constructor
  · rintro ⟨hne, hchars, hzero⟩
    refine ⟨?_, fun c hc => isPlain_of_isIdentifierChar (hchars c hc)⟩
    by_cases hdigits : ∀ c ∈ t, IsDigit c
    · exact .inl (isNumeric_iff.mp ⟨hne, hdigits, hzero hdigits⟩).1
    · -- the first character that is no digit ends the run of digits in front
      refine .inr ?_
      have hdrop : t.dropWhile Unicode.isDecimalDigit ≠ [] := by
        intro hnil
        rw [List.dropWhile_eq_nil_iff] at hnil
        exact hdigits fun c hc => isPlain_of_isIdentifierChar (hchars c hc) (hnil c hc)
      obtain ⟨c, cs, hrest⟩ := List.exists_cons_of_ne_nil hdrop
      have ht : t = t.takeWhile Unicode.isDecimalDigit ++ c :: cs := by
        rw [← hrest, List.takeWhile_append_dropWhile]
      have hmem : ∀ d ∈ c :: cs, d ∈ t := fun d hd => by
        rw [ht]
        exact List.mem_append_right _ hd
      have hc : ¬ Unicode.isDecimalDigit c := by
        have hhead := List.head_dropWhile_not (p := Unicode.isDecimalDigit) (l := t) hdrop
        simpa [hrest] using hhead
      have hletter : IsLetter c ∨ c = '-' :=
        (hchars c (hmem c List.mem_cons_self)).resolve_left fun hd =>
          hc (isDecimalDigit_of_isDigit hd)
      exact ⟨_, c, cs, ht, fun d hd => List.mem_takeWhile_imp hd, hletter,
        fun d hd => hchars d (hmem d (List.mem_cons_of_mem c hd))⟩
  · rintro ⟨h | h, hplain⟩
    · obtain ⟨hne, hdigits, hzero⟩ := isNumeric_iff.mpr ⟨h, hplain⟩
      exact ⟨hne, fun c hc => .inl (hdigits c hc), fun _ => hzero⟩
    · obtain ⟨ds, c, cs, rfl, hds, hc, hcs⟩ := h
      refine ⟨by simp, fun d hd => ?_, fun hdigits => ?_⟩
      · rcases List.mem_append.mp hd with hd' | hd'
        · exact .inl (hplain d hd (hds d hd'))
        · rcases List.mem_cons.mp hd' with rfl | hd'
          · exact .inr hc
          · exact hcs d hd'
      · exact absurd (hdigits c (by simp)) (not_isDigit_of_isLetter hc)

namespace Parts

variable {p : Parts}

/-- Parts follow the rules of Semantic Versioning when they are accepted and have digits of ASCII
only. -/
lemma follow_semantic_iff : p.Follow semantic ↔ p.Follow scripted ∧ ∀ c ∈ p.text, IsPlain c := by
  have hmark {c : Char} (hc : Unicode.isDecimalDigit c = false) : IsPlain c := by
    intro h
    rw [hc] at h
    cases h
  have hdot : IsPlain '.' := hmark (by decide)
  have hdash : IsPlain '-' := hmark (by decide)
  have hplus : IsPlain '+' := hmark (by decide)
  have htext : (∀ c ∈ p.text, IsPlain c) ↔
      ((∀ t ∈ [p.major, p.minor, p.patch], ∀ c ∈ t, IsPlain c) ∧
        ∀ i ∈ p.preRelease, ∀ t ∈ i, ∀ c ∈ t, IsPlain c) ∧
          ∀ i ∈ p.build, ∀ t ∈ i, ∀ c ∈ t, IsPlain c := by
    rw [text, core, List.forall_mem_append, List.forall_mem_append, forall_mem_dotted_iff hdot,
      forall_mem_marked_iff hdash hdot, forall_mem_marked_iff hplus hdot]
  rw [htext]
  constructor
  · intro h
    have hnumbers : ∀ t ∈ [p.major, p.minor, p.patch], IsScriptedNumber t ∧ ∀ c ∈ t, IsPlain c :=
      fun t ht => isNumeric_iff.mp (h.number_of_mem t ht)
    have hpre (i) (hi : i ∈ p.preRelease) (t) (ht : t ∈ i) :
        scripted.preRelease t ∧ ∀ c ∈ t, IsPlain c :=
      isPreReleaseId_iff.mp ((h.preRelease i hi).2 t ht)
    refine ⟨?_, ⟨fun t ht => (hnumbers t ht).2, fun i hi t ht => (hpre i hi t ht).2⟩,
      fun i hi t ht c hc => isPlain_of_isIdentifierChar (((h.build i hi).2 t ht).2 c hc)⟩
    exact {
      major := (hnumbers p.major (by simp)).1
      minor := (hnumbers p.minor (by simp)).1
      patch := (hnumbers p.patch (by simp)).1
      preRelease := fun i hi => ⟨(h.preRelease i hi).1, fun t ht => (hpre i hi t ht).1⟩
      build := h.build }
  · rintro ⟨h, ⟨hnumbers, hpre⟩, -⟩
    have hnumeric (t) (ht : t ∈ [p.major, p.minor, p.patch]) : IsNumeric t :=
      isNumeric_iff.mpr ⟨h.number_of_mem t ht, hnumbers t ht⟩
    exact {
      major := hnumeric p.major (by simp)
      minor := hnumeric p.minor (by simp)
      patch := hnumeric p.patch (by simp)
      preRelease := fun i hi => ⟨(h.preRelease i hi).1, fun t ht =>
        isPreReleaseId_iff.mpr ⟨(h.preRelease i hi).2 t ht, hpre i hi t ht⟩⟩
      build := h.build }

end Parts

/-- **Semantic versions** are the accepted texts without decimal digits beyond ASCII. -/
theorem isVersion_semantic_iff {t : List Char} :
    IsVersion semantic t ↔ IsVersion scripted t ∧ ∀ c ∈ t, IsPlain c := by
  have hv : IsPlain 'v' := fun h => absurd h (by decide)
  constructor
  · rintro ⟨p, hp, ht⟩
    obtain ⟨hscripted, hplain⟩ := Parts.follow_semantic_iff.mp hp
    refine ⟨⟨p, hscripted, ht⟩, ?_⟩
    rcases ht with rfl | rfl
    · exact hplain
    · exact List.forall_mem_cons.mpr ⟨hv, hplain⟩
  · rintro ⟨⟨p, hp, ht⟩, hplain⟩
    refine ⟨p, Parts.follow_semantic_iff.mpr ⟨hp, ?_⟩, ht⟩
    rcases ht with rfl | rfl
    · exact hplain
    · exact (List.forall_mem_cons.mp hplain).2

end PromptKit.Version
