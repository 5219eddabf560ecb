import PromptKit.Delimiters
import PromptKit.Proofs.Text.Blank
import PromptKit.Proofs.Text.Occurrence

/-!
The marks that a text describes.

A text is read as an example placeholder or as a pair of marks. The name in an example is
unbordered and has no blank, so its first occurrence in an example is the one between the marks.
-/

namespace PromptKit.Delimiters

open Text (isBlank Blanks Trimmed IsWord)

/-- The marks around the name, with any blanks around the three of them. -/
def IsExample (d : Delimiters) (text : List Char) : Prop :=
  ∃ a b c e, Blanks a ∧ Blanks b ∧ Blanks c ∧ Blanks e ∧
    text = a ++ d.left ++ b ++ exampleName ++ c ++ d.right ++ e

/-- Two words with a gap between them, and any blanks around the two. -/
def IsPair (d : Delimiters) (text : List Char) : Prop :=
  IsWord d.left ∧ IsWord d.right ∧ ∃ a gap e, Blanks a ∧ Blanks gap ∧ gap ≠ [] ∧ Blanks e ∧
    text = a ++ d.left ++ gap ++ d.right ++ e

variable {d : Delimiters} {text : List Char}

/-! ### The name in an example -/

lemma exampleName_isWord : IsWord exampleName := Text.isWord_of_test (by decide)

lemma exampleName_unbordered : Text.Unbordered exampleName := by
  unfold Text.Unbordered
  decide

lemma exampleName_not_infix_nil : ¬ exampleName <:+: [] := by
  rw [List.infix_nil]
  exact exampleName_isWord.ne_nil

/-- Blanks that stand in between part a text in two. -/
lemma exampleName_infix_append {gap s t : List Char} (hgap : Blanks gap) (hne : gap ≠ [])
    (h : exampleName <:+: s ++ gap ++ t) : exampleName <:+: s ∨ exampleName <:+: t := by
  have hnotMem {c : Char} (hc : isBlank c) : c ∉ exampleName :=
    fun hmem => exampleName_isWord.solid c hmem hc
  induction gap generalizing s with
  | nil => exact absurd rfl hne
  | cons c gap ih =>
    obtain ⟨hc, hgap⟩ := List.forall_mem_cons.mp hgap
    rw [List.append_assoc, List.cons_append, Text.infix_append_cons_iff (hnotMem hc)] at h
    by_cases hnil : gap = []
    · rwa [hnil, List.nil_append] at h
    · -- the rest of the gap has nothing before it
      refine h.imp_right fun hrest => ?_
      exact (ih hgap hnil (s := []) hrest).resolve_left exampleName_not_infix_nil

/-- Blanks around a text do not matter. -/
lemma exampleName_infix_padded_iff {a t e : List Char} (ha : Blanks a) (he : Blanks e) :
    exampleName <:+: a ++ t ++ e ↔ exampleName <:+: t := by
  refine ⟨fun h => ?_, fun h => h.trans (List.infix_append a t e)⟩
  have hafter : exampleName <:+: a ++ t := by
    by_cases hne : e = []
    · rwa [hne, List.append_nil] at h
    · rw [← List.append_nil (a ++ t ++ e)] at h
      exact (exampleName_infix_append he hne h).resolve_right exampleName_not_infix_nil
  by_cases hne : a = []
  · rwa [hne] at hafter
  · exact (exampleName_infix_append ha hne (s := []) hafter).resolve_left exampleName_not_infix_nil

/-! ### What is read -/

lemma ofMarks?_eq_some {left right : List Char} :
    ofMarks? left right = some d ↔ d.left = left ∧ d.right = right := by
  unfold ofMarks?
  constructor
  · intro h
    split at h
    · obtain rfl := Option.some.inj h
      exact ⟨rfl, rfl⟩
    · cases h
  · rintro ⟨rfl, rfl⟩
    exact dif_pos ⟨d.left_ne_nil, d.right_ne_nil⟩

lemma spaced_iff : Text.Spaced [d.left, d.right] text ↔ IsPair d text := by
  constructor
  · rintro (_ | @⟨a, left, rest, _, ha, hleft, hend, hrest⟩)
    obtain _ | @⟨gap, right, after, _, hgap, hright, -, hnil⟩ := hrest
    obtain ⟨hafter⟩ := hnil
    refine ⟨hleft, hright, a, gap, after, ha, hgap, ?_, hafter, by simp⟩
    rintro rfl
    obtain ⟨c, cs, hcs⟩ := List.exists_cons_of_ne_nil hright.ne_nil
    rw [hcs] at hend
    exact hright.solid c (by rw [hcs]; exact List.mem_cons_self) (hend c rfl)
  · rintro ⟨hleft, hright, a, gap, e, ha, hgap, hne, he, rfl⟩
    obtain ⟨c, gap, rfl⟩ := List.exists_cons_of_ne_nil hne
    have hlast : Text.Spaced [d.right] (c :: gap ++ d.right ++ e) :=
      .cons hgap hright (fun x hx => he x (List.mem_of_mem_head? hx)) (.nil he)
    have hboth : Text.Spaced [d.left, d.right] (a ++ d.left ++ (c :: gap ++ d.right ++ e)) :=
      .cons ha hleft (fun x hx => hgap x (List.mem_of_mem_head? (by simpa using hx))) hlast
    simpa using hboth

/-- The cut at the name gives the marks of an example. -/
lemma cut?_of_isExample (h : IsExample d text) (hleft : Trimmed d.left) (hright : Trimmed d.right)
    (hname : ¬ exampleName <:+: d.left) :
    ∃ b c, Blanks b ∧ Blanks c ∧
      Text.cut? exampleName (Text.trim text) = some (d.left ++ b, c ++ d.right) := by
  obtain ⟨a, b, c, e, ha, hb, hc, he, rfl⟩ := h
  refine ⟨b, c, hb, hc, ?_⟩
  have hmiddle : Trimmed (d.left ++ (b ++ exampleName ++ c) ++ d.right) := by
    constructor
    · rw [List.append_assoc, List.head?_append_of_ne_nil _ d.left_ne_nil]
      exact hleft.head
    · rw [List.getLast?_append_of_ne_nil _ d.right_ne_nil]
      exact hright.last
  have htrim : Text.trim (a ++ d.left ++ b ++ exampleName ++ c ++ d.right ++ e) =
      d.left ++ (b ++ exampleName ++ c) ++ d.right := by
    rw [← hmiddle.trim_padded ha he]
    simp only [List.append_assoc]
  have hbefore : ¬ exampleName <:+: d.left ++ b :=
    fun hin => hname ((exampleName_infix_padded_iff Text.blanks_nil hb).mp hin)
  rw [htrim, Text.cut?_eq_some, exampleName_unbordered.cutsAt_iff exampleName_isWord.ne_nil]
  exact ⟨hbefore, by simp only [List.append_assoc]⟩

lemma exampleName_not_infix_of_isPair (h : IsPair d text) (hleft : ¬ exampleName <:+: d.left)
    (hright : ¬ exampleName <:+: d.right) : ¬ exampleName <:+: text := by
  obtain ⟨-, -, a, gap, e, ha, hgap, hne, he, rfl⟩ := h
  have htext : a ++ d.left ++ gap ++ d.right ++ e = a ++ (d.left ++ gap ++ d.right) ++ e := by
    simp only [List.append_assoc]
  rw [htext, exampleName_infix_padded_iff ha he]
  exact fun hin => (exampleName_infix_append hgap hne hin).elim hleft hright

/-- **What a text describes**: the trimmed marks around its first name or, if it has no name, the
two words that it is made of. -/
lemma ofMarker?_eq_some_iff : ofMarker? text = some d ↔
    (IsExample d text ∧ Trimmed d.left ∧ Trimmed d.right ∧ ¬ exampleName <:+: d.left) ∨
      (IsPair d text ∧ ¬ exampleName <:+: text) := by
  constructor
  · intro h
    unfold ofMarker? at h
    split at h
    · rename_i l r hcut
      obtain ⟨hleft, hright⟩ := ofMarks?_eq_some.mp h
      obtain ⟨hname, htext⟩ :=
        (exampleName_unbordered.cutsAt_iff exampleName_isWord.ne_nil).mp (Text.cut?_eq_some.mp hcut)
      obtain ⟨a, e, ha, he, hpadded⟩ := Text.exists_padding text
      obtain ⟨a', b, ha', hb, hl⟩ := Text.exists_padding l
      obtain ⟨c, e', hc, he', hr⟩ := Text.exists_padding r
      rw [← hleft] at hl
      rw [← hright] at hr
      refine .inl ⟨⟨a ++ a', b, c, e' ++ e, ha.append ha', hb, hc, he'.append he, ?_⟩, ?_, ?_, ?_⟩
      · rw [hpadded, htext, hl, hr]
        simp only [List.append_assoc]
      · exact hleft ▸ Text.trimmed_trim l
      · exact hright ▸ Text.trimmed_trim r
      · exact fun hin => hname (hin.trans ⟨a', b, hl.symm⟩)
    · rename_i hcut
      split at h
      · rename_i left right hwords
        obtain ⟨rfl, rfl⟩ := ofMarks?_eq_some.mp h
        refine .inr ⟨spaced_iff.mp (Text.words_eq_iff.mp hwords), fun hin => ?_⟩
        obtain ⟨a, e, ha, he, hpadded⟩ := Text.exists_padding text
        rw [hpadded, exampleName_infix_padded_iff ha he] at hin
        exact Text.cut?_eq_none.mp hcut hin
      · cases h
  · rintro (⟨h, hleft, hright, hname⟩ | ⟨h, hname⟩)
    · obtain ⟨b, c, hb, hc, hcut⟩ := cut?_of_isExample h hleft hright hname
      unfold ofMarker?
      rw [hcut]
      refine ofMarks?_eq_some.mpr ⟨?_, ?_⟩
      · simpa using (hleft.trim_padded Text.blanks_nil hb).symm
      · simpa using (hright.trim_padded hc Text.blanks_nil).symm
    · have hcut : Text.cut? exampleName (Text.trim text) = none :=
        Text.cut?_eq_none.mpr fun hin => hname (hin.trans (Text.trim_infix text))
      have hwords : Text.words text = [d.left, d.right] := Text.words_eq_iff.mpr (spaced_iff.mpr h)
      unfold ofMarker?
      rw [hcut, hwords]
      exact ofMarks?_eq_some.mpr ⟨rfl, rfl⟩

/-- An example that is made of the marks themselves. -/
lemma isExample_wrap (d : Delimiters) : IsExample d (d.wrap exampleName) :=
  ⟨[], [], [], [], Text.blanks_nil, Text.blanks_nil, Text.blanks_nil, Text.blanks_nil,
    by simp [wrap]⟩

/-! ### Reading back -/

/-- How marks and the texts that describe them belong together. -/
structure Described (d : Delimiters) (text : List Char) : Prop where
  /-- An example gives its marks, whatever name stands in the second of them. -/
  example_read : IsExample d text → Trimmed d.left → Trimmed d.right →
    ¬ exampleName <:+: d.left → ofMarker? text = some d
  /-- A pair of marks without the name gives the two. -/
  pair_read : IsPair d text → ¬ exampleName <:+: d.left → ¬ exampleName <:+: d.right →
    ofMarker? text = some d
  /-- Marks that are read are not empty and have no blanks at their ends. -/
  sound : ofMarker? text = some d →
    (d.left ≠ [] ∧ d.right ≠ []) ∧ Trimmed d.left ∧ Trimmed d.right
  /-- A text with neither the name nor two words describes no marks. -/
  refused : ¬ exampleName <:+: text → (∀ e, ¬ IsPair e text) → ofMarker? text = none

/-- **Marks survive their description**, and nothing but their descriptions is read. -/
theorem described (d : Delimiters) (text : List Char) : Described d text where
  example_read h hleft hright hname := ofMarker?_eq_some_iff.mpr (.inl ⟨h, hleft, hright, hname⟩)
  pair_read h hleft hright :=
    ofMarker?_eq_some_iff.mpr (.inr ⟨h, exampleName_not_infix_of_isPair h hleft hright⟩)
  sound h := by
    refine ⟨⟨d.left_ne_nil, d.right_ne_nil⟩, ?_⟩
    rcases ofMarker?_eq_some_iff.mp h with ⟨-, hleft, hright, -⟩ | ⟨⟨hleft, hright, -⟩, -⟩
    · exact ⟨hleft, hright⟩
    · exact ⟨hleft.trimmed, hright.trimmed⟩
  refused hname hpair := by
    rcases hread : ofMarker? text with _ | e
    · rfl
    · rcases ofMarker?_eq_some_iff.mp hread with ⟨⟨a, b, c, e', -, -, -, -, htext⟩, -⟩ | ⟨h, -⟩
      · refine absurd ⟨a ++ e.left ++ b, c ++ e.right ++ e', ?_⟩ hname
        rw [htext]
        simp only [List.append_assoc]
      · exact absurd h (hpair e)

/-- The marks `<var` and `variable>`: the first ends as the name starts and the second has it. -/
def straddling : Delimiters := ⟨"<var".toList, "variable>".toList, by decide, by decide⟩

/-- The marks `<?` and `?>`. -/
def queried : Delimiters := ⟨['<', '?'], ['?', '>'], by decide, by decide⟩

theorem described_straddling :
    ofMarker? "<varvariablevariable>".toList = some straddling ∧
      ofMarker? " <? ?>".toList = some queried ∧
      ofMarker? "mustache".toList = none := by
  have hleft : IsWord straddling.left := Text.isWord_of_test (by decide)
  have hright : IsWord straddling.right := Text.isWord_of_test (by decide)
  have hspace : Blanks [' '] := List.forall_mem_singleton.mpr rfl
  have hpair : IsPair queried " <? ?>".toList :=
    ⟨Text.isWord_of_test (by decide), Text.isWord_of_test (by decide), [' '], [' '], [], hspace,
      hspace, by decide, Text.blanks_nil, rfl⟩
  have hone (e : Delimiters) : ¬ IsPair e "mustache".toList := by
    intro h
    have hword : Text.Spaced ["mustache".toList] ([] ++ "mustache".toList ++ []) :=
      .cons Text.blanks_nil (Text.isWord_of_test (by decide)) (by simp) (.nil Text.blanks_nil)
    have htwo : Text.words "mustache".toList = [e.left, e.right] :=
      Text.words_eq_iff.mpr (spaced_iff.mpr h)
    have hlength : 2 = 1 :=
      congrArg List.length (htwo.symm.trans (Text.words_eq_iff.mpr hword))
    exact absurd hlength (by decide)
  refine ⟨?_, ?_, ?_⟩
  · exact (described straddling _).example_read (isExample_wrap straddling) hleft.trimmed
      hright.trimmed (by decide)
  · exact (described queried _).pair_read hpair (by decide) (by decide)
  · exact (described queried _).refused (by decide) hone

end PromptKit.Delimiters
