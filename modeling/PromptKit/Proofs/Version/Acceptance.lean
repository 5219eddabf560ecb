import Mathlib.Data.List.TakeWhile
import PromptKit.Proofs.Text.Occurrence
import PromptKit.Proofs.Text.Split
import PromptKit.Proofs.Version.Grammar

/-!
What the check of a version accepts.

The check takes a version apart at its marks and its dots. No number or identifier has one of
them, so it finds the parts that a version was made of.
-/

namespace PromptKit.Version

open Name (IsLetter IsDigit)

/-! ### Numbers and identifiers -/

lemma isNumber_iff {t : List Char} : isNumber t ↔ IsScriptedNumber t := by
  unfold isNumber IsScriptedNumber
  split
  · simp
  · simp
  · rename_i c cs hzero
    have hdigit : c.isDigit ∧ c ≠ '0' ↔ '1' ≤ c ∧ c ≤ '9' := by
      rw [Name.isDigit_iff, isDigit_iff_toNat, Ne, ← Char.toNat_inj]
      have hone : ('1' ≤ c ∧ c ≤ '9') ↔ 49 ≤ c.toNat ∧ c.toNat ≤ 57 := Iff.rfl
      have hzero : '0'.toNat = 48 := rfl
      rw [hone, hzero]
      omega
    have hne : c :: cs ≠ ['0'] := by
      rintro h
      exact hzero (List.cons.inj h).1 (List.cons.inj h).2
    simp only [Bool.and_eq_true, bne_iff_ne, List.all_eq_true, hdigit, hne, false_or]
    constructor
    · rintro ⟨hc, hcs⟩
      exact ⟨c, cs, rfl, hc, hcs⟩
    · rintro ⟨_, _, h, hc, hcs⟩
      obtain ⟨rfl, rfl⟩ := List.cons.inj h
      exact ⟨hc, hcs⟩

lemma isWord_iff {t : List Char} : isWord t ↔ IsScriptedWord t := by
  have hletter {c : Char} : (c.isAlpha || decide (c = '-')) = true ↔ IsLetter c ∨ c = '-' := by
    rw [Bool.or_eq_true, Name.isAlpha_iff, decide_eq_true_iff]
  unfold isWord
  constructor
  · intro h
    split at h
    · cases h
    · rename_i c rest hrest
      rw [Bool.and_eq_true, hletter, List.all_eq_true] at h
      refine ⟨t.takeWhile Unicode.isDecimalDigit, c, rest, ?_, ?_, h.1, ?_⟩
      · rw [← hrest, List.takeWhile_append_dropWhile]
      · exact fun d hd => List.mem_takeWhile_imp hd
      · exact fun d hd => isIdentifierChar_iff.mp (h.2 d hd)
  · rintro ⟨ds, c, cs, rfl, hds, hc, hcs⟩
    have hdrop : (ds ++ c :: cs).dropWhile Unicode.isDecimalDigit = c :: cs := by
      rw [List.dropWhile_append_of_pos hds,
        List.dropWhile_cons_of_neg (not_isDecimalDigit_of_isLetter hc)]
    rw [hdrop]
    simp only [Bool.and_eq_true, hletter, List.all_eq_true]
    exact ⟨hc, fun d hd => isIdentifierChar_iff.mpr (hcs d hd)⟩

lemma isBuildId_iff {t : List Char} : (!t.isEmpty && t.all isIdentifierChar) ↔ IsBuildId t := by
  simp [IsBuildId, isIdentifierChar_iff]

/-! ### The parts of a version -/

lemma before_eq_iff {sep : Char} {cs a : List Char} {r : Option (List Char)} :
    before sep cs = (a, r) ↔ sep ∉ a ∧ cs = a ++ r.elim [] (sep :: ·) := by
  have hnone : Text.cut? [sep] cs = none ↔ sep ∉ cs := by
    rw [Text.cut?_eq_none, List.singleton_infix_iff]
  have hunbordered : Text.Unbordered [sep] := by
    intro k hk hpos
    rw [List.length_singleton] at hk
    omega
  have hsome (a b : List Char) : Text.cut? [sep] cs = some (a, b) ↔
      sep ∉ a ∧ cs = a ++ sep :: b := by
    rw [Text.cut?_eq_some, hunbordered.cutsAt_iff (by simp), List.singleton_infix_iff,
      List.append_assoc]
    rfl
  unfold before
  split
  · rename_i b c hcut
    obtain ⟨hb, hcs⟩ := (hsome b c).mp hcut
    constructor
    · intro h
      obtain ⟨rfl, rfl⟩ := Prod.mk.inj h
      exact ⟨hb, hcs⟩
    · rintro ⟨ha, hcs'⟩
      cases r with
      | none =>
        have hmem : sep ∈ cs := by simp [hcs]
        rw [Option.elim_none, List.append_nil] at hcs'
        exact absurd (hcs' ▸ hmem) ha
      | some d =>
        have hd := (hsome a d).mpr ⟨ha, hcs'⟩
        rw [hcut] at hd
        obtain ⟨rfl, rfl⟩ := Prod.mk.inj (Option.some.inj hd)
        rfl
  · rename_i hcut
    have hmem : sep ∉ cs := hnone.mp hcut
    constructor
    · intro h
      obtain ⟨rfl, rfl⟩ := Prod.mk.inj h
      exact ⟨hmem, by simp⟩
    · rintro ⟨-, hcs⟩
      cases r with
      | none =>
        rw [hcs]
        simp
      | some d =>
        rw [hcs] at hmem
        simp at hmem

lemma isCore_iff {t : List Char} :
    isCore t ↔ ∃ a b c, t = Parts.dotted [a, b, c] ∧ IsScriptedNumber a ∧ IsScriptedNumber b ∧
      IsScriptedNumber c := by
  have hcore : isCore t ↔ (Text.split '.' t).length = 3 ∧
      ∀ part ∈ Text.split '.' t, IsScriptedNumber part := by
    simp [isCore, isNumber_iff]
  rw [hcore]
  constructor
  · rintro ⟨hlength, hparts⟩
    obtain ⟨a, b, c, habc⟩ := List.length_eq_three.mp hlength
    rw [habc] at hparts
    exact ⟨a, b, c, (Text.split_eq_iff.mp habc).2.1, hparts a (by simp), hparts b (by simp),
      hparts c (by simp)⟩
  · rintro ⟨a, b, c, rfl, ha, hb, hc⟩
    have hparts : ∀ part ∈ [a, b, c], IsScriptedNumber part := by simp [ha, hb, hc]
    have hsplit : Text.split '.' (Parts.dotted [a, b, c]) = [a, b, c] :=
      Text.split_eq_iff.mpr ⟨by simp, rfl, fun part hpart =>
        notMem_of_follow (by decide) (.inl (hparts part hpart))⟩
    rw [hsplit]
    exact ⟨rfl, hparts⟩

/-- A text that is split at its dots into identifiers is made of such identifiers. -/
lemma all_split_iff {test : List Char → Bool} {q : List Char → Prop} (htest : ∀ t, test t ↔ q t)
    (hdot : ∀ t, q t → '.' ∉ t) {t : List Char} :
    (Text.split '.' t).all test ↔ Parts.IsDotted q t := by
  simp only [List.all_eq_true, htest]
  constructor
  · intro h
    obtain ⟨hne, ht, -⟩ := Text.split_eq_iff.mp (rfl : Text.split '.' t = _)
    exact ⟨_, ht, hne, h⟩
  · rintro ⟨ids, rfl, hne, hids⟩
    have hsplit : Text.split '.' (Parts.dotted ids) = ids :=
      Text.split_eq_iff.mpr ⟨hne, rfl, fun id hid => hdot id (hids id hid)⟩
    rwa [hsplit]

lemma isPreRelease_iff {t : List Char} :
    isPreRelease t ↔ Parts.IsDotted scripted.preRelease t := by
  refine all_split_iff (fun t => ?_) fun t ht => notMem_of_follow (by decide) (.inr (.inl ht))
  rw [Bool.or_eq_true, isNumber_iff, isWord_iff]
  rfl

lemma isBuild_iff {t : List Char} : isBuild t ↔ Parts.IsDotted scripted.build t :=
  all_split_iff (fun _ => isBuildId_iff) fun _ ht => notMem_of_follow (by decide) (.inr (.inr ht))

lemma marked_eq (mark : Char) (ids : Option (List (List Char))) :
    Parts.marked mark ids = (ids.map Parts.dotted).elim [] (mark :: ·) := by
  cases ids with
  | none => rfl
  | some ids => rfl

/-- A part that may be left out. -/
lemma option_all_iff {test : List Char → Bool} {q : List Char → Prop}
    (htest : ∀ t, test t ↔ Parts.IsDotted q t) {o : Option (List Char)} :
    o.all test ↔ ∃ ids : Option (List (List Char)), o = ids.map Parts.dotted ∧
      ∀ i ∈ ids, i ≠ [] ∧ ∀ id ∈ i, q id := by
  cases o with
  | none =>
    rw [Option.all_none]
    exact iff_of_true rfl ⟨none, rfl, by simp⟩
  | some t =>
    rw [Option.all_some, htest]
    constructor
    · rintro ⟨ids, rfl, hids⟩
      exact ⟨some ids, rfl, by simpa using hids⟩
    · rintro ⟨_ | ids, ho, hids⟩
      · cases ho
      · exact ⟨ids, Option.some.inj ho, hids ids rfl⟩

/-- A version without its leading `v`. -/
def isBody (t : List Char) : Bool :=
  let (t, build) := before '+' t
  let (core, pre) := before '-' t
  isCore core && pre.all isPreRelease && build.all isBuild

lemma isVersion_eq (t : List Char) :
    isVersion t = isBody (match t with
      | 'v' :: rest => rest
      | _ => t) := rfl

namespace Parts

variable {p : Parts}

/-- The first dash of a version stands behind its numbers. -/
lemma Follow.dash_notMem (h : p.Follow scripted) : '-' ∉ p.core := by
  have hcore : ∀ c ∈ p.core, c ≠ '-' := by
    refine (forall_mem_dotted_iff (by decide)).mpr fun t ht c hc hdash => ?_
    have hdigit : Unicode.isDecimalDigit c :=
      IsScriptedNumber.isDecimalDigit (h.number_of_mem t ht) c hc
    rw [hdash] at hdigit
    exact absurd hdigit (by decide)
  exact fun hmem => hcore '-' hmem rfl

/-- The first plus of a version stands behind its pre-release. -/
lemma Follow.plus_notMem (h : p.Follow scripted) : '+' ∉ p.core ++ marked '-' p.preRelease := by
  have hplus {t : List Char} (ht : scripted.number t ∨ scripted.preRelease t) :
      ∀ c ∈ t, c ≠ '+' := by
    rintro c hc rfl
    exact notMem_of_follow (by decide) (ht.imp_right .inl) hc
  have hall : ∀ c ∈ p.core ++ marked '-' p.preRelease, c ≠ '+' := by
    rw [List.forall_mem_append]
    refine ⟨(forall_mem_dotted_iff (by decide)).mpr fun t ht => hplus (.inl (h.number_of_mem t ht)),
      (forall_mem_marked_iff (by decide) (by decide)).mpr fun i hi t ht =>
        hplus (.inr ((h.preRelease i hi).2 t ht))⟩
  exact fun hmem => hall '+' hmem rfl

end Parts

lemma isBody_iff {t : List Char} : isBody t ↔ ∃ p : Parts, p.Follow scripted ∧ t = p.text := by
  have hbody (t₁ core : List Char) (pre build : Option (List Char))
      (hbuild : before '+' t = (t₁, build)) (hpre : before '-' t₁ = (core, pre)) :
      isBody t ↔ isCore core ∧ pre.all isPreRelease ∧ build.all isBuild := by
    simp [isBody, hbuild, hpre, and_assoc]
  constructor
  · intro h
    rcases hbuild : before '+' t with ⟨t₁, build⟩
    rcases hpre : before '-' t₁ with ⟨core, pre⟩
    obtain ⟨hcore, hpre', hbuild'⟩ := (hbody t₁ core pre build hbuild hpre).mp h
    obtain ⟨a, b, c, rfl, ha, hb, hc⟩ := isCore_iff.mp hcore
    obtain ⟨preIds, rfl, hpreIds⟩ := (option_all_iff fun _ => isPreRelease_iff).mp hpre'
    obtain ⟨buildIds, rfl, hbuildIds⟩ := (option_all_iff fun _ => isBuild_iff).mp hbuild'
    refine ⟨⟨a, b, c, preIds, buildIds⟩, ⟨ha, hb, hc, hpreIds, hbuildIds⟩, ?_⟩
    rw [(before_eq_iff.mp hbuild).2, (before_eq_iff.mp hpre).2, ← marked_eq, ← marked_eq]
    rfl
  · rintro ⟨p, hp, rfl⟩
    have hbuild : before '+' p.text =
        (p.core ++ Parts.marked '-' p.preRelease, p.build.map Parts.dotted) := by
      refine before_eq_iff.mpr ⟨hp.plus_notMem, ?_⟩
      rw [← marked_eq, Parts.text]
    have hpre : before '-' (p.core ++ Parts.marked '-' p.preRelease) =
        (p.core, p.preRelease.map Parts.dotted) := by
      refine before_eq_iff.mpr ⟨hp.dash_notMem, ?_⟩
      rw [← marked_eq]
    refine (hbody _ _ _ _ hbuild hpre).mpr ⟨?_, ?_, ?_⟩
    · exact isCore_iff.mpr ⟨p.major, p.minor, p.patch, rfl, hp.major, hp.minor, hp.patch⟩
    · exact (option_all_iff fun _ => isPreRelease_iff).mpr ⟨p.preRelease, rfl, hp.preRelease⟩
    · exact (option_all_iff fun _ => isBuild_iff).mpr ⟨p.build, rfl, hp.build⟩

/-- A version starts with a digit. -/
lemma exists_text_eq_cons {p : Parts} (h : p.Follow scripted) :
    ∃ c cs, p.text = c :: cs ∧ Unicode.isDecimalDigit c := by
  obtain ⟨c, cs, hmajor⟩ : ∃ c cs, p.major = c :: cs := by
    rcases h.major with hzero | ⟨c, cs, hmajor, -⟩
    · exact ⟨'0', [], hzero⟩
    · exact ⟨c, cs, hmajor⟩
  have hdigit : Unicode.isDecimalDigit c :=
    IsScriptedNumber.isDecimalDigit h.major c (by rw [hmajor]; exact List.mem_cons_self)
  exact ⟨c, _, by rw [Parts.text_eq, hmajor]; rfl, hdigit⟩

/-- **What the check accepts**: the versions with digits of any script. -/
theorem isVersion_iff {t : List Char} : isVersion t ↔ IsVersion scripted t := by
  rw [isVersion_eq, isBody_iff]
  constructor
  · rintro ⟨p, hp, ht⟩
    refine ⟨p, hp, ?_⟩
    split at ht
    · exact .inr (ht ▸ rfl)
    · exact .inl ht
  · rintro ⟨p, hp, rfl | rfl⟩
    · obtain ⟨c, cs, htext, hc⟩ := exists_text_eq_cons hp
      refine ⟨p, hp, ?_⟩
      rw [htext]
      split
      · rename_i hv
        obtain ⟨rfl, -⟩ := List.cons.inj hv
        exact absurd hc (by decide)
      · rfl
    · exact ⟨p, hp, rfl⟩

end PromptKit.Version
