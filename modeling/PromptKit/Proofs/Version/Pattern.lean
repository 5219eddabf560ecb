import PromptKit.Proofs.Regex.Language
import PromptKit.Proofs.Version.Acceptance
import PromptKit.Proofs.Version.Semantic

/-!
The pattern of versions.

The check of a version accepts exactly what the regular expression `source` matches: it reads as
`pattern`, whose language is that of the versions with digits of any script.
-/

namespace PromptKit

namespace Regex.Pattern

mutual

/-- Patterns that are built alike are the same. -/
theorem eq_of_same {p q : Pattern} (h : same p q) : p = q := by
  cases p with
  | empty =>
    cases q with
    | empty => rfl
    | _ => cases h
  | text a =>
    cases q with
    | text b => exact congrArg text (eq_of_beq h)
    | _ => cases h
  | set s =>
    cases q with
    | set t => exact congrArg set (eq_of_beq h)
    | _ => cases h
  | anchor a =>
    cases q with
    | anchor b => exact congrArg anchor (eq_of_beq h)
    | _ => cases h
  | seq ps =>
    cases q with
    | seq qs => exact congrArg seq (eq_of_sameList h)
    | _ => cases h
  | alt ps =>
    cases q with
    | alt qs => exact congrArg alt (eq_of_sameList h)
    | _ => cases h
  | repeated p a b c =>
    cases q with
    | repeated q d e f =>
      simp only [same, Bool.and_eq_true, beq_iff_eq] at h
      obtain ⟨⟨⟨hp, rfl⟩, rfl⟩, rfl⟩ := h
      rw [eq_of_same hp]
    | _ => cases h
  | group i p =>
    cases q with
    | group j q =>
      simp only [same, Bool.and_eq_true, beq_iff_eq] at h
      obtain ⟨rfl, hp⟩ := h
      rw [eq_of_same hp]
    | _ => cases h

lemma eq_of_sameList {ps qs : List Pattern} (h : sameList ps qs) : ps = qs := by
  cases ps with
  | nil =>
    cases qs with
    | nil => rfl
    | cons q qs => cases h
  | cons p ps =>
    cases qs with
    | nil => cases h
    | cons q qs =>
      simp only [sameList, Bool.and_eq_true] at h
      rw [eq_of_same h.1, eq_of_sameList h.2]

end

end Regex.Pattern

namespace Version

open Regex
open scoped Computability

/-! ### The pattern -/

/-- A version as a regular expression. -/
def source : String :=
  "^v?(0|[1-9]\\d*)\\.(0|[1-9]\\d*)\\.(0|[1-9]\\d*)" ++
  "(?:-((?:0|[1-9]\\d*|\\d*[a-zA-Z-][0-9a-zA-Z-]*)" ++
  "(?:\\.(?:0|[1-9]\\d*|\\d*[a-zA-Z-][0-9a-zA-Z-]*))*))?" ++
  "(?:\\+([0-9a-zA-Z-]+(?:\\.[0-9a-zA-Z-]+)*))?$"

def letterSet : Unicode.Ranges := [(45, 45), (65, 90), (97, 122)]

def identifierSet : Unicode.Ranges := [(45, 45), (48, 57), (65, 90), (97, 122)]

/-- Any number of decimal digits. -/
def digitsPattern : Pattern := .repeated (.set (Unicode.Category.ranges .nd)) 0 none true

def zeroPattern : Pattern := .text ['0']

def countPattern : Pattern := .seq [.set [(49, 57)], digitsPattern]

def wordPattern : Pattern :=
  .seq [digitsPattern, .set letterSet, .repeated (.set identifierSet) 0 none true]

def numberPattern : Pattern := .alt [zeroPattern, countPattern]

def preReleasePattern : Pattern := .alt [zeroPattern, countPattern, wordPattern]

def buildPattern : Pattern := .repeated (.set identifierSet) 1 none true

/-- Identifiers with dots between them. -/
def dottedPattern (p : Pattern) : Pattern :=
  .seq [p, .repeated (.seq [.text ['.'], p]) 0 none true]

/-- Identifiers behind a mark, which may be left out. -/
def markedPattern (mark : Char) (group : Nat) (p : Pattern) : Pattern :=
  .repeated (.seq [.text [mark], .group group (dottedPattern p)]) 0 (some 1) true

/-- What stands between the start and the end of the text. -/
def bodyPattern : List Pattern :=
  [.repeated (.text ['v']) 0 (some 1) true, .group 0 numberPattern, .text ['.'],
    .group 1 numberPattern, .text ['.'], .group 2 numberPattern,
    markedPattern '-' 3 preReleasePattern, markedPattern '+' 4 buildPattern]

def pattern : Pattern := .seq (.anchor .textStart :: (bodyPattern ++ [.anchor .textEnd]))

/-- Whether reading a regular expression gives a pattern. -/
def readsAs (source : String) (p : Pattern) : Bool :=
  match Regex.compile source with
  | .ok r => r.source == source && r.pattern.same p
  | .error _ => false

lemma compile_of_readsAs {s : String} {p : Pattern} (h : readsAs s p) :
    Regex.compile s = .ok ⟨s, p⟩ := by
  unfold readsAs at h
  split at h
  · rename_i r hr
    rw [Bool.and_eq_true, beq_iff_eq] at h
    rw [hr]
    exact congrArg Except.ok (congr (congrArg Regex.mk h.1) (Pattern.eq_of_same h.2))
  · cases h

theorem compile_source : Regex.compile source = .ok ⟨source, pattern⟩ :=
  compile_of_readsAs (by decide +kernel)

/-! ### The language of the pattern -/

open Name (IsLetter IsDigit)

lemma contains_letterSet {c : Char} : letterSet.contains c.toNat ↔ IsLetter c ∨ c = '-' := by
  have hdash : c = '-' ↔ c.toNat = 45 := Char.toNat_inj.symm
  rw [isLetter_iff_toNat, hdash]
  simp only [letterSet, Unicode.Ranges.contains, List.any_cons, List.any_nil, Bool.or_eq_true,
    Bool.and_eq_true, decide_eq_true_eq, Bool.false_eq_true, or_false]
  omega

lemma contains_identifierSet {c : Char} :
    identifierSet.contains c.toNat ↔ IsIdentifierChar c := by
  have hdash : c = '-' ↔ c.toNat = 45 := Char.toNat_inj.symm
  rw [IsIdentifierChar, isDigit_iff_toNat, isLetter_iff_toNat, hdash]
  simp only [identifierSet, Unicode.Ranges.contains, List.any_cons, List.any_nil, Bool.or_eq_true,
    Bool.and_eq_true, decide_eq_true_eq, Bool.false_eq_true, or_false]
  omega

lemma spells_digits : digitsPattern.Spells (oneOf fun c => Unicode.isDecimalDigit c)∗ :=
  (Pattern.Spells.set (Unicode.Category.ranges .nd)).star true

/-- The counts that do not start with zero. -/
lemma spells_count : countPattern.Spells (textsOf fun t =>
    ∃ c cs, t = c :: cs ∧ ('1' ≤ c ∧ c ≤ '9') ∧ ∀ d ∈ cs, Unicode.isDecimalDigit d) := by
  refine ((Pattern.Spells.set _).cons (spells_digits.cons .nil)).of_mem_iff fun t => ?_
  have hfirst (c : Char) : Unicode.Ranges.contains [(49, 57)] c.toNat ↔ '1' ≤ c ∧ c ≤ '9' := by
    have hrange : ('1' ≤ c ∧ c ≤ '9') ↔ 49 ≤ c.toNat ∧ c.toNat ≤ 57 := Iff.rfl
    simp [Unicode.Ranges.contains, hrange]
  simp only [mul_one, mem_oneOf_mul, mem_kstar_oneOf, hfirst, mem_textsOf]

lemma spells_word : wordPattern.Spells (textsOf IsScriptedWord) := by
  refine (spells_digits.cons ((Pattern.Spells.set _).cons
    (((Pattern.Spells.set _).star true).cons .nil))).of_mem_iff fun t => ?_
  rw [mul_one, Language.mem_mul]
  simp only [mem_oneOf_mul, mem_kstar_oneOf, contains_letterSet, contains_identifierSet,
    mem_textsOf]
  constructor
  · rintro ⟨ds, hds, _, ⟨c, cs, rfl, hc, hcs⟩, rfl⟩
    exact ⟨ds, c, cs, rfl, hds, hc, hcs⟩
  · rintro ⟨ds, c, cs, rfl, hds, hc, hcs⟩
    exact ⟨ds, hds, _, ⟨c, cs, rfl, hc, hcs⟩, rfl⟩

lemma spells_number : numberPattern.Spells (textsOf IsScriptedNumber) := by
  refine ((Pattern.Spells.text _).or (spells_count.or .never)).of_mem_iff fun t => ?_
  rw [add_zero, Language.mem_add]
  rfl

lemma spells_preRelease : preReleasePattern.Spells (textsOf scripted.preRelease) := by
  refine ((Pattern.Spells.text _).or (spells_count.or (spells_word.or .never))).of_mem_iff
    fun t => ?_
  rw [add_zero, ← add_assoc, Language.mem_add, Language.mem_add]
  rfl

lemma spells_build : buildPattern.Spells (textsOf IsBuildId) := by
  refine ((Pattern.Spells.set identifierSet).plus true).of_mem_iff fun t => ?_
  simp only [mem_oneOf_mul, mem_kstar_oneOf, contains_identifierSet, mem_textsOf]
  constructor
  · rintro ⟨c, cs, rfl, hc, hcs⟩
    exact ⟨by simp, List.forall_mem_cons.mpr ⟨hc, hcs⟩⟩
  · rintro ⟨hne, ht⟩
    obtain ⟨c, cs, rfl⟩ := List.exists_cons_of_ne_nil hne
    exact ⟨c, cs, rfl, List.forall_mem_cons.mp ht⟩

section Marked

variable {p : Pattern} {q : List Char → Prop}

lemma spells_dotted (h : p.Spells (textsOf q)) :
    (dottedPattern p).Spells (textsOf (Parts.IsDotted q)) := by
  refine (h.cons ((((Pattern.Spells.text ['.']).cons (h.cons .nil)).star true).cons
    .nil)).of_mem_iff fun t => ?_
  have hpart (t : List Char) :
      t ∈ ({['.']} * textsOf q : Language Char) ↔ ∃ u, q u ∧ t = '.' :: u := mem_singleton_mul
  rw [mul_one, mul_one, Language.mem_mul]
  simp only [Language.mem_kstar, hpart, mem_textsOf]
  constructor
  · rintro ⟨t, ht, _, ⟨parts, rfl, hparts⟩, rfl⟩
    have hmap : parts = (parts.map List.tail).map ('.' :: ·) := by
      rw [List.map_map]
      refine (List.map_id parts).symm.trans (List.map_congr_left fun part hmem => ?_)
      obtain ⟨id, -, rfl⟩ := hparts part hmem
      rfl
    refine ⟨t :: parts.map List.tail, by rw [Parts.dotted_cons, ← hmap], by simp, ?_⟩
    rw [List.forall_mem_cons, List.forall_mem_map]
    refine ⟨ht, fun part hmem => ?_⟩
    obtain ⟨id, hid, rfl⟩ := hparts part hmem
    exact hid
  · rintro ⟨ids, rfl, hne, hids⟩
    obtain ⟨t, ids, rfl⟩ := List.exists_cons_of_ne_nil hne
    rw [List.forall_mem_cons] at hids
    refine ⟨t, hids.1, (ids.map ('.' :: ·)).flatten, ⟨ids.map ('.' :: ·), rfl, ?_⟩,
      (Parts.dotted_cons t ids).symm⟩
    rw [List.forall_mem_map]
    exact fun id hid => ⟨id, hids.2 id hid, rfl⟩

lemma spells_marked (h : p.Spells (textsOf q)) (mark : Char) (group : Nat) :
    (markedPattern mark group p).Spells
      (textsOf fun t => ∃ ids : Option (List (List Char)), t = Parts.marked mark ids ∧
        ∀ i ∈ ids, i ≠ [] ∧ ∀ id ∈ i, q id) := by
  refine (((Pattern.Spells.text [mark]).cons (((spells_dotted h).group group).cons
    .nil)).optional true).of_mem_iff fun t => ?_
  simp only [mul_one, Language.mem_add, Language.mem_one, mem_singleton_mul, mem_textsOf]
  constructor
  · rintro (rfl | ⟨_, ⟨ids, rfl, hids⟩, rfl⟩)
    · exact ⟨none, rfl, by simp⟩
    · exact ⟨some ids, rfl, by simpa using hids⟩
  · rintro ⟨_ | ids, rfl, hids⟩
    · exact .inl rfl
    · exact .inr ⟨_, ⟨ids, rfl, hids ids rfl⟩, rfl⟩

end Marked

/-- **The language of the pattern** is that of the accepted versions. -/
theorem spells_body : (Pattern.seq bodyPattern).Spells (textsOf (IsVersion scripted)) := by
  have hnumber (i : Nat) := spells_number.group i
  have hdot := Pattern.Spells.text ['.']
  refine (((Pattern.Spells.text ['v']).optional true).cons ((hnumber 0).cons (hdot.cons
    ((hnumber 1).cons (hdot.cons ((hnumber 2).cons ((spells_marked spells_preRelease '-' 3).cons
      ((spells_marked spells_build '+' 4).cons .nil)))))))).of_mem_iff fun t => ?_
  simp only [mul_one, Language.mem_mul, Language.mem_add, Language.mem_one, mem_textsOf]
  constructor
  · rintro ⟨v, hv, _, ⟨a, ha, _, ⟨_, rfl, _, ⟨b, hb, _, ⟨_, rfl, _, ⟨c, hc, _,
      ⟨_, ⟨pre, rfl, hpre⟩, _, ⟨build, rfl, hbuild⟩, rfl⟩, rfl⟩, rfl⟩, rfl⟩, rfl⟩, rfl⟩, rfl⟩
    refine ⟨⟨a, b, c, pre, build⟩, ⟨ha, hb, hc, hpre, hbuild⟩, ?_⟩
    rw [Parts.text_eq]
    rcases hv with rfl | rfl
    · exact .inl rfl
    · exact .inr rfl
  · rintro ⟨p, hp, ht⟩
    obtain ⟨v, hv, rfl⟩ : ∃ v, (v = [] ∨ v ∈ ({['v']} : Language Char)) ∧ v ++ p.text = t := by
      rcases ht with rfl | rfl
      · exact ⟨[], .inl rfl, rfl⟩
      · exact ⟨['v'], .inr rfl, rfl⟩
    refine ⟨v, hv, _, ⟨p.major, hp.major, _, ⟨_, rfl, _, ⟨p.minor, hp.minor, _, ⟨_, rfl, _,
      ⟨p.patch, hp.patch, _, ⟨_, ⟨p.preRelease, rfl, hp.preRelease⟩, _,
        ⟨p.build, rfl, hp.build⟩, rfl⟩, rfl⟩, rfl⟩, rfl⟩, rfl⟩, rfl⟩, ?_⟩
    rw [Parts.text_eq]

/-! ### The verdict -/

lemma check_eq_ok_iff {s : String} : check s = .ok () ↔ IsVersion scripted s.toList := by
  rw [← isVersion_iff, check]
  split
  · rename_i h
    exact iff_of_true rfl h
  · rename_i h
    exact iff_of_false (by simp [throw, throwThe, MonadExceptOf.throw]) h

/-- What the check says of a text. -/
structure Verdict (s : String) : Prop where
  /-- It accepts the versions with digits of any script. -/
  accepted : check s = .ok () ↔ IsVersion scripted s.toList
  /-- It names every other text in its error. -/
  refused : check s = .ok () ∨ check s = .error (.version s)
  /-- It accepts what the regular expression matches. -/
  matched : ∃ r, Regex.compile source = .ok r ∧ (r.isMatch s ↔ check s = .ok ())
  /-- The semantic versions are the accepted texts whose decimal digits are those of ASCII. -/
  semantic : IsVersion semantic s.toList ↔ check s = .ok () ∧ ∀ c ∈ s.toList, IsPlain c

/-- **The check of a version** accepts the semantic versions and, of all other texts, only those
that are versions but for decimal digits beyond ASCII. -/
theorem check_verdict (s : String) : Verdict s where
  accepted := check_eq_ok_iff
  refused := by
    by_cases h : isVersion s.toList
    · exact .inl (if_pos h)
    · exact .inr (if_neg h)
  matched := by
    refine ⟨⟨source, pattern⟩, compile_source, ?_⟩
    rw [check_eq_ok_iff, isMatch_anchored rfl spells_body, mem_textsOf]
  semantic := by rw [check_eq_ok_iff, isVersion_semantic_iff]

/-- The check accepts a text that is no semantic version: its first number is a one and an
Arabic-Indic two. -/
theorem check_beyond_semantic :
    check "1\u0662.0.0" = .ok () ∧ ¬ IsVersion semantic "1\u0662.0.0".toList := by
  refine ⟨rfl, fun h => ?_⟩
  have hplain : IsPlain '\u0662' := (isVersion_semantic_iff.mp h).2 _ (by decide)
  have hle : '\u0662' ≤ '9' := (hplain (by decide)).2
  exact absurd hle (by decide)

end Version

end PromptKit
