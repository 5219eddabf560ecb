import PromptKit.Proofs.Name
import PromptKit.Version

/-!
The grammar of versions.

A version is made of three numbers, a pre-release and a build. What a number and an identifier
may be is left to some `Rules`: those of Semantic Versioning, which are about ASCII, and those
that the check goes by, which admit the decimal digits of every script.
-/

namespace PromptKit.Version

open Name (IsLetter IsDigit)

/-! ### Versions -/

/-- What the three numbers of a version and the identifiers of its other parts may be. -/
structure Rules where
  number : List Char → Prop
  preRelease : List Char → Prop
  build : List Char → Prop

structure Parts where
  major : List Char
  minor : List Char
  patch : List Char
  preRelease : Option (List (List Char)) := none
  build : Option (List (List Char)) := none

namespace Parts

/-- Texts with dots between them. -/
def dotted (parts : List (List Char)) : List Char := ['.'].intercalate parts

/-- Texts of a kind, at least one, with dots between them. -/
def IsDotted (q : List Char → Prop) (t : List Char) : Prop :=
  ∃ ids, t = dotted ids ∧ ids ≠ [] ∧ ∀ id ∈ ids, q id

/-- Identifiers behind a mark, if there are any. -/
def marked (mark : Char) (ids : Option (List (List Char))) : List Char :=
  ids.elim [] fun ids => mark :: dotted ids

def core (p : Parts) : List Char := dotted [p.major, p.minor, p.patch]

def text (p : Parts) : List Char := p.core ++ marked '-' p.preRelease ++ marked '+' p.build

structure Follow (r : Rules) (p : Parts) : Prop where
  major : r.number p.major
  minor : r.number p.minor
  patch : r.number p.patch
  preRelease : ∀ ids ∈ p.preRelease, ids ≠ [] ∧ ∀ id ∈ ids, r.preRelease id
  build : ∀ ids ∈ p.build, ids ≠ [] ∧ ∀ id ∈ ids, r.build id

end Parts

/-- The text of some parts that follow the rules, or that text behind a `v`. -/
def IsVersion (r : Rules) (t : List Char) : Prop :=
  ∃ p : Parts, p.Follow r ∧ (t = p.text ∨ t = 'v' :: p.text)

/-! ### Semantic Versioning -/

def IsIdentifierChar (c : Char) : Prop := IsDigit c ∨ IsLetter c ∨ c = '-'

/-- Digits without a leading zero. -/
def IsNumeric (t : List Char) : Prop :=
  t ≠ [] ∧ (∀ c ∈ t, IsDigit c) ∧ (t.head? = some '0' → t = ['0'])

def IsBuildId (t : List Char) : Prop := t ≠ [] ∧ ∀ c ∈ t, IsIdentifierChar c

/-- An identifier that has no leading zero if it is all digits. -/
def IsPreReleaseId (t : List Char) : Prop :=
  t ≠ [] ∧ (∀ c ∈ t, IsIdentifierChar c) ∧
    ((∀ c ∈ t, IsDigit c) → t.head? = some '0' → t = ['0'])

/-- The rules of Semantic Versioning 2.0.0. -/
def semantic : Rules := ⟨IsNumeric, IsPreReleaseId, IsBuildId⟩

/-! ### Digits of any script -/

/-- Zero, or a digit of ASCII that is not zero with decimal digits of any script behind it. -/
def IsScriptedNumber (t : List Char) : Prop :=
  t = ['0'] ∨ ∃ c cs, t = c :: cs ∧ ('1' ≤ c ∧ c ≤ '9') ∧ ∀ d ∈ cs, Unicode.isDecimalDigit d

/-- Decimal digits of any script, then a letter or a dash, then identifier characters. -/
def IsScriptedWord (t : List Char) : Prop :=
  ∃ ds c cs, t = ds ++ c :: cs ∧ (∀ d ∈ ds, Unicode.isDecimalDigit d) ∧ (IsLetter c ∨ c = '-') ∧
    ∀ d ∈ cs, IsIdentifierChar d

/-- The rules by which a version is checked. -/
def scripted : Rules :=
  ⟨IsScriptedNumber, fun t => IsScriptedNumber t ∨ IsScriptedWord t, IsBuildId⟩

/-! ### Characters -/

lemma isIdentifierChar_iff {c : Char} : isIdentifierChar c ↔ IsIdentifierChar c := by
  have h : isIdentifierChar c = (c.isAlpha || c.isDigit || decide (c = '-')) := rfl
  rw [h, Bool.or_eq_true, Bool.or_eq_true, Name.isAlpha_iff, Name.isDigit_iff, decide_eq_true_iff,
    IsIdentifierChar, or_assoc, or_left_comm]

lemma isDigit_iff_toNat {c : Char} : IsDigit c ↔ 48 ≤ c.toNat ∧ c.toNat ≤ 57 := Iff.rfl

lemma isLetter_iff_toNat {c : Char} :
    IsLetter c ↔ (97 ≤ c.toNat ∧ c.toNat ≤ 122) ∨ (65 ≤ c.toNat ∧ c.toNat ≤ 90) := Iff.rfl

lemma toNat_lt_of_isIdentifierChar {c : Char} (h : IsIdentifierChar c) : c.toNat < 128 := by
  rw [IsIdentifierChar, isDigit_iff_toNat, isLetter_iff_toNat] at h
  rcases h with h | h | rfl
  · omega
  · omega
  · decide

/-- The decimal digits of ASCII are its ten digits. -/
lemma isDigit_or_le_of_isDecimalDigit {c : Char} (h : Unicode.isDecimalDigit c) :
    IsDigit c ∨ 128 ≤ c.toNat := by
  have hranges : ∀ r ∈ Unicode.Category.ndRanges, r = (48, 57) ∨ 128 ≤ r.1 := by decide +kernel
  obtain ⟨r, hr, hc⟩ := List.any_eq_true.mp h
  rw [Bool.and_eq_true, decide_eq_true_eq, decide_eq_true_eq] at hc
  rcases hranges r hr with rfl | hle
  · exact .inl (isDigit_iff_toNat.mpr hc)
  · exact .inr (Nat.le_trans hle hc.1)

lemma isDecimalDigit_of_isDigit {c : Char} (h : IsDigit c) : Unicode.isDecimalDigit c :=
  Unicode.isDecimalDigit_of_isDigit (Name.isDigit_iff.mpr h)

/-- In an identifier only the digits of ASCII are decimal digits. -/
lemma isDigit_of_isIdentifierChar {c : Char} (h : IsIdentifierChar c)
    (hd : Unicode.isDecimalDigit c) : IsDigit c := by
  have hlt : c.toNat < 128 := toNat_lt_of_isIdentifierChar h
  exact (isDigit_or_le_of_isDecimalDigit hd).resolve_right (by omega)

lemma not_isDigit_of_isLetter {c : Char} (h : IsLetter c ∨ c = '-') : ¬ IsDigit c := by
  rw [isLetter_iff_toNat] at h
  rw [isDigit_iff_toNat]
  rcases h with h | rfl
  · omega
  · decide

/-- A letter or a dash is no decimal digit. -/
lemma not_isDecimalDigit_of_isLetter {c : Char} (h : IsLetter c ∨ c = '-') :
    ¬ Unicode.isDecimalDigit c :=
  fun hd => not_isDigit_of_isLetter h (isDigit_of_isIdentifierChar (.inr h) hd)

/-! ### What numbers and identifiers are made of -/

lemma IsScriptedNumber.isDecimalDigit {t : List Char} (h : IsScriptedNumber t) :
    ∀ c ∈ t, Unicode.isDecimalDigit c := by
  rcases h with rfl | ⟨c, cs, rfl, hc, hcs⟩
  · intro c hc
    obtain rfl := List.mem_singleton.mp hc
    decide
  · intro d hd
    rcases List.mem_cons.mp hd with rfl | hd
    · have hdigit : 49 ≤ d.toNat ∧ d.toNat ≤ 57 := hc
      exact isDecimalDigit_of_isDigit (isDigit_iff_toNat.mpr (by omega))
    · exact hcs d hd

/-- What a pre-release identifier that is accepted is made of. -/
lemma isDecimalDigit_or_of_preRelease {t : List Char} (h : scripted.preRelease t) :
    ∀ c ∈ t, Unicode.isDecimalDigit c ∨ IsIdentifierChar c := by
  rcases h with h | ⟨ds, c, cs, rfl, hds, hc, hcs⟩
  · exact fun c hc => .inl (h.isDecimalDigit c hc)
  · intro d hd
    rcases List.mem_append.mp hd with hd | hd
    · exact .inl (hds d hd)
    · rcases List.mem_cons.mp hd with rfl | hd
      · exact .inr (.inr hc)
      · exact .inr (hcs d hd)

/-- A character that is in no number and no identifier. -/
lemma notMem_of_follow {c : Char} (hc : (Unicode.isDecimalDigit c || isIdentifierChar c) = false)
    {t : List Char} (h : scripted.number t ∨ scripted.preRelease t ∨ scripted.build t) :
    c ∉ t := by
  have hclass : ¬ (Unicode.isDecimalDigit c ∨ IsIdentifierChar c) := by
    rw [← isIdentifierChar_iff, ← Bool.or_eq_true, hc]
    decide
  intro hmem
  rcases h with h | h | h
  · exact hclass (.inl (IsScriptedNumber.isDecimalDigit h c hmem))
  · exact hclass (isDecimalDigit_or_of_preRelease h c hmem)
  · exact hclass (.inr (h.2 c hmem))

/-! ### Parts -/

namespace Parts

variable {q : Char → Prop} {p : Parts}

lemma text_eq (p : Parts) : p.text = p.major ++ (['.'] ++ (p.minor ++ (['.'] ++ (p.patch ++
    (marked '-' p.preRelease ++ marked '+' p.build))))) := by
  simp [text, core, dotted]

lemma Follow.number_of_mem {r : Rules} (h : p.Follow r) :
    ∀ t ∈ [p.major, p.minor, p.patch], r.number t := by
  simp [h.major, h.minor, h.patch]

lemma dotted_cons (t : List Char) (ids : List (List Char)) :
    dotted (t :: ids) = t ++ (ids.map ('.' :: ·)).flatten := by
  induction ids generalizing t with
  | nil => simp [dotted]
  | cons u ids ih =>
    have hcons : dotted (t :: u :: ids) = t ++ ['.'] ++ dotted (u :: ids) :=
      List.intercalate_cons_cons
    rw [hcons, ih]
    simp

lemma forall_mem_dotted_iff {ids : List (List Char)} (hdot : q '.') :
    (∀ c ∈ dotted ids, q c) ↔ ∀ t ∈ ids, ∀ c ∈ t, q c := by
  induction ids with
  | nil => simp [dotted]
  | cons t ids ih =>
    cases ids with
    | nil => simp [dotted]
    | cons u ids =>
      have hcons : dotted (t :: u :: ids) = t ++ ['.'] ++ dotted (u :: ids) :=
        List.intercalate_cons_cons
      rw [hcons, List.forall_mem_append, List.forall_mem_append, List.forall_mem_singleton, ih,
        List.forall_mem_cons]
      simp [hdot]

lemma forall_mem_marked_iff {mark : Char} {ids : Option (List (List Char))} (hmark : q mark)
    (hdot : q '.') : (∀ c ∈ marked mark ids, q c) ↔ ∀ i ∈ ids, ∀ t ∈ i, ∀ c ∈ t, q c := by
  cases ids with
  | none => simp [marked]
  | some ids => simp [marked, hmark, forall_mem_dotted_iff hdot]

end Parts

end PromptKit.Version
