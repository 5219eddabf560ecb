import Mathlib.Computability.Language
import PromptKit.Proofs.Regex.Matching

/-!
Patterns that match the texts of a language.

A pattern without conditions matches a text wherever it stands, so it has a language. Choices,
sequences and repetitions of patterns are sums, products and powers of their languages.
-/

namespace PromptKit.Regex

open scoped Computability

/-- The texts of a kind. -/
def textsOf (q : List Char → Prop) : Language Char := {t | q t}

@[simp] lemma mem_textsOf {q : List Char → Prop} {t : List Char} : t ∈ textsOf q ↔ q t := Iff.rfl

/-- The texts of one character of a class. -/
def oneOf (p : Char → Prop) : Language Char := {t | ∃ x, p x ∧ t = [x]}

lemma mem_kstar_oneOf {p : Char → Prop} {t : List Char} : t ∈ (oneOf p)∗ ↔ ∀ x ∈ t, p x := by
  rw [Language.mem_kstar]
  constructor
  · rintro ⟨parts, rfl, hparts⟩ x hx
    obtain ⟨part, hpart, hx⟩ := List.mem_flatten.mp hx
    obtain ⟨y, hy, rfl⟩ := hparts part hpart
    obtain rfl := List.mem_singleton.mp hx
    exact hy
  · intro h
    refine ⟨t.map fun x => [x], (List.flatMap_singleton' t).symm, ?_⟩
    intro part hpart
    obtain ⟨x, hx, rfl⟩ := List.mem_map.mp hpart
    exact ⟨x, h x hx, rfl⟩

lemma mem_oneOf_mul {p : Char → Prop} {L : Language Char} {t : List Char} :
    t ∈ oneOf p * L ↔ ∃ x u, t = x :: u ∧ p x ∧ u ∈ L := by
  rw [Language.mem_mul]
  constructor
  · rintro ⟨_, ⟨x, hx, rfl⟩, u, hu, rfl⟩
    exact ⟨x, u, rfl, hx, hu⟩
  · rintro ⟨x, u, rfl, hx, hu⟩
    exact ⟨[x], ⟨x, hx, rfl⟩, u, hu, rfl⟩

lemma mem_singleton_mul {a : List Char} {L : Language Char} {t : List Char} :
    t ∈ ({a} * L : Language Char) ↔ ∃ u ∈ L, t = a ++ u := by
  rw [Language.mem_mul]
  constructor
  · rintro ⟨_, rfl, u, hu, rfl⟩
    exact ⟨u, hu, rfl⟩
  · rintro ⟨u, hu, rfl⟩
    exact ⟨a, rfl, u, hu, rfl⟩

/-- The pattern matches exactly the texts of the language, whatever stands around them. -/
def Pattern.Spells (p : Pattern) (L : Language Char) : Prop :=
  ∀ c d, p.Matches c d ↔ ∃ t ∈ L, Over t c d

namespace Pattern.Spells

variable {p : Pattern} {ps : List Pattern} {L M : Language Char}

lemma of_mem_iff (h : p.Spells L) (hLM : ∀ t, t ∈ L ↔ t ∈ M) : p.Spells M := by
  obtain rfl : L = M := Language.ext hLM
  exact h

lemma text (t : List Char) : (Pattern.text t).Spells {t} := by
  intro c d
  have hmatch : (Pattern.text t).Matches c d ↔ Over t c d := Iff.rfl
  rw [hmatch]
  constructor
  · exact fun h => ⟨t, rfl, h⟩
  · rintro ⟨s, rfl, h⟩
    exact h

lemma set (s : Unicode.Ranges) : (Pattern.set s).Spells (oneOf fun x => s.contains x.toNat) := by
  intro c d
  have hmatch : (Pattern.set s).Matches c d ↔ ∃ x : Char, s.contains x.toNat ∧ Over [x] c d :=
    Iff.rfl
  rw [hmatch]
  constructor
  · rintro ⟨x, hx, h⟩
    exact ⟨[x], ⟨x, hx, rfl⟩, h⟩
  · rintro ⟨_, ⟨x, hx, rfl⟩, h⟩
    exact ⟨x, hx, h⟩

lemma group (h : p.Spells L) (i : Nat) : (Pattern.group i p).Spells L := h

lemma nil : (Pattern.seq []).Spells 1 := by
  intro c d
  have hmatch : (Pattern.seq []).Matches c d ↔ Over [] c d := Iff.rfl
  rw [hmatch]
  simp only [Language.mem_one, exists_eq_left]

lemma cons (hp : p.Spells L) (hps : (Pattern.seq ps).Spells M) :
    (Pattern.seq (p :: ps)).Spells (L * M) := by
  intro c d
  have hmatch : (Pattern.seq (p :: ps)).Matches c d ↔
      ∃ e, p.Matches c e ∧ (Pattern.seq ps).Matches e d := Iff.rfl
  rw [hmatch]
  constructor
  · rintro ⟨e, hce, hed⟩
    obtain ⟨s, hs, hce⟩ := (hp c e).mp hce
    obtain ⟨t, ht, hed⟩ := (hps e d).mp hed
    exact ⟨s ++ t, Language.append_mem_mul hs ht, over_append.mpr ⟨e, hce, hed⟩⟩
  · rintro ⟨_, hmem, h⟩
    obtain ⟨s, hs, t, ht, rfl⟩ := Language.mem_mul.mp hmem
    obtain ⟨e, hce, hed⟩ := over_append.mp h
    exact ⟨e, (hp c e).mpr ⟨s, hs, hce⟩, (hps e d).mpr ⟨t, ht, hed⟩⟩

lemma never : (Pattern.alt []).Spells 0 := by
  intro c d
  have hmatch : (Pattern.alt []).Matches c d ↔ False := Iff.rfl
  rw [hmatch, false_iff]
  rintro ⟨t, ht, -⟩
  exact Language.notMem_zero t ht

lemma or (hp : p.Spells L) (hps : (Pattern.alt ps).Spells M) :
    (Pattern.alt (p :: ps)).Spells (L + M) := by
  intro c d
  have hmatch : (Pattern.alt (p :: ps)).Matches c d ↔
      p.Matches c d ∨ (Pattern.alt ps).Matches c d := Iff.rfl
  rw [hmatch, hp c d, hps c d, ← exists_or]
  simp only [Language.mem_add, or_and_right]

lemma times (hp : p.Spells L) (k : Nat) {c d : Cut} :
    Times p.Matches k c d ↔ ∃ t ∈ L ^ k, Over t c d := by
  induction k generalizing c with
  | zero => simp [Times, Language.mem_one]
  | succ k ih =>
    have hstep : Times p.Matches (k + 1) c d ↔ ∃ e, p.Matches c e ∧ Times p.Matches k e d :=
      Iff.rfl
    rw [hstep, pow_succ']
    constructor
    · rintro ⟨e, hce, hed⟩
      obtain ⟨s, hs, hce⟩ := (hp c e).mp hce
      obtain ⟨t, ht, hed⟩ := ih.mp hed
      exact ⟨s ++ t, Language.append_mem_mul hs ht, over_append.mpr ⟨e, hce, hed⟩⟩
    · rintro ⟨_, hmem, h⟩
      obtain ⟨s, hs, t, ht, rfl⟩ := Language.mem_mul.mp hmem
      obtain ⟨e, hce, hed⟩ := over_append.mp h
      exact ⟨e, (hp c e).mpr ⟨s, hs, hce⟩, ih.mpr ⟨t, ht, hed⟩⟩

/-- A repetition has the powers of a language. -/
lemma repeated (hp : p.Spells L) (least : Nat) (most : Option Nat) (greedy : Bool) {c d : Cut} :
    (Pattern.repeated p least most greedy).Matches c d ↔
      ∃ k, least ≤ k ∧ (∀ m ∈ most, k ≤ max least m) ∧ ∃ t ∈ L ^ k, Over t c d := by
  have hmatch : (Pattern.repeated p least most greedy).Matches c d ↔
      ∃ k, least ≤ k ∧ (∀ m ∈ most, k ≤ max least m) ∧ Times p.Matches k c d := Iff.rfl
  simp only [hmatch, hp.times]

lemma star (hp : p.Spells L) (greedy : Bool) : (Pattern.repeated p 0 none greedy).Spells L∗ := by
  intro c d
  rw [hp.repeated, Language.kstar_eq_iSup_pow]
  simp only [Language.mem_iSup]
  constructor
  · rintro ⟨k, -, -, t, ht, h⟩
    exact ⟨t, ⟨k, ht⟩, h⟩
  · rintro ⟨t, ⟨k, ht⟩, h⟩
    exact ⟨k, Nat.zero_le k, by simp, t, ht, h⟩

lemma plus (hp : p.Spells L) (greedy : Bool) :
    (Pattern.repeated p 1 none greedy).Spells (L * L∗) := by
  intro c d
  rw [hp.repeated, Language.kstar_eq_iSup_pow, Language.mul_iSup]
  simp only [Language.mem_iSup, ← pow_succ']
  constructor
  · rintro ⟨k, hk, -, t, ht, h⟩
    exact ⟨t, ⟨k - 1, by rwa [Nat.sub_add_cancel hk]⟩, h⟩
  · rintro ⟨t, ⟨k, ht⟩, h⟩
    exact ⟨k + 1, Nat.le_add_left 1 k, by simp, t, ht, h⟩

lemma optional (hp : p.Spells L) (greedy : Bool) :
    (Pattern.repeated p 0 (some 1) greedy).Spells (1 + L) := by
  intro c d
  rw [hp.repeated]
  simp only [Language.mem_add]
  constructor
  · rintro ⟨k, -, hk, t, ht, h⟩
    have hle : k ≤ 1 := hk 1 rfl
    rcases Nat.le_one_iff_eq_zero_or_eq_one.mp hle with rfl | rfl
    · exact ⟨t, .inl (by simpa using ht), h⟩
    · exact ⟨t, .inr (by simpa using ht), h⟩
  · rintro ⟨t, ht | ht, h⟩
    · exact ⟨0, Nat.zero_le 0, by simp, t, by simpa using ht, h⟩
    · exact ⟨1, Nat.zero_le 1, by simp, t, by simpa using ht, h⟩

end Pattern.Spells

/-! ### Whole texts -/

lemma matchInTurn_append {ps qs : List Pattern} {c d : Cut} :
    Pattern.MatchInTurn (ps ++ qs) c d ↔
      ∃ e, Pattern.MatchInTurn ps c e ∧ Pattern.MatchInTurn qs e d := by
  induction ps generalizing c with
  | nil =>
    have hnil (e : Cut) : Pattern.MatchInTurn [] c e ↔ c = e := over_nil
    simp [hnil]
  | cons p ps ih =>
    simp only [List.cons_append, Pattern.MatchInTurn, ih]
    constructor
    · rintro ⟨f, hf, e, he, hd⟩
      exact ⟨e, ⟨f, hf, he⟩, hd⟩
    · rintro ⟨e, ⟨f, hf, he⟩, hd⟩
      exact ⟨f, hf, e, he, hd⟩

lemma matchInTurn_anchor {a : Anchor} {ps : List Pattern} {c d : Cut} :
    Pattern.MatchInTurn (.anchor a :: ps) c d ↔
      a.holds (c.1.getLast?, c.2.head?) ∧ Pattern.MatchInTurn ps c d := by
  have hmatch : Pattern.MatchInTurn (.anchor a :: ps) c d ↔
      ∃ e, (a.holds (c.1.getLast?, c.2.head?) ∧ Over [] c e) ∧ Pattern.MatchInTurn ps e d := Iff.rfl
  rw [hmatch]
  constructor
  · rintro ⟨e, ⟨ha, he⟩, hd⟩
    obtain rfl := over_nil.mp he
    exact ⟨ha, hd⟩
  · rintro ⟨ha, hd⟩
    exact ⟨c, ⟨ha, over_nil.mpr rfl⟩, hd⟩

/-- A pattern that is held at both ends matches the texts of its language and no others. -/
theorem isMatch_anchored {r : Regex} {ps : List Pattern} {L : Language Char} {s : String}
    (hr : r.pattern = .seq (.anchor .textStart :: (ps ++ [.anchor .textEnd])))
    (hps : (Pattern.seq ps).Spells L) : r.isMatch s ↔ s.toList ∈ L := by
  have hmatch (c d : Cut) : r.pattern.Matches c d ↔
      (c.1 = [] ∧ d.2 = []) ∧ ∃ t ∈ L, Over t c d := by
    have hseq : r.pattern.Matches c d ↔
        Pattern.MatchInTurn (.anchor .textStart :: (ps ++ [.anchor .textEnd])) c d := by
      rw [hr]
      rfl
    have hlanguage (e : Cut) : Pattern.MatchInTurn ps c e ↔ ∃ t ∈ L, Over t c e := hps c e
    have hend (e : Cut) : Pattern.MatchInTurn [.anchor .textEnd] e d ↔ e.2 = [] ∧ e = d := by
      have hnil : Pattern.MatchInTurn [] e d ↔ e = d := over_nil
      rw [matchInTurn_anchor, hnil]
      simp [Anchor.holds]
    rw [hseq, matchInTurn_anchor, matchInTurn_append]
    simp only [hlanguage, hend]
    have hstart : Anchor.holds .textStart (c.1.getLast?, c.2.head?) = true ↔ c.1 = [] := by
      simp [Anchor.holds]
    rw [hstart]
    constructor
    · rintro ⟨hc, e, ht, he, rfl⟩
      exact ⟨⟨hc, he⟩, ht⟩
    · rintro ⟨⟨hc, hd⟩, ht⟩
      exact ⟨hc, d, ht, hd, rfl⟩
  rw [isMatch_iff]
  simp only [hmatch]
  constructor
  · rintro ⟨⟨c, c'⟩, ⟨d, d'⟩, hs, ⟨rfl, rfl⟩, t, ht, -, rfl⟩
    rw [← hs]
    simpa using ht
  · intro hs
    exact ⟨([], s.toList), (s.toList, []), rfl, ⟨rfl, rfl⟩, s.toList, hs, by simp [Over]⟩

end PromptKit.Regex
