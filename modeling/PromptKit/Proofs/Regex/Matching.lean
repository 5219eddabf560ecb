import PromptKit.Proofs.Regex.Positions
import PromptKit.Regex

/-!
What it is for a pattern to match, and that the search finds it.

`Pattern.Matches` goes by the form of a pattern alone and speaks of places in a text, not of
sets of them. `isMatch_iff` says that a search succeeds exactly where there is a match.
-/

namespace PromptKit.Regex

/-! ### Places in a text -/

/-- A place in a text: what stands before it and what comes behind it. -/
abbrev Cut := List Char × List Char

/-- One place lies behind another, with a text between them. -/
def Over (t : List Char) (c d : Cut) : Prop := d.1 = c.1 ++ t ∧ c.2 = t ++ d.2

@[simp] lemma over_nil {c d : Cut} : Over [] c d ↔ c = d := by
  simp [Over, Prod.ext_iff, eq_comm]

lemma over_append {s t : List Char} {c d : Cut} :
    Over (s ++ t) c d ↔ ∃ e, Over s c e ∧ Over t e d := by
  constructor
  · rintro ⟨hd, hc⟩
    exact ⟨(c.1 ++ s, t ++ d.2), ⟨rfl, by simpa using hc⟩, by simpa using hd, rfl⟩
  · rintro ⟨e, ⟨he, hc⟩, hd, he'⟩
    constructor
    · rw [hd, he, List.append_assoc]
    · rw [hc, he', List.append_assoc]

lemma Over.text_eq {t : List Char} {c d : Cut} (h : Over t c d) : d.1 ++ d.2 = c.1 ++ c.2 := by
  rw [h.1, h.2, List.append_assoc]

/-! ### Matches -/

namespace Pattern

mutual

/-- A pattern matches from one place to another. -/
def Matches : Pattern → Cut → Cut → Prop
  | empty, c, d => Over [] c d
  | text t, c, d => Over t c d
  | set s, c, d => ∃ x : Char, s.contains x.toNat ∧ Over [x] c d
  | anchor a, c, d => a.holds (c.1.getLast?, c.2.head?) ∧ Over [] c d
  | seq ps, c, d => MatchInTurn ps c d
  | alt ps, c, d => OneMatches ps c d
  | repeated p least most _, c, d =>
    ∃ k, least ≤ k ∧ (∀ m ∈ most, k ≤ max least m) ∧ Times (Matches p) k c d
  | group _ p, c, d => Matches p c d

def MatchInTurn : List Pattern → Cut → Cut → Prop
  | [], c, d => Over [] c d
  | p :: ps, c, d => ∃ e, Matches p c e ∧ MatchInTurn ps e d

def OneMatches : List Pattern → Cut → Cut → Prop
  | [], _, _ => False
  | p :: ps, c, d => Matches p c d ∨ OneMatches ps c d

end

end Pattern

/-! ### Tracks of patterns -/

lemma testBit_positionsOf {τ : Type} {test : τ → Bool} {xs : List τ} {i : Nat} :
    (positionsOf test xs).testBit i ↔ ∃ x, xs[i]? = some x ∧ test x := by
  induction xs generalizing i with
  | nil => simp [positionsOf]
  | cons x xs ih =>
    have hcons : positionsOf test (x :: xs) =
        2 * positionsOf test xs + (if test x then 1 else 0) := rfl
    rw [hcons]
    cases i with
    | zero =>
      rw [Nat.testBit_zero]
      by_cases hx : test x
      · simp [hx, Nat.add_mod]
      · simp [hx]
    | succ i =>
      have hhalf (m b : Nat) (hb : b < 2) : (2 * m + b) / 2 = m := by omega
      have hbit : (if test x then 1 else 0) < 2 := by
        split
        · decide
        · decide
      rw [Nat.testBit_succ, hhalf _ _ hbit, ih, List.getElem?_cons_succ]

lemma testBit_full {text : List Char} {i : Nat} :
    (Page.ofText text).full.testBit i ↔ i ≤ text.length := by
  have hfull : (Page.ofText text).full = 2 ^ (text.length + 1) - 1 := rfl
  rw [hfull, Nat.testBit_two_pow_sub_one, decide_eq_true_eq, Nat.lt_succ_iff]

/-- The gap of a text at a place. -/
lemma getElem?_gaps (c : Cut) :
    (gaps (c.1 ++ c.2))[c.1.length]? = some (c.1.getLast?, c.2.head?) := by
  obtain ⟨l, r⟩ := c
  have hbefore : (none :: (l ++ r).map some)[l.length]? = some l.getLast? := by
    rcases List.eq_nil_or_concat l with rfl | ⟨l, x, rfl⟩
    · rfl
    · simp
  have hbehind : ((l ++ r).map some ++ [none])[l.length]? = some r.head? := by
    cases r with
    | nil => simp
    | cons x r => simp
  rw [gaps, List.getElem?_zip_eq_some]
  exact ⟨hbefore, hbehind⟩

/-- A track does on a text what a relation of places says. -/
structure Tracks (text : List Char) (p : Track) (R : Cut → Cut → Prop) : Prop where
  within : p.Within text.length
  text_eq : ∀ {c d}, R c d → d.1 ++ d.2 = c.1 ++ c.2
  leads : ∀ {c : Cut}, c.1 ++ c.2 = text → ∀ {j}, p.Leads c.1.length j ↔ ∃ d, d.1.length = j ∧ R c d

namespace Tracks

variable {text : List Char} {p q : Track} {R S : Cut → Cut → Prop}

lemma congr (h : Tracks text p R) (hRS : ∀ c d, R c d ↔ S c d) : Tracks text p S := by
  have heq : R = S := by
    funext c d
    exact propext (hRS c d)
  exact heq ▸ h

/-- Staying in the places that satisfy a condition. -/
lemma stay {m : Positions} {P : Cut → Prop}
    (h : ∀ c : Cut, c.1 ++ c.2 = text → (m.testBit c.1.length ↔ P c)) :
    Tracks text (.stay m) fun c d => P c ∧ Over [] c d := by
  refine ⟨trivial, fun hcd => hcd.2.text_eq, fun {c} hc j => ?_⟩
  rw [Track.Leads, h c hc]
  simp only [over_nil]
  constructor
  · rintro ⟨hP, rfl⟩
    exact ⟨c, rfl, hP, rfl⟩
  · rintro ⟨d, rfl, hP, rfl⟩
    exact ⟨hP, rfl⟩

/-- Staying anywhere. -/
lemma stay_full : Tracks text (.stay (Page.ofText text).full) (Over []) := by
  have hfull : ∀ c : Cut, c.1 ++ c.2 = text →
      ((Page.ofText text).full.testBit c.1.length ↔ True) := by
    rintro ⟨l, r⟩ rfl
    rw [iff_true, testBit_full, List.length_append]
    omega
  exact (stay hfull).congr fun c d => by rw [true_and]

/-- Reading one character of a class. -/
lemma step (test : Char → Bool) :
    Tracks text (.step (positionsOf test text)) fun c d => ∃ x, test x ∧ Over [x] c d := by
  refine ⟨fun i hi => ?_, fun ⟨x, hx, hcd⟩ => hcd.text_eq, ?_⟩
  · obtain ⟨x, hx, -⟩ := testBit_positionsOf.mp hi
    exact (List.getElem?_eq_some_iff.mp hx).1
  · rintro ⟨l, r⟩ rfl j
    rw [Track.Leads, testBit_positionsOf]
    simp only [List.getElem?_append_right (Nat.le_refl l.length), Nat.sub_self]
    constructor
    · rintro ⟨⟨x, hx, htest⟩, rfl⟩
      cases r with
      | nil => simp at hx
      | cons y r =>
        obtain rfl : y = x := by simpa using hx
        exact ⟨(l ++ [y], r), by simp, y, htest, rfl, rfl⟩
    · rintro ⟨d, rfl, x, htest, hd, hr⟩
      simp only at hd hr
      exact ⟨⟨x, by simp [hr], htest⟩, by simp [hd]⟩

lemma seq (hp : Tracks text p R) (hq : Tracks text q S) :
    Tracks text (.seq p q) fun c d => ∃ e, R c e ∧ S e d := by
  refine ⟨⟨hp.within, hq.within⟩, ?_, fun {c} hc j => ?_⟩
  · rintro c d ⟨e, hce, hed⟩
    exact (hq.text_eq hed).trans (hp.text_eq hce)
  · rw [Track.Leads]
    constructor
    · rintro ⟨k, hk, hj⟩
      obtain ⟨e, rfl, hce⟩ := (hp.leads hc).mp hk
      obtain ⟨d, hd, hed⟩ := (hq.leads ((hp.text_eq hce).trans hc)).mp hj
      exact ⟨d, hd, e, hce, hed⟩
    · rintro ⟨d, hd, e, hce, hed⟩
      exact ⟨e.1.length, (hp.leads hc).mpr ⟨e, rfl, hce⟩,
        (hq.leads ((hp.text_eq hce).trans hc)).mpr ⟨d, hd, hed⟩⟩

lemma alt (hp : Tracks text p R) (hq : Tracks text q S) :
    Tracks text (.alt p q) fun c d => R c d ∨ S c d := by
  refine ⟨⟨hp.within, hq.within⟩, ?_, fun {c} hc j => ?_⟩
  · rintro c d (hcd | hcd)
    · exact hp.text_eq hcd
    · exact hq.text_eq hcd
  · rw [Track.Leads, hp.leads hc, hq.leads hc, ← exists_or]
    simp only [and_or_left]

lemma text_eq_times (hp : Tracks text p R) {k : Nat} {c d : Cut} (h : Times R k c d) :
    d.1 ++ d.2 = c.1 ++ c.2 := by
  induction k generalizing c with
  | zero =>
    obtain rfl : c = d := h
    rfl
  | succ k ih =>
    obtain ⟨e, hce, hed⟩ := h
    exact (ih hed).trans (hp.text_eq hce)

lemma leads_times (hp : Tracks text p R) {k : Nat} {c : Cut} (hc : c.1 ++ c.2 = text) {j : Nat} :
    Times p.Leads k c.1.length j ↔ ∃ d, d.1.length = j ∧ Times R k c d := by
  induction k generalizing c with
  | zero => simp [Times]
  | succ k ih =>
    simp only [Times]
    constructor
    · rintro ⟨i, hi, hj⟩
      obtain ⟨e, rfl, hce⟩ := (hp.leads hc).mp hi
      obtain ⟨d, hd, hed⟩ := (ih ((hp.text_eq hce).trans hc)).mp hj
      exact ⟨d, hd, e, hce, hed⟩
    · rintro ⟨d, hd, e, hce, hed⟩
      exact ⟨e.1.length, (hp.leads hc).mpr ⟨e, rfl, hce⟩,
        (ih ((hp.text_eq hce).trans hc)).mpr ⟨d, hd, hed⟩⟩

lemma repeated (hp : Tracks text p R) (least : Nat) (most : Option Nat) (greedy : Bool) :
    Tracks text (.repeated p least most greedy) fun c d =>
      ∃ k, least ≤ k ∧ (∀ m ∈ most, k ≤ max least m) ∧ Times R k c d := by
  refine ⟨hp.within, ?_, fun {c} hc j => ?_⟩
  · rintro c d ⟨k, -, -, hcd⟩
    exact hp.text_eq_times hcd
  · rw [Track.Leads]
    simp only [hp.leads_times hc]
    constructor
    · rintro ⟨k, hleast, hmost, d, hd, hcd⟩
      exact ⟨d, hd, k, hleast, hmost, hcd⟩
    · rintro ⟨d, hd, k, hleast, hmost, hcd⟩
      exact ⟨k, hleast, hmost, d, hd, hcd⟩

lemma spelled (t : List Char) : Tracks text ((Page.ofText text).spelled t) (Over t) := by
  induction t with
  | nil => exact stay_full
  | cons x t ih =>
    refine ((step (· == x)).seq ih).congr fun c d => ?_
    have happend : Over (x :: t) c d ↔ _ := over_append (s := [x])
    simp [happend]

end Tracks

mutual

/-- The track of a pattern does what the pattern says. -/
theorem tracks_track (text : List Char) (p : Pattern) :
    Tracks text ((Page.ofText text).track p) p.Matches := by
  cases p with
  | empty => exact Tracks.stay_full
  | text t => exact Tracks.spelled t
  | set s => exact Tracks.step fun x => s.contains x.toNat
  | anchor a =>
    refine Tracks.stay fun c hc => ?_
    subst hc
    have hgap : (gaps (c.1 ++ c.2))[c.1.length]? = some (c.1.getLast?, c.2.head?) :=
      getElem?_gaps c
    rw [testBit_positionsOf, Page.ofText, hgap]
    simp
  | seq ps => exact tracks_tracksInTurn text ps
  | alt ps => exact tracks_trackOfOne text ps
  | repeated p least most greedy => exact (tracks_track text p).repeated least most greedy
  | group i p => exact tracks_track text p

lemma tracks_tracksInTurn (text : List Char) (ps : List Pattern) :
    Tracks text ((Page.ofText text).tracksInTurn ps) (Pattern.MatchInTurn ps) := by
  cases ps with
  | nil => exact Tracks.stay_full
  | cons p ps => exact (tracks_track text p).seq (tracks_tracksInTurn text ps)

lemma tracks_trackOfOne (text : List Char) (ps : List Pattern) :
    Tracks text ((Page.ofText text).trackOfOne ps) (Pattern.OneMatches ps) := by
  cases ps with
  | nil =>
    refine (Tracks.stay (m := 0) (P := fun _ => False) fun c hc => by simp).congr fun c d => ?_
    simp [Pattern.OneMatches]
  | cons p ps => exact (tracks_track text p).alt (tracks_trackOfOne text ps)

end

/-! ### Searches -/

lemma ne_zero_iff {s : Positions} : s ≠ 0 ↔ ∃ i, s.testBit i := by
  rw [← not_iff_not, not_not, not_exists]
  constructor
  · rintro rfl i
    simp
  · intro h
    refine Nat.eq_of_testBit_eq fun i => ?_
    rw [Nat.zero_testBit, Bool.eq_false_iff]
    exact h i

/-- **A search succeeds exactly where there is a match.** -/
theorem isMatch_iff {r : Regex} {s : String} :
    r.isMatch s ↔ ∃ c d : Cut, c.1 ++ c.2 = s.toList ∧ r.pattern.Matches c d := by
  have htracks := tracks_track s.toList r.pattern
  have hfits : Fits s.toList.length (Page.ofText s.toList).full := fun i hi => testBit_full.mp hi
  have hmatch : r.isMatch s ↔ ((Page.ofText s.toList).track r.pattern).reach
      s.toList.length true (Page.ofText s.toList).full ≠ 0 := bne_iff_ne
  rw [hmatch, ne_zero_iff]
  simp only [Track.maps_reach htracks.within _ hfits, testBit_full]
  constructor
  · rintro ⟨j, i, hi, hj⟩
    have htake : (s.toList.take i).length = i := List.length_take_of_le hi
    have hc : s.toList.take i ++ s.toList.drop i = s.toList := List.take_append_drop i s.toList
    rw [← htake] at hj
    obtain ⟨d, -, hd⟩ := (htracks.leads (c := (s.toList.take i, s.toList.drop i)) hc).mp hj
    exact ⟨_, d, hc, hd⟩
  · rintro ⟨c, d, hc, hd⟩
    refine ⟨d.1.length, c.1.length, ?_, (htracks.leads hc).mpr ⟨d, rfl, hd⟩⟩
    rw [← hc, List.length_append]
    omega

end PromptKit.Regex
