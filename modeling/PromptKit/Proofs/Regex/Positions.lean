import Mathlib.Tactic.Common
import PromptKit.Regex.Positions

/-!
Where tracks lead.

`Track.Leads` says from which position to which a track leads. The set that `reach` computes
holds exactly the positions to which the track leads from the given ones; in particular the
rounds of a repetition without an upper bound are never cut short.
-/

namespace PromptKit.Regex

/-! ### Repeated steps -/

/-- Some steps of a relation, one after the other. -/
def Times {α : Type} (R : α → α → Prop) : Nat → α → α → Prop
  | 0, a, b => a = b
  | n + 1, a, b => ∃ c, R a c ∧ Times R n c b

lemma times_add {α : Type} {R : α → α → Prop} {m n : Nat} {a b : α} :
    Times R (m + n) a b ↔ ∃ c, Times R m a c ∧ Times R n c b := by
  induction m generalizing a with
  | zero => simp [Times]
  | succ m ih =>
    rw [Nat.succ_add]
    simp only [Times, ih]
    constructor
    · rintro ⟨d, hd, c, hc, hb⟩
      exact ⟨c, ⟨d, hd, hc⟩, hb⟩
    · rintro ⟨c, ⟨d, hd, hc⟩, hb⟩
      exact ⟨d, hd, c, hc, hb⟩

/-- A relation that leads forward through a text of `n` characters. -/
structure Forward (n : Nat) (R : Nat → Nat → Prop) : Prop where
  le : ∀ {i j}, R i j → i ≤ j
  within : ∀ {i j}, R i j → i ≤ n → j ≤ n

namespace Forward

variable {n : Nat} {R : Nat → Nat → Prop}

lemma times (h : Forward n R) (k : Nat) : Forward n (Times R k) := by
  induction k with
  | zero => exact ⟨fun hij => Nat.le_of_eq hij, fun hij hi => hij ▸ hi⟩
  | succ k ih =>
    constructor
    · rintro i j ⟨m, him, hmj⟩
      exact Nat.le_trans (h.le him) (ih.le hmj)
    · rintro i j ⟨m, him, hmj⟩ hi
      exact ih.within hmj (h.within him hi)

/-- Steps that stay where they are can be left out. -/
lemma exists_times_le (h : Forward n R) {k i j : Nat} (hk : Times R k i j) :
    ∃ m ≤ j - i, Times R m i j := by
  induction k generalizing i with
  | zero => exact ⟨0, Nat.zero_le _, hk⟩
  | succ k ih =>
    obtain ⟨c, hic, hcj⟩ := hk
    obtain ⟨m, hm, hcj'⟩ := ih hcj
    have hle : i ≤ c := h.le hic
    have hle' : c ≤ j := (h.times k).le hcj
    rcases Nat.eq_or_lt_of_le hle with rfl | hlt
    · exact ⟨m, hm, hcj'⟩
    · exact ⟨m + 1, by omega, c, hic, hcj'⟩

end Forward

/-! ### Sets of positions -/

/-- A set of positions of a text of `n` characters. -/
def Fits (n : Nat) (s : Positions) : Prop := ∀ i, s.testBit i → i ≤ n

/-- `f` takes a set to the positions to which `R` leads from there. -/
def Maps (n : Nat) (f : Positions → Positions) (R : Nat → Nat → Prop) : Prop :=
  ∀ s, Fits n s → ∀ j, (f s).testBit j ↔ ∃ i, s.testBit i ∧ R i j

namespace Maps

variable {n : Nat} {f g : Positions → Positions} {R S : Nat → Nat → Prop}

lemma fits (hf : Maps n f R) (hR : Forward n R) {s : Positions} (hs : Fits n s) :
    Fits n (f s) := by
  intro j hj
  obtain ⟨i, hi, hij⟩ := (hf s hs j).mp hj
  exact hR.within hij (hs i hi)

lemma comp (hf : Maps n f R) (hg : Maps n g S) (hR : Forward n R) :
    Maps n (fun s => g (f s)) fun i j => ∃ k, R i k ∧ S k j := by
  intro s hs j
  rw [hg (f s) (hf.fits hR hs) j]
  simp only [hf s hs]
  constructor
  · rintro ⟨k, ⟨i, hi, hik⟩, hkj⟩
    exact ⟨i, hi, k, hik, hkj⟩
  · rintro ⟨i, hi, k, hik, hkj⟩
    exact ⟨k, ⟨i, hi, hik⟩, hkj⟩

lemma union (hf : Maps n f R) (hg : Maps n g S) :
    Maps n (fun s => f s ||| g s) fun i j => R i j ∨ S i j := by
  intro s hs j
  rw [Nat.testBit_or, Bool.or_eq_true, hf s hs j, hg s hs j, ← exists_or]
  simp only [and_or_left]

lemma eq_zero (hf : Maps n f R) : f 0 = 0 := by
  refine Nat.eq_of_testBit_eq fun j => ?_
  have hj := hf 0 (fun i hi => by simp at hi) j
  rw [Nat.zero_testBit, Bool.eq_false_iff]
  intro hbit
  obtain ⟨i, hi, -⟩ := hj.mp hbit
  simp at hi

/-- Rounds that are due. -/
lemma iterate (hf : Maps n f R) (hR : Forward n R) (k : Nat) :
    Maps n (Track.iterate f k) (Times R k) := by
  induction k with
  | zero =>
    intro s _ j
    simp [Track.iterate, Times]
  | succ k ih =>
    have hstep : ∀ s, Track.iterate f (k + 1) s = Track.iterate f k (f s) := by
      intro s
      rw [Track.iterate]
      split
      · rename_i hs
        rw [hs, hf.eq_zero, ih.eq_zero]
      · rfl
    intro s hs j
    rw [hstep]
    exact (hf.comp ih hR) s hs j

/-- Rounds that may be left out. A set that nothing new comes to holds all of them. -/
lemma upTo (hf : Maps n f R) (hR : Forward n R) (k : Nat) :
    Maps n (Track.upTo f k) fun i j => ∃ m ≤ k, Times R m i j := by
  induction k with
  | zero =>
    intro s _ j
    simp [Track.upTo, Times]
  | succ k ih =>
    intro s hs j
    have hgrown : Fits n (s ||| f s) := by
      intro i hi
      rw [Nat.testBit_or, Bool.or_eq_true] at hi
      exact hi.elim (hs i) (hf.fits hR hs i)
    have hnext : (Track.upTo f k (s ||| f s)).testBit j ↔
        ∃ i, s.testBit i ∧ ∃ m ≤ k + 1, Times R m i j := by
      rw [ih _ hgrown j]
      constructor
      · rintro ⟨i, hi, m, hm, hij⟩
        rw [Nat.testBit_or, Bool.or_eq_true, hf s hs i] at hi
        rcases hi with hi | ⟨h, hh, hhi⟩
        · exact ⟨i, hi, m, by omega, hij⟩
        · exact ⟨h, hh, m + 1, by omega, i, hhi, hij⟩
      · rintro ⟨i, hi, m, hm, hij⟩
        cases m with
        | zero => exact ⟨i, by simp [hi], 0, Nat.zero_le k, hij⟩
        | succ m =>
          obtain ⟨c, hic, hcj⟩ := hij
          have hc : (f s).testBit c := (hf s hs c).mpr ⟨i, hi, hic⟩
          exact ⟨c, by simp [hc], m, by omega, hcj⟩
    rw [Track.upTo]
    split
    · -- the set is closed: more rounds add nothing
      rename_i hclosed
      rw [← hnext, hclosed]
      have hkeeps : ∀ m, ∀ i, s.testBit i → ∀ j, Times R m i j → s.testBit j := by
        intro m
        induction m with
        | zero =>
          rintro i hi j rfl
          exact hi
        | succ m ihm =>
          rintro i hi j ⟨c, hic, hcj⟩
          have hc : (s ||| f s).testBit c := by
            rw [Nat.testBit_or, (hf s hs c).mpr ⟨i, hi, hic⟩, Bool.or_true]
          exact ihm c (hclosed ▸ hc) j hcj
      rw [ih s hs j]
      constructor
      · exact fun hj => ⟨j, hj, 0, Nat.zero_le k, rfl⟩
      · rintro ⟨i, hi, m, -, hij⟩
        exact hkeeps m i hi j hij
    · exact hnext

/-- A repetition: the rounds that are due, and then as many as are wanted. -/
lemma repeated (hf : Maps n f R) (hR : Forward n R) (least : Nat) (most : Option Nat) :
    Maps n (fun s => Track.upTo f (match most with
        | none => n + 1
        | some most => most - least) (Track.iterate f least s))
      fun i j => ∃ k, least ≤ k ∧ (∀ m ∈ most, k ≤ max least m) ∧ Times R k i j := by
  intro s hs j
  rw [((hf.iterate hR least).comp (hf.upTo hR _) (hR.times least)) s hs j]
  refine exists_congr fun i => and_congr_right fun hi => ?_
  constructor
  · rintro ⟨c, hic, m, hm, hcj⟩
    refine ⟨least + m, Nat.le_add_right least m, ?_, times_add.mpr ⟨c, hic, hcj⟩⟩
    rintro most rfl
    simp only at hm
    omega
  · rintro ⟨k, hleast, hmost, hij⟩
    obtain ⟨d, rfl⟩ := Nat.exists_eq_add_of_le hleast
    obtain ⟨c, hic, hcj⟩ := times_add.mp hij
    cases most with
    | some most =>
      have hle : least + d ≤ max least most := hmost most rfl
      exact ⟨c, hic, d, by simp only; omega, hcj⟩
    | none =>
      -- no more rounds are of use than there are characters left
      obtain ⟨m, hm, hcj'⟩ := hR.exists_times_le hcj
      have hc : c ≤ n := (hR.times least).within hic (hs i hi)
      have hj : j ≤ n := (hR.times d).within hcj hc
      exact ⟨c, hic, m, by simp only; omega, hcj'⟩

end Maps

/-! ### Tracks -/

namespace Track

/-- The positions between which a track leads. -/
def Leads : Track → Nat → Nat → Prop
  | stay m, i, j => m.testBit i ∧ i = j
  | step m, i, j => m.testBit i ∧ i + 1 = j
  | seq p q, i, j => ∃ k, p.Leads i k ∧ q.Leads k j
  | alt p q, i, j => p.Leads i j ∨ q.Leads i j
  | repeated p least most _, i, j =>
    ∃ k, least ≤ k ∧ (∀ m ∈ most, k ≤ max least m) ∧ Times p.Leads k i j

/-- Each character that the track reads is one of the first `n`. -/
def Within (n : Nat) : Track → Prop
  | stay _ => True
  | step m => ∀ i, m.testBit i → i < n
  | seq p q => p.Within n ∧ q.Within n
  | alt p q => p.Within n ∧ q.Within n
  | repeated p _ _ _ => p.Within n

lemma forward_leads {n : Nat} {t : Track} (h : t.Within n) : Forward n t.Leads := by
  induction t with
  | stay m => exact ⟨fun hij => Nat.le_of_eq hij.2, fun hij hi => hij.2 ▸ hi⟩
  | step m => exact ⟨fun hij => hij.2 ▸ Nat.le_succ _, fun hij _ => hij.2 ▸ h _ hij.1⟩
  | seq p q ihp ihq =>
    constructor
    · rintro i j ⟨k, hik, hkj⟩
      exact Nat.le_trans ((ihp h.1).le hik) ((ihq h.2).le hkj)
    · rintro i j ⟨k, hik, hkj⟩ hi
      exact (ihq h.2).within hkj ((ihp h.1).within hik hi)
  | alt p q ihp ihq =>
    constructor
    · rintro i j (hij | hij)
      · exact (ihp h.1).le hij
      · exact (ihq h.2).le hij
    · rintro i j (hij | hij) hi
      · exact (ihp h.1).within hij hi
      · exact (ihq h.2).within hij hi
  | repeated p least most greedy ih =>
    constructor
    · rintro i j ⟨k, -, -, hij⟩
      exact ((ih h).times k).le hij
    · rintro i j ⟨k, -, -, hij⟩ hi
      exact ((ih h).times k).within hij hi

/-- **What `reach` computes**: the positions to which the track leads from a set. -/
theorem maps_reach {n : Nat} {t : Track} (h : t.Within n) : Maps n (t.reach n true) t.Leads := by
  induction t with
  | stay m =>
    intro s _ j
    rw [reach, Nat.testBit_and, Bool.and_eq_true]
    constructor
    · exact fun hj => ⟨j, hj.1, hj.2, rfl⟩
    · rintro ⟨i, hi, hm, rfl⟩
      exact ⟨hi, hm⟩
  | step m =>
    intro s _ j
    rw [reach, if_pos rfl, Nat.testBit_shiftLeft, Bool.and_eq_true, decide_eq_true_eq,
      Nat.testBit_and, Bool.and_eq_true]
    constructor
    · rintro ⟨hj, hs, hm⟩
      exact ⟨j - 1, hs, hm, by omega⟩
    · rintro ⟨i, hi, hm, rfl⟩
      exact ⟨by omega, hi, hm⟩
  | seq p q ihp ihq =>
    have hcomp := (ihp h.1).comp (ihq h.2) (forward_leads h.1)
    intro s hs j
    rw [reach, if_pos rfl]
    exact hcomp s hs j
  | alt p q ihp ihq =>
    have hunion := (ihp h.1).union (ihq h.2)
    intro s hs j
    rw [reach]
    exact hunion s hs j
  | repeated p least most greedy ih =>
    exact (ih h).repeated (forward_leads h) least most

end Track

end PromptKit.Regex
