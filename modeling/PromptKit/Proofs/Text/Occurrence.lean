import Mathlib.Data.List.Infix
import Mathlib.Tactic.Common
import PromptKit.Text.Search

/-!
Where one text occurs in another, and what the search for it finds.

`cut?` finds the first occurrence and fails exactly where there is none.
-/

namespace PromptKit.Text

/-- The first occurrence of `p` in `cs` has `a` before it and `r` behind it. -/
structure CutsAt (p cs a r : List Char) : Prop where
  eq : cs = a ++ p ++ r
  first : ∀ k < a.length, ¬ p <+: cs.drop k

lemma after?_eq_none {p cs : List Char} : after? p cs = none ↔ ¬ p <+: cs := by
  rw [Option.eq_none_iff_forall_ne_some]
  constructor
  · rintro h ⟨r, rfl⟩
    exact h r (after?_append p r)
  · intro h r hr
    exact h ⟨r, (after?_eq_some.mp hr).symm⟩

lemma cutsAt_of_after? {p cs r : List Char} (h : after? p cs = some r) : CutsAt p cs [] r :=
  ⟨by simpa using after?_eq_some.mp h, fun k hk => by simp at hk⟩

lemma CutsAt.cons {p cs a r : List Char} {c : Char} (h : CutsAt p cs a r)
    (hc : ¬ p <+: c :: cs) : CutsAt p (c :: cs) (c :: a) r := by
  refine ⟨by simp [h.eq], fun k hk => ?_⟩
  cases k with
  | zero => simpa using hc
  | succ k => simpa using h.first k (by simpa using hk)

/-- A text is cut around an occurrence in one way only. -/
lemma CutsAt.unique {p cs a b r s : List Char} (h : CutsAt p cs a r) (h' : CutsAt p cs b s) :
    a = b ∧ r = s := by
  have key : ∀ {a b r s : List Char}, CutsAt p cs a r → CutsAt p cs b s → a.length ≤ b.length := by
    intro a b r s h h'
    by_contra hlt
    refine h.first b.length (by omega) ⟨s, ?_⟩
    rw [h'.eq, List.append_assoc, List.drop_left]
  have hlen : a.length = b.length := le_antisymm (key h h') (key h' h)
  have heq : a ++ (p ++ r) = b ++ (p ++ s) :=
    calc a ++ (p ++ r) = cs := by rw [h.eq, List.append_assoc]
      _ = b ++ (p ++ s) := by rw [h'.eq, List.append_assoc]
  obtain ⟨rfl, hrest⟩ := List.append_inj heq hlen
  exact ⟨rfl, List.append_cancel_left hrest⟩

/-- **Soundness** of the search: what it finds is the first occurrence. -/
lemma cutsAt_of_cut? {p cs a r : List Char} (h : cut? p cs = some (a, r)) : CutsAt p cs a r := by
  induction cs generalizing a with
  | nil =>
    simp only [cut?, Option.map_eq_some_iff, Prod.mk.injEq] at h
    obtain ⟨q, hq, rfl, rfl⟩ := h
    exact cutsAt_of_after? hq
  | cons c cs ih =>
    simp only [cut?] at h
    split at h
    · rename_i q hq
      simp only [Option.some.injEq, Prod.mk.injEq] at h
      obtain ⟨rfl, rfl⟩ := h
      exact cutsAt_of_after? hq
    · rename_i hq
      simp only [Option.map_eq_some_iff, Prod.mk.injEq, Prod.exists] at h
      obtain ⟨a', r', h', rfl, rfl⟩ := h
      exact (ih h').cons (after?_eq_none.mp hq)

/-- The search fails exactly where there is no occurrence. -/
lemma cut?_eq_none {p cs : List Char} : cut? p cs = none ↔ ¬ p <:+: cs := by
  induction cs with
  | nil =>
    rw [cut?, Option.map_eq_none_iff, after?_eq_none]
    simp [List.infix_nil, List.prefix_nil]
  | cons c cs ih =>
    rw [List.infix_cons_iff, cut?]
    rcases hq : after? p (c :: cs) with _ | q
    · simp [ih, after?_eq_none.mp hq]
    · simp [show p <+: c :: cs from ⟨q, (after?_eq_some.mp hq).symm⟩]

@[simp] lemma occursIn_iff {p cs : List Char} : occursIn p cs ↔ p <:+: cs := by
  have hnone : cut? p cs = none ↔ ¬ p <:+: cs := cut?_eq_none
  rw [occursIn, Option.isSome_iff_ne_none, Ne, hnone, not_not]

/-- **Completeness** of the search: the first occurrence is found. -/
lemma cut?_of_cutsAt {p cs a r : List Char} (h : CutsAt p cs a r) : cut? p cs = some (a, r) := by
  rcases hc : cut? p cs with _ | ⟨b, s⟩
  · exact absurd ⟨a, r, h.eq.symm⟩ (cut?_eq_none.mp hc)
  · obtain ⟨rfl, rfl⟩ := h.unique (cutsAt_of_cut? hc)
    rfl

theorem cut?_eq_some {p cs a r : List Char} : cut? p cs = some (a, r) ↔ CutsAt p cs a r :=
  ⟨cutsAt_of_cut?, cut?_of_cutsAt⟩

/-! ### Occurrences in texts that are put together -/

/-- No character stands both within an occurrence and outside the text that is looked for. -/
lemma infix_append_cons_iff {p a b : List Char} {c : Char} (hc : c ∉ p) :
    p <:+: a ++ c :: b ↔ p <:+: a ∨ p <:+: b := by
  constructor
  · rintro ⟨s, t, hst⟩
    rcases List.append_eq_append_iff.mp hst with ⟨u, ha, -⟩ | ⟨u, hsp, hcb⟩
    · exact .inl ⟨s, u, ha.symm⟩
    rcases List.cons_eq_append_iff.mp hcb with ⟨rfl, -⟩ | ⟨u, rfl, rfl⟩
    · exact .inl ⟨s, [], by rw [List.append_nil, hsp, List.append_nil]⟩
    -- the occurrence ends behind the character, so it starts there as well
    rcases List.append_eq_append_iff.mp hsp with ⟨v, -, hp⟩ | ⟨v, -, hcu⟩
    · exact absurd (by simp [hp]) hc
    rcases List.cons_eq_append_iff.mp hcu with ⟨-, hp⟩ | ⟨v, -, rfl⟩
    · exact absurd (by simp [hp]) hc
    · exact .inr ⟨v, t, rfl⟩
  · rintro (h | h)
    · exact h.trans (List.prefix_append a (c :: b)).isInfix
    · exact h.trans ⟨a ++ [c], [], by simp⟩

/-- No part of a text but the whole of it is both its start and its end. -/
def Unbordered (p : List Char) : Prop := ∀ k < p.length, 0 < k → ¬ p.drop k <+: p

/-- An occurrence of an unbordered text does not overlap another one. -/
lemma Unbordered.cutsAt {p a : List Char} (hp : Unbordered p) (ha : ¬ p <:+: a) (r : List Char) :
    CutsAt p (a ++ p ++ r) a r := by
  refine ⟨rfl, fun k hk ⟨s, hs⟩ => ?_⟩
  rw [List.append_assoc, List.drop_append_of_le_length (Nat.le_of_lt hk)] at hs
  have hin {u : List Char} (h : a.drop k = p ++ u) : p <:+: a :=
    ⟨a.take k, u, by rw [List.append_assoc, ← h, List.take_append_drop]⟩
  rcases List.append_eq_append_iff.mp hs with ⟨u, hu, -⟩ | ⟨u, hu, hr⟩
  · exact ha (hin hu)
  · have hlength : p.length = (a.drop k).length + u.length := by rw [hu, List.length_append]
    have hpos : 0 < (a.drop k).length := by
      rw [List.length_drop]
      omega
    have hdrop : p.drop (a.drop k).length = u := by
      conv_lhs => rw [hu]
      exact List.drop_left
    cases u with
    | nil => exact ha (hin (by rw [hu, List.append_nil, List.append_nil]))
    | cons x u =>
      refine hp (a.drop k).length (by simp [hlength]) hpos ?_
      rw [hdrop]
      exact List.prefix_of_prefix_length_le ⟨s, hr.symm⟩ (List.prefix_append p r) (by omega)

lemma CutsAt.not_infix {p cs a r : List Char} (h : CutsAt p cs a r) (hp : p ≠ []) :
    ¬ p <:+: a := by
  rintro ⟨s, t, rfl⟩
  have hlt : s.length < (s ++ p ++ t).length := by
    have hpos := List.length_pos_iff.mpr hp
    simp only [List.length_append]
    omega
  refine h.first s.length hlt ⟨t ++ p ++ r, ?_⟩
  rw [h.eq]
  simp only [List.append_assoc, List.drop_left]

/-- **The first occurrence** of an unbordered text is the one with none in what stands before. -/
theorem Unbordered.cutsAt_iff {p cs a r : List Char} (hp : Unbordered p) (hne : p ≠ []) :
    CutsAt p cs a r ↔ ¬ p <:+: a ∧ cs = a ++ p ++ r := by
  constructor
  · exact fun h => ⟨h.not_infix hne, h.eq⟩
  · rintro ⟨ha, rfl⟩
    exact hp.cutsAt ha r

end PromptKit.Text
