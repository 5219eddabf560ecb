import Mathlib.Data.List.Induction
import Mathlib.Tactic.Common

/-!
Lists in which a name may come up again.

Where only the names count, the first place of a name is kept. Where the elements count that have
the name, the last one decides.
-/

namespace PromptKit

/-! ### Each name at its first place -/

lemma nodup_eraseDups : ∀ names : List String, names.eraseDups.Nodup
  | [] => by simp
  | n :: rest => by
    rw [List.eraseDups_cons, List.nodup_cons, List.mem_eraseDups, List.mem_filter]
    exact ⟨by simp, nodup_eraseDups _⟩
termination_by names => names.length
decreasing_by exact Nat.lt_succ_of_le (List.length_filter_le ..)

/-- Names that are there already add none. -/
lemma eraseDups_append_of_forall_mem {names more : List String} (h : ∀ n ∈ more, n ∈ names) :
    (names ++ more).eraseDups = names.eraseDups := by
  have hnone : more.removeAll names = [] := by
    rw [List.removeAll, List.filter_eq_nil_iff]
    intro n hn
    simpa using h n hn
  rw [List.eraseDups_append, hnone, List.eraseDups_nil, List.append_nil]

lemma eraseDups_append_singleton (names : List String) (n : String) :
    (names ++ [n]).eraseDups =
      if n ∈ names.eraseDups then names.eraseDups else names.eraseDups ++ [n] := by
  by_cases hn : n ∈ names
  · rw [if_pos (List.mem_eraseDups.mpr hn), eraseDups_append_of_forall_mem (by simpa using hn)]
  · have hone : [n].removeAll names = [n] := by
      rw [List.removeAll, List.filter_eq_self]
      simpa using hn
    rw [if_neg (by rwa [List.mem_eraseDups]), List.eraseDups_append, hone, List.eraseDups_cons]
    simp

/-! ### The last element of its kind -/

/-- `x` satisfies `p`, and no element behind one place of `x` does. -/
def IsLast {α : Type} (p : α → Prop) (xs : List α) (x : α) : Prop :=
  p x ∧ ∃ before behind, xs = before ++ x :: behind ∧ ∀ y ∈ behind, ¬ p y

variable {α : Type} {p : α → Prop} {xs : List α} {x y : α}

lemma IsLast.mem (h : IsLast p xs x) : x ∈ xs := by
  obtain ⟨-, before, behind, rfl, -⟩ := h
  exact List.mem_append_right before List.mem_cons_self

lemma not_isLast_nil : ¬ IsLast p [] x :=
  fun h => List.not_mem_nil h.mem

/-- An element that is added is the last one of its kind, and leaves that of any other. -/
lemma isLast_snoc : IsLast p (xs ++ [y]) x ↔ p y ∧ x = y ∨ ¬ p y ∧ IsLast p xs x := by
  constructor
  · rintro ⟨hx, before, behind, heq, hno⟩
    rcases List.eq_nil_or_concat behind with rfl | ⟨behind, z, rfl⟩
    · obtain ⟨-, hyx⟩ := List.append_inj' heq rfl
      obtain rfl : y = x := by simpa using hyx
      exact .inl ⟨hx, rfl⟩
    · rw [List.concat_eq_append, ← List.cons_append, ← List.append_assoc] at heq
      obtain ⟨rfl, hyz⟩ := List.append_inj' heq rfl
      obtain rfl : y = z := by simpa using hyz
      exact .inr ⟨hno y (by simp), hx, before, behind, rfl, fun w hw => hno w (by simp [hw])⟩
  · rintro (⟨hy, rfl⟩ | ⟨hy, hx, before, behind, rfl, hno⟩)
    · exact ⟨hy, xs, [], rfl, by simp⟩
    · refine ⟨hx, before, behind ++ [y], by simp, fun w hw => ?_⟩
      rcases List.mem_append.mp hw with hw | hw
      · exact hno w hw
      · exact List.mem_singleton.mp hw ▸ hy

/-- Whatever comes up has a last place. -/
lemma exists_isLast_iff : (∃ x, IsLast p xs x) ↔ ∃ x ∈ xs, p x := by
  constructor
  · rintro ⟨x, hx⟩
    exact ⟨x, hx.mem, hx.1⟩
  · induction xs using List.reverseRecOn with
    | nil => rintro ⟨x, hx, -⟩; exact absurd hx List.not_mem_nil
    | append_singleton xs y ih =>
      rintro ⟨x, hx, hp⟩
      by_cases hy : p y
      · exact ⟨y, isLast_snoc.mpr (.inl ⟨hy, rfl⟩)⟩
      · rcases List.mem_append.mp hx with hx | hx
        · obtain ⟨z, hz⟩ := ih ⟨x, hx, hp⟩
          exact ⟨z, isLast_snoc.mpr (.inr ⟨hy, hz⟩)⟩
        · exact absurd (List.mem_singleton.mp hx ▸ hp) hy

/-! ### What a run collects -/

lemma filterMap_cons_toList {β γ : Type} (g : γ → Option β) (c : γ) (cs : List γ) :
    (c :: cs).filterMap g = (g c).toList ++ cs.filterMap g := by
  rcases hc : g c with _ | b
  · exact List.filterMap_cons_none hc
  · exact List.filterMap_cons_some hc

/-- What each step puts at the end of a list stands there in the order of the steps. -/
lemma foldl_eq_append_filterMap {σ γ β : Type} {step : σ → γ → σ} {f : σ → List β}
    {g : γ → Option β} (h : ∀ s c, f (step s c) = f s ++ (g c).toList) (s : σ) (cs : List γ) :
    f (cs.foldl step s) = f s ++ cs.filterMap g := by
  induction cs generalizing s with
  | nil => rw [List.foldl_nil, List.filterMap_nil, List.append_nil]
  | cons c cs ih =>
    rw [List.foldl_cons, ih, h, filterMap_cons_toList, List.append_assoc]

end PromptKit
