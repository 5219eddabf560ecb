import Mathlib.Data.List.Forall2
import Mathlib.Tactic.Common
import PromptKit.Document.Node

/-!
What a computation did when it succeeded, and where it failed.

A computation that gives a value went through each of its steps. The lemmas take such a
computation apart, from the front, until only its checks and the value are left. An error is
that of one step, and the steps before it succeeded.
-/

namespace PromptKit

section Except

variable {ε ε' α β : Type}

@[simp] lemma bind_eq_ok {x : Except ε α} {f : α → Except ε β} {b : β} :
    (x >>= f) = .ok b ↔ ∃ a, x = .ok a ∧ f a = .ok b := by
  cases x with
  | error e =>
    constructor
    · rintro ⟨⟩
    · rintro ⟨a, ⟨⟩, -⟩
  | ok a =>
    constructor
    · exact fun h => ⟨a, rfl, h⟩
    · rintro ⟨a', ha, h⟩
      cases ha
      exact h

@[simp] lemma pure_eq_ok {a b : α} : (pure a : Except ε α) = .ok b ↔ a = b := by
  constructor
  · exact Except.ok.inj
  · rintro rfl
    rfl

@[simp] lemma throw_ne_ok {e : ε} {a : α} : (throw e : Except ε α) ≠ .ok a := by
  rintro ⟨⟩

@[simp] lemma mapError_eq_ok {x : Except ε α} {f : ε → ε'} {a : α} :
    x.mapError f = .ok a ↔ x = .ok a := by
  cases x with
  | error e => simp [Except.mapError]
  | ok b => simp [Except.mapError]

lemma map_eq_ok {x : Except ε α} {f : α → β} {b : β} :
    x.map f = .ok b ↔ ∃ a, x = .ok a ∧ f a = b := by
  cases x with
  | error e => simp [Except.map]
  | ok a => simp [Except.map]

lemma map_eq_error {x : Except ε α} {f : α → β} {e : ε} : x.map f = .error e ↔ x = .error e := by
  cases x with
  | error e' => simp [Except.map]
  | ok a => simp [Except.map]

lemma bind_eq_error {x : Except ε α} {f : α → Except ε β} {e : ε} :
    (x >>= f) = .error e ↔ x = .error e ∨ ∃ a, x = .ok a ∧ f a = .error e := by
  cases x with
  | error e' =>
    have hbind : (Except.error e' >>= f) = .error e' := rfl
    simp [hbind]
  | ok a =>
    have hbind : (Except.ok a >>= f) = f a := rfl
    simp [hbind]

lemma mapError_eq_error {x : Except ε α} {f : ε → ε'} {e : ε'} :
    x.mapError f = .error e ↔ ∃ e', x = .error e' ∧ f e' = e := by
  cases x with
  | error e' => simp [Except.mapError]
  | ok a => simp [Except.mapError]

/-- Every item of a result comes from an item that was gone through. -/
lemma exists_of_mapM_eq_ok {f : α → Except ε β} {xs : List α} {ys : List β}
    (h : xs.mapM f = .ok ys) : ∀ y ∈ ys, ∃ x ∈ xs, f x = .ok y := by
  induction xs generalizing ys with
  | nil =>
    rw [List.mapM_nil, pure_eq_ok] at h
    simp [← h]
  | cons x xs ih =>
    simp only [List.mapM_cons, bind_eq_ok, pure_eq_ok] at h
    obtain ⟨y, hy, rest, hrest, rfl⟩ := h
    intro z hz
    rcases List.mem_cons.mp hz with rfl | hz
    · exact ⟨x, List.mem_cons_self, hy⟩
    · obtain ⟨x', hx', hz⟩ := ih hrest z hz
      exact ⟨x', List.mem_cons_of_mem _ hx', hz⟩

/-- An error is that of the first item that fails. -/
lemma exists_of_mapM_eq_error {f : α → Except ε β} {xs : List α} {e : ε}
    (h : xs.mapM f = .error e) :
    ∃ before x behind, xs = before ++ x :: behind ∧ f x = .error e ∧
      ∀ y ∈ before, ∃ b, f y = .ok b := by
  induction xs with
  | nil => cases h
  | cons x xs ih =>
    rw [List.mapM_cons] at h
    rcases bind_eq_error.mp h with hx | ⟨b, hx, h⟩
    · exact ⟨[], x, xs, rfl, hx, by simp⟩
    · rcases bind_eq_error.mp h with hxs | ⟨_, _, hpure⟩
      · obtain ⟨before, y, behind, rfl, hy, hbefore⟩ := ih hxs
        refine ⟨x :: before, y, behind, rfl, hy, fun z hz => ?_⟩
        rcases List.mem_cons.mp hz with rfl | hz
        · exact ⟨b, hx⟩
        · exact hbefore z hz
      · cases hpure

/-- The items of a result stand beside the items that they come from. -/
lemma forall₂_of_mapM_eq_ok {R : α → β → Prop} {f : α → Except ε β} {xs : List α} {ys : List β}
    (hf : ∀ x ∈ xs, ∀ y, f x = .ok y → R x y) (h : xs.mapM f = .ok ys) : List.Forall₂ R xs ys := by
  induction xs generalizing ys with
  | nil =>
    obtain rfl := pure_eq_ok.mp h
    exact .nil
  | cons x xs ih =>
    simp only [List.mapM_cons, bind_eq_ok, pure_eq_ok] at h
    obtain ⟨y, hy, rest, hrest, rfl⟩ := h
    exact .cons (hf x List.mem_cons_self y hy)
      (ih (fun x' hx' => hf x' (List.mem_cons_of_mem _ hx')) hrest)

/-- What is the same for an item and what comes of it is the same for the lists. -/
lemma map_eq_of_mapM_eq_ok {γ : Type} {f : α → Except ε β} {g : β → γ} {k : α → γ} {xs : List α}
    {ys : List β} (hf : ∀ x y, f x = .ok y → g y = k x) (h : xs.mapM f = .ok ys) :
    ys.map g = xs.map k := by
  induction xs generalizing ys with
  | nil =>
    rw [List.mapM_nil, pure_eq_ok] at h
    simp [← h]
  | cons x xs ih =>
    simp only [List.mapM_cons, bind_eq_ok, pure_eq_ok] at h
    obtain ⟨y, hy, rest, hrest, rfl⟩ := h
    rw [List.map_cons, List.map_cons, hf x y hy, ih hrest]

/-- An item that gives the same as its counterpart gives the same list. -/
lemma mapM_congr_forall₂ {γ : Type} {f : α → Except ε β} {g : γ → Except ε β}
    {xs : List α} {ys : List γ} (h : List.Forall₂ (fun x y => f x = g y) xs ys) :
    xs.mapM f = ys.mapM g := by
  induction h with
  | nil => rfl
  | cons hxy _ ih => rw [List.mapM_cons, List.mapM_cons, hxy, ih]

end Except

section Option

variable {α β : Type}

/-- Where exactly the items with `p` give a result, the results are those of these items, each
once and in their order. -/
lemma forall₂_filterMap {R : α → β → Prop} {p : α → Bool} {f : α → Option β}
    (hsome : ∀ a b, f a = some b → p a ∧ R a b) (hnone : ∀ a, f a = none → ¬ p a) (xs : List α) :
    List.Forall₂ R (xs.filter p) (xs.filterMap f) := by
  induction xs with
  | nil => exact .nil
  | cons a xs ih =>
    rcases hf : f a with _ | b
    · rw [List.filter_cons_of_neg (hnone a hf), List.filterMap_cons_none hf]
      exact ih
    · obtain ⟨hp, hR⟩ := hsome a b hf
      rw [List.filter_cons_of_pos hp, List.filterMap_cons_some hf]
      exact .cons hR ih

lemma eq_of_option_rel {R : α → α → Prop} {o o' : Option α} (h : Option.Rel R o o')
    (hR : ∀ a b, R a b → a = b) : o = o' := by
  cases h with
  | none => rfl
  | some h => rw [hR _ _ h]

end Option

namespace Document.Node

variable {α : Type} {path : FieldPath}

@[simp] lemma reject_ne_ok {fault : Fault} {a : α} : (reject path fault : Result α) ≠ .ok a :=
  throw_ne_ok

@[simp] lemma placed_eq_ok {check : Except Fault Unit} {u : Unit} :
    placed path check = .ok u ↔ check = .ok u :=
  mapError_eq_ok

/-- What is read of a member that may be left out. -/
lemma ofObject_eq_ok {n : Node} {key : String} {absent a : α} {read : Node → Result α} :
    n.ofObject key absent read = .ok a ↔
      (n.members.present? key = none ∧ absent = a) ∨
        ∃ ms, n.members.present? key = some (.object ms) ∧ read ⟨ms, n.child key⟩ = .ok a := by
  unfold ofObject optionalObject optional
  rcases n.members.present? key with _ | v
  · simp
  · cases v <;> simp

@[simp] lemma shaped_eq_ok {read : Except ShapeError α} {a : α} :
    shaped path read = .ok a ↔ read = .ok a :=
  mapError_eq_ok

end Document.Node

end PromptKit
