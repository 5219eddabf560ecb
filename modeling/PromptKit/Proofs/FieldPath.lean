import Mathlib.Tactic.Common
import PromptKit.FieldPath
import PromptKit.Proofs.Text.Numeral
import PromptKit.Text.Blank

/-!
What a shown path says.

Every step but a key at the start is shown behind a dot or a bracket. Where no key has one of
these, the text of a path falls into steps in one way only, and the path can be read back.
-/

namespace PromptKit.FieldPath

/-! ### Reading a path -/

/-- Whether a step that is not the first begins with the character. -/
def beginsStep (c : Char) : Bool := c = '.' || c = '['

/-- The step at the start of a text, as it is shown behind another one, and the text behind it. -/
def step? : List Char → Option (Step × List Char)
  | '.' :: cs =>
    some (.key (String.ofList (cs.takeWhile (!beginsStep ·))), cs.dropWhile (!beginsStep ·))
  | '[' :: cs =>
    match cs.dropWhile Char.isDigit with
    | ']' :: rest =>
      (Decimal.natural? (cs.takeWhile Char.isDigit)).map fun i => (.index i, rest)
    | _ => none
  | _ => none

lemma length_lt_of_step? {cs rest : List Char} {s : Step} (h : step? cs = some (s, rest)) :
    rest.length < cs.length := by
  unfold step? at h
  split at h
  · rename_i cs
    obtain ⟨-, rfl⟩ := Prod.mk.inj (Option.some.inj h)
    exact Nat.lt_succ_of_le (Text.length_dropWhile_le _ cs)
  · rename_i cs
    split at h
    · rename_i rest' hrest
      obtain ⟨i, -, hi⟩ := Option.map_eq_some_iff.mp h
      obtain ⟨-, rfl⟩ := Prod.mk.inj hi
      have hle := Text.length_dropWhile_le Char.isDigit cs
      rw [hrest] at hle
      simp only [List.length_cons] at hle ⊢
      omega
    · cases h
  · cases h

/-- The steps of a text, none of them the first of a path. -/
def steps? (cs : List Char) : Option (List Step) :=
  match cs with
  | [] => some []
  | c :: cs =>
    match _h : step? (c :: cs) with
    | some (s, rest) => (steps? rest).map (s :: ·)
    | none => none
termination_by cs.length
decreasing_by exact length_lt_of_step? _h

/-- The path that a text shows. -/
def ofText? (text : String) : Option FieldPath :=
  if text = root.text then some root
  else if text.toList.head? = some '[' then (steps? text.toList).map fun steps => ⟨steps⟩
  else (steps? ('.' :: text.toList)).map fun steps => ⟨steps⟩

lemma steps?_nil : steps? [] = some [] := by rw [steps?]

lemma steps?_of_step? {cs rest : List Char} {s : Step} (h : step? cs = some (s, rest)) :
    steps? cs = (steps? rest).map (s :: ·) := by
  cases cs with
  | nil => cases h
  | cons c cs =>
    rw [steps?]
    split
    · rename_i heq
      obtain ⟨rfl, rfl⟩ := Prod.mk.inj (Option.some.inj (h.symm.trans heq))
      rfl
    · rename_i hnone
      exact absurd (h.symm.trans hnone) (Option.some_ne_none _)

/-! ### Plain paths -/

/-- A key that cannot be taken for several steps, or for none. -/
structure IsPlainKey (name : String) : Prop where
  ne_empty : name ≠ ""
  no_dot : '.' ∉ name.toList
  no_bracket : '[' ∉ name.toList

/-- A path of plain keys that cannot be taken for the root. -/
structure IsPlain (p : FieldPath) : Prop where
  keys : ∀ name, .key name ∈ p.steps → IsPlainKey name
  not_root : p.steps ≠ [.key "<root>"]

lemma IsPlainKey.not_beginsStep {name : String} (h : IsPlainKey name) {c : Char}
    (hc : c ∈ name.toList) : beginsStep c = false := by
  have hdot : c ≠ '.' := fun heq => h.no_dot (heq ▸ hc)
  have hbracket : c ≠ '[' := fun heq => h.no_bracket (heq ▸ hc)
  simp [beginsStep, hdot, hbracket]

/-- The text of steps of which none is the first. -/
def shown (steps : List Step) : List Char := steps.flatMap fun s => (stepText s).toList

lemma toList_stepText_key (name : String) : (stepText (.key name)).toList = '.' :: name.toList := by
  rw [stepText, String.toList_append]
  rfl

lemma toList_stepText_index (i : Nat) :
    (stepText (.index i)).toList = '[' :: (Nat.toDigits 10 i ++ [']']) := by
  rw [stepText, String.toList_append, String.toList_append, Decimal.toList_toString_nat]
  rfl

lemma shown_key (name : String) (steps : List Step) :
    shown (.key name :: steps) = '.' :: (name.toList ++ shown steps) := by
  rw [shown, List.flatMap_cons, toList_stepText_key]
  rfl

lemma shown_index (i : Nat) (steps : List Step) :
    shown (.index i :: steps) = '[' :: (Nat.toDigits 10 i ++ ']' :: shown steps) := by
  rw [shown, List.flatMap_cons, toList_stepText_index, List.cons_append, List.append_assoc]
  rfl

/-- A further step can be told from the one before it. -/
lemma exists_shown_cons (s : Step) (steps : List Step) :
    ∃ c cs, shown (s :: steps) = c :: cs ∧ beginsStep c = true := by
  cases s with
  | key name => exact ⟨_, _, shown_key name steps, rfl⟩
  | index i => exact ⟨_, _, shown_index i steps, rfl⟩

/-- A step is read back from the text of some steps that it is the first of. -/
lemma step?_shown {s : Step} {steps : List Step} (h : ∀ name, s = .key name → IsPlainKey name) :
    step? (shown (s :: steps)) = some (s, shown steps) := by
  cases s with
  | key name =>
    have hname : ∀ c ∈ name.toList, (!beginsStep c) = true := fun c hc => by
      rw [(h name rfl).not_beginsStep hc, Bool.not_false]
    have hrest : (shown steps).takeWhile (!beginsStep ·) = [] ∧
        (shown steps).dropWhile (!beginsStep ·) = shown steps := by
      cases steps with
      | nil => exact ⟨rfl, rfl⟩
      | cons t steps =>
        obtain ⟨c, cs, hshown, hc⟩ := exists_shown_cons t steps
        simp [hshown, hc]
    rw [shown_key, step?, List.takeWhile_append_of_pos hname, List.dropWhile_append_of_pos hname,
      hrest.1, hrest.2, List.append_nil, String.ofList_toList]
  | index i =>
    have hdigits : ∀ c ∈ Nat.toDigits 10 i, c.isDigit = true :=
      fun c hc => Decimal.isDigit_of_mem_toDigits hc
    have htake : (Nat.toDigits 10 i ++ ']' :: shown steps).takeWhile Char.isDigit =
        Nat.toDigits 10 i := by
      rw [List.takeWhile_append_of_pos hdigits, List.takeWhile_cons_of_neg (by decide),
        List.append_nil]
    have hdrop : (Nat.toDigits 10 i ++ ']' :: shown steps).dropWhile Char.isDigit =
        ']' :: shown steps := by
      rw [List.dropWhile_append_of_pos hdigits, List.dropWhile_cons_of_neg (by decide)]
    rw [shown_index, step?, hdrop, htake, Decimal.natural?_toDigits]
    rfl

lemma steps?_shown {steps : List Step} (h : ∀ name, .key name ∈ steps → IsPlainKey name) :
    steps? (shown steps) = some steps := by
  induction steps with
  | nil => exact steps?_nil
  | cons s steps ih =>
    obtain ⟨hs, hsteps⟩ : (∀ name, s = .key name → IsPlainKey name) ∧
        ∀ name, .key name ∈ steps → IsPlainKey name :=
      ⟨fun name heq => h name (heq ▸ List.mem_cons_self),
        fun name hmem => h name (List.mem_cons_of_mem s hmem)⟩
    rw [steps?_of_step? (step?_shown hs), ih hsteps]
    rfl

/-! ### The first step -/

lemma toList_text_index (i : Nat) (steps : List Step) :
    (text ⟨.index i :: steps⟩).toList = shown (.index i :: steps) := by
  rw [text, String.toList_append, String.toList_join, List.flatMap_map]
  rfl

/-- A key at the start is shown without the dot. -/
lemma toList_text_key (name : String) (steps : List Step) :
    (text ⟨.key name :: steps⟩).toList = name.toList ++ shown steps := by
  rw [text, String.toList_append, String.toList_join, List.flatMap_map]
  rfl

lemma head?_text_index (i : Nat) (steps : List Step) :
    (text ⟨.index i :: steps⟩).toList.head? = some '[' := by
  rw [toList_text_index, shown_index]
  rfl

lemma head?_text_key {name : String} (h : IsPlainKey name) (steps : List Step) :
    (text ⟨.key name :: steps⟩).toList.head? ≠ some '[' := by
  obtain ⟨c, cs, hname⟩ :=
    List.exists_cons_of_ne_nil fun hnil => h.ne_empty (String.toList_eq_nil_iff.mp hnil)
  have hbracket := h.no_bracket
  rw [hname] at hbracket
  rw [toList_text_key, hname]
  intro hc
  exact hbracket (Option.some.inj hc ▸ List.mem_cons_self)

/-- Only the key of that text is shown as the root: any further step would show the character that
it begins with. -/
lemma text_ne_root {s : Step} {steps : List Step} (h : s :: steps ≠ [.key "<root>"]) :
    text ⟨s :: steps⟩ ≠ root.text := by
  intro htext
  have hroot : (text ⟨s :: steps⟩).toList = "<root>".toList := congrArg String.toList htext
  have hno (t : Step) (ts : List Step) : ¬ shown (t :: ts) <:+ "<root>".toList := by
    intro hsuffix
    obtain ⟨c, cs, hshown, hc⟩ := exists_shown_cons t ts
    have hnone : "<root>".toList.any beginsStep = false := by decide
    exact List.any_eq_false.mp hnone c (hsuffix.mem (hshown ▸ List.mem_cons_self)) hc
  cases s with
  | index i =>
    rw [toList_text_index] at hroot
    exact hno (.index i) steps ⟨[], hroot⟩
  | key name =>
    rw [toList_text_key] at hroot
    cases steps with
    | nil =>
      have hname : name.toList = "<root>".toList := (List.append_nil _).symm.trans hroot
      exact h (by rw [String.toList_injective hname])
    | cons t ts => exact hno t ts ⟨name.toList, hroot⟩

/-- **A plain path is read back** from its text. -/
theorem ofText?_text {p : FieldPath} (h : p.IsPlain) : ofText? p.text = some p := by
  obtain ⟨_ | ⟨s, steps⟩⟩ := p
  · exact if_pos rfl
  · rw [ofText?, if_neg (text_ne_root h.not_root)]
    cases s with
    | index i =>
      rw [if_pos (head?_text_index i steps), toList_text_index, steps?_shown h.keys]
      rfl
    | key name =>
      rw [if_neg (head?_text_key (h.keys name List.mem_cons_self) steps), toList_text_key,
        ← shown_key, steps?_shown h.keys]
      rfl

/-- **A shown path names one location**: plain paths with the same text have the same steps. -/
theorem text_inj {p q : FieldPath} (hp : p.IsPlain) (hq : q.IsPlain) :
    p.text = q.text ↔ p = q := by
  constructor
  · intro h
    refine Option.some.inj ?_
    calc some p = ofText? p.text := (ofText?_text hp).symm
      _ = ofText? q.text := by rw [h]
      _ = some q := ofText?_text hq
  · rintro rfl
    rfl

/-- A key with a bracket that only closes, and the name of the root behind it. -/
def closing : FieldPath := (root.key "0]").key "<root>"

/-- An index, and the same key behind it. -/
def indexed : FieldPath := (root.index 0).key "<root>"

lemma isPlain_closing : closing.IsPlain := by
  refine ⟨fun name hname => ?_, by decide⟩
  rcases List.mem_pair.mp hname with h | h
  · obtain rfl := Step.key.inj h
    exact ⟨by decide, by decide, by decide⟩
  · obtain rfl := Step.key.inj h
    exact ⟨by decide, by decide, by decide⟩

lemma isPlain_indexed : indexed.IsPlain := by
  refine ⟨fun name hname => ?_, by decide⟩
  rcases List.mem_pair.mp hname with h | h
  · cases h
  · obtain rfl := Step.key.inj h
    exact ⟨by decide, by decide, by decide⟩

theorem text_inj_closing : closing.IsPlain ∧ indexed.IsPlain ∧ closing.text ≠ indexed.text := by
  refine ⟨isPlain_closing, isPlain_indexed, fun h => ?_⟩
  have heq : closing = indexed := (text_inj isPlain_closing isPlain_indexed).mp h
  exact absurd heq (by decide)

end PromptKit.FieldPath
