/-!
Looking for one text inside another.

`after? p cs` is what follows `p` at the start of `cs`; `cut? p cs` splits `cs` around the
first occurrence of `p`, and `split` around every occurrence of a character.
-/

namespace PromptKit.Text

/-- The rest of the second text when it starts with the first. -/
def after? : List Char → List Char → Option (List Char)
  | [], cs => some cs
  | _ :: _, [] => none
  | p :: ps, c :: cs => if p = c then after? ps cs else none

theorem after?_eq_some {p cs r : List Char} : after? p cs = some r ↔ cs = p ++ r := by
  induction p generalizing cs with
  | nil => simp [after?, eq_comm]
  | cons a p ih =>
    cases cs with
    | nil => simp [after?]
    | cons c cs =>
      by_cases h : a = c
      · simp [after?, h, ih]
      · simp [after?, h, Ne.symm h]

@[simp] theorem after?_append (p r : List Char) : after? p (p ++ r) = some r :=
  after?_eq_some.2 rfl

/-- The texts before and after the first occurrence of `p`. -/
def cut? (p : List Char) : List Char → Option (List Char × List Char)
  | [] => (after? p []).map ([], ·)
  | c :: cs =>
    match after? p (c :: cs) with
    | some r => some ([], r)
    | none => (cut? p cs).map fun q => (c :: q.1, q.2)

theorem eq_of_cut? {p cs a r : List Char} (h : cut? p cs = some (a, r)) : cs = a ++ p ++ r := by
  induction cs generalizing a with
  | nil =>
    simp only [cut?, Option.map_eq_some_iff, Prod.mk.injEq] at h
    obtain ⟨q, hq, rfl, rfl⟩ := h
    simpa using after?_eq_some.1 hq
  | cons c cs ih =>
    simp only [cut?] at h
    split at h
    · rename_i q hq
      simp only [Option.some.injEq, Prod.mk.injEq] at h
      obtain ⟨rfl, rfl⟩ := h
      simpa using after?_eq_some.1 hq
    · simp only [Option.map_eq_some_iff, Prod.mk.injEq, Prod.exists] at h
      obtain ⟨a', r', h', rfl, rfl⟩ := h
      simp [ih h']

/-- The parts between the occurrences of a character. -/
def split (sep : Char) : List Char → List (List Char)
  | [] => [[]]
  | c :: cs =>
    if c = sep then [] :: split sep cs
    else match split sep cs with
      | [] => [[c]]
      | t :: ts => (c :: t) :: ts

/-- Whether `p` occurs somewhere in the text. -/
def occursIn (p cs : List Char) : Bool := (cut? p cs).isSome

end PromptKit.Text
