import PromptKit.Expansion
import PromptKit.Proofs.Text.Occurrence

/-!
Byte offsets into a text.

A text can be split at an offset that stands between two of its characters, or at an end, and
nowhere else.
-/

namespace PromptKit.Text

lemma foldl_bytes (n : Nat) (cs : List Char) :
    cs.foldl (fun n c => n + c.utf8Size) n = n + bytes cs := by
  unfold bytes
  induction cs generalizing n with
  | nil => simp
  | cons c cs ih =>
    rw [List.foldl_cons, List.foldl_cons, ih, ih (0 + c.utf8Size)]
    omega

@[simp] lemma bytes_nil : bytes [] = 0 := rfl

@[simp] lemma bytes_cons (c : Char) (cs : List Char) : bytes (c :: cs) = c.utf8Size + bytes cs := by
  rw [bytes, List.foldl_cons, foldl_bytes, Nat.zero_add]

@[simp] lemma bytes_append (a b : List Char) : bytes (a ++ b) = bytes a + bytes b := by
  rw [bytes, List.foldl_append, foldl_bytes]
  rfl

lemma bytes_pos {cs : List Char} (h : cs ≠ []) : 0 < bytes cs := by
  cases cs with
  | nil => exact absurd rfl h
  | cons c cs =>
    have := c.utf8Size_pos
    rw [bytes_cons]
    omega

/-- The parts of a text before and behind a byte offset. An offset inside a character, or
beyond the end, splits nothing. -/
def splitAt? : Nat → List Char → Option (List Char × List Char)
  | 0, cs => some ([], cs)
  | _ + 1, [] => none
  | n + 1, c :: cs =>
    if c.utf8Size ≤ n + 1 then (splitAt? (n + 1 - c.utf8Size) cs).map fun q => (c :: q.1, q.2)
    else none

/-- The part of a text from one byte offset to another. -/
def slice? (i j : Nat) (cs : List Char) : Option (List Char) :=
  if i ≤ j then do
    let behind ← splitAt? i cs
    let within ← splitAt? (j - i) behind.2
    pure within.1
  else none

/-- The byte offset of the first occurrence of `p`. -/
def find? (p cs : List Char) : Option Nat := (cut? p cs).map fun q => bytes q.1

lemma splitAt?_bytes (a r : List Char) : splitAt? (bytes a) (a ++ r) = some (a, r) := by
  induction a with
  | nil => simp [splitAt?]
  | cons c a ih =>
    have hpos := c.utf8Size_pos
    obtain ⟨n, hn⟩ : ∃ n, bytes (c :: a) = n + 1 := ⟨bytes (c :: a) - 1, by rw [bytes_cons]; omega⟩
    have hle : c.utf8Size ≤ n + 1 := by rw [← hn, bytes_cons]; omega
    have hsub : n + 1 - c.utf8Size = bytes a := by rw [← hn, bytes_cons]; omega
    rw [hn, List.cons_append, splitAt?, if_pos hle, hsub, ih]
    rfl

lemma eq_of_splitAt? {n : Nat} {cs a r : List Char} (h : splitAt? n cs = some (a, r)) :
    cs = a ++ r ∧ bytes a = n := by
  fun_induction splitAt? n cs generalizing a with
  | case1 cs =>
    simp only [Option.some.injEq, Prod.mk.injEq] at h
    obtain ⟨rfl, rfl⟩ := h
    exact ⟨rfl, rfl⟩
  | case2 n => simp at h
  | case3 n c cs hc ih =>
    simp only [Option.map_eq_some_iff, Prod.mk.injEq, Prod.exists] at h
    obtain ⟨a', r', h', rfl, rfl⟩ := h
    obtain ⟨rfl, hb⟩ := ih h'
    refine ⟨rfl, ?_⟩
    rw [bytes_cons, hb]
    omega
  | case4 n c cs hc => simp at h

/-- **Where a text can be split**: at the offsets behind its first characters. -/
theorem splitAt?_eq_some {n : Nat} {cs a r : List Char} :
    splitAt? n cs = some (a, r) ↔ cs = a ++ r ∧ bytes a = n := by
  refine ⟨eq_of_splitAt?, ?_⟩
  rintro ⟨rfl, rfl⟩
  exact splitAt?_bytes a r

lemma le_bytes_of_splitAt? {n : Nat} {cs : List Char} {q : List Char × List Char}
    (h : splitAt? n cs = some q) : n ≤ bytes cs := by
  obtain ⟨rfl, rfl⟩ := splitAt?_eq_some.mp h
  rw [bytes_append]
  omega

lemma slice?_bytes (a b r : List Char) :
    slice? (bytes a) (bytes (a ++ b)) (a ++ b ++ r) = some b := by
  have hsub : bytes (a ++ b) - bytes a = bytes b := by rw [bytes_append]; omega
  rw [slice?, if_pos (by rw [bytes_append]; omega), hsub, List.append_assoc, splitAt?_bytes]
  simp [splitAt?_bytes]

end PromptKit.Text
