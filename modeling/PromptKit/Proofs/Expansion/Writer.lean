import PromptKit.Proofs.Expansion.Stack

/-!
Writing an expansion under a limit.

A writer goes through the pieces of the expansion in their order and stops at the first that
does not fit; the limit changes nothing else.
-/

namespace PromptKit.Writer

open Expansion

variable {d : Delimiters} {limit : Nat} {fs : Fragments}

/-- Writes pieces up to the first that does not fit. -/
def putAll (d : Delimiters) (limit : Nat) (w : Writer) : List Segment → Writer × Option Segment
  | [] => (w, none)
  | s :: rest =>
    match put d limit w s with
    | (w, true) => putAll d limit w rest
    | (w, false) => (w, some s)

/-- How an expansion ends when all its pieces fit. -/
def endingOf (e : Expansion) : Ending :=
  match e.cycle with
  | none => .done
  | some path => .cycle path

/-- Writes an expansion. -/
def write (d : Delimiters) (limit : Nat) (w : Writer) (e : Expansion) : Writer × Ending :=
  match putAll d limit w e.pieces with
  | (w, none) => (w, endingOf e)
  | (w, some s) => (w, .full s)

lemma putAll_append (w : Writer) (a b : List Segment) :
    putAll d limit w (a ++ b) =
      match putAll d limit w a with
      | (w, none) => putAll d limit w b
      | r => r := by
  induction a generalizing w with
  | nil => rfl
  | cons s a ih =>
    rw [List.cons_append, putAll, putAll]
    rcases put d limit w s with ⟨w', _ | _⟩
    · rfl
    · exact ih w'

lemma put_of_le {w : Writer} {s : Segment} (h : w.bytes + Text.bytes (s.raw d) ≤ limit) :
    put d limit w s = (⟨s :: w.written, w.bytes + Text.bytes (s.raw d)⟩, true) := by
  simp [put, h]

lemma put_of_lt {w : Writer} {s : Segment} (h : limit < w.bytes + Text.bytes (s.raw d)) :
    put d limit w s = (w, false) := by
  simp [put, Nat.not_le.mpr h]

/-- What was written is kept, with the new pieces in front, latest first. -/
lemma written_of_putAll {w w' : Writer} {pieces : List Segment}
    (h : putAll d limit w pieces = (w', none)) : w'.written = pieces.reverse ++ w.written := by
  induction pieces generalizing w with
  | nil =>
    obtain rfl : w = w' := by simpa [putAll] using h
    rfl
  | cons s pieces ih =>
    rw [putAll] at h
    rcases Nat.lt_or_ge limit (w.bytes + Text.bytes (s.raw d)) with hlt | hle
    · simp [put_of_lt hlt] at h
    · rw [put_of_le hle] at h
      rw [ih h]
      simp

lemma write_cons (w : Writer) (s : Segment) (e : Expansion) :
    write d limit w (cons s e) =
      match put d limit w s with
      | (w, true) => write d limit w e
      | (w, false) => (w, .full s) := by
  rw [write, pieces_cons, putAll]
  rcases put d limit w s with ⟨w', _ | _⟩
  · rfl
  · rfl

lemma write_andThen (w : Writer) (e next : Expansion) :
    write d limit w (andThen e next) =
      match write d limit w e with
      | (w, .done) => write d limit w next
      | r => r := by
  rcases hc : e.cycle with _ | path
  · rw [andThen_of_none hc, write, write, putAll_append]
    rcases putAll d limit w e.pieces with ⟨w', _ | s⟩
    · simp [endingOf, hc, write]
    · rfl
  · rw [andThen_of_cycle hc, write]
    rcases putAll d limit w e.pieces with ⟨w', _ | s⟩
    · simp [endingOf, hc]
    · rfl

/-- **A writer writes the expansion**: its pieces in order, until one does not fit. -/
theorem run_eq (stack : List String) (w : Writer) (segments : List Segment) :
    run d limit fs stack w segments = write d limit w (expand fs stack segments) := by
  fun_induction run d limit fs stack w segments with
  | case1 => simp [write, putAll, endingOf]
  | case2 stack w n rest hn w' hput ih => rw [expand_undefined hn, write_cons, hput, ih]
  | case3 stack w n rest hn w' hput => rw [expand_undefined hn, write_cons, hput]
  | case4 stack w n rest body hn hmem =>
    rw [expand_around hn hmem]
    simp [write, putAll, endingOf]
  | case5 stack w n rest body hn hmem w' hrun ihbody ihrest =>
    rw [expand_defined hn hmem, write_andThen, ← ihbody, hrun, ihrest]
  | case6 stack w n rest body hn hmem hrun ihbody =>
    rw [expand_defined hn hmem, write_andThen, ← ihbody]
    split
    · rename_i w' hdone
      exact absurd hdone (hrun w')
    · rfl
  | case7 stack w s rest hs w' hput ih => rw [expand_other hs, write_cons, hput, ih]
  | case8 stack w s rest hs w' hput => rw [expand_other hs, write_cons, hput]

end PromptKit.Writer
