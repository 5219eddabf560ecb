import PromptKit.NameMap
import PromptKit.Template

/-!
Putting the fragments of a template in their places.

`expand` replaces each place of a defined fragment by the expansion of that fragment, and ends
at the first fragment that stands inside itself. `Writer.run` does the same under a limit on
the bytes of the text that comes out.
-/

namespace PromptKit

/-- The segments of each fragment. -/
abbrev Fragments := NameMap (List Segment)

namespace Fragments

def ofTexts (d : Delimiters) (texts : NameMap String) : Fragments :=
  texts.map fun t => Template.scan d t.toList

/-- The fragments that are not in a list. -/
def outside (fs : Fragments) (names : List String) : List String :=
  fs.keys.filter fun k => k ∉ names

theorem length_filter_lt {p q : String → Bool} {ks : List String} {k : String}
    (h : ∀ x, q x → p x) (hk : k ∈ ks) (hp : p k) (hq : ¬ q k) :
    (ks.filter q).length < (ks.filter p).length := by
  induction ks with
  | nil => simp at hk
  | cons a ks ih =>
    have hle : (ks.filter q).length ≤ (ks.filter p).length := by
      rw [← List.countP_eq_length_filter, ← List.countP_eq_length_filter]
      exact List.countP_mono_left fun x _ => h x
    rcases List.mem_cons.1 hk with rfl | hk
    · simp only [List.filter_cons, hp, hq, if_true, Bool.false_eq_true, if_false,
        List.length_cons]
      omega
    · have hlt := ih hk
      by_cases hqa : q a
      · simp [hqa, h a hqa, hlt]
      · by_cases hpa : p a <;> simp [hqa, hpa] <;> omega

theorem length_outside_lt {fs : Fragments} {names : List String} {n : String} {body : List Segment}
    (h : fs.get? n = some body) (hn : n ∉ names) (after : List String)
    (ha : ∀ k, k ∈ after ↔ k = n ∨ k ∈ names) :
    (fs.outside after).length < (fs.outside names).length := by
  refine length_filter_lt (fun k hk => ?_) (NameMap.mem_keys_of_get? h) ?_ ?_
  · simp only [decide_eq_true_eq, ha, not_or] at hk ⊢
    exact hk.2
  · simpa using hn
  · simp [ha]

end Fragments

/-- What comes of a template: its pieces, and the way around a cycle when one ends it. -/
structure Expansion where
  pieces : List Segment
  cycle : Option (List String) := none
deriving DecidableEq, Repr

namespace Expansion

def cons (s : Segment) (e : Expansion) : Expansion := ⟨s :: e.pieces, e.cycle⟩

/-- Goes on after an expansion, unless a cycle ended it. -/
def andThen (e : Expansion) (next : Expansion) : Expansion :=
  match e.cycle with
  | some path => ⟨e.pieces, some path⟩
  | none => ⟨e.pieces ++ next.pieces, next.cycle⟩

/-- The fragments under way, outermost first, from one of them on, and that one again. -/
def around (stack : List String) (name : String) : List String :=
  stack.dropWhile (· != name) ++ [name]

/-- The expansion of segments, inside the fragments of the stack. -/
def expand (fs : Fragments) (stack : List String) (segments : List Segment) : Expansion :=
  match segments with
  | [] => ⟨[], none⟩
  | .fragment n :: rest =>
    match _h : fs.get? n with
    | none => cons (.fragment n) (expand fs stack rest)
    | some body =>
      if _hn : n ∈ stack then ⟨[], some (around stack n)⟩
      else andThen (expand fs (stack ++ [n]) body) (expand fs stack rest)
  | s :: rest => cons s (expand fs stack rest)
termination_by ((fs.outside stack).length, segments.length)
decreasing_by
  · exact Prod.Lex.right _ (by simp)
  · exact Prod.Lex.left _ _
      (Fragments.length_outside_lt _h _hn _ fun k => by simp [or_comm])
  · exact Prod.Lex.right _ (by simp)
  · exact Prod.Lex.right _ (by simp)

/-- The fragments that are referred to and not defined, inside those that can be reached, each
at its first place; the defined ones in `seen` are not entered again. -/
def missingFrom (fs : Fragments) (seen found : List String) (segments : List Segment) :
    List String :=
  match segments with
  | [] => found
  | .fragment n :: rest =>
    match _h : fs.get? n with
    | none => missingFrom fs seen (if n ∈ found then found else found ++ [n]) rest
    | some body =>
      if _hn : n ∈ seen then missingFrom fs seen found rest
      else missingFrom fs (seen ++ [n]) found (body ++ rest)
  | _ :: rest => missingFrom fs seen found rest
termination_by ((fs.outside seen).length, segments.length)
decreasing_by
  · exact Prod.Lex.right _ (by simp)
  · exact Prod.Lex.right _ (by simp)
  · exact Prod.Lex.left _ _
      (Fragments.length_outside_lt _h _hn _ fun k => by simp [or_comm])
  · exact Prod.Lex.right _ (by simp)

def missing (fs : Fragments) (segments : List Segment) : List String :=
  missingFrom fs [] [] segments

end Expansion

/-- The bytes of a text. -/
def Text.bytes (cs : List Char) : Nat := cs.foldl (fun n c => n + c.utf8Size) 0

/-- How the writing of an expansion ends. -/
inductive Ending where
  | done
  | cycle (path : List String)
  /-- The next piece does not fit. -/
  | full (next : Segment)
deriving DecidableEq, Repr

/-- The pieces written so far, latest first, with their bytes. -/
structure Writer where
  written : List Segment := []
  bytes : Nat := 0
deriving DecidableEq, Repr

namespace Writer

/-- Writes one piece if it fits. -/
def put (d : Delimiters) (limit : Nat) (w : Writer) (s : Segment) : Writer × Bool :=
  let n := w.bytes + Text.bytes (s.raw d)
  if n ≤ limit then (⟨s :: w.written, n⟩, true) else (w, false)

/-- Writes the expansion of segments, inside the fragments of the stack. -/
def run (d : Delimiters) (limit : Nat) (fs : Fragments) (stack : List String) (w : Writer)
    (segments : List Segment) : Writer × Ending :=
  match segments with
  | [] => (w, .done)
  | .fragment n :: rest =>
    match _h : fs.get? n with
    | none =>
      match put d limit w (.fragment n) with
      | (w, true) => run d limit fs stack w rest
      | (w, false) => (w, .full (.fragment n))
    | some body =>
      if _hn : n ∈ stack then (w, .cycle (Expansion.around stack n))
      else
        match run d limit fs (stack ++ [n]) w body with
        | (w, .done) => run d limit fs stack w rest
        | r => r
  | s :: rest =>
    match put d limit w s with
    | (w, true) => run d limit fs stack w rest
    | (w, false) => (w, .full s)
termination_by ((fs.outside stack).length, segments.length)
decreasing_by
  · exact Prod.Lex.right _ (by simp)
  · exact Prod.Lex.left _ _
      (Fragments.length_outside_lt _h _hn _ fun k => by simp [or_comm])
  · exact Prod.Lex.right _ (by simp)
  · exact Prod.Lex.right _ (by simp)

end Writer

end PromptKit
