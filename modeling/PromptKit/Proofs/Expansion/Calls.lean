import Mathlib.Computability.StateTransition
import PromptKit.Proofs.Expansion.Inlining
import PromptKit.Proofs.NameMap

/-!
An expansion, call by call.

An expansion calls itself on the body of every defined fragment that it comes upon. All its calls
share one stack of names, on which a call stands until it returns. Nothing in the bodies gets
smaller on the way in; the stack alone ends the run, since it never holds a name twice and every
name on it is that of a fragment.
-/

namespace PromptKit

open StateTransition (Reaches eval mem_eval)

/-- What a recursion over fragments does in one turn of its loops. -/
inductive Turn (σ ε : Type) where
  /-- A loop goes on behind a segment, or a call returns. -/
  | on (next : σ)
  /-- A loop calls the recursion on the body of a fragment, which is scanned. -/
  | call (name : String) (next : σ)
  /-- The whole recursion is over. -/
  | ended (ending : ε)

namespace Turn

variable {σ ε : Type}

/-- The state behind a turn, unless the recursion is over. -/
def next? : Turn σ ε → Option σ
  | on s => some s
  | call _ s => some s
  | ended _ => none

/-- What every turn keeps, a run keeps. -/
lemma keeps_of_reaches {f : σ → Option σ} {p : σ → Prop} {s t : σ}
    (hnext : ∀ {s t}, p s → f s = some t → p t) (hs : p s) (h : Reaches f s t) : p t := by
  induction h with
  | refl => exact hs
  | tail _ ht ih => exact hnext ih ht

end Turn

namespace Expansion

/-- A call of the expansion: the stack that it found, and the segments still ahead of its loop. -/
structure Call where
  found : List String := []
  ahead : List Segment
deriving DecidableEq, Repr

/-- An expansion under way, with the call that is running and those that wait for it. -/
structure Expanding where
  running : Call
  /-- The callers, innermost first. -/
  waiting : List Call := []
  /-- The names under way, outermost first. -/
  stack : List String := []
  writer : Writer := {}
deriving DecidableEq, Repr

namespace Expanding

/-- The state at the start of an expansion. -/
def start (segments : List Segment) : Expanding := { running := { ahead := segments } }

/-- The running loop has come to the rest of its segments. -/
def behind (s : Expanding) (rest : List Segment) (w : Writer) : Expanding :=
  { s with running := { s.running with ahead := rest }, writer := w }

/-- The running loop has put a name on the stack and called the expansion on its body. -/
def inside (s : Expanding) (n : String) (rest body : List Segment) : Expanding where
  running := ⟨s.stack ++ [n], body⟩
  waiting := { s.running with ahead := rest } :: s.waiting
  stack := s.stack ++ [n]
  writer := s.writer

/-- Copies a piece, if it fits. -/
def copy (r : Resolver) (s : Expanding) (piece : Segment) (rest : List Segment) :
    Turn Expanding Ending :=
  match Writer.put r.delimiters r.limit s.writer piece with
  | (w, true) => .on (s.behind rest w)
  | (_, false) => .ended (.full piece)

/-- Returns to the caller, which takes the last name off the stack. -/
def leave (s : Expanding) : Turn Expanding Ending :=
  match s.waiting with
  | [] => .ended .done
  | caller :: waiting =>
    .on { s with running := caller, waiting := waiting, stack := s.stack.dropLast }

/-- One turn of the running loop. -/
def turn (r : Resolver) (s : Expanding) : Turn Expanding Ending :=
  match s.running.ahead with
  | [] => leave s
  | .fragment n :: rest =>
    match r.fragments.get? n with
    | none => copy r s (.fragment n) rest
    | some text =>
      if n ∈ s.stack then .ended (.cycle (around s.stack n))
      else .call n (s.inside n rest (r.scan text))
  | piece :: rest => copy r s piece rest

def next? (r : Resolver) (s : Expanding) : Option Expanding := (s.turn r).next?

variable {r : Resolver} {s t : Expanding} {top : List Segment}

/-! ### One turn -/

lemma turn_nil (h : s.running.ahead = []) : s.turn r = leave s := by
  rw [turn, h]

lemma turn_copy {piece : Segment} {rest : List Segment} (h : s.running.ahead = piece :: rest)
    (hpiece : ∀ n, piece = .fragment n → r.bodies.get? n = none) :
    s.turn r = copy r s piece rest := by
  cases piece with
  | fragment n =>
    rw [turn, h]
    simp only [Resolver.get?_bodies_eq_none.mp (hpiece n rfl)]
  | text cs => rw [turn, h]
  | slot n => rw [turn, h]

lemma turn_around {n : String} {rest body : List Segment}
    (h : s.running.ahead = .fragment n :: rest) (hn : r.bodies.get? n = some body)
    (hmem : n ∈ s.stack) : s.turn r = .ended (.cycle (around s.stack n)) := by
  obtain ⟨text, htext, -⟩ := Resolver.get?_bodies_eq_some.mp hn
  rw [turn, h]
  simp only [htext, if_pos hmem]

lemma turn_call {n : String} {rest body : List Segment}
    (h : s.running.ahead = .fragment n :: rest) (hn : r.bodies.get? n = some body)
    (hmem : n ∉ s.stack) : s.turn r = .call n (s.inside n rest body) := by
  obtain ⟨text, htext, rfl⟩ := Resolver.get?_bodies_eq_some.mp hn
  rw [turn, h]
  simp only [htext, if_neg hmem]

/-- How a turn changes the state. -/
inductive Moves (r : Resolver) (s : Expanding) : Expanding → Prop
  | behind {piece rest} (h : s.running.ahead = piece :: rest) (w : Writer) :
      Moves r s (s.behind rest w)
  | inside {n rest body} (h : s.running.ahead = .fragment n :: rest)
      (hn : r.bodies.get? n = some body) (hmem : n ∉ s.stack) : Moves r s (s.inside n rest body)
  | back {caller waiting} (h : s.running.ahead = []) (hwaiting : s.waiting = caller :: waiting) :
      Moves r s { s with running := caller, waiting := waiting, stack := s.stack.dropLast }

lemma moves_of_copy {piece : Segment} {rest : List Segment} (h : s.running.ahead = piece :: rest)
    (ht : (copy r s piece rest).next? = some t) : Moves r s t := by
  unfold copy at ht
  split at ht
  · rename_i w _
    obtain rfl := Option.some.inj ht
    exact .behind h w
  · cases ht

lemma moves_of_next? (h : s.next? r = some t) : Moves r s t := by
  unfold next? turn at h
  split at h
  · rename_i hahead
    unfold leave at h
    split at h
    · cases h
    · rename_i hwaiting
      obtain rfl := Option.some.inj h
      exact .back hahead hwaiting
  · rename_i n rest hahead
    split at h
    · exact moves_of_copy hahead h
    · rename_i text hn
      split at h
      · cases h
      · rename_i hmem
        obtain rfl := Option.some.inj h
        exact .inside hahead (Resolver.get?_bodies hn) hmem
  · rename_i hahead
    exact moves_of_copy hahead h

/-! ### What every turn keeps -/

/-- Each call is nested in the one before it: it found the stack with the name of its fragment at
the end, and takes it off again when it returns. -/
inductive Nesting (fs : Fragments) (top : List Segment) : List Call → List String → Prop
  | outermost {ahead} (h : Nested fs top [] ahead) : Nesting fs top [⟨[], ahead⟩] []
  | inner {calls stack n ahead} (hcalls : Nesting fs top calls stack)
      (hpath : fs.IsPath top (stack ++ [n])) (h : Nested fs top (stack ++ [n]) ahead) :
      Nesting fs top (⟨stack ++ [n], ahead⟩ :: calls) (stack ++ [n])

namespace Nesting

variable {fs : Fragments} {call caller : Call} {calls : List Call} {stack : List String}

lemma found_eq (h : Nesting fs top (call :: calls) stack) : call.found = stack := by
  cases h with
  | outermost => rfl
  | inner => rfl

lemma nested (h : Nesting fs top (call :: calls) stack) : Nested fs top stack call.ahead := by
  cases h with
  | outermost hnested => exact hnested
  | inner _ _ hnested => exact hnested

lemma isPath (h : Nesting fs top calls stack) : fs.IsPath top stack := by
  cases h with
  | outermost => exact ⟨List.isChain_nil, by simp⟩
  | inner _ hpath => exact hpath

lemma length_eq (h : Nesting fs top calls stack) : calls.length = stack.length + 1 := by
  induction h with
  | outermost => rfl
  | inner _ _ _ ih => rw [List.length_cons, ih, List.length_append, List.length_singleton]

lemma behind {piece : Segment} {rest : List Segment}
    (h : Nesting fs top (call :: calls) stack) (hahead : call.ahead = piece :: rest) :
    Nesting fs top ({ call with ahead := rest } :: calls) stack := by
  cases h with
  | outermost hnested =>
    obtain rfl := hahead
    exact .outermost hnested.rest
  | inner hcalls hpath hnested =>
    obtain rfl := hahead
    exact .inner hcalls hpath hnested.rest

lemma inside {n : String} {rest body : List Segment} (h : Nesting fs top (call :: calls) stack)
    (hahead : call.ahead = .fragment n :: rest) (hn : fs.get? n = some body) (hmem : n ∉ stack) :
    Nesting fs top (⟨stack ++ [n], body⟩ :: { call with ahead := rest } :: calls)
      (stack ++ [n]) := by
  have hnested := h.nested
  rw [hahead] at hnested
  exact .inner (h.behind hahead) (hnested.path n List.mem_cons_self) (hnested.push hn hmem)

lemma back (h : Nesting fs top (call :: caller :: calls) stack) :
    Nesting fs top (caller :: calls) stack.dropLast := by
  cases h with
  | inner hcalls _ _ =>
    rw [List.dropLast_concat]
    exact hcalls

end Nesting

/-- The calls of a state are nested in each other. -/
def Nests (r : Resolver) (top : List Segment) (s : Expanding) : Prop :=
  Nesting r.bodies top (s.running :: s.waiting) s.stack

lemma nests_start (r : Resolver) (top : List Segment) : Nests r top (start top) :=
  .outermost (nested_nil r.bodies top)

/-- **One turn** keeps the calls nested. -/
lemma Nests.next (h : Nests r top s) (ht : s.next? r = some t) : Nests r top t := by
  unfold Nests at h
  cases moves_of_next? ht with
  | behind hahead w => exact h.behind hahead
  | inside hahead hn hmem => exact h.inside hahead hn hmem
  | back _ hwaiting =>
    rw [hwaiting] at h
    exact h.back

/-- **A run** keeps the calls nested. -/
lemma Nests.of_reaches (h : Nests r top s) (ht : Reaches (next? r) s t) : Nests r top t :=
  Turn.keeps_of_reaches Nests.next h ht

/-! ### What a run comes to -/

/-- The running call returns with the stack that it found, or the recursion is over within it. -/
def Closes (r : Resolver) (s : Expanding) (w : Writer) : Ending → Prop
  | .done => Reaches (next? r) s (s.behind [] w)
  | ending => ∃ t, Reaches (next? r) s t ∧ t.turn r = .ended ending ∧ t.writer = w

lemma Closes.of_reaches {w : Writer} {ending : Ending} (h : Closes r t w ending)
    (ht : Reaches (next? r) s t) (hback : ending = .done → t.behind [] w = s.behind [] w) :
    Closes r s w ending := by
  cases ending with
  | done =>
    have hreach : Reaches (next? r) t (t.behind [] w) := h
    rw [hback rfl] at hreach
    exact ht.trans hreach
  | cycle path =>
    obtain ⟨u, hu, hended⟩ := h
    exact ⟨u, ht.trans hu, hended⟩
  | full piece =>
    obtain ⟨u, hu, hended⟩ := h
    exact ⟨u, ht.trans hu, hended⟩

/-- The call goes on behind a piece that fits. -/
lemma Closes.copy {piece : Segment} {rest : List Segment} {w w' : Writer} {ending : Ending}
    (hturn : s.turn r = s.copy r piece rest)
    (hput : Writer.put r.delimiters r.limit s.writer piece = (w, true))
    (h : Closes r (s.behind rest w) w' ending) : Closes r s w' ending := by
  refine h.of_reaches (.single ?_) fun _ => rfl
  change (s.turn r).next? = some (s.behind rest w)
  rw [hturn, Expanding.copy, hput]
  rfl

/-- The call ends at a piece that does not fit. -/
lemma closes_full {piece : Segment} {rest : List Segment} {w : Writer}
    (hturn : s.turn r = s.copy r piece rest)
    (hput : Writer.put r.delimiters r.limit s.writer piece = (w, false)) :
    Closes r s w (.full piece) := by
  refine ⟨s, .refl, ?_, ?_⟩
  · rw [hturn, Expanding.copy, hput]
  · simp only [Writer.put] at hput
    split at hput
    · cases hput
    · exact congrArg Prod.fst hput

lemma reaches_inside {n : String} {rest body : List Segment}
    (hturn : s.turn r = .call n (s.inside n rest body)) :
    Reaches (next? r) s (s.inside n rest body) := by
  refine .single ?_
  rw [next?, hturn]
  rfl

/-- A call that returns brings its caller behind the reference. -/
lemma reaches_behind {n : String} {rest body : List Segment} {w : Writer}
    (hturn : s.turn r = .call n (s.inside n rest body))
    (h : Reaches (next? r) (s.inside n rest body) ((s.inside n rest body).behind [] w)) :
    Reaches (next? r) s (s.behind rest w) := by
  have hleave : s.behind rest w ∈ ((s.inside n rest body).behind [] w).next? r := by
    rw [next?, turn_nil rfl]
    simp [leave, inside, behind, Turn.next?]
  exact ((reaches_inside hturn).trans h).tail hleave

/-- **Every call closes**, with what the writing of its segments comes to. The names outside the
stack get fewer on the way into a body. -/
theorem closes_run (r : Resolver) (stack : List String) (w : Writer) (segments : List Segment)
    (s : Expanding) (hstack : s.stack = stack) (hwriter : s.writer = w)
    (hahead : s.running.ahead = segments) :
    Closes r s (Writer.run r.delimiters r.limit r.bodies stack w segments).1
      (Writer.run r.delimiters r.limit r.bodies stack w segments).2 := by
  fun_induction Writer.run r.delimiters r.limit r.bodies stack w segments generalizing s with
  | case1 stack w =>
    obtain ⟨⟨found, ahead⟩, waiting, stack', writer⟩ := s
    obtain rfl : ahead = [] := hahead
    obtain rfl : writer = w := hwriter
    exact Relation.ReflTransGen.refl
  | case2 stack w n rest hn w' hput ih =>
    rw [← hwriter] at hput
    have hturn := turn_copy hahead fun m hm => Segment.fragment.inj hm ▸ hn
    exact .copy hturn hput (ih (s.behind rest w') hstack rfl rfl)
  | case3 stack w n rest hn w' hput =>
    rw [← hwriter] at hput
    exact closes_full (turn_copy hahead fun m hm => Segment.fragment.inj hm ▸ hn) hput
  | case4 stack w n rest body hn hmem =>
    obtain rfl := hstack
    exact ⟨s, .refl, turn_around hahead hn hmem, hwriter⟩
  | case5 stack w n rest body hn hmem w' hrun ihbody ihrest =>
    obtain rfl := hstack
    -- the body returns to the caller, which goes on behind the reference
    have hbody := ihbody (s.inside n rest body) rfl hwriter rfl
    rw [hrun] at hbody
    have hreach := reaches_behind (turn_call hahead hn hmem) hbody
    exact (ihrest (s.behind rest w') rfl rfl rfl).of_reaches hreach fun _ => rfl
  | case6 stack w n rest body hn hmem hrun ihbody =>
    obtain rfl := hstack
    -- the recursion is over within the body, so nobody returns
    have hbody := ihbody (s.inside n rest body) rfl hwriter rfl
    have hcall := reaches_inside (turn_call hahead hn hmem)
    exact hbody.of_reaches hcall fun hdone => (hrun _ (Prod.ext rfl hdone)).elim
  | case7 stack w piece rest hs w' hput ih =>
    rw [← hwriter] at hput
    have hturn : s.turn r = copy r s piece rest := turn_copy hahead fun m hm => absurd hm (hs m)
    exact .copy hturn hput (ih (s.behind rest w') hstack rfl rfl)
  | case8 stack w piece rest hs w' hput =>
    rw [← hwriter] at hput
    exact closes_full (turn_copy hahead fun m hm => absurd hm (hs m)) hput

/-! ### The books of an expansion -/

/-- What holds of the stack and of the calls at a turn of the expansion of a template. -/
structure Kept (r : Resolver) (template : String) (s : Expanding) : Prop where
  distinct : s.stack.Nodup
  defined : ∀ n ∈ s.stack, n ∈ r.fragments.keys
  /-- The template refers to the first name, and the body of each to the next. -/
  path : r.bodies.IsPath (r.scan template) s.stack
  /-- The running call has the stack that it found. -/
  found : s.stack = s.running.found
  /-- A call waits for each name. -/
  nesting : s.waiting.length = s.stack.length
  bounded : s.stack.length ≤ r.fragments.size

/-- **The stack is kept** at every turn. -/
theorem kept_of_reaches {template : String}
    (h : Reaches (next? r) (start (r.scan template)) s) : Kept r template s := by
  have hnests : Nesting r.bodies (r.scan template) (s.running :: s.waiting) s.stack :=
    (nests_start r (r.scan template)).of_reaches h
  have hdefined : ∀ n ∈ s.stack, n ∈ r.fragments.keys := by
    intro n hn
    have hbody := hnests.nested.defined n hn
    rw [NameMap.contains, Resolver.get?_bodies_eq, Option.isSome_map] at hbody
    exact NameMap.mem_keys_iff.mpr hbody
  exact
    { distinct := hnests.nested.nodup
      defined := hdefined
      path := hnests.isPath
      found := hnests.found_eq.symm
      nesting := Nat.succ.inj hnests.length_eq
      bounded := NameMap.length_le_size hnests.nested.nodup hdefined }

lemma mem_eval_of_ended {ending : Ending} (h : Reaches (next? r) s t)
    (hended : t.turn r = .ended ending) : t ∈ eval (next? r) s := by
  refine mem_eval.mpr ⟨h, ?_⟩
  rw [next?, hended]
  rfl

lemma Closes.returns_or_ended {w : Writer} {ending : Ending} (h : Closes r s w ending) :
    (∃ w, Reaches (next? r) s (s.behind [] w)) ∨
      ∃ t ∈ eval (next? r) s, ∃ ending, t.turn r = .ended ending ∧ ending ≠ .done := by
  cases ending with
  | done => exact .inl ⟨w, h⟩
  | cycle path =>
    obtain ⟨t, ht, hended, -⟩ := h
    exact .inr ⟨t, mem_eval_of_ended ht hended, _, hended, Ending.noConfusion⟩
  | full piece =>
    obtain ⟨t, ht, hended, -⟩ := h
    exact .inr ⟨t, mem_eval_of_ended ht hended, _, hended, Ending.noConfusion⟩

/-- **A call returns** with the stack that it found and to the callers that wait for it, unless
the recursion is over in a cycle or at the limit before that. -/
theorem returns_or_ended (r : Resolver) (s : Expanding) :
    (∃ w, Reaches (next? r) s (s.behind [] w)) ∨
      ∃ t ∈ eval (next? r) s, ∃ ending, t.turn r = .ended ending ∧ ending ≠ .done :=
  (closes_run r s.stack s.writer s.running.ahead s rfl rfl rfl).returns_or_ended

/-- **The expansion ends**, and the resolution of the template is what it comes to. -/
theorem exists_mem_eval (r : Resolver) (template : String) :
    ∃ s ∈ eval (next? r) (start (r.scan template)), ∃ ending, s.turn r = .ended ending ∧
      (r.resolve template).result = r.resultOf s.writer.written.reverse ending := by
  have hcloses := closes_run r [] {} (r.scan template) (start (r.scan template)) rfl rfl rfl
  rcases hrun : Writer.run r.delimiters r.limit r.bodies [] {} (r.scan template)
    with ⟨w, ending⟩
  rw [hrun] at hcloses
  obtain ⟨s, hreach, hended, rfl⟩ : ∃ s, Reaches (next? r) (start (r.scan template)) s ∧
      s.turn r = .ended ending ∧ s.writer = w := by
    cases ending with
    | done => exact ⟨_, hcloses, turn_nil rfl, rfl⟩
    | cycle path => exact hcloses
    | full piece => exact hcloses
  exact ⟨s, mem_eval_of_ended hreach hended, ending, hended, Resolver.result_of_run hrun⟩

end Expanding

end Expansion

end PromptKit
