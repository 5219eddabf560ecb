import PromptKit.Proofs.Expansion.Calls
import PromptKit.Proofs.Expansion.Missing

/-!
How the recursions over fragments end.

The search for missing fragments calls itself like the expansion does, and keeps a list of the
fragments that it has entered. Nothing is taken off that list, so a body is scanned once at most.
An expansion and a search end on all fragments, whatever their cycles.
-/

namespace PromptKit

open StateTransition (Reaches eval mem_eval)

namespace Expansion

/-- A search for missing fragments under way. -/
structure Searching where
  /-- The segments still ahead of the running call. -/
  running : List Segment
  /-- What is still ahead of its callers, innermost first. -/
  waiting : List (List Segment) := []
  entered : List String := []
  missing : List String := []
deriving DecidableEq, Repr

namespace Searching

/-- The state at the start of a search. -/
def start (segments : List Segment) : Searching := { running := segments }

/-- The running loop has noted a name as missing, unless it was found before. -/
def note (s : Searching) (n : String) (rest : List Segment) : Searching :=
  { s with
    running := rest
    missing := if n ∈ s.missing then s.missing else s.missing ++ [n] }

/-- The running loop has entered a fragment and called the search on its body. -/
def inside (s : Searching) (n : String) (rest body : List Segment) : Searching :=
  { s with running := body, waiting := rest :: s.waiting, entered := s.entered ++ [n] }

/-- Returns to the caller. -/
def leave (s : Searching) : Turn Searching Unit :=
  match s.waiting with
  | [] => .ended ()
  | caller :: waiting => .on { s with running := caller, waiting := waiting }

/-- One turn of the running loop. -/
def turn (r : Resolver) (s : Searching) : Turn Searching Unit :=
  match s.running with
  | [] => leave s
  | .fragment n :: rest =>
    match r.fragments.get? n with
    | none => .on (s.note n rest)
    | some text =>
      if n ∈ s.entered then .on { s with running := rest }
      else .call n (s.inside n rest (r.scan text))
  | _ :: rest => .on { s with running := rest }

def next? (r : Resolver) (s : Searching) : Option Searching := (s.turn r).next?

variable {r : Resolver} {s t : Searching}

/-! ### One turn -/

/-- What a turn can be. -/
inductive Turns (r : Resolver) (s : Searching) : Turn Searching Unit → Prop
  | note {n rest} (h : s.running = .fragment n :: rest) (hn : r.bodies.get? n = none) :
      Turns r s (.on (s.note n rest))
  | again {n rest body} (h : s.running = .fragment n :: rest) (hn : r.bodies.get? n = some body)
      (hmem : n ∈ s.entered) : Turns r s (.on { s with running := rest })
  | inside {n rest body} (h : s.running = .fragment n :: rest) (hn : r.bodies.get? n = some body)
      (hmem : n ∉ s.entered) : Turns r s (.call n (s.inside n rest body))
  | other {piece rest} (h : s.running = piece :: rest) (hpiece : ∀ n, piece ≠ .fragment n) :
      Turns r s (.on { s with running := rest })
  | back {caller waiting} (h : s.running = []) (hwaiting : s.waiting = caller :: waiting) :
      Turns r s (.on { s with running := caller, waiting := waiting })
  | finish (h : s.running = []) (hwaiting : s.waiting = []) : Turns r s (.ended ())

lemma turns_turn (r : Resolver) (s : Searching) : Turns r s (s.turn r) := by
  unfold turn
  split
  · rename_i hrunning
    unfold leave
    split
    · rename_i hwaiting
      exact .finish hrunning hwaiting
    · rename_i hwaiting
      exact .back hrunning hwaiting
  · rename_i n rest hrunning
    split
    · rename_i hn
      exact .note hrunning (Resolver.get?_bodies_eq_none.mpr hn)
    · rename_i text hn
      split
      · rename_i hmem
        exact .again hrunning (Resolver.get?_bodies hn) hmem
      · rename_i hmem
        exact .inside hrunning (Resolver.get?_bodies hn) hmem
  · rename_i hother hrunning
    exact .other hrunning hother

lemma exists_turns (h : s.next? r = some t) : ∃ u, Turns r s u ∧ u.next? = some t :=
  ⟨s.turn r, turns_turn r s, h⟩

/-- The search is over when no call has anything ahead. -/
lemma eq_nil_of_next?_eq_none (h : s.next? r = none) : s.running = [] ∧ s.waiting = [] := by
  have hturns := turns_turn r s
  unfold next? at h
  generalize s.turn r = u at h hturns
  cases hturns with
  | note | again | inside | other | back => cases h
  | finish hrunning hwaiting => exact ⟨hrunning, hwaiting⟩

/-- A body is scanned for a fragment that was not entered before, and is from then on. -/
lemma of_turn_eq_call {n : String} (h : s.turn r = .call n t) :
    n ∉ s.entered ∧ t.entered = s.entered ++ [n] := by
  have hturns := turns_turn r s
  rw [h] at hturns
  cases hturns with
  | inside _ _ hmem => exact ⟨hmem, rfl⟩

/-! ### What every turn keeps -/

/-- What holds of the list of entered fragments at a turn of a search. -/
structure Kept (r : Resolver) (s : Searching) : Prop where
  distinct : s.entered.Nodup
  defined : ∀ n ∈ s.entered, n ∈ r.fragments.keys

lemma kept_start (r : Resolver) (segments : List Segment) : Kept r (start segments) :=
  ⟨List.nodup_nil, fun _ hn => absurd hn List.not_mem_nil⟩

/-- A fragment that is entered is defined, and was not entered before. -/
lemma Kept.inside {n : String} {rest body : List Segment} (h : Kept r s)
    (hn : r.bodies.get? n = some body) (hmem : n ∉ s.entered) : Kept r (s.inside n rest body) := by
  refine ⟨?_, fun m hm => ?_⟩
  · exact List.nodup_append.mpr ⟨h.distinct, List.nodup_singleton n, by
      rintro a ha b hb rfl
      exact hmem (List.mem_singleton.mp hb ▸ ha)⟩
  · rcases List.mem_append.mp hm with hm | hm
    · exact h.defined m hm
    · obtain rfl := List.mem_singleton.mp hm
      obtain ⟨text, htext, -⟩ := Resolver.get?_bodies_eq_some.mp hn
      exact NameMap.mem_keys_of_get? htext

/-- **One turn** keeps what holds of the list. -/
lemma Kept.next (h : Kept r s) (hnext : s.next? r = some t) : Kept r t := by
  obtain ⟨u, hu, ht⟩ := exists_turns hnext
  cases hu with
  | note | again | other | back =>
    obtain rfl := Option.some.inj ht
    exact ⟨h.distinct, h.defined⟩
  | inside _ hn hmem =>
    obtain rfl := Option.some.inj ht
    exact h.inside hn hmem
  | finish => cases ht

/-- **A run** keeps what holds of the list. -/
theorem Kept.of_reaches (h : Kept r s) (ht : Reaches (next? r) s t) : Kept r t :=
  Turn.keeps_of_reaches Kept.next h ht

lemma entered_next (hnext : s.next? r = some t) : s.entered <+: t.entered := by
  obtain ⟨u, hu, ht⟩ := exists_turns hnext
  cases hu with
  | note | again | other | back =>
    obtain rfl := Option.some.inj ht
    exact List.prefix_refl _
  | inside =>
    obtain rfl := Option.some.inj ht
    exact List.prefix_append _ _
  | finish => cases ht

/-- **Nothing is taken off** the list. -/
theorem entered_of_reaches (h : Reaches (next? r) s t) : s.entered <+: t.entered :=
  Turn.keeps_of_reaches (p := fun t => s.entered <+: t.entered)
    (fun hs hnext => hs.trans (entered_next hnext)) (List.prefix_refl _) h

/-- **A body is scanned once at most**: no turn behind a call on it is another one. -/
theorem turn_ne_call {n : String} {s' t' : Searching} (h : s.turn r = .call n s')
    (ht : Reaches (next? r) s' t) : t.turn r ≠ .call n t' := by
  intro hagain
  have hentered : n ∈ s'.entered := by
    rw [(of_turn_eq_call h).2]
    exact List.mem_append_right _ (List.mem_singleton_self n)
  exact (of_turn_eq_call hagain).1 ((entered_of_reaches ht).subset hentered)

/-! ### What a run comes to -/

/-- What the search comes to from a state on. -/
def result (r : Resolver) (s : Searching) : List String :=
  missingFrom r.bodies s.entered s.missing (s.running ++ s.waiting.flatten)

lemma result_next (hnext : s.next? r = some t) : t.result r = s.result r := by
  unfold result
  obtain ⟨u, hu, ht⟩ := exists_turns hnext
  cases hu with
  | note hrunning hn =>
    obtain rfl := Option.some.inj ht
    rw [hrunning, List.cons_append, missingFrom_undefined hn]
    rfl
  | again hrunning hn hmem =>
    obtain rfl := Option.some.inj ht
    rw [hrunning, List.cons_append, missingFrom_seen hn hmem]
  | inside hrunning hn hmem =>
    obtain rfl := Option.some.inj ht
    rw [hrunning, List.cons_append, missingFrom_enter hn hmem]
    rfl
  | other hrunning hpiece =>
    obtain rfl := Option.some.inj ht
    rw [hrunning, List.cons_append, missingFrom_other hpiece]
  | back hrunning hwaiting =>
    obtain rfl := Option.some.inj ht
    rw [hrunning, hwaiting, List.nil_append, List.flatten_cons]
  | finish => cases ht

lemma result_of_reaches (h : Reaches (next? r) s t) : t.result r = s.result r :=
  Turn.keeps_of_reaches (p := fun t => t.result r = s.result r)
    (fun hs hnext => (result_next hnext).trans hs) rfl h

/-- The fragments that are not entered yet, then the segments ahead, then the callers. -/
def measure (r : Resolver) (s : Searching) : Nat × Nat × Nat :=
  ((r.bodies.outside s.entered).length, (s.running ++ s.waiting.flatten).length, s.waiting.length)

/-- **Every turn uses up something**: a fragment that was not entered, or else a segment, or else
a caller. -/
lemma measure_next (hnext : s.next? r = some t) :
    Prod.Lex (· < ·) (Prod.Lex (· < ·) (· < ·)) (t.measure r) (s.measure r) := by
  have hsegment {rest : List Segment} {piece : Segment} (hrunning : s.running = piece :: rest) :
      (rest ++ s.waiting.flatten).length < (s.running ++ s.waiting.flatten).length := by
    rw [hrunning, List.cons_append, List.length_cons]
    exact Nat.lt_succ_self _
  obtain ⟨u, hu, ht⟩ := exists_turns hnext
  cases hu with
  | note hrunning | again hrunning | other hrunning =>
    obtain rfl := Option.some.inj ht
    exact .right _ (.left _ _ (hsegment hrunning))
  | @inside n rest body _ hn hmem =>
    obtain rfl := Option.some.inj ht
    have hfewer : (r.bodies.outside (s.entered ++ [n])).length <
        (r.bodies.outside s.entered).length :=
      Fragments.length_outside_lt hn hmem _ fun k => by simp [or_comm]
    exact .left _ _ hfewer
  | @back caller waiting hrunning hwaiting =>
    obtain rfl := Option.some.inj ht
    have hahead : caller ++ waiting.flatten = s.running ++ s.waiting.flatten := by
      rw [hrunning, hwaiting, List.nil_append, List.flatten_cons]
    unfold measure
    simp only [hahead]
    refine .right _ (.right _ ?_)
    rw [hwaiting, List.length_cons]
    exact Nat.lt_succ_self _
  | finish => cases ht

/-- **The search ends** from every state. -/
theorem exists_mem_eval (r : Resolver) (s : Searching) : ∃ t, t ∈ eval (next? r) s := by
  rcases hnext : s.next? r with _ | t
  · exact ⟨s, mem_eval.mpr ⟨.refl, hnext⟩⟩
  · obtain ⟨u, hu⟩ := exists_mem_eval r t
    refine ⟨u, ?_⟩
    obtain ⟨hreach, hended⟩ := mem_eval.mp hu
    exact mem_eval.mpr ⟨.head hnext hreach, hended⟩
termination_by s.measure r
decreasing_by exact measure_next hnext

/-- What a search comes to is what it has found when it ends. -/
lemma missing_of_mem_eval {segments : List Segment} (h : t ∈ eval (next? r) (start segments)) :
    t.missing = Expansion.missing r.bodies segments := by
  obtain ⟨hreach, hended⟩ := mem_eval.mp h
  obtain ⟨hrunning, hwaiting⟩ := eq_nil_of_next?_eq_none hended
  have hend : t.result r = t.missing := by
    rw [result, hrunning, hwaiting, List.flatten_nil, List.append_nil, missingFrom_nil]
  have hstart : (start segments).result r = Expansion.missing r.bodies segments := by
    rw [result, start, List.flatten_nil, List.append_nil]
    rfl
  rw [← hend, result_of_reaches hreach, hstart]

end Searching

end Expansion

namespace Resolver

open Expansion

/-- How the recursions over fragments keep their books, and that they end by them. -/
structure Bookkeeping (r : Resolver) (template : String) : Prop where
  /-- At every turn of an expansion the stack is a path of distinct fragments, and as deep as the
  calls. -/
  stack_kept : ∀ s, Reaches (Expanding.next? r) (.start (r.scan template)) s → s.Kept r template
  /-- Every call of an expansion returns with the stack that it found, unless the expansion is
  over in an error before that. -/
  call_returns : ∀ s, Reaches (Expanding.next? r) (.start (r.scan template)) s →
    (∃ w, Reaches (Expanding.next? r) s (s.behind [] w)) ∨
      ∃ t ∈ eval (Expanding.next? r) s, ∃ ending, t.turn r = .ended ending ∧ ending ≠ .done
  /-- The expansion ends, in what is resolved. -/
  expansion_ends : ∃ s ∈ eval (Expanding.next? r) (.start (r.scan template)), ∃ ending,
    s.turn r = .ended ending ∧
      (r.resolve template).result = r.resultOf s.writer.written.reverse ending
  /-- At every turn of a search the entered fragments are distinct fragments. -/
  entered_kept : ∀ s, Reaches (Searching.next? r) (.start (r.scan template)) s → s.Kept r
  /-- No fragment is taken off those that are entered. -/
  entered_grows : ∀ s t, Reaches (Searching.next? r) (.start (r.scan template)) s →
    Reaches (Searching.next? r) s t → s.entered <+: t.entered
  /-- No body is scanned at two turns of a search. -/
  scanned_once : ∀ s n s', Reaches (Searching.next? r) (.start (r.scan template)) s →
    s.turn r = .call n s' → ∀ t t', Reaches (Searching.next? r) s' t → t.turn r ≠ .call n t'
  /-- The search ends, in what is missing. -/
  search_ends : ∃ s ∈ eval (Searching.next? r) (.start (r.scan template)),
    r.missing template = s.missing

/-- **Both recursions end by their books**, on all fragments: the expansion by its stack, off which
each call takes the name that was put there for it, and the search by the list of fragments that it
has entered. -/
theorem recursions_end (r : Resolver) (template : String) : Bookkeeping r template where
  stack_kept _ hs := Expanding.kept_of_reaches hs
  call_returns s _ := Expanding.returns_or_ended r s
  expansion_ends := Expanding.exists_mem_eval r template
  entered_kept _ hs := (Searching.kept_start r (r.scan template)).of_reaches hs
  entered_grows _ _ _ ht := Searching.entered_of_reaches ht
  scanned_once _ _ _ _ hcall _ _ ht := Searching.turn_ne_call hcall ht
  search_ends := by
    obtain ⟨s, hs⟩ := Searching.exists_mem_eval r (.start (r.scan template))
    exact ⟨s, hs, (Searching.missing_of_mem_eval hs).symm⟩

/-! ### A run around a cycle -/

lemma bodies_twoInEachOther : twoInEachOther.bodies.get? "a" = some [.fragment "b"] ∧
    twoInEachOther.bodies.get? "b" = some [.fragment "a"] := by
  decide +kernel

/-- The expansion goes two calls deep, which is as deep as two fragments allow, and ends there. -/
theorem recursions_end_two_in_each_other :
    (∃ s, Reaches (Expanding.next? twoInEachOther) (.start (twoInEachOther.scan "<fragment:a>")) s ∧
      s.stack = ["a", "b"] ∧ s.waiting.length = twoInEachOther.fragments.size ∧
      s.Kept twoInEachOther "<fragment:a>") ∧
    ∃ s ∈ eval (Expanding.next? twoInEachOther) (.start (twoInEachOther.scan "<fragment:a>")),
      s.turn twoInEachOther = .ended (.cycle ["a", "b", "a"]) := by
  have hends := recursions_end twoInEachOther "<fragment:a>"
  have hscan : twoInEachOther.scan "<fragment:a>" = [.fragment "a"] := by decide +kernel
  obtain ⟨ha, hb⟩ := bodies_twoInEachOther
  constructor
  · have hfirst := Expanding.reaches_inside (s := .start (twoInEachOther.scan "<fragment:a>"))
      (Expanding.turn_call hscan ha List.not_mem_nil)
    have hsecond := hfirst.trans
      (Expanding.reaches_inside (Expanding.turn_call rfl hb (by decide)))
    exact ⟨_, hsecond, rfl, by decide, hends.stack_kept _ hsecond⟩
  · obtain ⟨s, hs, ending, hended, hresult⟩ := hends.expansion_ends
    rw [result_twoInEachOther] at hresult
    refine ⟨s, hs, ?_⟩
    cases ending with
    | done => cases hresult
    | cycle path =>
      obtain rfl : ["a", "b", "a"] = path := by simpa [resultOf] using hresult
      exact hended
    | full piece => cases hresult

end Resolver

end PromptKit
