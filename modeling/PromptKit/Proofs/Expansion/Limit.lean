import PromptKit.Proofs.Expansion.Inlining

/-!
Resolving a template under a limit.

Without a limit a template is written to its end, or up to where it comes around a cycle. A limit
is held against the bytes of what is written then. It decides whether the outcome is the one
without a limit, and it changes nothing else.
-/

namespace PromptKit

/-- The bytes that are counted are those of the text. -/
lemma Text.bytes_toList (s : String) : Text.bytes s.toList = s.utf8ByteSize := by
  obtain ⟨cs, rfl⟩ : ∃ cs, s = String.ofList cs := ⟨s.toList, String.ofList_toList.symm⟩
  rw [String.toList_ofList]
  induction cs with
  | nil => rfl
  | cons c cs ih =>
    calc Text.bytes (c :: cs) = c.utf8Size + Text.bytes cs := Text.bytes_cons c cs
      _ = c.utf8Size + (String.ofList cs).utf8ByteSize := by rw [ih]
      _ = (String.ofList (c :: cs)).utf8ByteSize := by
          rw [String.ofList_cons, String.utf8ByteSize_append, String.utf8ByteSize_singleton]

namespace Expansion

variable {fs : Fragments}

/-- Inside the fragments of the stack, segments are written as pieces when nothing limits them: to
the end, or up to where they come around a cycle. -/
inductive Emits (fs : Fragments) :
    List String → List Segment → List Segment → Option (List String) → Prop
  | nil {stack} : Emits fs stack [] [] none
  | keep {stack s rest pieces cycle} (h : ∀ n, s = .fragment n → fs.get? n = none)
      (hrest : Emits fs stack rest pieces cycle) : Emits fs stack (s :: rest) (s :: pieces) cycle
  | around {stack n body rest} (h : fs.get? n = some body) (hn : n ∈ stack) :
      Emits fs stack (.fragment n :: rest) [] (some (stack.dropWhile (· != n) ++ [n]))
  | within {stack n body rest pieces path} (h : fs.get? n = some body) (hn : n ∉ stack)
      (hbody : Emits fs (stack ++ [n]) body pieces (some path)) :
      Emits fs stack (.fragment n :: rest) pieces (some path)
  | behind {stack n body rest inner pieces cycle} (h : fs.get? n = some body) (hn : n ∉ stack)
      (hbody : Emits fs (stack ++ [n]) body inner none)
      (hrest : Emits fs stack rest pieces cycle) :
      Emits fs stack (.fragment n :: rest) (inner ++ pieces) cycle

variable {stack : List String} {segments pieces : List Segment} {cycle : Option (List String)}

/-- An expansion consists of what is written, and of the cycle that ends it. -/
lemma emits_expand (fs : Fragments) (stack : List String) (segments : List Segment) :
    Emits fs stack segments (expand fs stack segments).pieces
      (expand fs stack segments).cycle := by
  fun_induction expand fs stack segments with
  | case1 => exact .nil
  | case2 stack n rest hn ih =>
    refine .keep (fun m hm => ?_) ih
    obtain rfl : n = m := by simpa using hm
    exact hn
  | case3 stack n rest body hn hmem => exact .around hn hmem
  | case4 stack n rest body hn hmem ihbody ihrest =>
    rcases hc : (expand fs (stack ++ [n]) body).cycle with _ | path
    · rw [hc] at ihbody
      rw [andThen_of_none hc]
      exact .behind hn hmem ihbody ihrest
    · rw [andThen_of_cycle hc]
      rw [hc] at ihbody ⊢
      exact .within hn hmem ihbody
  | case5 stack s rest hs ih => exact .keep (fun m hm => absurd hm (hs m)) ih

lemma Emits.eq_expand (h : Emits fs stack segments pieces cycle) :
    expand fs stack segments = ⟨pieces, cycle⟩ := by
  induction h with
  | nil => exact expand_nil _
  | @keep stack s rest pieces cycle hs _ ih =>
    by_cases hfragment : ∃ n, s = .fragment n
    · obtain ⟨n, rfl⟩ := hfragment
      rw [expand_undefined (hs n rfl), ih]
      rfl
    · rw [expand_other fun n hn => hfragment ⟨n, hn⟩, ih]
      rfl
  | around hn hmem => exact expand_around hn hmem
  | within hn hmem _ ih => rw [expand_defined hn hmem, ih, andThen_of_cycle rfl]
  | behind hn hmem _ _ ihbody ihrest =>
    rw [expand_defined hn hmem, ihbody, ihrest, andThen_of_none rfl]

end Expansion

namespace Resolver

open Expansion Writer

/-- A template comes to a text when nothing limits it: to the whole text, or, where it comes
around a cycle, to what is written before that. -/
def Yields (r : Resolver) (template text : String) (cycle : Option (List String)) : Prop :=
  ∃ pieces, Emits r.bodies [] (r.scan template) pieces cycle ∧ text = r.textOf pieces

variable {r : Resolver} {template text : String} {cycle : Option (List String)}

lemma exists_yields (r : Resolver) (template : String) :
    ∃ text cycle, r.Yields template text cycle :=
  ⟨_, _, _, emits_expand r.bodies [] (r.scan template), rfl⟩

/-- The whole text is the expansion of the template. -/
lemma yields_none_iff : r.Yields template text none ↔ r.Expands template text := by
  rw [expands_iff]
  constructor
  · rintro ⟨pieces, hemits, rfl⟩
    rw [hemits.eq_expand]
    exact ⟨rfl, rfl⟩
  · rintro ⟨hnone, rfl⟩
    have hemits := emits_expand r.bodies [] (r.scan template)
    rw [hnone] at hemits
    exact ⟨_, hemits, rfl⟩

/-- The outcome of a template whose text fits. -/
def outcomeOf (text : String) : Option (List String) → Except ResolutionError String
  | none => .ok text
  | some path => .error (.cycle path)

/-- **The limit decides between two outcomes**: the one without a limit, and too large a text. -/
lemma result_resolve_limit (h : r.Yields template text cycle) (limit : Nat) :
    (({ r with limit := limit } : Resolver).resolve template).result =
      if text.utf8ByteSize ≤ limit then outcomeOf text cycle else .error (.tooLarge limit) := by
  obtain ⟨pieces, hemits, rfl⟩ := h
  have hbytes : (r.textOf pieces).utf8ByteSize =
      Text.bytes (pieces.flatMap (Segment.raw r.delimiters)) := by
    rw [← Text.bytes_toList, textOf, String.toList_ofList]
  have hresult : (({ r with limit := limit } : Resolver).resolve template).result =
      resultOf { r with limit := limit } (expand r.bodies [] (r.scan template)).pieces
        (write r.delimiters limit {} (expand r.bodies [] (r.scan template))).2 :=
    result_resolve { r with limit := limit } template
  have hwritten := resultOf_write { r with limit := limit } ⟨pieces, cycle⟩
  rw [hresult, hemits.eq_expand, hbytes]
  refine hwritten.trans ?_
  cases cycle with
  | none => rfl
  | some path => rfl

/-- **The limit cuts where it says.** Every template comes to a text without a limit. Where that
is the whole text, the template resolves to it if its bytes are within the limit; where it ends
at a cycle, the resolution gives that cycle if the bytes before it are within the limit; and
otherwise the text is too large. So no resolved text exceeds its limit, and no outcome but too
large a text changes when the limit is raised. -/
theorem resolve_limit (r : Resolver) (template : String) :
    (∃ text cycle, r.Yields template text cycle) ∧
    (∀ text, r.Yields template text none → ∀ limit,
      (({ r with limit := limit } : Resolver).resolve template).result =
        if text.utf8ByteSize ≤ limit then .ok text else .error (.tooLarge limit)) ∧
    (∀ text path, r.Yields template text (some path) → ∀ limit,
      (({ r with limit := limit } : Resolver).resolve template).result =
        if text.utf8ByteSize ≤ limit then .error (.cycle path) else .error (.tooLarge limit)) ∧
    (∀ text, r.Yields template text none ↔ r.Expands template text) ∧
    (∀ limit text, (({ r with limit := limit } : Resolver).resolve template).result = .ok text →
      text.utf8ByteSize ≤ limit) ∧
    ∀ limit limit' outcome, limit ≤ limit' →
      (({ r with limit := limit } : Resolver).resolve template).result = outcome →
      outcome ≠ .error (.tooLarge limit) →
      (({ r with limit := limit' } : Resolver).resolve template).result = outcome := by
  obtain ⟨whole, cycle, hyields⟩ := exists_yields r template
  refine ⟨⟨whole, cycle, hyields⟩, fun text h limit => result_resolve_limit h limit,
    fun text path h limit => result_resolve_limit h limit, fun text => yields_none_iff,
    fun limit text h => ?_, fun limit limit' outcome hle h hne => ?_⟩
  · rw [result_resolve_limit hyields] at h
    split at h
    · rename_i hfits
      cases cycle with
      | none =>
        obtain rfl : whole = text := Except.ok.inj h
        exact hfits
      | some path => cases h
    · cases h
  · rw [result_resolve_limit hyields] at h ⊢
    split at h
    · rename_i hfits
      rw [if_pos (hfits.trans hle), h]
    · exact absurd h.symm hne

/-! ### Texts at the limit -/

/-- A fragment of one character of two bytes, and one that stands inside itself behind such a
character. -/
def accented : Resolver where
  delimiters := twoInEachOther.delimiters
  fragments := NameMap.ofList [("a", "é"), ("loop", "é<fragment:loop>")]

lemma yields_accented_twice : accented.Yields "<fragment:a><fragment:a>" "éé" none := by
  have hscan : accented.scan "<fragment:a><fragment:a>" = [.fragment "a", .fragment "a"] := by
    decide +kernel
  have hbody : accented.bodies.get? "a" = some [.text ['é']] := by decide +kernel
  have hinner : Emits accented.bodies ["a"] [.text ['é']] [.text ['é']] none :=
    .keep (by simp) .nil
  refine ⟨[.text ['é']] ++ ([.text ['é']] ++ []), ?_, by decide⟩
  rw [hscan]
  exact .behind hbody (by simp) hinner (.behind hbody (by simp) hinner .nil)

lemma yields_accented_loop : accented.Yields "<fragment:loop>" "é" (some ["loop", "loop"]) := by
  have hscan : accented.scan "<fragment:loop>" = [.fragment "loop"] := by decide +kernel
  have hbody : accented.bodies.get? "loop" = some [.text ['é'], .fragment "loop"] := by
    decide +kernel
  refine ⟨[.text ['é']], ?_, by decide⟩
  rw [hscan]
  exact .within hbody (by simp) (.keep (by simp) (.around hbody (by simp)))

theorem resolve_limit_accented :
    accented.Yields "<fragment:a><fragment:a>" "éé" none ∧
    (({ accented with limit := 4 } : Resolver).resolve "<fragment:a><fragment:a>").result =
      .ok "éé" ∧
    (({ accented with limit := 3 } : Resolver).resolve "<fragment:a><fragment:a>").result =
      .error (.tooLarge 3) ∧
    accented.Yields "<fragment:loop>" "é" (some ["loop", "loop"]) ∧
    (({ accented with limit := 2 } : Resolver).resolve "<fragment:loop>").result =
      .error (.cycle ["loop", "loop"]) ∧
    (({ accented with limit := 1 } : Resolver).resolve "<fragment:loop>").result =
      .error (.tooLarge 1) ∧
    (({ accented with limit := 5 } : Resolver).resolve "<fragment:loop>").result =
      .error (.cycle ["loop", "loop"]) := by
  have htwice := (resolve_limit accented "<fragment:a><fragment:a>").2.1 "éé"
    yields_accented_twice
  obtain ⟨-, -, hloop, -, -, hraise⟩ := resolve_limit accented "<fragment:loop>"
  have hcycle : (({ accented with limit := 2 } : Resolver).resolve "<fragment:loop>").result =
      .error (.cycle ["loop", "loop"]) := hloop _ _ yields_accented_loop 2
  exact ⟨yields_accented_twice, htwice 4, htwice 3, yields_accented_loop, hcycle,
    hloop _ _ yields_accented_loop 1, hraise 2 5 _ (by decide) hcycle (by simp)⟩

end Resolver

end PromptKit
