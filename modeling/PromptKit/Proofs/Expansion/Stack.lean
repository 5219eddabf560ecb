import PromptKit.Proofs.Expansion.References

/-!
What the stack of an expansion holds, and what an expansion comes to.

The stack is a path of distinct defined fragments that leads to the segments under way. So an
expansion that ends in a cycle has gone around one, and an expansion that does not has inlined
its segments.
-/

namespace PromptKit.Expansion

open Fragments

variable {fs : Fragments}

@[simp] lemma pieces_cons (s : Segment) (e : Expansion) : (cons s e).pieces = s :: e.pieces := rfl

lemma andThen_of_cycle {e next : Expansion} {path : List String} (h : e.cycle = some path) :
    andThen e next = e := by
  obtain ⟨pieces, cycle⟩ := e
  obtain rfl : cycle = some path := h
  rfl

lemma andThen_of_none {e next : Expansion} (h : e.cycle = none) :
    andThen e next = ⟨e.pieces ++ next.pieces, next.cycle⟩ := by
  simp [andThen, h]

/-! ### The expansion, by its first segment -/

@[simp] lemma expand_nil (stack : List String) : expand fs stack [] = ⟨[], none⟩ := by
  rw [expand]

lemma expand_undefined {stack : List String} {n : String} {rest : List Segment}
    (h : fs.get? n = none) :
    expand fs stack (.fragment n :: rest) = cons (.fragment n) (expand fs stack rest) := by
  rw [expand]
  split <;> simp_all

lemma expand_around {stack : List String} {n : String} {body rest : List Segment}
    (h : fs.get? n = some body) (hn : n ∈ stack) :
    expand fs stack (.fragment n :: rest) = ⟨[], some (around stack n)⟩ := by
  rw [expand]
  split <;> simp_all

lemma expand_defined {stack : List String} {n : String} {body rest : List Segment}
    (h : fs.get? n = some body) (hn : n ∉ stack) :
    expand fs stack (.fragment n :: rest) =
      andThen (expand fs (stack ++ [n]) body) (expand fs stack rest) := by
  rw [expand]
  split <;> simp_all

lemma expand_other {stack : List String} {s : Segment} {rest : List Segment}
    (h : ∀ n, s ≠ .fragment n) :
    expand fs stack (s :: rest) = cons s (expand fs stack rest) := by
  cases s with
  | text t => rw [expand]; simp
  | slot name => rw [expand]; simp
  | fragment n => exact absurd rfl (h n)

/-- **The expansion inlines** when no cycle ends it. -/
theorem inlines_expand {stack : List String} {segments : List Segment}
    (h : (expand fs stack segments).cycle = none) :
    fs.Inlines segments (expand fs stack segments).pieces := by
  fun_induction expand fs stack segments with
  | case1 => exact .nil
  | case2 stack n rest hn ih =>
    refine .keep (fun m hm => ?_) (ih h)
    obtain rfl : n = m := by simpa using hm
    exact hn
  | case3 stack n rest body hn hmem => simp at h
  | case4 stack n rest body hn hmem ihbody ihrest =>
    rcases hc : (expand fs (stack ++ [n]) body).cycle with _ | path
    · rw [andThen_of_none hc] at h ⊢
      exact .replace hn (ihbody hc) (ihrest h)
    · rw [andThen_of_cycle hc, hc] at h
      simp at h
  | case5 stack s rest hs ih => exact .keep (fun m hm => absurd hm (hs m)) (ih h)

/-- What the stack holds while segments are expanded on behalf of `top`: distinct defined names
that lead from `top` to every name in the segments. -/
structure Nested (fs : Fragments) (top : List Segment) (stack : List String)
    (segments : List Segment) : Prop where
  nodup : stack.Nodup
  defined : ∀ n ∈ stack, fs.contains n
  path : ∀ n, .fragment n ∈ segments → fs.IsPath top (stack ++ [n])

lemma nested_nil (fs : Fragments) (top : List Segment) : Nested fs top [] top := by
  refine ⟨List.nodup_nil, by simp, fun n hn => ⟨by simp, fun m hm => ?_⟩⟩
  obtain rfl : n = m := by simpa using hm
  exact hn

lemma Nested.rest {top segments : List Segment} {stack : List String} {s : Segment}
    (h : Nested fs top stack (s :: segments)) : Nested fs top stack segments :=
  ⟨h.nodup, h.defined, fun n hn => h.path n (List.mem_cons_of_mem _ hn)⟩

/-- The stack on the way into the body of a fragment. -/
lemma Nested.push {top segments body : List Segment} {stack : List String} {n : String}
    (h : Nested fs top stack (.fragment n :: segments)) (hn : fs.get? n = some body)
    (hmem : n ∉ stack) : Nested fs top (stack ++ [n]) body := by
  refine ⟨?_, fun m hm => ?_, fun m hm => ?_⟩
  · refine List.nodup_append.mpr ⟨h.nodup, by simp, fun a ha b hb => ?_⟩
    obtain rfl : b = n := by simpa using hb
    rintro rfl
    exact hmem ha
  · rcases List.mem_append.mp hm with hm | hm
    · exact h.defined m hm
    · obtain rfl : m = n := by simpa using hm
      exact contains_of_get? hn
  · exact (h.path n List.mem_cons_self).snoc ⟨body, hn, hm⟩

/-- A name of the stack that comes up again closes a cycle. -/
lemma Nested.isCycle_around {top segments body : List Segment} {stack : List String} {n : String}
    (h : Nested fs top stack (.fragment n :: segments)) (hn : fs.get? n = some body)
    (hmem : n ∈ stack) : fs.IsCycle top (around stack n) := by
  have hpath := h.path n List.mem_cons_self
  obtain ⟨before, between, rfl, hbefore⟩ := List.eq_append_cons_of_mem hmem
  have hne : ∀ m ∈ before, (m != n) = true := by
    intro m hm
    rw [bne_iff_ne]
    rintro rfl
    exact hbefore hm
  have haround : around (before ++ n :: between) n = n :: (between ++ [n]) := by
    simp [around, List.dropWhile_append_of_pos hne]
  rw [haround]
  refine ⟨⟨n, between, rfl, ?_⟩, fun m hm => ?_, ?_, fun m hm => ?_⟩
  · exact (List.nodup_append.mp h.nodup).2.1
  · rw [List.cons_append.symm, List.mem_append] at hm
    rcases hm with hm | hm
    · exact h.defined m (List.mem_append_right _ hm)
    · obtain rfl : m = n := by simpa using hm
      exact contains_of_get? hn
  · have hchain := hpath.chain
    rw [List.append_assoc] at hchain
    exact hchain.right_of_append
  · obtain rfl : n = m := by simpa using hm
    exact hpath.reaches (by simp)

/-- **No false cycle**: an expansion that ends in a cycle has gone around one. -/
theorem isCycle_of_expand {top segments : List Segment} {stack path : List String}
    (h : Nested fs top stack segments) (hc : (expand fs stack segments).cycle = some path) :
    fs.IsCycle top path := by
  fun_induction expand fs stack segments with
  | case1 => simp at hc
  | case2 stack n rest hn ih => exact ih h.rest hc
  | case3 stack n rest body hn hmem =>
    obtain rfl := Option.some.inj hc
    exact h.isCycle_around hn hmem
  | case4 stack n rest body hn hmem ihbody ihrest =>
    rcases hb : (expand fs (stack ++ [n]) body).cycle with _ | path'
    · rw [andThen_of_none hb] at hc
      exact ihrest h.rest hc
    · rw [andThen_of_cycle hb] at hc
      exact ihbody (h.push hn hmem) hc
  | case5 stack s rest hs ih => exact ih h.rest hc

/-- An expansion ends in a cycle exactly where its segments reach one. -/
theorem cycle_expand_eq_none {segments : List Segment} :
    (expand fs [] segments).cycle = none ↔ ¬ fs.ReachesCycle segments := by
  constructor
  · intro h
    exact (inlines_expand h).not_reachesCycle
  · intro h
    rcases hc : (expand fs [] segments).cycle with _ | path
    · rfl
    · exact absurd (isCycle_of_expand (nested_nil fs segments) hc).reachesCycle h

end PromptKit.Expansion
