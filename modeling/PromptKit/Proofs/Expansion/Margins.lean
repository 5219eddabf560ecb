import PromptKit.Proofs.Expansion.Limit
import PromptKit.Proofs.Template.Margins

/-!
A template is resolved between its margins.

Segments expand in pieces, and what they spell does not depend on how texts are cut. So text in
front of a template and text behind it come to the front and to the end of what the template comes
to; a cycle ends both, and the text behind it is not reached then.
-/

namespace PromptKit

namespace Expansion

open Segment Template

variable {d : Delimiters} {fs : Fragments} {stack : List String}

/-- The text that an expansion comes to, and the cycle that ends it. -/
def spelled (d : Delimiters) (e : Expansion) : List Char × Option (List String) :=
  (e.pieces.flatMap (raw d), e.cycle)

/-- The same with a text in front. -/
def inFront (t : List Char) (x : List Char × Option (List String)) :
    List Char × Option (List String) := (t ++ x.1, x.2)

lemma spelled_cons (s : Segment) (e : Expansion) :
    spelled d (cons s e) = inFront (s.raw d) (spelled d e) := by
  rw [spelled, pieces_cons, List.flatMap_cons]
  rfl

lemma spelled_andThen_congr (e : Expansion) {next next' : Expansion}
    (h : spelled d next = spelled d next') :
    spelled d (e.andThen next) = spelled d (e.andThen next') := by
  obtain ⟨hpieces, hcycle⟩ := Prod.mk.inj h
  rcases hc : e.cycle with _ | path
  · rw [andThen_of_none hc, andThen_of_none hc, spelled, spelled, List.flatMap_append,
      List.flatMap_append, hpieces, hcycle]
  · rw [andThen_of_cycle hc, andThen_of_cycle hc]

/-! ### Cuts in texts -/

lemma expand_text (t : List Char) (rest : List Segment) :
    expand fs stack (.text t :: rest) = cons (.text t) (expand fs stack rest) :=
  expand_other (by simp)

lemma spelled_expand_consChar (c : Char) (segments : List Segment) :
    spelled d (expand fs stack (consChar c segments)) =
      inFront [c] (spelled d (expand fs stack segments)) := by
  unfold consChar
  split
  · rw [expand_text, expand_text, spelled_cons, spelled_cons]
    rfl
  · rw [expand_text, spelled_cons]
    rfl

lemma spelled_expand_glue (t : List Char) (segments : List Segment) :
    spelled d (expand fs stack (glue t segments)) =
      inFront t (spelled d (expand fs stack segments)) := by
  induction t with
  | nil => rfl
  | cons c t ih =>
    calc spelled d (expand fs stack (glue (c :: t) segments))
        = inFront [c] (spelled d (expand fs stack (glue t segments))) :=
          spelled_expand_consChar c (glue t segments)
      _ = inFront (c :: t) (spelled d (expand fs stack segments)) := by rw [ih]; rfl

/-- Neighbouring texts spell the same, put together or not. -/
lemma spelled_expand_merge (segments : List Segment) :
    spelled d (expand fs stack (merge segments)) = spelled d (expand fs stack segments) := by
  -- a body is the same on both sides, so the induction is on the segments of one level
  induction segments with
  | nil => rfl
  | cons s rest ih =>
    cases s with
    | text t => rw [merge, spelled_expand_glue, ih, expand_text, spelled_cons]; rfl
    | slot n =>
      rw [merge_cons_of_not_isText (by simp [isText]), expand_other (by simp),
        expand_other (by simp), spelled_cons, spelled_cons, ih]
    | fragment n =>
      rw [merge_cons_of_not_isText (by simp [isText])]
      rcases hn : fs.get? n with _ | body
      · rw [expand_undefined hn, expand_undefined hn, spelled_cons, spelled_cons, ih]
      · by_cases hmem : n ∈ stack
        · rw [expand_around hn hmem, expand_around hn hmem]
        · rw [expand_defined hn hmem, expand_defined hn hmem]
          exact spelled_andThen_congr _ ih

/-! ### Segments one after the other -/

lemma andThen_assoc (e next last : Expansion) :
    (e.andThen next).andThen last = e.andThen (next.andThen last) := by
  rcases hc : e.cycle with _ | path
  · rw [andThen_of_none hc, andThen_of_none hc]
    rcases hnext : next.cycle with _ | path
    · rw [andThen_of_none rfl, andThen_of_none hnext, List.append_assoc]
    · rw [andThen_of_cycle rfl, andThen_of_cycle hnext, hnext]
  · rw [andThen_of_cycle hc, andThen_of_cycle hc, andThen_of_cycle hc]

lemma cons_andThen (s : Segment) (e next : Expansion) :
    (cons s e).andThen next = cons s (e.andThen next) :=
  andThen_assoc ⟨[s], none⟩ e next

/-- Segments are expanded one after the other, up to the first cycle. -/
lemma expand_append (segments more : List Segment) :
    expand fs stack (segments ++ more) =
      (expand fs stack segments).andThen (expand fs stack more) := by
  induction segments with
  | nil => rw [expand_nil, andThen_of_none rfl, List.nil_append, List.nil_append]
  | cons s rest ih =>
    rw [List.cons_append]
    by_cases hfragment : ∃ n, s = .fragment n
    · obtain ⟨n, rfl⟩ := hfragment
      rcases hn : fs.get? n with _ | body
      · rw [expand_undefined hn, expand_undefined hn, ih, cons_andThen]
      · by_cases hmem : n ∈ stack
        · rw [expand_around hn hmem, expand_around hn hmem, andThen_of_cycle rfl]
        · rw [expand_defined hn hmem, expand_defined hn hmem, ih, andThen_assoc]
    · have hs : ∀ n, s ≠ .fragment n := fun n hn => hfragment ⟨n, hn⟩
      rw [expand_other hs, expand_other hs, ih, cons_andThen]

/-- What a template between its margins spells; a cycle comes before the text behind it. -/
lemma spelled_expand_margins {a t u : List Char} (ha : ∀ c ∈ a, ¬ d.Uses c)
    (hu : ∀ c ∈ u, ¬ d.Uses c) :
    spelled d (expand fs stack (scan d (a ++ t ++ u))) =
      inFront a (spelled d ((expand fs stack (scan d t)).andThen ⟨[.text u], none⟩)) := by
  have htext : expand fs stack [.text u] = ⟨[.text u], none⟩ := by
    rw [expand_text, expand_nil]
    rfl
  rw [scan_margins ha hu, spelled_expand_merge, expand_text, spelled_cons, expand_append, htext]
  rfl

end Expansion

namespace Resolver

open Expansion

variable {r : Resolver} {a base u text : String}

/-- A template comes to a text if that is what its expansion spells. -/
lemma yields_iff {cycle : Option (List String)} :
    r.Yields base text cycle ↔
      spelled r.delimiters (expand r.bodies [] (r.scan base)) = (text.toList, cycle) := by
  constructor
  · rintro ⟨pieces, hemits, rfl⟩
    rw [hemits.eq_expand, textOf, String.toList_ofList]
    rfl
  · intro h
    obtain ⟨hpieces, hcycle⟩ := Prod.mk.inj h
    refine ⟨_, hcycle ▸ emits_expand r.bodies [] (r.scan base), ?_⟩
    rw [textOf, hpieces, String.ofList_toList]

/-- What stands behind a template is reached if no cycle ends the template. -/
def reached (u : String) : Option (List String) → String
  | none => u
  | some _ => ""

/-- A template comes to its text between the margins, as far as they are reached. -/
lemma Yields.margins {cycle : Option (List String)} (h : r.Yields base text cycle)
    (ha : ∀ c ∈ a.toList, ¬ r.delimiters.Uses c) (hu : ∀ c ∈ u.toList, ¬ r.delimiters.Uses c) :
    r.Yields (a ++ base ++ u) (a ++ text ++ reached u cycle) cycle := by
  rw [yields_iff, scan] at h ⊢
  obtain ⟨hpieces, hcycle⟩ := Prod.mk.inj h
  rw [String.toList_append, String.toList_append, spelled_expand_margins ha hu]
  cases cycle with
  | none =>
    rw [andThen_of_none hcycle, spelled, List.flatMap_append, hpieces]
    simp [inFront, reached, Segment.raw]
  | some path =>
    rw [andThen_of_cycle hcycle, spelled, hpieces, hcycle]
    simp [inFront, reached]

lemma result_resolve_of_le {cycle : Option (List String)} (h : r.Yields base text cycle)
    (hle : text.utf8ByteSize ≤ r.limit) : (r.resolve base).result = outcomeOf text cycle := by
  have hlimit := result_resolve_limit h r.limit
  rwa [if_pos hle] at hlimit

lemma le_of_fits {cycle : Option (List String)} (h : r.Yields base text cycle)
    (hfits : ∀ limit, (r.resolve base).result ≠ .error (.tooLarge limit)) :
    text.utf8ByteSize ≤ r.limit := by
  by_contra hlarge
  have hlimit := result_resolve_limit h r.limit
  rw [if_neg hlarge] at hlimit
  exact hfits r.limit hlimit

/-- **A template is resolved between its margins** as it is resolved alone, if the text with the
margins fits. -/
theorem resolve_margins (ha : ∀ c ∈ a.toList, ¬ r.delimiters.Uses c)
    (hu : ∀ c ∈ u.toList, ¬ r.delimiters.Uses c)
    (hfits : ∀ limit, (r.resolve (a ++ base ++ u)).result ≠ .error (.tooLarge limit)) :
    (r.resolve (a ++ base ++ u)).result =
      (r.resolve base).result.map fun text => a ++ text ++ u := by
  obtain ⟨text, cycle, hyields⟩ := exists_yields r base
  have hwhole := hyields.margins ha hu
  have hle := le_of_fits hwhole hfits
  have halone : text.utf8ByteSize ≤ r.limit := by
    simp only [String.utf8ByteSize_append] at hle
    omega
  rw [result_resolve_of_le hwhole hle, result_resolve_of_le hyields halone]
  cases cycle with
  | none => rfl
  | some path => rfl

end Resolver

end PromptKit
