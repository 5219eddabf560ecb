import PromptKit.Proofs.Expansion.Writer
import PromptKit.Proofs.Template.Grammar
import PromptKit.Resolution

/-!
Resolving a template.

Unless the text is too large, a resolution is the template with its fragments in place, or a
cycle that the template reaches, and it is a cycle exactly where there is one to reach.
-/

namespace PromptKit.Resolver

open Expansion Writer

/-- The text of a template with every fragment in its place: what is no defined fragment is
copied, and a defined fragment is replaced by its body, expanded in turn. -/
def Expands (r : Resolver) (template out : String) : Prop :=
  ∃ pieces, r.bodies.Inlines (r.scan template) pieces ∧ out = r.textOf pieces

variable {r : Resolver} {template : String}

/-- The result for pieces and the way that their writing ended. -/
def resultOf (r : Resolver) (pieces : List Segment) : Ending → Except ResolutionError String
  | .done => .ok (r.textOf pieces)
  | .cycle path => .error (.cycle path)
  | .full _ => .error (.tooLarge r.limit)

lemma result_of_run {w : Writer} {ending : Ending}
    (h : run r.delimiters r.limit r.bodies [] {} (r.scan template) = (w, ending)) :
    (r.resolve template).result = r.resultOf w.written.reverse ending := by
  unfold resolve
  rw [h]
  cases ending with
  | done => rfl
  | cycle path => rfl
  | full s => rfl

/-- The result of a resolution, read off the writing of the expansion. -/
lemma result_resolve (r : Resolver) (template : String) :
    (r.resolve template).result =
      r.resultOf (expand r.bodies [] (r.scan template)).pieces
        (write r.delimiters r.limit {} (expand r.bodies [] (r.scan template))).2 := by
  have hrun : run r.delimiters r.limit r.bodies [] {} (r.scan template) =
      write r.delimiters r.limit {} (expand r.bodies [] (r.scan template)) := run_eq [] {} _
  rw [write] at hrun ⊢
  rcases hput : putAll r.delimiters r.limit {} (expand r.bodies [] (r.scan template)).pieces
    with ⟨w, _ | s⟩
  · have hwritten := written_of_putAll hput
    rw [hput] at hrun
    rw [result_of_run hrun, hwritten, List.append_nil, List.reverse_reverse]
  · rw [hput] at hrun
    rw [result_of_run hrun]
    rfl

/-- The result of a resolution that fits is decided by the cycle of the expansion. -/
lemma result_resolve_of_fits (h : ∀ limit, (r.resolve template).result ≠ .error (.tooLarge limit)) :
    (r.resolve template).result =
      match (expand r.bodies [] (r.scan template)).cycle with
      | none => .ok (r.textOf (expand r.bodies [] (r.scan template)).pieces)
      | some path => .error (.cycle path) := by
  rw [result_resolve, write] at h ⊢
  rcases hput : putAll r.delimiters r.limit {} (expand r.bodies [] (r.scan template)).pieces
    with ⟨w, _ | s⟩
  · rcases hc : (expand r.bodies [] (r.scan template)).cycle with _ | path
    · simp [endingOf, hc, resultOf]
    · simp [endingOf, hc, resultOf]
  · rw [hput] at h
    exact absurd rfl (h r.limit)

/-- A template has one expansion at most, and none where it reaches a cycle. -/
lemma expands_iff {out : String} :
    r.Expands template out ↔
      (expand r.bodies [] (r.scan template)).cycle = none ∧
        out = r.textOf (expand r.bodies [] (r.scan template)).pieces := by
  constructor
  · rintro ⟨pieces, hinl, rfl⟩
    have hc := cycle_expand_eq_none.mpr hinl.not_reachesCycle
    exact ⟨hc, by rw [hinl.unique (inlines_expand hc)]⟩
  · rintro ⟨hc, rfl⟩
    exact ⟨_, inlines_expand hc, rfl⟩

/-- **Resolution is exact.** A resolution that is not too large is a cycle exactly where the
template reaches a fragment that stands inside itself, and otherwise the expansion of the
template. The names of a cycle lead from the template around a way in the fragments. -/
theorem resolve_exact (r : Resolver) (template : String)
    (h : ∀ limit, (r.resolve template).result ≠ .error (.tooLarge limit)) :
    ((∃ path, (r.resolve template).result = .error (.cycle path)) ↔
      r.bodies.ReachesCycle (r.scan template)) ∧
    (¬ r.bodies.ReachesCycle (r.scan template) →
      ∃ out, (r.resolve template).result = .ok out) ∧
    (∀ out, (r.resolve template).result = .ok out ↔ r.Expands template out) ∧
    ∀ path, (r.resolve template).result = .error (.cycle path) →
      r.bodies.IsCycle (r.scan template) path := by
  have hresult := result_resolve_of_fits h
  rcases hc : (expand r.bodies [] (r.scan template)).cycle with _ | path
  · have hno := cycle_expand_eq_none.mp hc
    rw [hc] at hresult
    refine ⟨by simp [hresult, hno], fun _ => ⟨_, hresult⟩, fun out => ?_, by simp [hresult]⟩
    simp [hresult, expands_iff, hc, eq_comm]
  · have hcycle := isCycle_of_expand (nested_nil r.bodies (r.scan template)) hc
    rw [hc] at hresult
    refine ⟨?_, fun hno => absurd hcycle.reachesCycle hno, fun out => ?_, fun path' h' => ?_⟩
    · exact ⟨fun _ => hcycle.reachesCycle, fun _ => ⟨path, hresult⟩⟩
    · simp [hresult, expands_iff, hc]
    · obtain rfl : path = path' := by simpa [hresult] using h'
      exact hcycle

/-! ### A resolution around a cycle -/

lemma get?_bodies {r : Resolver} {n t : String} (h : r.fragments.get? n = some t) :
    r.bodies.get? n = some (r.scan t) := by
  simp [bodies, Fragments.ofTexts, h, scan]

/-- Two fragments that stand in each other. -/
def twoInEachOther : Resolver where
  delimiters := ⟨['<'], ['>'], by decide, by decide⟩
  fragments := NameMap.ofList [("a", "<fragment:b>"), ("b", "<fragment:a>")]

lemma scan_twoInEachOther {t n : String}
    (h : Template.placeholder? twoInEachOther.delimiters t.toList = some (.fragment n, [])) :
    twoInEachOther.scan t = [.fragment n] := by
  rw [scan, Template.scan_of_startsWith (Template.placeholder?_eq_some.mp h), Template.scan_nil]

lemma result_twoInEachOther :
    (twoInEachOther.resolve "<fragment:a>").result = .error (.cycle ["a", "b", "a"]) := by
  have htop : twoInEachOther.scan "<fragment:a>" = [.fragment "a"] := scan_twoInEachOther (by decide)
  have ha : twoInEachOther.bodies.get? "a" = some [.fragment "b"] := by
    rw [get?_bodies (t := "<fragment:b>") (by decide), scan_twoInEachOther (n := "b") (by decide)]
  have hb : twoInEachOther.bodies.get? "b" = some [.fragment "a"] := by
    rw [get?_bodies (t := "<fragment:a>") (by decide), htop]
  rw [result_resolve, htop, expand_defined ha (by simp), expand_defined hb (by simp),
    expand_around ha (by simp)]
  rfl

theorem resolve_exact_two_in_each_other :
    (∀ limit, (twoInEachOther.resolve "<fragment:a>").result ≠ .error (.tooLarge limit)) ∧
      twoInEachOther.bodies.ReachesCycle (twoInEachOther.scan "<fragment:a>") ∧
      twoInEachOther.bodies.IsCycle (twoInEachOther.scan "<fragment:a>") ["a", "b", "a"] := by
  have h : ∀ limit, (twoInEachOther.resolve "<fragment:a>").result ≠ .error (.tooLarge limit) := by
    simp [result_twoInEachOther]
  have hexact := resolve_exact twoInEachOther "<fragment:a>" h
  exact ⟨h, hexact.1.mp ⟨_, result_twoInEachOther⟩, hexact.2.2.2 _ result_twoInEachOther⟩

end PromptKit.Resolver
