import PromptKit.Proofs.Expansion.References
import PromptKit.Proofs.Listing

/-!
The fragments that a template lacks.

The search for them goes into every defined fragment once, however often it is referred to. It
still finds all of them and in the order of the text: what a fragment lacks has been found when
the fragment comes up again, unless that is inside itself, and then nothing can be inlined.
-/

namespace PromptKit

namespace Expansion

open Fragments

variable {fs : Fragments} {seen found : List String}

/-! ### The search, by the first segment -/

lemma missingFrom_nil : missingFrom fs seen found [] = found := by rw [missingFrom]

lemma missingFrom_undefined {n : String} {rest : List Segment} (h : fs.get? n = none) :
    missingFrom fs seen found (.fragment n :: rest) =
      missingFrom fs seen (if n ∈ found then found else found ++ [n]) rest := by
  rw [missingFrom]
  split <;> simp_all

lemma missingFrom_seen {n : String} {body rest : List Segment} (h : fs.get? n = some body)
    (hn : n ∈ seen) :
    missingFrom fs seen found (.fragment n :: rest) = missingFrom fs seen found rest := by
  rw [missingFrom]
  split <;> simp_all

lemma missingFrom_enter {n : String} {body rest : List Segment} (h : fs.get? n = some body)
    (hn : n ∉ seen) :
    missingFrom fs seen found (.fragment n :: rest) =
      missingFrom fs (seen ++ [n]) found (body ++ rest) := by
  rw [missingFrom]
  split <;> simp_all

lemma missingFrom_other {s : Segment} {rest : List Segment} (h : ∀ n, s ≠ .fragment n) :
    missingFrom fs seen found (s :: rest) = missingFrom fs seen found rest := by
  cases s with
  | text t => rw [missingFrom]; simp
  | slot name => rw [missingFrom]; simp
  | fragment n => exact absurd rfl (h n)

/-! ### What the search finds -/

/-- Whatever the fragment `m` lacks is among the names. -/
def Settled (fs : Fragments) (names : List String) (m : String) : Prop :=
  ∀ body inner, fs.get? m = some body → fs.Inlines body inner →
    ∀ n ∈ inner.filterMap Segment.fragmentName?, n ∈ names

lemma Settled.append {names : List String} {m : String} (h : Settled fs names m)
    (more : List String) : Settled fs (names ++ more) m :=
  fun body inner hm hinner n hn => List.mem_append_left more (h body inner hm hinner n hn)

lemma settled_of_inlines {names : List String} {m : String} {body inner : List Segment}
    (hm : fs.get? m = some body) (hinner : fs.Inlines body inner) :
    Settled fs (names ++ inner.filterMap Segment.fragmentName?) m := by
  intro body' inner' hm' hinner' n hn
  obtain rfl := Option.some.inj (hm.symm.trans hm')
  obtain rfl := hinner.unique hinner'
  exact List.mem_append_right names hn

/-- A fragment that can be inlined does not come up inside itself. -/
lemma not_reaches_of_inlines {n : String} {body rest pieces : List Segment}
    (hn : fs.get? n = some body) (h : fs.Inlines (.fragment n :: rest) pieces) :
    ¬ fs.Reaches body n := by
  rintro ⟨k, hk, hreach⟩
  exact h.not_transGen (reaches_self n rest) (Relation.TransGen.head' ⟨body, hn, hk⟩ hreach)

/-- The search can go into the segments: whatever it has entered and still reaches is settled. -/
def Ready (fs : Fragments) (seen names : List String) (segments : List Segment) : Prop :=
  ∀ m ∈ seen, fs.Reaches segments m → Settled fs names m

lemma Ready.rest {names : List String} {s : Segment} {rest : List Segment}
    (h : Ready fs seen names (s :: rest)) (more : List String) :
    Ready fs seen (names ++ more) rest :=
  fun m hm hreach => (h m hm (reaches_of_rest hreach)).append more

/-- The search can go into the body of a fragment, which then counts as entered. -/
lemma Ready.enter {names : List String} {n : String} {body rest pieces : List Segment}
    (h : Ready fs seen names (.fragment n :: rest)) (hn : fs.get? n = some body)
    (hinl : fs.Inlines (.fragment n :: rest) pieces) : Ready fs (seen ++ [n]) names body := by
  intro m hm hreach
  rcases List.mem_append.mp hm with hm | hm
  · exact h m hm (reaches_of_body hn hreach)
  · obtain rfl : m = n := by simpa using hm
    exact absurd hreach (not_reaches_of_inlines hn hinl)

/-- What came in on the way is settled. -/
lemma Ready.leave {seen' names : List String} {segments : List Segment}
    (h : Ready fs seen names segments) (hnew : ∀ m ∈ seen', m ∈ seen ∨ Settled fs names m) :
    Ready fs seen' names segments :=
  fun m hm hreach => (hnew m hm).elim (fun hm => h m hm hreach) id

/-- What a fragment lacks has been found when it comes up again. -/
lemma Ready.forall_mem {names : List String} {n : String} {body inner rest : List Segment}
    (h : Ready fs seen names (.fragment n :: rest)) (hseen : n ∈ seen)
    (hn : fs.get? n = some body) (hinner : fs.Inlines body inner) :
    ∀ k ∈ inner.filterMap Segment.fragmentName?, k ∈ names :=
  h n hseen (reaches_self n rest) body inner hn hinner

/-- **What the search keeps**: it adds what the segments lack, and what it enters on the way is
settled behind them. -/
lemma missingFrom_append {segments pieces : List Segment} (h : fs.Inlines segments pieces)
    (seen names : List String) (rest : List Segment) (hready : Ready fs seen names segments) :
    ∃ seen', missingFrom fs seen names.eraseDups (segments ++ rest) =
        missingFrom fs seen' (names ++ pieces.filterMap Segment.fragmentName?).eraseDups rest ∧
      ∀ m ∈ seen', m ∈ seen ∨ Settled fs (names ++ pieces.filterMap Segment.fragmentName?) m := by
  induction h generalizing seen names rest with
  | nil => exact ⟨seen, by simp, fun m hm => .inl hm⟩
  | @keep s segments pieces hs _ ih =>
    by_cases hfragment : ∃ n, s = .fragment n
    · obtain ⟨n, rfl⟩ := hfragment
      obtain ⟨seen', heq, hseen'⟩ := ih seen (names ++ [n]) rest (hready.rest [n])
      have hnames : names ++ (Segment.fragment n :: pieces).filterMap Segment.fragmentName? =
          names ++ [n] ++ pieces.filterMap Segment.fragmentName? := by
        simp [Segment.fragmentName?]
      rw [hnames]
      refine ⟨seen', ?_, hseen'⟩
      rw [List.cons_append, missingFrom_undefined (hs n rfl), ← eraseDups_append_singleton, heq]
    · have hother : ∀ n, s ≠ .fragment n := fun n hn => hfragment ⟨n, hn⟩
      have hnone : s.fragmentName? = none := by
        cases s with
        | text t => rfl
        | slot name => rfl
        | fragment n => exact absurd rfl (hother n)
      rw [List.cons_append, missingFrom_other hother, List.filterMap_cons_none hnone]
      exact ih seen names rest (by simpa using hready.rest [])
  | @replace n body inner segments pieces hn hbody hrest ihbody ihrest =>
    rw [List.filterMap_append, ← List.append_assoc, List.cons_append]
    have hbehind := hready.rest (inner.filterMap Segment.fragmentName?)
    by_cases hmem : n ∈ seen
    · have hfound := hready.forall_mem hmem hn hbody
      obtain ⟨seen', heq, hseen'⟩ := ihrest seen _ rest hbehind
      refine ⟨seen', ?_, hseen'⟩
      rw [missingFrom_seen hn hmem, ← heq, eraseDups_append_of_forall_mem hfound]
    · obtain ⟨seen₁, heq₁, hseen₁⟩ := ihbody (seen ++ [n]) names (segments ++ rest)
        (hready.enter hn (.replace hn hbody hrest))
      have hsettled : ∀ m ∈ seen₁, m ∈ seen ∨
          Settled fs (names ++ inner.filterMap Segment.fragmentName?) m := by
        intro m hm
        rcases hseen₁ m hm with hm | hm
        · rcases List.mem_append.mp hm with hm | hm
          · exact .inl hm
          · obtain rfl : m = n := by simpa using hm
            exact .inr (settled_of_inlines hn hbody)
        · exact .inr hm
      obtain ⟨seen₂, heq₂, hseen₂⟩ := ihrest seen₁ _ rest (hbehind.leave hsettled)
      refine ⟨seen₂, by rw [missingFrom_enter hn hmem, heq₁, heq₂], fun m hm => ?_⟩
      rcases hseen₂ m hm with hm | hm
      · exact (hsettled m hm).imp_right fun hm => hm.append _
      · exact .inr hm

/-- **The search finds what is left**: the fragments among the inlined segments, each at its
first place. -/
theorem missing_eq {segments pieces : List Segment} (h : fs.Inlines segments pieces) :
    missing fs segments = Template.fragmentNames pieces := by
  obtain ⟨seen', heq, -⟩ := missingFrom_append h [] [] [] (by simp [Ready])
  rw [List.append_nil, List.eraseDups_nil, List.nil_append, missingFrom_nil] at heq
  exact heq

end Expansion

end PromptKit
