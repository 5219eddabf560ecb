import Mathlib.Data.List.Chain
import Mathlib.Data.List.Nodup
import Mathlib.Logic.Relation
import Mathlib.Tactic.Common
import PromptKit.Expansion

/-!
Fragments as a graph, and the segments that come of putting every fragment in its place.

A fragment mentions the names that stand in its body. Segments can be inlined exactly where
they reach no fragment that reaches itself.
-/

namespace PromptKit.Fragments

variable {fs : Fragments}

/-- The body of the fragment `m` refers to `n`; `n` may be undefined. -/
def Mentions (fs : Fragments) (m n : String) : Prop :=
  ∃ body, fs.get? m = some body ∧ .fragment n ∈ body

/-- Segments refer to `n`, or to a fragment that leads to it. -/
def Reaches (fs : Fragments) (segments : List Segment) (n : String) : Prop :=
  ∃ m, .fragment m ∈ segments ∧ Relation.ReflTransGen fs.Mentions m n

/-- Segments reach a defined fragment that reaches itself by at least one reference. -/
def ReachesCycle (fs : Fragments) (segments : List Segment) : Prop :=
  ∃ n, fs.contains n ∧ fs.Reaches segments n ∧ Relation.TransGen fs.Mentions n n

/-- The segments with every defined fragment in its place: its body, inlined in turn. -/
inductive Inlines (fs : Fragments) : List Segment → List Segment → Prop
  | nil : Inlines fs [] []
  | keep {s rest pieces} (h : ∀ n, s = .fragment n → fs.get? n = none)
      (hrest : Inlines fs rest pieces) : Inlines fs (s :: rest) (s :: pieces)
  | replace {n body inner rest pieces} (h : fs.get? n = some body) (hbody : Inlines fs body inner)
      (hrest : Inlines fs rest pieces) : Inlines fs (.fragment n :: rest) (inner ++ pieces)

lemma contains_of_get? {n : String} {body : List Segment} (h : fs.get? n = some body) :
    fs.contains n := by
  simp [NameMap.contains, h]

/-- What stands for segments is determined. -/
lemma Inlines.unique {segments p q : List Segment} (h : fs.Inlines segments p)
    (h' : fs.Inlines segments q) : p = q := by
  induction h generalizing q with
  | nil =>
    cases h'
    rfl
  | keep hs _ ih =>
    cases h' with
    | keep _ hrest => rw [ih hrest]
    | replace hn => simp [hs _ rfl] at hn
  | replace hn _ _ ihbody ihrest =>
    cases h' with
    | keep hs => simp [hs _ rfl] at hn
    | replace hn' hbody hrest =>
      obtain rfl := Option.some.inj (hn.symm.trans hn')
      rw [ihbody hbody, ihrest hrest]

/-- What the first of some segments or the others reach. -/
lemma reaches_cons {s : Segment} {segments : List Segment} {n : String} :
    fs.Reaches (s :: segments) n ↔
      (∃ m, s = .fragment m ∧ Relation.ReflTransGen fs.Mentions m n) ∨ fs.Reaches segments n := by
  unfold Reaches
  constructor
  · rintro ⟨m, hm, hreach⟩
    rcases List.mem_cons.mp hm with hm | hm
    · exact Or.inl ⟨m, hm.symm, hreach⟩
    · exact Or.inr ⟨m, hm, hreach⟩
  · rintro (⟨m, rfl, hreach⟩ | ⟨m, hm, hreach⟩)
    · exact ⟨m, List.mem_cons_self, hreach⟩
    · exact ⟨m, List.mem_cons_of_mem _ hm, hreach⟩

lemma reaches_self (n : String) (rest : List Segment) : fs.Reaches (.fragment n :: rest) n :=
  ⟨n, List.mem_cons_self, Relation.ReflTransGen.refl⟩

lemma reaches_of_rest {s : Segment} {n : String} {rest : List Segment} (h : fs.Reaches rest n) :
    fs.Reaches (s :: rest) n :=
  reaches_cons.mpr (.inr h)

/-- What the body of a fragment reaches is reached by way of the fragment. -/
lemma reaches_of_body {m n : String} {body rest : List Segment} (hm : fs.get? m = some body)
    (h : fs.Reaches body n) : fs.Reaches (.fragment m :: rest) n := by
  obtain ⟨k, hk, hreach⟩ := h
  exact ⟨m, List.mem_cons_self, Relation.ReflTransGen.head ⟨body, hm, hk⟩ hreach⟩

/-- An undefined fragment leads nowhere. -/
lemma eq_of_undefined {m n : String} (hm : fs.get? m = none)
    (h : Relation.ReflTransGen fs.Mentions m n) : n = m := by
  rcases Relation.ReflTransGen.cases_head h with rfl | ⟨k, ⟨body, hbody, -⟩, -⟩
  · rfl
  · rw [hm] at hbody
    cases hbody

lemma eq_of_reaches_undefined {m n : String} (hm : fs.get? m = none)
    (h : fs.Reaches [.fragment m] n) : n = m := by
  obtain ⟨k, hk, hreach⟩ := h
  obtain rfl : k = m := by simpa using hk
  exact eq_of_undefined hm hreach

/-- **No missed cycle**: segments that can be inlined reach no fragment that reaches itself. -/
theorem Inlines.not_transGen {segments pieces : List Segment} (h : fs.Inlines segments pieces)
    {n : String} (hn : fs.Reaches segments n) : ¬ Relation.TransGen fs.Mentions n n := by
  induction h generalizing n with
  | nil =>
    obtain ⟨m, hm, -⟩ := hn
    simp at hm
  | keep hs _ ih =>
    rcases reaches_cons.mp hn with ⟨m, rfl, hreach⟩ | hn
    · obtain rfl := eq_of_undefined (hs m rfl) hreach
      intro hcycle
      obtain ⟨k, ⟨body, hbody, -⟩, -⟩ := Relation.TransGen.head'_iff.mp hcycle
      simp [hs _ rfl] at hbody
    · exact ih hn
  | @replace m body _ _ _ hm _ _ ihbody ihrest =>
    -- whatever the body mentions is reached by the body
    have hstep : ∀ {k x}, fs.Mentions m k → Relation.ReflTransGen fs.Mentions k x →
        fs.Reaches body x := by
      rintro k x ⟨body', hbody', hk⟩ hkx
      obtain rfl := Option.some.inj (hm.symm.trans hbody')
      exact ⟨k, hk, hkx⟩
    rcases reaches_cons.mp hn with ⟨m', hm', hreach⟩ | hn
    · obtain rfl : m = m' := by simpa using hm'
      intro hcycle
      rcases Relation.ReflTransGen.cases_head hreach with rfl | ⟨k, hmk, hkn⟩
      · obtain ⟨k, hmk, hkm⟩ := Relation.TransGen.head'_iff.mp hcycle
        exact ihbody (hstep hmk hkm) hcycle
      · exact ihbody (hstep hmk hkn) hcycle
    · exact ihrest hn

lemma Inlines.not_reachesCycle {segments pieces : List Segment}
    (h : fs.Inlines segments pieces) : ¬ fs.ReachesCycle segments := by
  rintro ⟨n, -, hn, hcycle⟩
  exact h.not_transGen hn hcycle

/-! ### Paths through the graph -/

/-- Names of which each mentions the next, from one that the segments refer to. -/
structure IsPath (fs : Fragments) (segments : List Segment) (names : List String) : Prop where
  chain : names.IsChain fs.Mentions
  head : ∀ m ∈ names.head?, .fragment m ∈ segments

/-- A path that comes back to its start, and to no other name twice. -/
structure IsCycle (fs : Fragments) (segments : List Segment) (path : List String) : Prop where
  closed : ∃ n between, path = n :: (between ++ [n]) ∧ (n :: between).Nodup
  defined : ∀ n ∈ path, fs.contains n
  chain : path.IsChain fs.Mentions
  reached : ∀ n ∈ path.head?, fs.Reaches segments n

lemma reflTransGen_of_isChain {α : Type} {R : α → α → Prop} {a x : α} {l : List α}
    (h : (a :: l).IsChain R) (hx : x ∈ a :: l) : Relation.ReflTransGen R a x := by
  induction l generalizing a with
  | nil =>
    obtain rfl : x = a := by simpa using hx
    exact Relation.ReflTransGen.refl
  | cons b l ih =>
    obtain ⟨hab, hchain⟩ := List.isChain_cons_cons.mp h
    rcases List.mem_cons.mp hx with rfl | hx
    · exact Relation.ReflTransGen.refl
    · exact Relation.ReflTransGen.head hab (ih hchain hx)

lemma transGen_of_isChain {α : Type} {R : α → α → Prop} {a x : α} {l : List α}
    (h : (a :: (l ++ [x])).IsChain R) : Relation.TransGen R a x := by
  cases l with
  | nil => exact Relation.TransGen.single (List.isChain_pair.mp h)
  | cons b l =>
    obtain ⟨hab, hchain⟩ := List.isChain_cons_cons.mp h
    exact Relation.TransGen.head' hab (reflTransGen_of_isChain hchain (by simp))

lemma IsPath.reaches {segments : List Segment} {names : List String} {n : String}
    (h : fs.IsPath segments names) (hn : n ∈ names) : fs.Reaches segments n := by
  cases names with
  | nil => simp at hn
  | cons m names => exact ⟨m, h.head m (by simp), reflTransGen_of_isChain h.chain hn⟩

lemma IsPath.snoc {segments : List Segment} {names : List String} {m n : String}
    (h : fs.IsPath segments (names ++ [m])) (hn : fs.Mentions m n) :
    fs.IsPath segments (names ++ [m] ++ [n]) := by
  refine ⟨?_, fun k hk => h.head k ?_⟩
  · rw [List.append_assoc]
    refine List.isChain_append.mpr ⟨h.chain.left_of_append, by simpa using hn, ?_⟩
    simpa using (List.isChain_append.mp h.chain).2.2
  · cases names with
    | nil => simpa using hk
    | cons a names => simpa using hk

/-- The first and the last name of a cycle are the fragment that reaches itself. -/
lemma IsCycle.reachesCycle {segments : List Segment} {path : List String}
    (h : fs.IsCycle segments path) : fs.ReachesCycle segments := by
  obtain ⟨n, between, rfl, -⟩ := h.closed
  exact ⟨n, h.defined n (by simp), h.reached n (by simp), transGen_of_isChain h.chain⟩

end PromptKit.Fragments
