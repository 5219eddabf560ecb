import PromptKit.Proofs.Expansion.Inlining
import PromptKit.Proofs.Render.Injection
import PromptKit.Proofs.Success

/-!
Which fragments a strict rendering blames.

An undefined fragment that is blamed has a marker in the resolved text. A marker that the
expansion left there is of a fragment that the pack does not define. But the resolved text is
scanned as a whole, and a marker may also come together where two pieces meet; then the blame
falls on the fragment of that name, defined or not.
-/

namespace PromptKit

namespace Resolver

/-- No piece of the expanded template is a marker of the fragment `n`, and their joined text has
one. -/
def Joins (r : Resolver) (template n : String) : Prop :=
  ∃ pieces, r.bodies.Inlines (r.scan template) pieces ∧ .fragment n ∉ pieces ∧
    .fragment n ∈ r.scan (r.textOf pieces)

variable {r : Resolver} {template n : String}

/-- A marker in a resolved text is of an undefined fragment, or has come together. -/
lemma get?_eq_none_or_joins {out : String} (h : (r.resolve template).result = .ok out)
    (hn : .fragment n ∈ r.scan out) : r.fragments.get? n = none ∨ r.Joins template n := by
  obtain ⟨⟨pieces, hinl, rfl⟩, -⟩ := result_eq_ok_iff.mp h
  by_cases hpiece : .fragment n ∈ pieces
  · exact .inl (get?_bodies_eq_none.mp (hinl.get?_eq_none hpiece))
  · exact .inr ⟨pieces, hinl, hpiece, hn⟩

/-- In a clean template nothing comes together. -/
lemma not_joins_of_isClean (hd : r.delimiters.ApartFromNames) (hclean : r.IsClean template) :
    ¬ r.Joins template n := by
  rintro ⟨pieces, hinl, hpiece, hn⟩
  rw [scan_textOf hd hclean hinl] at hn
  exact hpiece (Segment.fragment_mem_merge.mp hn)

end Resolver

namespace Render

variable {pack : Pack} {o : RenderOptions} {inputs : Inputs} {n : String}

lemma fragment_mem_of_substitute {d : Delimiters} {values : NameMap String}
    {strictness : Strictness} {segments : List Segment}
    (h : (substitute d values strictness segments).result = .error (.undefinedFragment n)) :
    .fragment n ∈ segments := by
  unfold substitute at h
  split at h
  · rename_i e he
    obtain rfl : e = .undefinedFragment n := Except.error.inj h
    obtain ⟨s, hs, hundefined⟩ := List.exists_of_findSome?_eq_some he
    cases s with
    | text t => cases hundefined
    | slot name =>
      simp only [undefined?] at hundefined
      split at hundefined <;> cases hundefined
    | fragment name =>
      obtain rfl : name = n := by simpa [undefined?] using hundefined
      exact hs
  · cases h

/-- A blamed fragment has a marker in the resolved template. -/
lemma exists_resolved_of_fill {r : Resolver} {strictness : Strictness} {values : NameMap String}
    {template : String}
    (h : (fill r strictness values template).result = .error (.undefinedFragment n)) :
    ∃ out, (r.resolve template).result = .ok out ∧ .fragment n ∈ r.scan out := by
  simp only [fill, Traced.result_bind, bind_eq_error, mapError_eq_error, mapError_eq_ok] at h
  rcases h with ⟨cause, -, hcause⟩ | ⟨out, hout, hsubstitute⟩
  · cases hcause
  · exact ⟨out, hout, fragment_mem_of_substitute hsubstitute⟩

lemma get?_eq_none_or_joins_of_fill {strictness : Strictness} {values : NameMap String}
    {template : String}
    (h : (fill (.ofPack pack) strictness values template).result =
      .error (.undefinedFragment n)) :
    pack.fragment? n = none ∨ (Resolver.ofPack pack).Joins template n := by
  obtain ⟨out, hout, hn⟩ := exists_resolved_of_fill h
  exact Resolver.get?_eq_none_or_joins hout hn

/-- An input that is missing or wrong blames no fragment. -/
lemma ofIssue_ne_undefinedFragment (i : Inputs.Issue) :
    RenderError.ofIssue i ≠ .undefinedFragment n := by
  unfold RenderError.ofIssue
  split <;> simp

lemma valuesFor_ne_undefinedFragment {p : Prompt} :
    (valuesFor p inputs).result ≠ .error (.undefinedFragment n) := by
  unfold valuesFor
  split
  · rename_i i _ _
    intro h
    exact ofIssue_ne_undefinedFragment i (Except.error.inj h)
  · simp

/-- A prompt that blames a fragment is there, and a template of it was filled. -/
lemma exists_fill_of_prompt {name : String}
    (h : (prompt pack o name inputs).result = .error (.undefinedFragment n)) :
    ∃ p values, pack.prompt? name = some p ∧
      (fill (.ofPack pack) o.strictness values (mainTemplate p o.model)).result =
        .error (.undefinedFragment n) := by
  rcases hp : pack.prompt? name with _ | p
  · simp [prompt, promptNamed, hp, bind_eq_error] at h
  · have hnamed : promptNamed pack name = pure p := by rw [promptNamed, hp]
    simp only [prompt, promptText, hnamed, pure_bind, Traced.result_bind, bind_eq_error] at h
    rcases h with h | ⟨values, -, h | ⟨text, -, h⟩⟩
    · exact absurd h valuesFor_ne_undefinedFragment
    · exact ⟨p, values, rfl, h⟩
    · simp at h

lemma exists_fill_of_message? {values : NameMap String} {role : Role} {text? : Option String}
    (h : (message? pack o values role text?).result = .error (.undefinedFragment n)) :
    ∃ t, text? = some t ∧
      (fill (.ofPack pack) o.strictness values t).result = .error (.undefinedFragment n) := by
  cases text? with
  | none => cases h
  | some t =>
    simp only [message?, Traced.result_bind, bind_eq_error] at h
    rcases h with h | ⟨content, -, h⟩
    · exact ⟨t, rfl, h⟩
    · cases h

lemma exists_fill_of_messages {name : String}
    (h : (messages pack o name inputs).result = .error (.undefinedFragment n)) :
    ∃ p t values, pack.prompt? name = some p ∧ (p.systemFor o.model = some t ∨ p.user = some t) ∧
      (fill (.ofPack pack) o.strictness values t).result = .error (.undefinedFragment n) := by
  rcases hp : pack.prompt? name with _ | p
  · simp [messages, promptNamed, hp, bind_eq_error] at h
  · have hnamed : promptNamed pack name = pure p := by rw [promptNamed, hp]
    simp only [messages, hnamed, pure_bind, Traced.result_bind, bind_eq_error] at h
    rcases h with h | ⟨values, -, h | ⟨system, -, h | ⟨user, -, h⟩⟩⟩
    · exact absurd h valuesFor_ne_undefinedFragment
    · obtain ⟨t, ht, hfill⟩ := exists_fill_of_message? h
      exact ⟨p, t, values, rfl, .inl ht, hfill⟩
    · obtain ⟨t, ht, hfill⟩ := exists_fill_of_message? h
      exact ⟨p, t, values, rfl, .inr ht, hfill⟩
    · simp at h

/-- **Who is blamed.** A rendering blames a fragment as undefined when the pack does not define
it, or when its marker has come together from pieces of the template that was filled; and in a
clean template, between marks that names have no part in, no marker comes together. -/
theorem blamed_fragment (pack : Pack) (o : RenderOptions) (inputs : Inputs) (n : String) :
    (∀ text, (template pack o text inputs).result = .error (.undefinedFragment n) →
      pack.fragment? n = none ∨ (Resolver.ofPack pack).Joins text n) ∧
    (∀ name, (prompt pack o name inputs).result = .error (.undefinedFragment n) →
      pack.fragment? n = none ∨ ∃ p, pack.prompt? name = some p ∧
        (Resolver.ofPack pack).Joins (mainTemplate p o.model) n) ∧
    (∀ name, (messages pack o name inputs).result = .error (.undefinedFragment n) →
      pack.fragment? n = none ∨ ∃ p t, pack.prompt? name = some p ∧
        (p.systemFor o.model = some t ∨ p.user = some t) ∧ (Resolver.ofPack pack).Joins t n) ∧
    (pack.engine.delimiters.ApartFromNames → ∀ t, (Resolver.ofPack pack).IsClean t →
      ¬ (Resolver.ofPack pack).Joins t n) := by
  refine ⟨fun text h => get?_eq_none_or_joins_of_fill h, fun name h => ?_, fun name h => ?_,
    fun hd t hclean => Resolver.not_joins_of_isClean hd hclean⟩
  · obtain ⟨p, values, hp, hfill⟩ := exists_fill_of_prompt h
    exact (get?_eq_none_or_joins_of_fill hfill).imp_right fun hjoins => ⟨p, hp, hjoins⟩
  · obtain ⟨p, t, values, hp, ht, hfill⟩ := exists_fill_of_messages h
    exact (get?_eq_none_or_joins_of_fill hfill).imp_right fun hjoins => ⟨p, t, hp, ht, hjoins⟩

/-- Filling blames the only segment of a resolved text. -/
lemma result_fill_of_scan {r : Resolver} {values : NameMap String} {t out : String}
    (h : (r.resolve t).result = .ok out) (hscan : r.scan out = [.fragment n]) :
    (fill r .strict values t).result = .error (.undefinedFragment n) := by
  simp only [fill, Traced.result_bind, bind_eq_error]
  exact .inr ⟨out, mapError_eq_ok.mpr h, by rw [hscan]; rfl⟩

/-! ### A fragment that is not there -/

/-- A prompt that refers to a fragment that the pack does not have. The one that it has is not
clean, but out of reach. -/
def incomplete : Pack where
  id := "incomplete"
  name := "Incomplete"
  version := "1.0.0"
  fragments := NameMap.ofList [("brace", "\x7b")]
  prompts := NameMap.ofList [("main",
    { id := "main", name := "Main", version := "1.0.0"
      user := some "\x7b\x7bfragment:gone\x7d\x7d" })]

lemma scan_incomplete :
    (Resolver.ofPack incomplete).scan "\x7b\x7bfragment:gone\x7d\x7d" = [.fragment "gone"] :=
  Template.scan_eq_singleton (by decide)

lemma result_fill_incomplete (values : NameMap String) :
    (fill (.ofPack incomplete) .strict values "\x7b\x7bfragment:gone\x7d\x7d").result =
      .error (.undefinedFragment "gone") := by
  refine result_fill_of_scan (Resolver.result_eq_ok_iff.mpr ⟨?_, by decide⟩) scan_incomplete
  refine Resolver.expands_self fun n hn => ?_
  obtain rfl : n = "gone" := by simpa [scan_incomplete] using hn
  decide

lemma result_message?_incomplete (values : NameMap String) :
    (message? incomplete { strictness := .strict } values .user
      (some "\x7b\x7bfragment:gone\x7d\x7d")).result = .error (.undefinedFragment "gone") := by
  simp only [message?, Traced.result_bind, bind_eq_error]
  exact .inl (result_fill_incomplete values)

lemma isClean_incomplete :
    (Resolver.ofPack incomplete).IsClean "\x7b\x7bfragment:gone\x7d\x7d" := by
  have hgone : (Resolver.ofPack incomplete).fragments.get? "gone" = none := by decide
  refine ⟨?_, fun n text hreach htext => ?_⟩
  · rw [scan_incomplete]
    simp [Segment.Clean]
  · rw [scan_incomplete] at hreach
    obtain rfl := Fragments.eq_of_reaches_undefined (Resolver.get?_bodies_eq_none.mpr hgone) hreach
    exact absurd (htext.symm.trans hgone) (Option.some_ne_none text)

theorem blamed_fragment_gone :
    (template incomplete { strictness := .strict } "\x7b\x7bfragment:gone\x7d\x7d" .empty).result =
      .error (.undefinedFragment "gone") ∧
    (prompt incomplete { strictness := .strict } "main" .empty).result =
      .error (.undefinedFragment "gone") ∧
    (messages incomplete { strictness := .strict } "main" .empty).result =
      .error (.undefinedFragment "gone") ∧
    incomplete.engine.delimiters.ApartFromNames ∧
    (Resolver.ofPack incomplete).IsClean "\x7b\x7bfragment:gone\x7d\x7d" ∧
    incomplete.fragment? "gone" = none := by
  have htemplate : (template incomplete { strictness := .strict }
      "\x7b\x7bfragment:gone\x7d\x7d" .empty).result = .error (.undefinedFragment "gone") :=
    result_fill_incomplete _
  have hblamed := blamed_fragment incomplete { strictness := .strict } .empty "gone"
  refine ⟨htemplate, ?_, ?_, Delimiters.apartFromNames_default, isClean_incomplete, ?_⟩
  · rw [result_prompt rfl rfl]
    exact result_fill_incomplete _
  · simp only [messages, Traced.result_bind, bind_eq_error]
    exact .inr ⟨_, rfl, .inr ⟨_, rfl, .inr ⟨[], rfl, .inl (result_message?_incomplete _)⟩⟩⟩
  · exact (hblamed.1 _ htemplate).resolve_right
      (hblamed.2.2.2 Delimiters.apartFromNames_default _ isClean_incomplete)

/-! ### A marker that comes together -/

/-- Two fragments, of which the first ends in half of an opening mark. -/
def seamed : Pack where
  id := "seamed"
  name := "Seamed"
  version := "1.0.0"
  fragments := NameMap.ofList [("a", "\x7b"), ("b", "B")]

lemma scan_seamed :
    (Resolver.ofPack seamed).scan "\x7b\x7bfragment:a\x7d\x7d\x7bfragment:b\x7d\x7d" =
      [.fragment "a", .text "\x7bfragment:b\x7d\x7d".toList] := by
  have hstart : Template.StartsWith (Resolver.ofPack seamed).delimiters (.fragment "a")
      "\x7b\x7bfragment:a\x7d\x7d\x7bfragment:b\x7d\x7d".toList
      "\x7bfragment:b\x7d\x7d".toList := Template.placeholder?_eq_some.mp (by decide)
  rw [Resolver.scan, Template.scan_of_startsWith hstart,
    Template.scan_eq_text (by decide) (by decide)]

lemma result_seamed :
    ((Resolver.ofPack seamed).resolve
      "\x7b\x7bfragment:a\x7d\x7d\x7bfragment:b\x7d\x7d").result =
      .ok "\x7b\x7bfragment:b\x7d\x7d" := by
  have hscan : (Resolver.ofPack seamed).scan "\x7b" = [.text ['\x7b']] :=
    Template.scan_eq_text (by decide) (by decide)
  have hbody : (Resolver.ofPack seamed).bodies.get? "a" = some [.text ['\x7b']] := by
    rw [Resolver.get?_bodies (t := "\x7b") (by decide), hscan]
  have hinl : (Resolver.ofPack seamed).bodies.Inlines
      ((Resolver.ofPack seamed).scan "\x7b\x7bfragment:a\x7d\x7d\x7bfragment:b\x7d\x7d")
      ([.text ['\x7b']] ++ [.text "\x7bfragment:b\x7d\x7d".toList]) := by
    rw [scan_seamed]
    exact .replace hbody (.keep (by simp) .nil) (.keep (by simp) .nil)
  exact Resolver.result_eq_ok_iff.mpr ⟨⟨_, hinl, by decide⟩, by decide⟩

/-- A defined fragment is blamed as undefined. -/
theorem blames_defined_fragment :
    (template seamed { strictness := .strict }
      "\x7b\x7bfragment:a\x7d\x7d\x7bfragment:b\x7d\x7d" .empty).result =
        .error (.undefinedFragment "b") ∧
      seamed.fragment? "b" = some "B" :=
  ⟨result_fill_of_scan result_seamed (Template.scan_eq_singleton (by decide)), by decide⟩

end Render

end PromptKit
