import PromptKit.Proofs.Expansion.Limit
import PromptKit.Proofs.Render.Course

/-!
What a template does not reach is of no account.

Two maps of fragments agree on segments if they have the same body, or none, for every name that
the segments reach. What a body mentions is in reach of the segments with it, so the maps agree on
every body too that an expansion or a search goes into. Hence the fragments out of reach leave no
trace, neither in a text nor in an error, and whether they are part of a cycle or not.
-/

namespace PromptKit

namespace Fragments

/-- For each name that the segments reach in the first map, the second has what the first has. -/
def Agree (fs gs : Fragments) (segments : List Segment) : Prop :=
  ∀ n, fs.Reaches segments n → gs.get? n = fs.get? n

variable {fs gs : Fragments} {segments more : List Segment} {n : String}

lemma Agree.get?_eq {rest : List Segment} (h : Agree fs gs (.fragment n :: rest)) :
    gs.get? n = fs.get? n :=
  h n (reaches_self n rest)

lemma Agree.rest {s : Segment} {rest : List Segment} (h : Agree fs gs (s :: rest)) :
    Agree fs gs rest := by
  intro n hn
  exact h n (reaches_of_rest hn)

/-- Agreement goes on into a body. -/
lemma Agree.body {body rest : List Segment} (h : Agree fs gs (.fragment n :: rest))
    (hn : fs.get? n = some body) : Agree fs gs body := by
  intro m hm
  exact h m (reaches_of_body hn hm)

lemma Agree.append (h : Agree fs gs segments) (hmore : Agree fs gs more) :
    Agree fs gs (segments ++ more) := by
  rintro n ⟨m, hm, hreach⟩
  rcases List.mem_append.mp hm with hm | hm
  · exact h n ⟨m, hm, hreach⟩
  · exact hmore n ⟨m, hm, hreach⟩

end Fragments

namespace Expansion

open Fragments

variable {fs gs : Fragments} {segments : List Segment}

/-- **Maps that agree expand alike**, inside any stack. -/
theorem expand_congr {stack : List String} (h : Agree fs gs segments) :
    expand gs stack segments = expand fs stack segments := by
  fun_induction expand fs stack segments with
  | case1 stack => exact expand_nil stack
  | case2 stack n rest hn ih =>
    have hn' : gs.get? n = none := h.get?_eq.trans hn
    rw [expand_undefined hn', ih h.rest]
  | case3 stack n rest body hn hmem =>
    have hn' : gs.get? n = some body := h.get?_eq.trans hn
    exact expand_around hn' hmem
  | case4 stack n rest body hn hmem ihbody ihrest =>
    have hn' : gs.get? n = some body := h.get?_eq.trans hn
    rw [expand_defined hn' hmem, ihbody (h.body hn), ihrest h.rest]
  | case5 stack s rest hs ih => rw [expand_other hs, ih h.rest]

/-- **Maps that agree lack the same**, whatever was entered and found before. -/
theorem missingFrom_congr {seen found : List String} (h : Agree fs gs segments) :
    missingFrom gs seen found segments = missingFrom fs seen found segments := by
  fun_induction missingFrom fs seen found segments with
  | case1 seen found => exact missingFrom_nil
  | case2 seen found n rest hn ih =>
    have hn' : gs.get? n = none := h.get?_eq.trans hn
    rw [missingFrom_undefined hn']
    exact ih h.rest
  | case3 seen found n rest body hn hmem ih =>
    have hn' : gs.get? n = some body := h.get?_eq.trans hn
    rw [missingFrom_seen hn' hmem, ih h.rest]
  | case4 seen found n rest body hn hmem ih =>
    have hn' : gs.get? n = some body := h.get?_eq.trans hn
    rw [missingFrom_enter hn' hmem, ih ((h.body hn).append h.rest)]
  | case5 seen found s rest hs ih => rw [missingFrom_other hs, ih h.rest]

end Expansion

namespace Resolver

open Expansion Writer

/-- As far as the template reaches with the fragments of the resolver, the other map has the same
texts, and none where these have none. -/
def Agrees (r : Resolver) (fragments : NameMap String) (template : String) : Prop :=
  ∀ n, r.bodies.Reaches (r.scan template) n → fragments.get? n = r.fragments.get? n

variable {r : Resolver} {fragments : NameMap String} {template : String}

lemma agree_bodies (h : r.Agrees fragments template) :
    Fragments.Agree r.bodies ({ r with fragments := fragments } : Resolver).bodies
      (r.scan template) := by
  intro n hn
  rw [get?_bodies_eq, get?_bodies_eq, h n hn]
  rfl

lemma resolve_of_agrees (h : r.Agrees fragments template) :
    ({ r with fragments := fragments } : Resolver).resolve template = r.resolve template := by
  have hrun : run r.delimiters r.limit ({ r with fragments := fragments } : Resolver).bodies [] {}
        (({ r with fragments := fragments } : Resolver).scan template) =
      run r.delimiters r.limit r.bodies [] {} (r.scan template) := by
    rw [run_eq, run_eq]
    exact congrArg _ (expand_congr (agree_bodies h))
  unfold resolve
  rw [hrun]
  rfl

lemma missing_of_agrees (h : r.Agrees fragments template) :
    ({ r with fragments := fragments } : Resolver).missing template = r.missing template :=
  missingFrom_congr (agree_bodies h)

/-- One fragment is put in, taken out or changed, and the template does not reach it. -/
lemma agrees_of_not_reaches {k : String} (hk : ¬ r.bodies.Reaches (r.scan template) k)
    (h : ∀ n, n ≠ k → fragments.get? n = r.fragments.get? n) : r.Agrees fragments template := by
  intro n hn
  apply h
  rintro rfl
  exact hk hn

end Resolver

namespace Render

variable {r : Resolver} {pack : Pack} {fragments : NameMap String} {o : RenderOptions}

lemma fill_of_agrees {template : String} (h : r.Agrees fragments template)
    (strictness : Strictness) (values : NameMap String) :
    fill { r with fragments := fragments } strictness values template =
      fill r strictness values template := by
  unfold fill
  rw [Resolver.resolve_of_agrees h]
  rfl

lemma prompt_of_agrees {name : String} {p : Prompt} (hp : pack.prompt? name = some p)
    (h : (Resolver.ofPack pack).Agrees fragments (mainTemplate p o.model)) (inputs : Inputs) :
    prompt { pack with fragments := fragments } o name inputs = prompt pack o name inputs := by
  have hfill : ∀ values, fill (.ofPack { pack with fragments := fragments }) o.strictness values
      (mainTemplate p o.model) = fill (.ofPack pack) o.strictness values
        (mainTemplate p o.model) := fill_of_agrees h o.strictness
  have hp' : ({ pack with fragments := fragments } : Pack).prompt? name = some p := hp
  rw [prompt_of_some o inputs hp, prompt_of_some o inputs hp']
  simp only [promptText, hfill]

lemma message?_of_agrees {t? : Option String}
    (h : ∀ t ∈ t?, (Resolver.ofPack pack).Agrees fragments t) (values : NameMap String)
    (role : Role) :
    message? { pack with fragments := fragments } o values role t? =
      message? pack o values role t? := by
  cases t? with
  | none => rfl
  | some t =>
    have hfill : fill (.ofPack { pack with fragments := fragments }) o.strictness values t =
        fill (.ofPack pack) o.strictness values t := fill_of_agrees (h t rfl) o.strictness values
    rw [message?, message?, hfill]

lemma messages_of_agrees {name : String} {p : Prompt} (hp : pack.prompt? name = some p)
    (h : ∀ t, p.systemFor o.model = some t ∨ p.user = some t →
      (Resolver.ofPack pack).Agrees fragments t) (inputs : Inputs) :
    messages { pack with fragments := fragments } o name inputs =
      messages pack o name inputs := by
  have hsystem := message?_of_agrees (o := o) fun t ht => h t (.inl ht)
  have huser := message?_of_agrees (o := o) fun t ht => h t (.inr ht)
  have hp' : ({ pack with fragments := fragments } : Pack).prompt? name = some p := hp
  simp only [messages, promptNamed_of_some hp, promptNamed_of_some hp', pure_bind, hsystem, huser]

/-- **Only what a template reaches counts.** With two maps of fragments that agree on each name
which a template reaches in the first of them, the template resolves to the same text or fails
with the same error, with the same notes, and lacks the same fragments. Maps agree in this way if
they differ at one name that the template does not reach, whatever that fragment is and wherever
it leads. And a prompt, its messages or a template are rendered alike in two packs that differ in
their fragments, if these agree for the templates that are filled. -/
theorem resolve_local (fragments : NameMap String) :
    (∀ (r : Resolver) (template : String), r.Agrees fragments template →
      ({ r with fragments := fragments } : Resolver).resolve template = r.resolve template ∧
      ({ r with fragments := fragments } : Resolver).missing template = r.missing template) ∧
    (∀ (r : Resolver) (template k : String), ¬ r.bodies.Reaches (r.scan template) k →
      (∀ n, n ≠ k → fragments.get? n = r.fragments.get? n) → r.Agrees fragments template) ∧
    ∀ (pack : Pack) (o : RenderOptions) (inputs : Inputs),
      (∀ text, (Resolver.ofPack pack).Agrees fragments text →
        template { pack with fragments := fragments } o text inputs =
          template pack o text inputs) ∧
      ∀ name p, pack.prompt? name = some p →
        ((Resolver.ofPack pack).Agrees fragments (mainTemplate p o.model) →
          prompt { pack with fragments := fragments } o name inputs =
            prompt pack o name inputs) ∧
        ((∀ t, p.systemFor o.model = some t ∨ p.user = some t →
            (Resolver.ofPack pack).Agrees fragments t) →
          messages { pack with fragments := fragments } o name inputs =
            messages pack o name inputs) := by
  refine ⟨fun r template h => ?_, fun r template k hk h => ?_, fun pack o inputs => ?_⟩
  · exact ⟨Resolver.resolve_of_agrees h, Resolver.missing_of_agrees h⟩
  · exact Resolver.agrees_of_not_reaches hk h
  · refine ⟨fun text h => fill_of_agrees h o.strictness inputs.texts, fun name p hp => ?_⟩
    exact ⟨fun h => prompt_of_agrees hp h inputs, fun h => messages_of_agrees hp h inputs⟩

/-! ### A loop out of reach -/

/-- A prompt with a fragment, beside a fragment that stands inside itself. -/
def looped : Pack where
  id := "looped"
  name := "Looped"
  version := "1.0.0"
  prompts := NameMap.ofList [("main",
    { id := "main", name := "Main", version := "1.0.0"
      system := some "\x7b\x7bfragment:end\x7d\x7d" })]
  fragments := NameMap.ofList [("end", "Bye."), ("loop", "\x7b\x7bfragment:loop\x7d\x7d")]

/-- The fragments without the loop. -/
def unlooped : NameMap String := NameMap.ofList [("end", "Bye.")]

lemma not_reaches_loop : ¬ (Resolver.ofPack looped).bodies.Reaches
    ((Resolver.ofPack looped).scan "\x7b\x7bfragment:end\x7d\x7d") "loop" := by
  have hscan : (Resolver.ofPack looped).scan "\x7b\x7bfragment:end\x7d\x7d" =
      [.fragment "end"] := Template.scan_eq_singleton (by decide)
  have hbody : (Resolver.ofPack looped).bodies.get? "end" = some [.text "Bye.".toList] := by
    decide +kernel
  rintro ⟨m, hm, hreach⟩
  rw [hscan] at hm
  obtain rfl : m = "end" := by simpa using hm
  rcases Relation.ReflTransGen.cases_head hreach with heq | ⟨k, ⟨body, hbody', hk⟩, -⟩
  · exact absurd heq (by decide)
  · obtain rfl := Option.some.inj (hbody.symm.trans hbody')
    simp at hk

lemma get?_unlooped (n : String) (hn : n ≠ "loop") :
    unlooped.get? n = (Resolver.ofPack looped).fragments.get? n := by
  have hloop : ("loop" == n) = false := by simpa using hn.symm
  have hfragments : (Resolver.ofPack looped).fragments = looped.fragments := rfl
  rw [hfragments, unlooped, looped, NameMap.get?_ofList, NameMap.get?_ofList]
  simp [List.find?_cons, hloop]

theorem resolve_local_looped :
    (Resolver.ofPack looped).Agrees unlooped "\x7b\x7bfragment:end\x7d\x7d" ∧
    ({ Resolver.ofPack looped with fragments := unlooped } : Resolver).resolve
      "\x7b\x7bfragment:end\x7d\x7d" =
        (Resolver.ofPack looped).resolve "\x7b\x7bfragment:end\x7d\x7d" ∧
    prompt { looped with fragments := unlooped } {} "main" .empty =
      prompt looped {} "main" .empty ∧
    messages { looped with fragments := unlooped } {} "main" .empty =
      messages looped {} "main" .empty := by
  obtain ⟨hresolve, hagrees, hrender⟩ := resolve_local unlooped
  have hend := hagrees _ _ "loop" not_reaches_loop get?_unlooped
  obtain ⟨hprompt, hmessages⟩ := (hrender looped {} .empty).2 "main" _ rfl
  refine ⟨hend, (hresolve _ _ hend).1, hprompt hend, hmessages fun t ht => ?_⟩
  rcases ht with ht | ht
  · obtain rfl := Option.some.inj ht
    exact hend
  · cases ht

end Render

end PromptKit
