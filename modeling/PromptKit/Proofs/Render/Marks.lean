import PromptKit.Proofs.Render.Sketch
import PromptKit.Proofs.Render.Strictness

/-!
Which marks a pack chooses makes no difference.

Written between other marks, a sketch is read as the same segments, its fragments are put in
their places in the same way, and the same placeholders find no value. So a rendering comes to
the same error, or to texts that differ in the marks around the placeholders which they keep.
-/

namespace PromptKit

namespace Sketch

/-- A placeholder that a rendering keeps: its variable is not available, or its fragment is not
defined. A strict rendering keeps none. -/
def Leaves (k : Sketch) (strictness : Strictness) (available : String → Prop) : Segment → Prop
  | .text _ => False
  | .slot n => strictness = .lenient ∧ ¬ available n
  | .fragment n => strictness = .lenient ∧ k.fragments.get? n = none

end Sketch

namespace Render

open Segment

/-- A segment with its value in place, as a segment. -/
def settled (values : NameMap String) : Segment → Segment
  | .slot n => ((values.get? n).map fun v => .text v.toList).getD (.slot n)
  | s => s

/-- The same pieces with the same values in place, written between two pairs of marks. The pieces
that do not become texts are those that are left, so the two outputs differ at most in the marks
around these, and are the same where nothing is left. -/
structure AlikePieces (d d' : Delimiters) (values : NameMap String) (left : Segment → Prop)
    (pieces : List Segment) (out out' : String) : Prop where
  out_eq : out = write d (pieces.map (settled values))
  out_eq' : out' = write d' (pieces.map (settled values))
  left_iff : ∀ s ∈ pieces, left s ↔ ¬ (settled values s).isText
  eq_of_none_left : (∀ s ∈ pieces, ¬ left s) → out' = out

/-- Two texts that come of the pieces of one expanded template in this way. -/
def AlikeText (k : Sketch) (d d' : Delimiters) (values : NameMap String) (left : Segment → Prop)
    (t : List Segment) (out out' : String) : Prop :=
  ∃ pieces, k.bodies.Inlines (merge t) pieces ∧ AlikePieces d d' values left pieces out out'

/-- Two messages of one role, with two texts of the template of that role. -/
structure AlikeMessage (k : Sketch) (d d' : Delimiters) (values : NameMap String)
    (left : Segment → Prop) (p : Sketch.Prompt) (model : Option String) (m m' : ChatMessage) :
    Prop where
  role : m.role = m'.role
  content : ∃ t, p.templateOf? model m.role = some t ∧
    AlikeText k d d' values left t m.content m'.content

/-- The same error, or two values that go together. -/
inductive Alike {α : Type} (R : α → α → Prop) :
    Except RenderError α → Except RenderError α → Prop
  | error (e : RenderError) : Alike R (.error e) (.error e)
  | ok {a a' : α} (h : R a a') : Alike R (.ok a) (.ok a')

/-- A result that is not for too large a text. -/
def Fits {α : Type} (x : Except RenderError α) : Prop :=
  ∀ limit, x ≠ .error (.resolution (.tooLarge limit))

variable {k : Sketch} {e e' : Engine} {d d' : Delimiters} {strictness : Strictness}
variable {values : NameMap String} {available : String → Prop} {left : Segment → Prop}
variable {pieces t : List Segment}

/-! ### Results one after the other -/

section Results

variable {α β : Type} {R : α → α → Prop} {S : β → β → Prop} {x x' : Except RenderError α}

lemma Fits.of_map {f : α → β} (h : Fits (x.map f)) : Fits x :=
  fun limit hx => h limit (map_eq_error.mpr hx)

lemma Fits.of_bind {f : α → Except RenderError β} (h : Fits (x >>= f)) : Fits x :=
  fun limit hx => h limit (bind_eq_error.mpr (.inl hx))

/-- What comes after a value fits too, if the whole does. -/
lemma Fits.of_bind_ok {f : α → Except RenderError β} {a : α} (h : Fits (x >>= f))
    (ha : x = .ok a) : Fits (f a) :=
  fun limit hf => h limit (bind_eq_error.mpr (.inr ⟨a, ha, hf⟩))

lemma Alike.imp {R' : α → α → Prop} (h : Alike R x x') (hR : ∀ a a', R a a' → R' a a') :
    Alike R' x x' := by
  cases h with
  | error error => exact .error error
  | ok ha => exact .ok (hR _ _ ha)

lemma Alike.map {f f' : α → β} (h : Alike R x x') (hf : ∀ a a', R a a' → S (f a) (f' a')) :
    Alike S (x.map f) (x'.map f') := by
  cases h with
  | error error => exact .error error
  | ok ha => exact .ok (hf _ _ ha)

lemma Alike.bind {f f' : α → Except RenderError β} (h : Alike R x x')
    (hf : ∀ a a', x = .ok a → x' = .ok a' → R a a' → Alike S (f a) (f' a')) :
    Alike S (x >>= f) (x' >>= f') := by
  cases h with
  | error error => exact .error error
  | ok ha => exact hf _ _ rfl rfl ha

end Results

/-! ### Texts -/

lemma raw_settled (values : NameMap String) (s : Segment) :
    (settled values s).raw d = filled d values s := by
  cases s with
  | text cs => rfl
  | fragment n => rfl
  | slot n => rcases hv : values.get? n with _ | v <;> simp [settled, filled, hv, raw]

lemma write_map_settled (pieces : List Segment) :
    write d (pieces.map (settled values)) = String.ofList (pieces.flatMap (filled d values)) := by
  rw [write, List.flatMap_map]
  exact congrArg (fun f => String.ofList (pieces.flatMap f)) (funext (raw_settled values))

lemma write_congr_of_isText (d d' : Delimiters) (h : ∀ s ∈ pieces, s.isText) :
    write d pieces = write d' pieces := by
  refine congrArg String.ofList (List.flatMap_congr fun s hs => ?_)
  cases s with
  | text cs => rfl
  | slot n => simpa [isText] using h _ hs
  | fragment n => simpa [isText] using h _ hs

/-- Pieces with the values in place, between two pairs of marks. -/
lemma alikePieces (d d' : Delimiters)
    (hleft : ∀ s ∈ pieces, left s ↔ ¬ (settled values s).isText) :
    AlikePieces d d' values left pieces (String.ofList (pieces.flatMap (filled d values)))
      (String.ofList (pieces.flatMap (filled d' values))) where
  out_eq := (write_map_settled pieces).symm
  out_eq' := (write_map_settled pieces).symm
  left_iff := hleft
  eq_of_none_left hnone := by
    have htexts : ∀ s ∈ pieces.map (settled values), s.isText := by
      intro s hs
      obtain ⟨u, hu, rfl⟩ := List.mem_map.mp hs
      by_contra htext
      exact hnone u hu ((hleft u hu).mpr htext)
    rw [← write_map_settled, ← write_map_settled, write_congr_of_isText d' d htexts]

/-- A piece becomes a text exactly where it is not undefined. -/
lemma isText_settled_iff {s : Segment} :
    (settled values s).isText ↔ undefined? values s = none := by
  cases s with
  | text cs => simp [settled, undefined?, isText]
  | fragment n => simp [settled, undefined?, isText]
  | slot n =>
    rcases hv : values.get? n with _ | v
    · simp [settled, undefined?, isText, NameMap.contains, hv]
    · simp [settled, undefined?, isText, NameMap.contains, hv]

/-- A lenient rendering keeps what has no value and is no fragment of the sketch. -/
lemma leaves_lenient_iff (hvalues : ∀ n, values.contains n ↔ available n)
    (hfragments : ∀ n, .fragment n ∈ pieces → k.fragments.get? n = none) :
    ∀ s ∈ pieces, k.Leaves .lenient available s ↔ ¬ (settled values s).isText := by
  intro s hs
  rw [isText_settled_iff]
  cases s with
  | text cs => simp [Sketch.Leaves, undefined?]
  | fragment n => simp [Sketch.Leaves, undefined?, hfragments n hs]
  | slot n => simp [Sketch.Leaves, undefined?, ← hvalues]

/-- A strict rendering keeps nothing; where nothing is undefined, nothing would be left anyway. -/
lemma leaves_strict_iff (h : pieces.findSome? (undefined? values) = none) :
    ∀ s ∈ pieces, k.Leaves .strict available s ↔ ¬ (settled values s).isText := by
  intro s hs
  have htext := isText_settled_iff.mpr (List.findSome?_eq_none_iff.mp h s hs)
  have hnot : ¬ k.Leaves .strict available s := by
    cases s with
    | text cs => exact id
    | slot n => exact fun hleft => nomatch hleft.1
    | fragment n => exact fun hleft => nomatch hleft.1
  exact iff_of_false hnot (not_not.mpr htext)

/-- The same pieces with the same values, between two pairs of marks. -/
lemma alike_substitute (d d' : Delimiters) (hvalues : ∀ n, values.contains n ↔ available n)
    (hfragments : ∀ n, .fragment n ∈ pieces → k.fragments.get? n = none) :
    Alike (AlikePieces d d' values (k.Leaves strictness available) pieces)
      (substitute d values strictness pieces).result
      (substitute d' values strictness pieces).result := by
  cases strictness with
  | lenient => exact .ok (alikePieces d d' (leaves_lenient_iff hvalues hfragments))
  | strict =>
    rcases hundefined : pieces.findSome? (undefined? values) with _ | error
    · rw [substitute_strict_of_none hundefined, substitute_strict_of_none hundefined]
      exact .ok (alikePieces d d' (leaves_strict_iff hundefined))
    · rw [substitute_strict_of_some hundefined, substitute_strict_of_some hundefined]
      exact .error error

/-! ### One template -/

lemma isClean_write (he : e.delimiters.ApartFromNames) (hk : k.Plain e.delimiters)
    (ht : Segment.Plain e.delimiters t) :
    (Resolver.ofPack (k.write e)).IsClean (write e.delimiters t) where
  template := by
    have hscan : (Resolver.ofPack (k.write e)).scan (write e.delimiters t) = merge t :=
      scan_write he ht
    rw [hscan]
    exact clean_merge ht.clean
  body n text _ htext := by
    have hfragment : (k.fragments.get? n).map (write e.delimiters) = some text :=
      (Sketch.fragment?_write k e n).symm.trans htext
    obtain ⟨u, hu, rfl⟩ := Option.map_eq_some_iff.mp hfragment
    have hscan : (Resolver.ofPack (k.write e)).scan (write e.delimiters u) = merge u :=
      scan_write he (hk.fragment n u hu)
    rw [hscan]
    exact clean_merge (hk.fragment n u hu).clean

/-- **A template of a written sketch is filled by way of its segments.** -/
lemma result_fill_write (he : e.delimiters.ApartFromNames) (hk : k.Plain e.delimiters)
    (ht : Segment.Plain e.delimiters t)
    (hfits : Fits (fill (.ofPack (k.write e)) strictness values (write e.delimiters t)).result) :
    (fill (.ofPack (k.write e)) strictness values (write e.delimiters t)).result =
      match (Expansion.expand k.bodies [] (merge t)).cycle with
      | some path => .error (.resolution (.cycle path))
      | none => (substitute e.delimiters values strictness
          (Expansion.expand k.bodies [] (merge t)).pieces).result := by
  have hscan : (Resolver.ofPack (k.write e)).scan (write e.delimiters t) = merge t :=
    scan_write he ht
  have hlimit : ∀ limit, ((Resolver.ofPack (k.write e)).resolve (write e.delimiters t)).result ≠
      .error (.tooLarge limit) := fun limit hlarge => hfits limit (fill_of_resolve_error hlarge)
  have hresolve := Resolver.result_resolve_of_fits hlimit
  rw [Sketch.bodies_write he hk, hscan] at hresolve
  rcases hcycle : (Expansion.expand k.bodies [] (merge t)).cycle with _ | path
  · simp only [hcycle] at hresolve
    have hinl : (Resolver.ofPack (k.write e)).bodies.Inlines
        ((Resolver.ofPack (k.write e)).scan (write e.delimiters t))
        (Expansion.expand k.bodies [] (merge t)).pieces := by
      rw [Sketch.bodies_write he hk, hscan]
      exact Expansion.inlines_expand hcycle
    rw [fill_of_resolve_ok hresolve, Resolver.scan_textOf he (isClean_write he hk ht) hinl]
    exact result_substitute_merge _
  · simp only [hcycle] at hresolve
    exact fill_of_resolve_error hresolve

/-- One template of a sketch, filled with the same values between two pairs of marks. -/
lemma alike_fill (he : e.delimiters.ApartFromNames) (he' : e'.delimiters.ApartFromNames)
    (hk : k.Plain e.delimiters) (hk' : k.Plain e'.delimiters)
    (ht : Segment.Plain e.delimiters t) (ht' : Segment.Plain e'.delimiters t)
    (hvalues : ∀ n, values.contains n ↔ available n)
    (hfits : Fits (fill (.ofPack (k.write e)) strictness values (write e.delimiters t)).result)
    (hfits' : Fits (fill (.ofPack (k.write e')) strictness values
      (write e'.delimiters t)).result) :
    Alike (AlikeText k e.delimiters e'.delimiters values (k.Leaves strictness available) t)
      (fill (.ofPack (k.write e)) strictness values (write e.delimiters t)).result
      (fill (.ofPack (k.write e')) strictness values (write e'.delimiters t)).result := by
  rw [result_fill_write he hk ht hfits, result_fill_write he' hk' ht' hfits']
  rcases hcycle : (Expansion.expand k.bodies [] (merge t)).cycle with _ | path
  · have hinl := Expansion.inlines_expand hcycle
    have hfragments : ∀ n, .fragment n ∈ (Expansion.expand k.bodies [] (merge t)).pieces →
        k.fragments.get? n = none := fun n hn => by
      simpa [Sketch.bodies] using hinl.get?_eq_none hn
    exact (alike_substitute _ _ hvalues hfragments).imp fun out out' halike => ⟨_, hinl, halike⟩
  · exact .error _

/-! ### Prompts -/

variable {p : Sketch.Prompt} {o : RenderOptions} {inputs : Inputs} {name : String}

/-- A prompt of a sketch, rendered between two pairs of marks. -/
lemma alike_prompt (he : e.delimiters.ApartFromNames) (he' : e'.delimiters.ApartFromNames)
    (hk : k.Plain e.delimiters) (hk' : k.Plain e'.delimiters) (hp : k.prompts.get? name = some p)
    (hfits : Fits (prompt (k.write e) o name inputs).result)
    (hfits' : Fits (prompt (k.write e') o name inputs).result) :
    Alike (AlikeText k e.delimiters e'.delimiters (inputs.textsFor p.rest.declared)
        (k.Leaves o.strictness (p.rest.Supplies inputs)) (p.mainTemplate o.model))
      (prompt (k.write e) o name inputs).result (prompt (k.write e') o name inputs).result := by
  have hprompt : ∀ e : Engine, (k.write e).prompt? name = some (p.write e.delimiters) :=
    Sketch.prompt?_write_of_some hp
  rcases hcheck : inputs.check p.rest.declared with _ | ⟨i, rest⟩
  · have hresult : ∀ e : Engine, (prompt (k.write e) o name inputs).result =
        (fill (.ofPack (k.write e)) o.strictness (inputs.textsFor p.rest.declared)
          (write e.delimiters (p.mainTemplate o.model))).result := fun e => by
      rw [result_prompt (hprompt e) hcheck, Sketch.Prompt.mainTemplate_write]
      rfl
    rw [hresult] at hfits hfits' ⊢
    rw [hresult]
    exact alike_fill he he' hk hk' ((hk.prompt name p hp).mainTemplate o.model)
      ((hk'.prompt name p hp).mainTemplate o.model) (Inputs.contains_textsFor p.rest inputs) hfits
      hfits'
  · have hresult : ∀ e : Engine, (prompt (k.write e) o name inputs).result =
        .error (.ofIssue i) := fun e => result_prompt_of_issue (hprompt e) hcheck
    rw [hresult, hresult]
    exact .error _

/-- The message of a role, if the prompt of a sketch has a template for it. -/
lemma alike_message? (he : e.delimiters.ApartFromNames) (he' : e'.delimiters.ApartFromNames)
    (hk : k.Plain e.delimiters) (hk' : k.Plain e'.delimiters) (hp : p.Plain e.delimiters)
    (hp' : p.Plain e'.delimiters) (hvalues : ∀ n, values.contains n ↔ available n) (role : Role)
    (hfits : Fits (message? (k.write e) o values role
      ((p.templateOf? o.model role).map (write e.delimiters))).result)
    (hfits' : Fits (message? (k.write e') o values role
      ((p.templateOf? o.model role).map (write e'.delimiters))).result) :
    Alike (List.Forall₂ (AlikeMessage k e.delimiters e'.delimiters values
        (k.Leaves o.strictness available) p o.model))
      (message? (k.write e) o values role
        ((p.templateOf? o.model role).map (write e.delimiters))).result
      (message? (k.write e') o values role
        ((p.templateOf? o.model role).map (write e'.delimiters))).result := by
  rcases htemplate : p.templateOf? o.model role with _ | t
  · exact .ok .nil
  · have ht := hp.templateOf? o.model role t htemplate
    have ht' := hp'.templateOf? o.model role t htemplate
    simp only [htemplate, Option.map_some, result_message?_some] at hfits hfits' ⊢
    exact (alike_fill he he' hk hk' ht ht' hvalues hfits.of_map hfits'.of_map).map
      fun text text' htext => .cons ⟨rfl, t, htemplate, htext⟩ .nil

/-- The messages of a prompt of a sketch, rendered between two pairs of marks. -/
lemma alike_messages (he : e.delimiters.ApartFromNames) (he' : e'.delimiters.ApartFromNames)
    (hk : k.Plain e.delimiters) (hk' : k.Plain e'.delimiters) (hp : k.prompts.get? name = some p)
    (hfits : Fits (messages (k.write e) o name inputs).result)
    (hfits' : Fits (messages (k.write e') o name inputs).result) :
    Alike (List.Forall₂ (AlikeMessage k e.delimiters e'.delimiters
        (inputs.textsFor p.rest.declared) (k.Leaves o.strictness (p.rest.Supplies inputs)) p
        o.model))
      (messages (k.write e) o name inputs).result
      (messages (k.write e') o name inputs).result := by
  have hprompt : ∀ e : Engine, (k.write e).prompt? name = some (p.write e.delimiters) :=
    Sketch.prompt?_write_of_some hp
  have hvalues := Inputs.contains_textsFor p.rest inputs
  rcases hcheck : inputs.check p.rest.declared with _ | ⟨i, rest⟩
  · have hresult : ∀ e : Engine, (messages (k.write e) o name inputs).result =
        (message? (k.write e) o (inputs.textsFor p.rest.declared) .system
          ((p.systemFor o.model).map (write e.delimiters))).result >>= fun system =>
            (message? (k.write e) o (inputs.textsFor p.rest.declared) .user
              (p.user.map (write e.delimiters))).result >>= fun user =>
                pure (system ++ user) := fun e => by
      rw [result_messages (hprompt e) hcheck, Sketch.Prompt.systemFor_write]
      rfl
    rw [hresult] at hfits hfits' ⊢
    rw [hresult]
    have hplain := hk.prompt name p hp
    have hplain' := hk'.prompt name p hp
    refine (alike_message? he he' hk hk' hplain hplain' hvalues .system hfits.of_bind
      hfits'.of_bind).bind fun ms ms' hms hms' hsystem => ?_
    refine (alike_message? he he' hk hk' hplain hplain' hvalues .user
      (hfits.of_bind_ok hms).of_bind (hfits'.of_bind_ok hms').of_bind).bind
        fun us us' _ _ huser => .ok ?_
    exact List.rel_append hsystem huser
  · have hresult : ∀ e : Engine, (messages (k.write e) o name inputs).result =
        .error (.ofIssue i) := fun e => result_messages_of_issue (hprompt e) hcheck
    rw [hresult, hresult]
    exact .error _

/-- **The marks do not matter.** Take a sketch and two engines with marks that have no part in
names and in the texts of the sketch. A prompt, its messages or a template, rendered in the two
packs with the same inputs and options, comes to the same error, or to the pieces of the same
expanded template with the same values in place, written between the marks of the one engine and of
the other, unless one of them is too large. -/
theorem render_alike (k : Sketch) (e e' : Engine) (o : RenderOptions) (inputs : Inputs)
    (he : e.delimiters.ApartFromNames) (he' : e'.delimiters.ApartFromNames)
    (hk : k.Plain e.delimiters) (hk' : k.Plain e'.delimiters) :
    (∀ name, k.prompts.get? name = none →
      (prompt (k.write e) o name inputs).result = .error (.unknownPrompt name) ∧
      (prompt (k.write e') o name inputs).result = .error (.unknownPrompt name) ∧
      (messages (k.write e) o name inputs).result = .error (.unknownPrompt name) ∧
      (messages (k.write e') o name inputs).result = .error (.unknownPrompt name)) ∧
    (∀ name p, k.prompts.get? name = some p →
      (Fits (prompt (k.write e) o name inputs).result →
        Fits (prompt (k.write e') o name inputs).result →
        Alike (AlikeText k e.delimiters e'.delimiters (inputs.textsFor p.rest.declared)
            (k.Leaves o.strictness (p.rest.Supplies inputs)) (p.mainTemplate o.model))
          (prompt (k.write e) o name inputs).result
          (prompt (k.write e') o name inputs).result) ∧
      (Fits (messages (k.write e) o name inputs).result →
        Fits (messages (k.write e') o name inputs).result →
        Alike (List.Forall₂ (AlikeMessage k e.delimiters e'.delimiters
            (inputs.textsFor p.rest.declared) (k.Leaves o.strictness (p.rest.Supplies inputs)) p
            o.model))
          (messages (k.write e) o name inputs).result
          (messages (k.write e') o name inputs).result)) ∧
    ∀ t, Segment.Plain e.delimiters t → Segment.Plain e'.delimiters t →
      Fits (template (k.write e) o (write e.delimiters t) inputs).result →
      Fits (template (k.write e') o (write e'.delimiters t) inputs).result →
      Alike (AlikeText k e.delimiters e'.delimiters inputs.texts
          (k.Leaves o.strictness (inputs.contains ·)) t)
        (template (k.write e) o (write e.delimiters t) inputs).result
        (template (k.write e') o (write e'.delimiters t) inputs).result := by
  refine ⟨fun name hnone => ?_, fun name p hp => ⟨alike_prompt he he' hk hk' hp,
    alike_messages he he' hk hk' hp⟩, fun t ht ht' => alike_fill he he' hk hk' ht ht'
      (Inputs.contains_texts inputs)⟩
  have hprompt : ∀ e : Engine, (k.write e).prompt? name = none := fun e => by
    rw [Sketch.prompt?_write, hnone]
    rfl
  exact ⟨result_prompt_of_none (hprompt e), result_prompt_of_none (hprompt e'),
    result_messages_of_none (hprompt e), result_messages_of_none (hprompt e')⟩

/-! ### A letter between two pairs of marks -/

/-- A letter with a fragment that is there and one that is not. -/
def letter : Sketch.Prompt where
  rest := { id := "main", name := "Main", version := "1.0.0"
            declared := [{ name := "name", type := .string }] }
  system := some [.text ['T', 'o', ' '], .slot "name", .fragment "end", .fragment "seal"]

def letters : Sketch where
  rest := { id := "letters", name := "Letters", version := "1.0.0" }
  prompts := NameMap.ofList [("main", letter)]
  fragments := NameMap.ofList [("end", [.text ['.']])]

/-- An engine with marks other than double braces. -/
def angled : Engine where
  delimiters := ⟨['<', '<'], ['>', '>'], by decide, by decide⟩

/-- A value that is written like a placeholder between double braces. -/
def toBraces : Inputs := NameMap.ofList [("name", .string "\x7b\x7bseal\x7d\x7d")]

lemma apartFromNames_angled : angled.delimiters.ApartFromNames := by
  intro c hc
  have hmark : c = '<' ∨ c = '>' := by
    simpa [Delimiters.Uses, angled] using hc
  simp only [Name.IsLetter, Name.IsLower, Name.IsDigit]
  rcases hmark with rfl | rfl
  · decide
  · decide

/-- Marks without a character of the letters leave their templates plain. -/
lemma plain_letters (h : ∀ c ∈ ['T', 'o', ' ', '.'], c ∉ d.left ∧ c ∉ d.right) :
    letters.Plain d := by
  have huses : ∀ c ∈ ['T', 'o', ' ', '.'], ¬ d.Uses c := fun c hc => not_or.mpr (h c hc)
  refine ⟨fun name p hp => ?_, fun n t ht => ?_⟩
  · obtain ⟨-, rfl⟩ : name = "main" ∧ p = letter := by
      simpa [letters] using NameMap.mem_of_get?_ofList hp
    refine ⟨fun t ht => ?_, fun t ht => (nomatch ht), fun model o ho => (nomatch ho)⟩
    obtain rfl := Option.some.inj ht
    refine ⟨by simp [Segment.Clean, huses], ?_⟩
    simp only [List.mem_cons, List.not_mem_nil, or_false, forall_eq_or_imp, forall_eq,
      Segment.isText, Segment.IsPlaceholder]
    decide
  · obtain ⟨-, rfl⟩ : n = "end" ∧ t = [.text ['.']] := by
      simpa [letters] using NameMap.mem_of_get?_ofList ht
    exact ⟨by simp [Segment.Clean, huses], by simp [Segment.isText]⟩

/-- The pieces of the letter, with the fragment that is there in its place. -/
def letterPieces : List Segment :=
  [.text ['T', 'o', ' '], .slot "name", .text ['.'], .fragment "seal"]

lemma inlines_letter :
    letters.bodies.Inlines (merge (letter.mainTemplate none)) letterPieces := by
  have hend : letters.bodies.get? "end" = some [.text ['.']] := by decide
  have hseal : ∀ n, Segment.fragment "seal" = .fragment n → letters.bodies.get? n = none := by
    rintro n hn
    obtain rfl := Segment.fragment.inj hn
    decide
  exact .keep (by simp) (.keep (by simp) (.replace hend (.keep (by simp) .nil)
    (.keep hseal .nil)))

/-- The letter fits between marks that are not too long. -/
lemma fits_letter (he : e.delimiters.ApartFromNames) (hk : letters.Plain e.delimiters)
    (hbytes : Text.bytes (write e.delimiters letterPieces).toList ≤ 1048576) :
    Fits (prompt (letters.write e) {} "main" toBraces).result := by
  have hscan : (Resolver.ofPack (letters.write e)).scan
      (write e.delimiters (letter.mainTemplate none)) = merge (letter.mainTemplate none) :=
    scan_write he ((hk.prompt "main" letter rfl).mainTemplate none)
  have hresolve : ((Resolver.ofPack (letters.write e)).resolve
      (write e.delimiters (letter.mainTemplate none))).result =
        .ok (write e.delimiters letterPieces) := by
    refine Resolver.result_eq_ok_iff.mpr ⟨⟨letterPieces, ?_, rfl⟩, hbytes⟩
    rw [Sketch.bodies_write he hk, hscan]
    exact inlines_letter
  have hprompt : (letters.write e).prompt? "main" = some (letter.write e.delimiters) := rfl
  intro limit hlarge
  rw [result_prompt hprompt rfl, Sketch.Prompt.mainTemplate_write,
    fill_of_resolve_ok hresolve] at hlarge
  cases hlarge

theorem render_alike_letters :
    angled.delimiters.ApartFromNames ∧ letters.Plain .default ∧ letters.Plain angled.delimiters ∧
    Fits (prompt (letters.write {}) {} "main" toBraces).result ∧
    Fits (prompt (letters.write angled) {} "main" toBraces).result ∧
    Alike (AlikeText letters .default angled.delimiters (toBraces.textsFor letter.rest.declared)
        (letters.Leaves .lenient (letter.rest.Supplies toBraces)) (letter.mainTemplate none))
      (prompt (letters.write {}) {} "main" toBraces).result
      (prompt (letters.write angled) {} "main" toBraces).result := by
  have hdefault : letters.Plain .default := plain_letters (by simp [Delimiters.default])
  have hangled : letters.Plain angled.delimiters := plain_letters (by simp [angled])
  have hfits := fits_letter (e := {}) Delimiters.apartFromNames_default hdefault (by decide)
  have hfits' := fits_letter apartFromNames_angled hangled (by decide)
  have halike := render_alike letters {} angled {} toBraces Delimiters.apartFromNames_default
    apartFromNames_angled hdefault hangled
  exact ⟨apartFromNames_angled, hdefault, hangled, hfits, hfits',
    (halike.2.1 "main" letter rfl).1 hfits hfits'⟩

end Render

end PromptKit
