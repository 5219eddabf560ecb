import PromptKit.Proofs.Expansion.Inlining
import PromptKit.Render

/-!
Packs without a choice of marks.

A sketch has lists of segments where a pack has templates. An engine makes a pack of it, in which
every template is written between the marks of the engine. What the pack does with its templates
before they are read, it does with the segments.
-/

namespace PromptKit

namespace Segment

/-- Segments as a text. -/
def write (d : Delimiters) (segments : List Segment) : String :=
  String.ofList (segments.flatMap (raw d))

/-- Segments that are read as they are written: placeholders of symbols, and texts without a
character of a mark. -/
structure Plain (d : Delimiters) (segments : List Segment) : Prop where
  clean : Clean d segments
  isPlaceholder : ∀ s ∈ segments, ¬ s.isText → s.IsPlaceholder

variable {d : Delimiters} {s : Segment} {segments more : List Segment}

lemma write_append (d : Delimiters) (segments more : List Segment) :
    write d (segments ++ more) = write d segments ++ write d more := by
  rw [write, List.flatMap_append, String.ofList_append]
  rfl

lemma plain_nil (d : Delimiters) : Plain d [] :=
  ⟨fun _ ht => absurd ht List.not_mem_nil, fun _ hs => absurd hs List.not_mem_nil⟩

lemma Plain.append (h : Plain d segments) (hmore : Plain d more) : Plain d (segments ++ more) where
  clean t ht := (List.mem_append.mp ht).elim (h.clean t) (hmore.clean t)
  isPlaceholder s hs := (List.mem_append.mp hs).elim (h.isPlaceholder s) (hmore.isPlaceholder s)

/-! ### Reading what was written -/

lemma clean_consChar {c : Char} (hc : ¬ d.Uses c) (h : Clean d segments) :
    Clean d (consChar c segments) := by
  intro t ht
  unfold consChar at ht
  split at ht
  · rename_i u rest
    rcases List.mem_cons.mp ht with heq | ht
    · obtain rfl := Segment.text.inj heq
      intro x hx
      rcases List.mem_cons.mp hx with rfl | hx
      · exact hc
      · exact h u List.mem_cons_self x hx
    · exact h t (List.mem_cons_of_mem _ ht)
  · rcases List.mem_cons.mp ht with heq | ht
    · obtain rfl := Segment.text.inj heq
      simpa using hc
    · exact h t ht

lemma clean_glue {t : List Char} (ht : ∀ c ∈ t, ¬ d.Uses c) (h : Clean d segments) :
    Clean d (Template.glue t segments) := by
  induction t with
  | nil => exact h
  | cons c t ih =>
    exact clean_consChar (ht c List.mem_cons_self) (ih fun x hx => ht x (List.mem_cons_of_mem _ hx))

/-- Texts that are put together have no characters but their own. -/
lemma clean_merge (h : Clean d segments) : Clean d (merge segments) := by
  induction segments with
  | nil => exact h
  | cons s rest ih =>
    have hrest := ih fun t ht => h t (List.mem_cons_of_mem _ ht)
    cases s with
    | text t => exact clean_glue (h t List.mem_cons_self) hrest
    | slot n =>
      intro t ht
      exact hrest t ((List.mem_cons.mp ht).resolve_left (by simp))
    | fragment n =>
      intro t ht
      exact hrest t ((List.mem_cons.mp ht).resolve_left (by simp))

/-- **Plain segments are read as they were written**, neighbouring texts as one. -/
lemma scan_write (hd : d.ApartFromNames) (h : Plain d segments) :
    Template.scan d (write d segments).toList = merge segments := by
  rw [write, String.toList_ofList]
  exact Template.scan_flatMap_raw hd h.clean h.isPlaceholder

end Segment

/-! ### Sketches -/

/-- What a prompt changes for a model, apart from marks. -/
structure Sketch.Override where
  system : Option (List Segment) := none
  before : Option (List Segment) := none
  behind : Option (List Segment) := none
  parameters : Parameters := .empty

/-- A prompt apart from marks. -/
structure Sketch.Prompt where
  /-- All but the templates and the changes for models. -/
  rest : PromptKit.Prompt
  system : Option (List Segment) := none
  user : Option (List Segment) := none
  overrides : NameMap Sketch.Override := .empty

/-- A pack apart from marks. -/
structure Sketch where
  /-- All but the engine, the prompts and the fragments. -/
  rest : Pack
  prompts : NameMap Sketch.Prompt := .empty
  fragments : NameMap (List Segment) := .empty

namespace Sketch

namespace Override

def write (d : Delimiters) (o : Override) : ModelOverride where
  system := o.system.map (Segment.write d)
  before := o.before.map (Segment.write d)
  behind := o.behind.map (Segment.write d)
  parameters := o.parameters

/-- Every template of an override is plain. -/
structure Plain (d : Delimiters) (o : Override) : Prop where
  system : ∀ t ∈ o.system, Segment.Plain d t
  before : ∀ t ∈ o.before, Segment.Plain d t
  behind : ∀ t ∈ o.behind, Segment.Plain d t

end Override

namespace Prompt

def write (d : Delimiters) (p : Sketch.Prompt) : PromptKit.Prompt :=
  { p.rest with
    system := p.system.map (Segment.write d)
    user := p.user.map (Segment.write d)
    overrides := p.overrides.map (·.write d) }

/-- Every template of a prompt is plain. -/
structure Plain (d : Delimiters) (p : Sketch.Prompt) : Prop where
  system : ∀ t ∈ p.system, Segment.Plain d t
  user : ∀ t ∈ p.user, Segment.Plain d t
  override : ∀ model o, p.overrides.get? model = some o → o.Plain d

/-- The system template for a model. -/
def systemFor (p : Sketch.Prompt) (model : Option String) : Option (List Segment) :=
  match model.bind p.overrides.get? with
  | none => p.system
  | some o => o.system <|> p.system.map fun s => o.before.getD [] ++ s ++ o.behind.getD []

/-- The template that stands for the whole prompt. -/
def mainTemplate (p : Sketch.Prompt) (model : Option String) : List Segment :=
  ((p.systemFor model) <|> p.user).getD []

/-- The template of the message of a role. -/
def templateOf? (p : Sketch.Prompt) (model : Option String) : Role → Option (List Segment)
  | .system => p.systemFor model
  | .user => p.user

variable {d : Delimiters} {p : Sketch.Prompt} {model : Option String}

lemma write_getD_nil (t? : Option (List Segment)) :
    (t?.map (Segment.write d)).getD "" = Segment.write d (t?.getD []) := by
  cases t? with
  | none => rfl
  | some t => rfl

/-- What an override makes of a system template, written afterwards or before. -/
lemma system_override_write (d : Delimiters) (o : Override) (system? : Option (List Segment)) :
    ((o.write d).system <|> (system?.map (Segment.write d)).map fun s =>
        (o.write d).before.getD "" ++ s ++ (o.write d).behind.getD "") =
      (o.system <|> system?.map fun s => o.before.getD [] ++ s ++ o.behind.getD []).map
        (Segment.write d) := by
  obtain ⟨_ | t, before, behind, parameters⟩ := o
  · cases system? with
    | none => rfl
    | some s => simp [Override.write, write_getD_nil, Segment.write_append, String.append_assoc]
  · rfl

/-- **The template for a model is written as it is put together.** -/
lemma systemFor_write (d : Delimiters) (p : Sketch.Prompt) (model : Option String) :
    (p.write d).systemFor model = (p.systemFor model).map (Segment.write d) := by
  have hoverride : (p.write d).overrideFor? model =
      (model.bind p.overrides.get?).map (·.write d) := by
    cases model with
    | none => rfl
    | some m => exact NameMap.get?_map _ p.overrides m
  rw [PromptKit.Prompt.systemFor, hoverride, systemFor]
  cases model.bind p.overrides.get? with
  | none => rfl
  | some o => exact system_override_write d o p.system

lemma mainTemplate_write (d : Delimiters) (p : Sketch.Prompt) (model : Option String) :
    Render.mainTemplate (p.write d) model = Segment.write d (p.mainTemplate model) := by
  have huser : (p.write d).user = p.user.map (Segment.write d) := rfl
  rw [Render.mainTemplate, systemFor_write, huser, mainTemplate, ← write_getD_nil]
  cases p.systemFor model with
  | none => rfl
  | some t => rfl

lemma plain_getD (d : Delimiters) {t? : Option (List Segment)} (h : ∀ t ∈ t?, Segment.Plain d t) :
    Segment.Plain d (t?.getD []) := by
  cases t? with
  | none => exact Segment.plain_nil d
  | some t => exact h t rfl

lemma Plain.systemFor (h : p.Plain d) (model : Option String) :
    ∀ t ∈ p.systemFor model, Segment.Plain d t := by
  intro t ht
  unfold Prompt.systemFor at ht
  split at ht
  · exact h.system t ht
  · rename_i o ho
    obtain ⟨m, rfl, hm⟩ := Option.bind_eq_some_iff.mp ho
    have hoverride := h.override m o hm
    rcases hsystem : o.system with _ | u
    · simp only [hsystem] at ht
      obtain ⟨s, hs, rfl⟩ := Option.map_eq_some_iff.mp ht
      exact ((plain_getD d hoverride.before).append (h.system s hs)).append
        (plain_getD d hoverride.behind)
    · obtain rfl : u = t := by simpa [hsystem] using ht
      exact hoverride.system u hsystem

lemma Plain.templateOf? (h : p.Plain d) (model : Option String) (role : Role) :
    ∀ t ∈ p.templateOf? model role, Segment.Plain d t := by
  cases role with
  | system => exact h.systemFor model
  | user => exact h.user

lemma Plain.mainTemplate (h : p.Plain d) (model : Option String) :
    Segment.Plain d (p.mainTemplate model) := by
  refine plain_getD d fun t ht => ?_
  rcases hsystem : p.systemFor model with _ | s
  · exact h.user t (by simpa [hsystem] using ht)
  · obtain rfl : s = t := by simpa [hsystem] using ht
    exact h.systemFor model s hsystem

end Prompt

/-- The pack that an engine makes of a sketch. -/
def write (k : Sketch) (e : Engine) : Pack :=
  { k.rest with
    engine := e
    prompts := k.prompts.map (·.write e.delimiters)
    fragments := k.fragments.map (Segment.write e.delimiters) }

/-- Every template of a sketch is plain. -/
structure Plain (d : Delimiters) (k : Sketch) : Prop where
  prompt : ∀ name p, k.prompts.get? name = some p → p.Plain d
  fragment : ∀ n t, k.fragments.get? n = some t → Segment.Plain d t

/-- The fragments of a sketch as they are read, whatever the marks. -/
def bodies (k : Sketch) : Fragments := k.fragments.map Segment.merge

variable {k : Sketch} {e : Engine}

lemma prompt?_write (k : Sketch) (e : Engine) (name : String) :
    (k.write e).prompt? name = (k.prompts.get? name).map (·.write e.delimiters) :=
  NameMap.get?_map _ k.prompts name

lemma prompt?_write_of_some {k : Sketch} {name : String} {p : Sketch.Prompt}
    (hp : k.prompts.get? name = some p) (e : Engine) :
    (k.write e).prompt? name = some (p.write e.delimiters) := by
  rw [prompt?_write, hp, Option.map_some]

lemma fragment?_write (k : Sketch) (e : Engine) (n : String) :
    (k.write e).fragment? n = (k.fragments.get? n).map (Segment.write e.delimiters) :=
  NameMap.get?_map _ k.fragments n

/-- **The marks leave no trace in the segments of the fragments.** -/
lemma bodies_write (he : e.delimiters.ApartFromNames) (hk : k.Plain e.delimiters) :
    (Resolver.ofPack (k.write e)).bodies = k.bodies := by
  refine NameMap.ext_get? fun n => ?_
  have hfragment : (Resolver.ofPack (k.write e)).fragments.get? n =
      (k.fragments.get? n).map (Segment.write e.delimiters) := fragment?_write k e n
  rw [Resolver.get?_bodies_eq, hfragment, bodies, NameMap.get?_map, Option.map_map]
  rcases ht : k.fragments.get? n with _ | t
  · rfl
  · exact congrArg some (Segment.scan_write he (hk.fragment n t ht))

end Sketch

end PromptKit
