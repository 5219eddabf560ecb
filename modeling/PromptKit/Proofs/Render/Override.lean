import PromptKit.Proofs.Expansion.Margins
import PromptKit.Proofs.Render.Course

/-!
What a prompt changes for a model.

Texts without a character of a mark that an override puts around the system template come around
the rendered text, and nothing else changes, not even an error. A replacement stands for the system
template and all that would be put around it.
-/

namespace PromptKit

/-- For a model, a prompt puts two texts around its system template and replaces nothing. -/
structure Prompt.Wraps (p : Prompt) (model before base behind : String) : Prop where
  system_eq : p.system = some base
  exists_override : ∃ o, p.overrides.get? model = some o ∧ o.system = none ∧
    o.before.getD "" = before ∧ o.behind.getD "" = behind

namespace Prompt

variable {p : Prompt} {m : String}

lemma systemFor_none (p : Prompt) : p.systemFor none = p.system := rfl

lemma systemFor_of_override {o : ModelOverride} (h : p.overrides.get? m = some o) :
    p.systemFor (some m) =
      (o.system <|> p.system.map fun s => o.before.getD "" ++ s ++ o.behind.getD "") := by
  have hoverride : p.overrideFor? (some m) = some o := h
  rw [systemFor, hoverride]

lemma systemFor_of_no_override (h : p.overrides.get? m = none) :
    p.systemFor (some m) = p.systemFor none := by
  have hoverride : p.overrideFor? (some m) = none := h
  rw [systemFor, hoverride, systemFor_none]

end Prompt

namespace Render

open Segment

variable {pack : Pack} {r : Resolver} {d : Delimiters} {strictness : Strictness}
variable {values : NameMap String} {p : Prompt} {inputs : Inputs}

/-! ### Filling a template between margins -/

/-- Margins come around the output, and the first placeholder without a value stays the first. -/
lemma substitute_margins (a u : List Char) (segments : List Segment) :
    (substitute d values strictness (merge (.text a :: (segments ++ [.text u])))).result =
      (substitute d values strictness segments).result.map fun text =>
        String.ofList a ++ text ++ String.ofList u := by
  have hfind : (merge (.text a :: (segments ++ [.text u]))).findSome? (undefined? values) =
      segments.findSome? (undefined? values) := by
    rw [findSome?_undefined?_merge, List.findSome?_cons_of_isNone rfl, List.findSome?_append]
    exact Option.or_none
  have hflatMap : String.ofList
      ((merge (.text a :: (segments ++ [.text u]))).flatMap (filled d values)) =
        String.ofList a ++ String.ofList (segments.flatMap (filled d values)) ++ String.ofList u := by
    rw [flatMap_merge fun _ => rfl, List.flatMap_cons, List.flatMap_append, List.flatMap_singleton,
      String.ofList_append, String.ofList_append, String.append_assoc]
    rfl
  cases strictness with
  | lenient => rw [substitute_lenient, substitute_lenient, hflatMap]; rfl
  | strict =>
    rcases hundefined : segments.findSome? (undefined? values) with _ | e
    · rw [substitute_strict_of_none (hfind.trans hundefined), substitute_strict_of_none hundefined,
        hflatMap]
      rfl
    · rw [substitute_strict_of_some (hfind.trans hundefined), substitute_strict_of_some hundefined]
      rfl

/-- **A template is filled between its margins** as it is filled alone. -/
lemma fill_margins {a base u : String} (ha : ∀ c ∈ a.toList, ¬ r.delimiters.Uses c)
    (hu : ∀ c ∈ u.toList, ¬ r.delimiters.Uses c)
    (hfits : ∀ limit, (r.resolve (a ++ base ++ u)).result ≠ .error (.tooLarge limit)) :
    (fill r strictness values (a ++ base ++ u)).result =
      (fill r strictness values base).result.map fun text => a ++ text ++ u := by
  have hresolve := Resolver.resolve_margins ha hu hfits
  rcases halone : (r.resolve base).result with cause | text
  · rw [halone] at hresolve
    rw [fill_of_resolve_error hresolve, fill_of_resolve_error halone]
    rfl
  · rw [halone] at hresolve
    have hscan : r.scan (a ++ text ++ u) =
        merge (.text a.toList :: (r.scan text ++ [.text u.toList])) := by
      rw [Resolver.scan, String.toList_append, String.toList_append, Template.scan_margins ha hu]
      rfl
    rw [fill_of_resolve_ok hresolve, fill_of_resolve_ok halone, hscan, substitute_margins,
      String.ofList_toList, String.ofList_toList]

/-! ### The template for a model -/

lemma mainTemplate_of_wraps {m before base behind : String} (h : p.Wraps m before base behind) :
    mainTemplate p (some m) = before ++ base ++ behind := by
  obtain ⟨o, ho, hnone, rfl, rfl⟩ := h.exists_override
  rw [mainTemplate, Prompt.systemFor_of_override ho, h.system_eq, hnone]
  rfl

lemma mainTemplate_none {base : String} (h : p.system = some base) :
    mainTemplate p none = base := by
  rw [mainTemplate, Prompt.systemFor_none, h]
  rfl

lemma mainTemplate_of_replaced {m t : String} {o : ModelOverride}
    (h : p.overrides.get? m = some o) (ht : o.system = some t) : mainTemplate p (some m) = t := by
  rw [mainTemplate, Prompt.systemFor_of_override h, ht]
  rfl

/-- A rendering depends on the identity of a prompt, on its variables and on the one template. -/
lemma promptText_congr {p' : Prompt} {o o' : RenderOptions} (hid : p.id = p'.id)
    (hdeclared : p.declared = p'.declared) (hstrictness : o.strictness = o'.strictness)
    (htemplate : mainTemplate p o.model = mainTemplate p' o'.model) :
    promptText pack o p inputs = promptText pack o' p' inputs := by
  unfold promptText valuesFor
  rw [hid, hdeclared, hstrictness, htemplate]

/-- A rendering between margins, after the check of the inputs or without it. -/
lemma result_promptText_of_wraps {m before base behind : String}
    (h : p.Wraps m before base behind)
    (hbefore : ∀ c ∈ before.toList, ¬ pack.engine.delimiters.Uses c)
    (hbehind : ∀ c ∈ behind.toList, ¬ pack.engine.delimiters.Uses c)
    (hfits : ∀ limit, ((Resolver.ofPack pack).resolve (mainTemplate p (some m))).result ≠
      .error (.tooLarge limit)) :
    (promptText pack { strictness, model := some m } p inputs).result =
      (promptText pack { strictness, model := none } p inputs).result.map fun text =>
        before ++ text ++ behind := by
  rcases hcheck : inputs.check p.declared with _ | ⟨i, rest⟩
  · rw [mainTemplate_of_wraps h] at hfits
    rw [result_promptText hcheck, result_promptText hcheck, mainTemplate_of_wraps h,
      mainTemplate_none h.system_eq]
    exact fill_margins hbefore hbehind hfits
  · rw [result_promptText_of_issue hcheck, result_promptText_of_issue hcheck]
    rfl

/-- **An override only wraps the text.** Where an override for a model replaces nothing, and puts
texts without a character of a mark around the system template, the text for the model is the text
without a model between them, and an error is the same error, unless the template with the texts
around it is too large. A model that has no override is rendered as no model is. With a replacement,
a prompt is rendered as if this was its system template, whatever template it has, and whatever
texts would be put around that. -/
theorem override_wraps (pack : Pack) (strictness : Strictness) (inputs : Inputs) :
    (∀ (p : Prompt) (m before base behind : String), p.Wraps m before base behind →
      (∀ c ∈ before.toList, ¬ pack.engine.delimiters.Uses c) →
      (∀ c ∈ behind.toList, ¬ pack.engine.delimiters.Uses c) →
      (∀ limit, ((Resolver.ofPack pack).resolve (mainTemplate p (some m))).result ≠
        .error (.tooLarge limit)) →
      (promptText pack { strictness, model := some m } p inputs).result =
        (promptText pack { strictness, model := none } p inputs).result.map fun text =>
          before ++ text ++ behind) ∧
    (∀ (p : Prompt) (m : String), p.overrides.get? m = none →
      promptText pack { strictness, model := some m } p inputs =
        promptText pack { strictness, model := none } p inputs) ∧
    (∀ (p : Prompt) (m t : String) (o : ModelOverride), p.overrides.get? m = some o →
      o.system = some t →
      promptText pack { strictness, model := some m } p inputs =
        promptText pack { strictness, model := none } { p with system := some t } inputs ∧
      ∀ base before behind : Option String,
        promptText pack { strictness, model := some m }
            { p with system := base, overrides := p.overrides.insert m { o with before, behind } }
            inputs =
          promptText pack { strictness, model := some m } p inputs) ∧
    ∀ name p, pack.prompt? name = some p →
      (∀ model, prompt pack { strictness, model } name inputs =
        promptText pack { strictness, model } p inputs) ∧
      ∀ m, p.overrides.get? m = none →
        messages pack { strictness, model := some m } name inputs =
          messages pack { strictness, model := none } name inputs := by
  refine ⟨fun p m before base behind => result_promptText_of_wraps, fun p m hnone => ?_,
    fun p m t o ho ht => ⟨?_, fun base before behind => ?_⟩,
    fun name p hp => ⟨fun model => prompt_of_some _ inputs hp, fun m hnone => ?_⟩⟩
  · refine promptText_congr rfl rfl rfl ?_
    rw [mainTemplate, mainTemplate, Prompt.systemFor_of_no_override hnone]
  · refine promptText_congr rfl rfl rfl ?_
    rw [mainTemplate_of_replaced ho ht, mainTemplate_none rfl]
  · refine promptText_congr rfl rfl rfl ?_
    rw [mainTemplate_of_replaced ho ht]
    exact mainTemplate_of_replaced (NameMap.get?_insert_self p.overrides m _) ht
  · simp only [messages, promptNamed_of_some hp, pure_bind, Prompt.systemFor_of_no_override hnone]
    rfl

/-! ### A guide for three models -/

/-- A prompt with a text behind its system template for one model, and another template for a
second. -/
def guide : Prompt where
  id := "guide"
  name := "Guide"
  version := "1.0.0"
  system := some "You are a \x7b\x7brole\x7d\x7d."
  overrides := NameMap.ofList [("gpt-4", { behind := some " (gpt-4)" }),
    ("o1", { system := some "Think.", before := some "- " })]

def guides : Pack where
  id := "guides"
  name := "Guides"
  version := "1.0.0"
  prompts := NameMap.ofList [("guide", guide)]

lemma wraps_guide : guide.Wraps "gpt-4" "" "You are a \x7b\x7brole\x7d\x7d." " (gpt-4)" :=
  ⟨rfl, { behind := some " (gpt-4)" }, rfl, rfl, rfl, rfl⟩

lemma resolve_guide :
    ((Resolver.ofPack guides).resolve (mainTemplate guide (some "gpt-4"))).result =
      .ok (mainTemplate guide (some "gpt-4")) :=
  Resolver.resolve_self (fun _ _ => rfl) (by decide)

theorem override_wraps_guide :
    (promptText guides { model := some "gpt-4" } guide .empty).result =
      (promptText guides {} guide .empty).result.map (fun text => "" ++ text ++ " (gpt-4)") ∧
    promptText guides { model := some "o3" } guide .empty = promptText guides {} guide .empty ∧
    promptText guides { model := some "o1" } guide .empty =
      promptText guides {} { guide with system := some "Think." } .empty := by
  obtain ⟨hwraps, hsame, hreplaced, -⟩ := override_wraps guides .lenient .empty
  have hdelimiters : guides.engine.delimiters = .default := rfl
  have hbehind : ∀ c ∈ " (gpt-4)".toList, ¬ guides.engine.delimiters.Uses c := by
    simp [hdelimiters, Delimiters.uses_default]
  have hfits : ∀ limit, ((Resolver.ofPack guides).resolve
      (mainTemplate guide (some "gpt-4"))).result ≠ .error (.tooLarge limit) := by
    intro limit
    rw [resolve_guide]
    simp
  exact ⟨hwraps guide "gpt-4" _ _ _ wraps_guide (by simp) hbehind hfits, hsame guide "o3" rfl,
    (hreplaced guide "o1" "Think." _ rfl rfl).1⟩

end Render

end PromptKit
