import PromptKit.Proofs.Toolbox.Registration
import PromptKit.Proofs.Toolbox.Selection

/-!
Which handler runs, and when.

A selected tool answers with the handler of the first call that registered its name, once the
arguments pass. Before that it answers by itself, and what was registered under a name that the
prompt is not offered has no part in any answer.
-/

namespace PromptKit

namespace Tool

/-- The schema of a tool compiles and has a complaint about arguments. -/
def Refuses (t : Tool) (args : Members) : Prop :=
  ∃ s, BoundTool.compileSchema t = .ok s ∧ s.violations (.object args) ≠ []

end Tool

namespace BoundTool

variable {m : Type → Type} {t : Tool} {args : Members}

lemma checkArguments_of_refuses {handler? : Option (Handler m)} {s : Schema.Compiled}
    (hs : compileSchema t = .ok s) (h : s.violations (.object args) ≠ []) :
    (ofTool t handler?).checkArguments args =
      .error (.invalidArguments t.name (s.violations (.object args))) := by
  have hschema : (ofTool t handler?).schema? = some s := by rw [ofTool, hs]; rfl
  simp only [checkArguments, hschema]
  rfl

lemma checkArguments_of_not_refuses {handler? : Option (Handler m)} (h : ¬ t.Refuses args) :
    (ofTool t handler?).checkArguments args = .ok () := by
  rcases hs : compileSchema t with e | s
  · have hschema : (ofTool t handler?).schema? = none := by rw [ofTool, hs]; rfl
    simp only [checkArguments, hschema]
    rfl
  · have hschema : (ofTool t handler?).schema? = some s := by rw [ofTool, hs]; rfl
    have hviolations : s.violations (.object args) = [] := by
      by_contra hne
      exact h ⟨s, hs, hne⟩
    simp only [checkArguments, hschema, hviolations]
    rfl

variable [Monad m]

/-- Arguments that are refused do not reach the handler. -/
lemma invoke_of_refuses {h : Handler m} {s : Schema.Compiled} (hs : compileSchema t = .ok s)
    (hne : s.violations (.object args) ≠ []) :
    (ofTool t (some h)).invoke args =
      pure (.error (.invalidArguments t.name (s.violations (.object args)))) := by
  have hhandler : (ofTool t (some h)).handler? = some h := rfl
  simp only [invoke, hhandler, checkArguments_of_refuses hs hne]
  rfl

lemma invoke_of_not_refuses {h : Handler m} (hpass : ¬ t.Refuses args) :
    (ofTool t (some h)).invoke args = h args := by
  have hhandler : (ofTool t (some h)).handler? = some h := rfl
  simp only [invoke, hhandler, checkArguments_of_not_refuses hpass]

end BoundTool

namespace Toolbox

open Registration Registry

variable {m : Type → Type} {pack : Pack} {p : Prompt} {calls : List (Registration m)}
variable {t : Tool} {args : Members}

/-- A name whose tool a prompt is offered: the prompt asks for it, its policy does not block it,
and the pack defines it. -/
structure Offered (pack : Pack) (p : Prompt) (n : String) : Prop where
  candidate : n ∈ candidates pack p
  not_blocked : p.policy.blocks n = false
  defined : (pack.tool? n).isSome

/-- What a tool answers after handlers were registered by calls. -/
inductive Answers [Monad m] (calls : List (Registration m)) (t : Tool) (args : Members) :
    m (Except ToolError String) → Prop
  | missing (h : t.name ∉ calls.map (·.name)) :
      Answers calls t args (pure (.error (.missingHandler t.name)))
  | refused {s : Schema.Compiled} (h : t.name ∈ calls.map (·.name))
      (hs : BoundTool.compileSchema t = .ok s) (hne : s.violations (.object args) ≠ []) :
      Answers calls t args (pure (.error (.invalidArguments t.name (s.violations (.object args)))))
  | handled {c : Registration m} (h : first? calls t.name = some c) (hpass : ¬ t.Refuses args) :
      Answers calls t args (c.handler args)

/-- The handler is looked for first, then the arguments are checked. -/
lemma answers_invoke [Monad m] (calls : List (Registration m)) (t : Tool) (args : Members) :
    Answers calls t args ((BoundTool.ofTool t ((registered calls).get? t.name)).invoke args) := by
  rw [get?_registered]
  rcases hfirst : first? calls t.name with _ | c
  · exact .missing (first?_eq_none.mp hfirst)
  · by_cases hrefuses : t.Refuses args
    · obtain ⟨s, hs, hne⟩ := hrefuses
      rw [Option.map_some, BoundTool.invoke_of_refuses hs hne]
      exact .refused (mem_of_first? hfirst) hs hne
    · rw [Option.map_some, BoundTool.invoke_of_not_refuses hrefuses]
      exact .handled hfirst hrefuses

/-- Where no handler runs, the answer is that of the tool. -/
lemma Answers.eq_of_not_handled [Monad m] {calls calls' : List (Registration m)}
    {x y : m (Except ToolError String)} (hx : Answers calls t args x)
    (hy : Answers calls' t args y)
    (hnames : t.name ∈ calls'.map (·.name) ↔ t.name ∈ calls.map (·.name))
    (h : t.name ∉ calls.map (·.name) ∨ t.Refuses args) : y = x := by
  cases hx with
  | missing hx =>
    cases hy with
    | missing _ => rfl
    | refused hy _ _ => exact absurd (hnames.mp hy) hx
    | handled hy _ => exact absurd (hnames.mp (mem_of_first? hy)) hx
  | refused hx hs hne =>
    cases hy with
    | missing hy => exact absurd (hnames.mpr hx) hy
    | refused _ hs' _ =>
      obtain rfl := Except.ok.inj (hs.symm.trans hs')
      rfl
    | handled _ hpass => exact absurd ⟨_, hs, hne⟩ hpass
  | handled hx hpass => exact (h.elim (fun h => h (mem_of_first? hx)) hpass).elim

/-- The tools of a toolset are those of the pack, bound to what was registered for them. -/
lemma answers_of_mem_toolsetOf [Monad m] {b : BoundTool m}
    (h : b ∈ (toolsetOf pack p (registered calls)).tools) :
    pack.tool? b.name = some b.tool ∧ ∀ args, Answers calls b.tool args (b.invoke args) := by
  obtain ⟨htool, hbound⟩ := mem_toolsetOf h
  refine ⟨htool, fun args => ?_⟩
  rw [hbound]
  exact answers_invoke calls b.tool args

lemma offered_of_mem_names {handlers : Registry m} {n : String}
    (h : n ∈ (toolsetOf pack p handlers).names) : Offered pack p n := by
  rw [names_toolsetOf, List.mem_eraseDups, List.mem_filter] at h
  obtain ⟨hmem, hoffers⟩ := h
  simp only [offers, Bool.and_eq_true, Bool.not_eq_true'] at hoffers
  exact ⟨hmem, hoffers.1, hoffers.2⟩

/-- A toolset depends on the handlers of the names that are offered, and on no others. -/
lemma toolsetOf_congr {handlers handlers' : Registry m}
    (h : ∀ n, Offered pack p n → handlers'.get? n = handlers.get? n) :
    toolsetOf pack p handlers' = toolsetOf pack p handlers := by
  have htools : (toolsetOf pack p handlers').tools = (toolsetOf pack p handlers).tools := by
    refine List.map_congr_left fun t ht => ?_
    have hmem : t.name ∈ (toolsetOf pack p handlers).names :=
      List.mem_map.mpr ⟨_, List.mem_map.mpr ⟨t, ht, rfl⟩, rfl⟩
    rw [h t.name (offered_of_mem_names hmem)]
  exact congrArg (Toolset.mk · p.policy) htools

/-- **Who answers.** A registry keeps the first handler of each name, and a call that fails
changes nothing. A selected tool is one that the prompt is offered. It answers by itself where no
call registered its name, whatever the arguments, and where its schema refuses them; otherwise
the handler registered first answers. Where the tool answers by itself, other handlers under the
same names change nothing. And the toolset is the same for all calls that bring the same handlers
to the offered names, so that no tool leads to a handler of another name. -/
theorem invoke_exact [Monad m] (pack : Pack) (name : String) (calls : List (Registration m)) :
    FirstWins calls ∧
    ∀ p, pack.prompt? name = some p →
      ∃ set, (select pack name (registered calls)).result = .ok set ∧
        (∀ b ∈ set.tools, Offered pack p b.name ∧ pack.tool? b.name = some b.tool ∧
          ∀ args, Answers calls b.tool args (b.invoke args)) ∧
        (∀ calls' : List (Registration m),
          (∀ n, n ∈ calls'.map (·.name) ↔ n ∈ calls.map (·.name)) →
          ∃ set', (select pack name (registered calls')).result = .ok set' ∧
            ∀ b ∈ set.tools, ∀ b' ∈ set'.tools, b'.name = b.name → ∀ args,
              b.name ∉ calls.map (·.name) ∨ b.tool.Refuses args →
              b'.invoke args = b.invoke args) ∧
        ∀ calls' : List (Registration m),
          (∀ n, Offered pack p n → first? calls' n = first? calls n) →
          (select pack name (registered calls')).result = .ok set := by
  refine ⟨firstWins calls, fun p hp => ?_⟩
  have hselect : ∀ handlers : Registry m,
      (select pack name handlers).result = .ok (toolsetOf pack p handlers) := fun handlers => by
    rw [result_select, hp]
  refine ⟨_, hselect _, fun b hb => ?_, fun calls' hnames => ⟨_, hselect _, ?_⟩,
    fun calls' hfirst => ?_⟩
  · obtain ⟨htool, hanswers⟩ := answers_of_mem_toolsetOf hb
    exact ⟨offered_of_mem_names (List.mem_map_of_mem hb), htool, hanswers⟩
  · intro b hb b' hb' hname args hnot
    obtain ⟨htool, hanswers⟩ := answers_of_mem_toolsetOf hb
    obtain ⟨htool', hanswers'⟩ := answers_of_mem_toolsetOf hb'
    rw [hname, htool, Option.some.injEq] at htool'
    rw [← htool'] at hanswers'
    exact (hanswers args).eq_of_not_handled (hanswers' args) (hnames b.name) hnot
  · rw [hselect, toolsetOf_congr fun n hn => ?_]
    rw [get?_registered, get?_registered, hfirst n hn]

/-! ### Two handlers for a tool and one for a blocked tool -/

/-- The schema of this tool does not compile. -/
def saw : Tool := ⟨"saw", "Saws", [("$schema", .string "unheard-of")]⟩

def glue : Tool := ⟨"glue", "Glues", []⟩

def sawing : Prompt where
  id := "main"
  name := "Main"
  version := "1.0.0"
  policy := { blocklist := NameSet.ofList ["drill"] }

/-- A pack with three tools, of which the prompt blocks one. -/
def workshop : Pack where
  id := "workshop"
  name := "Workshop"
  version := "1.0.0"
  prompts := NameMap.ofList [("main", sawing)]
  tools := [saw, glue, ⟨"drill", "Drills", []⟩]

/-- A handler that always says the same. -/
def saying (name text : String) : Registration Id := ⟨name, fun _ => pure (.ok text)⟩

def sawTwice : List (Registration Id) :=
  [saying "saw" "first", saying "drill" "hole", saying "saw" "second"]

lemma not_refuses_saw (args : Members) : ¬ saw.Refuses args := by
  rintro ⟨s, hs, -⟩
  have herror : BoundTool.compileSchema saw = .error (.unknownDraft "unheard-of") := by rfl
  rw [herror] at hs
  cases hs

lemma eq_of_offered_workshop {n : String} (h : Offered workshop sawing n) :
    n = "saw" ∨ n = "glue" := by
  have hcandidate : n = "saw" ∨ n = "glue" ∨ n = "drill" := by
    have hmem := h.candidate
    rw [show candidates workshop sawing = ["saw", "glue", "drill"] from rfl] at hmem
    simpa using hmem
  rcases hcandidate with rfl | rfl | rfl
  · exact .inl rfl
  · exact .inr rfl
  · exact absurd h.not_blocked (by decide)

/-- The tools of the workshop after its calls: the first handler answers for the saw, none does
for the glue, and the handler of the drill is not there. -/
theorem invoke_exact_workshop :
    ((registered sawTwice).afterCall (saying "drill" "again")).1 =
      .error (.duplicateHandler "drill") ∧
    (registered sawTwice).size = 2 ∧ workshop.prompt? "main" = some sawing ∧
    ∃ set, (select workshop "main" (registered sawTwice)).result = .ok set ∧
      (∀ b ∈ set.tools, b.name = "saw" → ∀ args, b.invoke args = pure (.ok "first")) ∧
      (∀ b ∈ set.tools, b.name = "glue" → ∀ args,
        b.invoke args = pure (.error (.missingHandler "glue"))) ∧
      (select workshop "main" (registered [saying "saw" "first"])).result = .ok set := by
  obtain ⟨hfirst, hprompt⟩ := invoke_exact workshop "main" sawTwice
  obtain ⟨set, hselect, htools, -, hoffered⟩ := hprompt sawing rfl
  refine ⟨(hfirst.error_iff _ _).mpr ⟨by decide, rfl⟩, ?_, rfl, set, hselect, ?_, ?_, ?_⟩
  · rw [hfirst.size_eq]
    decide
  · intro b hb hname args
    obtain ⟨-, htool, hanswers⟩ := htools b hb
    rw [hname] at htool
    have hsaw : saw = b.tool := Option.some.inj htool
    have hhandled := hanswers args
    rw [← hsaw] at hhandled
    generalize b.invoke args = x at hhandled ⊢
    cases hhandled with
    | missing h => exact absurd (by decide) h
    | refused _ hs hne => exact absurd ⟨_, hs, hne⟩ (not_refuses_saw args)
    | handled h _ =>
      obtain rfl := Option.some.inj h
      rfl
  · intro b hb hname args
    obtain ⟨-, htool, hanswers⟩ := htools b hb
    rw [hname] at htool
    have hglue : glue = b.tool := Option.some.inj htool
    have hmissing : Answers sawTwice glue args (pure (.error (.missingHandler "glue"))) :=
      .missing (by decide)
    exact hmissing.eq_of_not_handled (hglue ▸ hanswers args) Iff.rfl (.inl (by decide))
  · refine hoffered _ fun n hn => ?_
    rcases eq_of_offered_workshop hn with rfl | rfl
    · rfl
    · rfl

end Toolbox

end PromptKit
