import PromptKit.Proofs.Listing
import PromptKit.Proofs.Success
import PromptKit.Toolbox

/-!
The tools that are selected for a prompt, name by name.

A prompt has the tools that it asks for, each once and in the order of their first places, but
for those that its policy blocks or the pack does not define. Which handlers are registered
decides on nothing but what the tools are bound to.
-/

namespace PromptKit

lemma filter_notMem_cons (n : String) (taken names : List String) :
    names.filter (· ∉ n :: taken) = (names.filter (· ∉ taken)).filter (!· == n) := by
  rw [List.filter_filter]
  refine List.filter_congr fun k _ => ?_
  by_cases hk : k = n
  · simp [hk]
  · simp [hk]

lemma Pack.name_of_tool?_eq_some {pack : Pack} {n : String} {t : Tool}
    (h : pack.tool? n = some t) : t.name = n := by
  simpa using List.find?_some h

namespace Toolbox

variable {m : Type → Type} {pack : Pack} {policy : ToolPolicy}

/-- Whether a name that a prompt asks for gives it a tool. -/
def offers (pack : Pack) (policy : ToolPolicy) (n : String) : Bool :=
  !policy.blocks n && (pack.tool? n).isSome

lemma offers_of_blocks {n : String} (h : policy.blocks n) : offers pack policy n = false := by
  simp [offers, h]

lemma offers_of_undefined {n : String} (h : pack.tool? n = none) :
    offers pack policy n = false := by
  simp [offers, h]

/-! ### The choices -/

/-- **What the pass over the names keeps**: it chooses what is offered and not yet taken, each
name at its first place. -/
lemma names_choices (pack : Pack) (policy : ToolPolicy) (taken names : List String) :
    ((choices pack policy taken names).filterMap Choice.tool?).map (·.name) =
      ((names.filter (offers pack policy)).filter (· ∉ taken)).eraseDups := by
  induction names generalizing taken with
  | nil => simp [choices]
  | cons n rest ih =>
    rw [choices]
    by_cases hblocked : policy.blocks n
    · rw [if_pos hblocked, List.filter_cons_of_neg (by simp [offers_of_blocks hblocked])]
      exact ih taken
    rw [if_neg hblocked]
    by_cases htaken : n ∈ taken
    · rw [if_pos htaken, ih]
      by_cases hoffers : offers pack policy n
      · rw [List.filter_cons_of_pos hoffers, List.filter_cons_of_neg (by simpa using htaken)]
      · rw [List.filter_cons_of_neg hoffers]
    rw [if_neg htaken]
    rcases htool : pack.tool? n with _ | t
    · rw [List.filter_cons_of_neg (by simp [offers_of_undefined htool])]
      exact ih taken
    · have hoffers : offers pack policy n := by simp [offers, hblocked, htool]
      rw [List.filter_cons_of_pos hoffers, List.filter_cons_of_pos (by simpa using htaken),
        List.eraseDups_cons, ← filter_notMem_cons, ← ih (n :: taken)]
      simp [Choice.tool?, Pack.name_of_tool?_eq_some htool]

/-- What is chosen is the definition of the pack. -/
lemma tool?_of_mem_choices {taken names : List String} {t : Tool}
    (h : .chosen t ∈ choices pack policy taken names) : pack.tool? t.name = some t := by
  induction names generalizing taken with
  | nil => simp [choices] at h
  | cons n rest ih =>
    rw [choices] at h
    split at h
    · exact ih (by simpa using h)
    · split at h
      · exact ih h
      · split at h
        · exact ih (by simpa using h)
        · rename_i u hu
          rcases List.mem_cons.mp h with heq | h
          · obtain rfl := Choice.chosen.inj heq
            rwa [Pack.name_of_tool?_eq_some hu]
          · exact ih h

/-! ### The toolset -/

/-- The toolset that `select` makes for a prompt of the pack. -/
def toolsetOf (pack : Pack) (p : Prompt) (handlers : Registry m) : Toolset m where
  tools := ((choicesFor pack p).filterMap Choice.tool?).map fun t =>
    BoundTool.ofTool t (handlers.get? t.name)
  policy := p.policy

lemma result_select (pack : Pack) (name : String) (handlers : Registry m) :
    (select pack name handlers).result =
      match pack.prompt? name with
      | none => .error (.unknownPrompt name)
      | some p => .ok (toolsetOf pack p handlers) := by
  unfold select
  rcases pack.prompt? name with _ | p <;> rfl

/-- A toolset that has exactly the tools of a prompt, bound to their handlers. -/
structure IsSelection (pack : Pack) (p : Prompt) (handlers : Registry m) (set : Toolset m) :
    Prop where
  names_eq : set.names =
    ((if p.tools = [] then pack.tools.map (·.name) else p.tools).filter
      fun n => !p.policy.blocklist.contains n && (pack.tool? n).isSome).eraseDups
  nodup_names : set.names.Nodup
  tool_eq : ∀ b ∈ set.tools, pack.tool? b.name = some b.tool
  schema_eq : ∀ b ∈ set.tools, b.schema? = (BoundTool.compileSchema b.tool).toOption
  handler_eq : ∀ b ∈ set.tools, b.handler? = handlers.get? b.name
  isBound_iff : ∀ b ∈ set.tools, b.isBound ↔ handlers.contains b.name
  policy_eq : set.policy = p.policy

lemma names_toolsetOf (pack : Pack) (p : Prompt) (handlers : Registry m) :
    (toolsetOf pack p handlers).names =
      ((candidates pack p).filter (offers pack p.policy)).eraseDups := by
  have hnames := names_choices pack p.policy [] (candidates pack p)
  rw [List.filter_eq_self.mpr (by simp)] at hnames
  rw [← hnames]
  simp [Toolset.names, toolsetOf, choicesFor, BoundTool.ofTool, BoundTool.name]

lemma mem_toolsetOf {p : Prompt} {handlers : Registry m} {b : BoundTool m}
    (h : b ∈ (toolsetOf pack p handlers).tools) :
    pack.tool? b.name = some b.tool ∧ b = BoundTool.ofTool b.tool (handlers.get? b.name) := by
  obtain ⟨t, ht, rfl⟩ := List.mem_map.mp h
  obtain ⟨c, hc, hct⟩ := List.mem_filterMap.mp ht
  cases c with
  | chosen u =>
    obtain rfl := Option.some.inj hct
    exact ⟨tool?_of_mem_choices hc, rfl⟩
  | blocked n => cases hct
  | undefined n => cases hct

lemma isSelection_toolsetOf (pack : Pack) (p : Prompt) (handlers : Registry m) :
    IsSelection pack p handlers (toolsetOf pack p handlers) where
  names_eq := by
    rw [names_toolsetOf]
    simp only [candidates, List.isEmpty_iff]
    rfl
  nodup_names := by
    rw [names_toolsetOf]
    exact nodup_eraseDups _
  tool_eq _ hb := (mem_toolsetOf hb).1
  schema_eq _ hb := congrArg BoundTool.schema? (mem_toolsetOf hb).2
  handler_eq _ hb := congrArg BoundTool.handler? (mem_toolsetOf hb).2
  isBound_iff _ hb := by
    have hhandler := congrArg BoundTool.handler? (mem_toolsetOf hb).2
    rw [BoundTool.isBound, hhandler]
    rfl
  policy_eq := rfl

namespace IsSelection

variable {p : Prompt} {handlers : Registry m} {set : Toolset m}

lemma mem_names (h : IsSelection pack p handlers set) {n : String} (hn : n ∈ set.names) :
    n ∈ (if p.tools = [] then pack.tools.map (·.name) else p.tools) ∧
      p.policy.blocks n = false ∧ (pack.tool? n).isSome := by
  rw [h.names_eq, List.mem_eraseDups, List.mem_filter] at hn
  simpa [ToolPolicy.blocks] using hn

/-- A prompt that names only tools it cannot have is not given all tools in their stead. -/
lemma tools_eq_nil (h : IsSelection pack p handlers set) (hlist : p.tools ≠ [])
    (hnone : ∀ n ∈ p.tools, p.policy.blocks n ∨ pack.tool? n = none) : set.tools = [] := by
  have hempty : set.names = [] := by
    refine List.eq_nil_iff_forall_not_mem.mpr fun n hn => ?_
    obtain ⟨hmem, hblocks, hdefined⟩ := h.mem_names hn
    rw [if_neg hlist] at hmem
    rcases hnone n hmem with hn | hn
    · simp [hn] at hblocks
    · simp [hn] at hdefined
  exact List.map_eq_nil_iff.mp hempty

end IsSelection

/-- **The tools of a prompt, exactly.** Selecting fails only for a prompt that the pack does not
have. Otherwise the names are those that the prompt asks for, or all of the pack where it asks
for none, without the blocked and the undefined ones and each at its first place; every tool is
the one of the pack and has the handler of its name, if there is one. -/
theorem select_exact (pack : Pack) (name : String) (handlers : Registry m) :
    (∀ e, (select pack name handlers).result = .error e ↔
      pack.prompt? name = none ∧ e = .unknownPrompt name) ∧
    (∀ p, pack.prompt? name = some p → ∃ set, (select pack name handlers).result = .ok set ∧
      IsSelection pack p handlers set ∧
      (∀ n ∈ set.names, p.policy.blocks n = false) ∧
      (p.tools ≠ [] → (∀ n ∈ p.tools, p.policy.blocks n ∨ pack.tool? n = none) →
        set.tools = [])) ∧
    ∀ {m' : Type → Type} (handlers' : Registry m'),
      (select pack name handlers').result.map Toolset.names =
        (select pack name handlers).result.map Toolset.names := by
  simp only [result_select]
  rcases pack.prompt? name with _ | p
  · exact ⟨by simp [eq_comm], by simp, by simp [Except.map]⟩
  · have hset := isSelection_toolsetOf pack p handlers
    refine ⟨by simp, ?_, fun handlers' => ?_⟩
    · rintro _ ⟨⟩
      exact ⟨_, rfl, hset, fun n hn => (hset.mem_names hn).2.1, hset.tools_eq_nil⟩
    · simp [Except.map, names_toolsetOf]

/-- A pack with a prompt that asks for a tool twice, for a blocked tool and for one that is not
there, and a prompt that asks for nothing else than the last two. -/
def shelf : Pack where
  id := "shelf"
  name := "Shelf"
  version := "1.0.0"
  prompts := NameMap.ofList [
    ("some", { id := "some", name := "Some", version := "1.0.0"
               tools := ["search", "ghost", "delete", "search", "lookup"]
               policy := { blocklist := NameSet.ofList ["delete"] } }),
    ("none", { id := "none", name := "None", version := "1.0.0"
               tools := ["delete", "ghost"]
               policy := { blocklist := NameSet.ofList ["delete"] } })]
  tools := [⟨"lookup", "Look up", []⟩, ⟨"search", "Search", []⟩, ⟨"delete", "Delete", []⟩]

/-- A registry with a handler for one tool. -/
def lookupOnly : Registry Id := NameMap.ofList [("lookup", fun _ => pure (.ok "found"))]

theorem select_exact_shelf :
    (∃ set, (select shelf "some" lookupOnly).result = .ok set ∧
      set.names = ["search", "lookup"] ∧
      ∀ b ∈ set.tools, b.isBound ↔ b.name = "lookup") ∧
    (∃ set, (select shelf "none" lookupOnly).result = .ok set ∧ set.tools = []) ∧
    (select shelf "gone" lookupOnly).result = .error (.unknownPrompt "gone") := by
  refine ⟨?_, ?_, ?_⟩
  · obtain ⟨set, hok, hset, -⟩ := (select_exact shelf "some" lookupOnly).2.1 _ rfl
    have hnames : set.names = ["search", "lookup"] := hset.names_eq.trans (by decide)
    refine ⟨set, hok, hnames, fun b hb => ?_⟩
    have hname : b.name ∈ set.names := List.mem_map_of_mem hb
    rw [hset.isBound_iff b hb]
    obtain h | h : b.name = "search" ∨ b.name = "lookup" := by simpa [hnames] using hname
    · rw [h]
      decide
    · rw [h]
      decide
  · obtain ⟨set, hok, -, -, hempty⟩ := (select_exact shelf "none" lookupOnly).2.1 _ rfl
    exact ⟨set, hok, hempty (by decide) (by decide)⟩
  · exact ((select_exact shelf "gone" lookupOnly).1 _).mpr ⟨rfl, rfl⟩

end Toolbox

end PromptKit
