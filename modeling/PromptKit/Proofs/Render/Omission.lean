import PromptKit.Proofs.Document.Packs
import PromptKit.Proofs.Expansion.Inlining
import PromptKit.Proofs.Render.Admission

/-!
A variable that is left out, and one whose default is given.

The default of a variable has the type of the variable, and no rule is asked about it. A value that
is given is checked. So a default that is given renders as one that is left out if the rules allow
it, and else it is blamed, unless a variable before it is.
-/

namespace PromptKit

/-! ### The check of a default -/

namespace Inputs

/-- Inputs with a value for a variable. -/
def give (inputs : Inputs) (v : Variable) (w : Value) : Inputs := inputs.insert v.name w

variable {inputs : Inputs} {vs before after : List Variable} {v : Variable} {d : Value}

lemma get?_give_self : (inputs.give v d).get? v.name = some d :=
  NameMap.get?_insert_self inputs v.name d

lemma get?_give_of_ne {u : Variable} (hu : u.name ≠ v.name) :
    (inputs.give v d).get? u.name = inputs.get? u.name := by
  rw [give, NameMap.get?_insert, if_neg hu]

lemma check_append (inputs : Inputs) (vs us : List Variable) :
    inputs.check (vs ++ us) = inputs.check vs ++ inputs.check us :=
  List.filterMap_append

lemma check_cons (inputs : Inputs) (v : Variable) (vs : List Variable) :
    inputs.check (v :: vs) = (inputs.issue? v).toList ++ inputs.check vs := by
  rcases h : inputs.issue? v with _ | i
  · exact List.filterMap_cons_none h
  · exact List.filterMap_cons_some h

lemma check_eq_nil_iff : inputs.check vs = [] ↔ ∀ u ∈ vs, ¬ inputs.IsFaulty u := by
  rw [← List.length_eq_zero_iff, ← (forall₂_isIssue inputs vs).length_eq,
    List.length_eq_zero_iff, List.filter_eq_nil_iff]
  simp only [decide_eq_true_eq]

/-- What is listed is about the variables that are checked. -/
lemma exists_name_eq_of_mem_check {i : Issue} (h : i ∈ inputs.check vs) :
    ∃ u ∈ vs, i.name = u.name := by
  obtain ⟨u, hu, hi⟩ := List.mem_filterMap.mp h
  exact ⟨u, hu, (issue?_eq_some.mp hi).name_eq⟩

/-- Inputs leave out a variable that has a default, among variables of distinct names. -/
structure Omits (inputs : Inputs) (before : List Variable) (v : Variable) (after : List Variable)
    (d : Value) : Prop where
  distinct : ((before ++ v :: after).map (·.name)).Nodup
  default_eq : v.default? = some d
  type_eq : d.type = v.type
  absent : inputs.get? v.name = none

namespace Omits

variable (h : inputs.Omits before v after d)

include h

lemma name_ne {u : Variable} (hu : u ∈ before ∨ u ∈ after) : u.name ≠ v.name := by
  have hdistinct := h.distinct
  rw [List.map_append, List.map_cons, List.nodup_append, List.nodup_cons] at hdistinct
  obtain ⟨-, ⟨hafter, -⟩, hbefore⟩ := hdistinct
  rcases hu with hu | hu
  · exact hbefore _ (List.mem_map_of_mem hu) _ List.mem_cons_self
  · exact fun heq => hafter (heq ▸ List.mem_map_of_mem hu)

lemma check_others {us : List Variable} (hus : ∀ u ∈ us, u ∈ before ∨ u ∈ after) :
    (inputs.give v d).check us = inputs.check us :=
  check_congr fun u hu => get?_give_of_ne (h.name_ne (hus u hu))

/-- A variable with a default may be left out. -/
lemma issue?_eq_none : inputs.issue? v = none := by
  have hrequired : v.isRequired = false := by
    have hdefault := h.default_eq
    unfold Variable.default? at hdefault
    unfold Variable.isRequired
    split at hdefault
    · rename_i hpresence
      rw [hpresence]
    · cases hdefault
  rw [issue?, h.absent, problem?, hrequired]
  rfl

/-- The rules are asked about a default that is given. -/
lemma issue?_give :
    (inputs.give v d).issue? v = (v.rules.check d).map fun b => ⟨v.name, .rule b⟩ := by
  have hisA : d.isA v.type := decide_eq_true h.type_eq
  rw [issue?, get?_give_self, problem?, if_pos hisA, Option.map_map]
  rfl

lemma check_eq :
    inputs.check (before ++ v :: after) = inputs.check before ++ inputs.check after := by
  rw [check_append, check_cons, h.issue?_eq_none, Option.toList_none, List.nil_append]

lemma check_give :
    (inputs.give v d).check (before ++ v :: after) =
      inputs.check before ++
        (((v.rules.check d).map fun b => ⟨v.name, .rule b⟩).toList ++ inputs.check after) := by
  rw [check_append, check_cons, h.issue?_give, h.check_others fun u hu => .inl hu,
    h.check_others fun u hu => .inr hu]

/-- A default stands for a variable that is left out, so it makes no difference to the texts. -/
lemma textsFor_give :
    (inputs.give v d).textsFor (before ++ v :: after) =
      inputs.textsFor (before ++ v :: after) := by
  have hself : (inputs.give v d).textOf v = inputs.textOf v := by
    rw [textOf, textOf, get?_give_self, h.absent, h.default_eq]
    rfl
  have hother {u : Variable} (hu : u ∈ before ∨ u ∈ after) :
      (inputs.give v d).textOf u = inputs.textOf u := by
    rw [textOf, textOf, get?_give_of_ne (h.name_ne hu)]
  have hne : (before ++ v :: after).isEmpty = false := by simp
  rw [textsFor, textsFor, hne, if_neg (by decide), if_neg (by decide)]
  refine congrArg NameMap.ofList (List.map_congr_left fun u hu => ?_)
  rcases List.mem_append.mp hu with hu | hu
  · rw [hother (.inl hu)]
  · rcases List.mem_cons.mp hu with rfl | hu
    · rw [hself]
    · rw [hother (.inr hu)]

end Omits

end Inputs

/-! ### Renderings with a default and without it -/

namespace Render

variable {pack : Pack} {o : RenderOptions} {name : String} {p : Prompt} {inputs inputs' : Inputs}
variable {before after : List Variable} {v : Variable} {d : Value}

/-- A rendering depends on what is wrong with the inputs and on the texts that they give. -/
lemma renderings_congr (hp : pack.prompt? name = some p)
    (hcheck : inputs'.check p.declared = inputs.check p.declared)
    (htexts : inputs'.textsFor p.declared = inputs.textsFor p.declared) :
    prompt pack o name inputs' = prompt pack o name inputs ∧
      messages pack o name inputs' = messages pack o name inputs := by
  have hvalues : valuesFor p inputs' = valuesFor p inputs := by
    rw [valuesFor, valuesFor, hcheck, htexts]
  refine ⟨?_, ?_⟩
  · rw [prompt_of_some o inputs' hp, prompt_of_some o inputs hp, promptText, promptText, hvalues]
  · simp only [messages, promptNamed_of_some hp, pure_bind, hvalues]

lemma name_eq_of_ofIssue {i : Inputs.Issue} {n reason : String}
    (h : RenderError.ofIssue i = .invalidVariable n reason) : i.name = n := by
  by_cases hmissing : i.problem = .missing
  · rw [(ofIssue_eq i).1 hmissing] at h
    cases h
  · rw [(ofIssue_eq i).2 hmissing] at h
    exact (RenderError.invalidVariable.inj h).1

/-- A rendering blames no variable that nothing is wrong with. -/
lemma not_blamed (hp : pack.prompt? name = some p) {n : String}
    (hnames : ∀ i ∈ inputs.check p.declared, i.name ≠ n) (reason : String) :
    (prompt pack o name inputs).result ≠ .error (.invalidVariable n reason) ∧
      (messages pack o name inputs).result ≠ .error (.invalidVariable n reason) := by
  rcases hcheck : inputs.check p.declared with _ | ⟨i, rest⟩
  · exact ⟨fun h => (fillError_of_prompt hp hcheck h).spec.2.1 n reason rfl,
      fun h => (fillError_of_messages hp hcheck h).spec.2.1 n reason rfl⟩
  · have hi : i.name ≠ n := hnames i (hcheck ▸ List.mem_cons_self)
    rw [result_prompt_of_issue hp hcheck, result_messages_of_issue hp hcheck]
    exact ⟨fun h => hi (name_eq_of_ofIssue (Except.error.inj h)),
      fun h => hi (name_eq_of_ofIssue (Except.error.inj h))⟩

/-- The two renderings of a prompt end in the same way for two inputs. -/
def EndAlike (pack : Pack) (o : RenderOptions) (name : String) (inputs inputs' : Inputs) : Prop :=
  (prompt pack o name inputs).result = (prompt pack o name inputs').result ∧
    (messages pack o name inputs).result = (messages pack o name inputs').result

section Default

variable (hp : pack.prompt? name = some p) (hdeclared : p.declared = before ++ v :: after)
  (h : inputs.Omits before v after d)

include hp hdeclared h

lemma renderings_of_allows (hallows : v.rules.Allows d) :
    EndAlike pack o name (inputs.give v d) inputs := by
  have hcheck : (inputs.give v d).check p.declared = inputs.check p.declared := by
    rw [hdeclared, h.check_give, h.check_eq, VariableRules.check_eq_none.mpr hallows]
    rfl
  have htexts : (inputs.give v d).textsFor p.declared = inputs.textsFor p.declared := by
    rw [hdeclared, h.textsFor_give]
  obtain ⟨hprompt, hmessages⟩ := renderings_congr (o := o) hp hcheck htexts
  exact ⟨congrArg _ hprompt, congrArg _ hmessages⟩

/-- What is wrong with an earlier variable comes first. -/
lemma renderings_of_earlier (hbefore : ∃ u ∈ before, inputs.IsFaulty u) :
    EndAlike pack o name (inputs.give v d) inputs := by
  rcases hissues : inputs.check before with _ | ⟨i, rest⟩
  · obtain ⟨u, hu, hfaulty⟩ := hbefore
    exact absurd hfaulty (Inputs.check_eq_nil_iff.mp hissues u hu)
  · have hgiven := h.check_give
    have homitted := h.check_eq
    rw [← hdeclared, hissues, List.cons_append] at hgiven homitted
    refine ⟨?_, ?_⟩
    · rw [result_prompt_of_issue hp hgiven, result_prompt_of_issue hp homitted]
    · rw [result_messages_of_issue hp hgiven, result_messages_of_issue hp homitted]

/-- A default that the rules do not allow is blamed where it is given, -/
lemma exists_blame_of_not_allows (hallows : ¬ v.rules.Allows d)
    (hbefore : ∀ u ∈ before, ¬ inputs.IsFaulty u) :
    ∃ b, v.rules.check d = some b ∧
      (prompt pack o name (inputs.give v d)).result = .error (.invalidVariable v.name b.message) ∧
      (messages pack o name (inputs.give v d)).result =
        .error (.invalidVariable v.name b.message) := by
  rcases hb : v.rules.check d with _ | b
  · exact absurd (VariableRules.check_eq_none.mp hb) hallows
  · have hgiven := h.check_give
    rw [← hdeclared, hb, Inputs.check_eq_nil_iff.mpr hbefore] at hgiven
    exact ⟨b, rfl, result_prompt_of_issue hp hgiven, result_messages_of_issue hp hgiven⟩

/-- and never where it is left out. -/
lemma not_blamed_of_omits (reason : String) :
    (prompt pack o name inputs).result ≠ .error (.invalidVariable v.name reason) ∧
      (messages pack o name inputs).result ≠ .error (.invalidVariable v.name reason) := by
  refine not_blamed hp (fun i hi => ?_) reason
  rw [hdeclared, h.check_eq] at hi
  rcases List.mem_append.mp hi with hi | hi
  · obtain ⟨u, hu, hname⟩ := Inputs.exists_name_eq_of_mem_check hi
    exact hname ▸ h.name_ne (.inl hu)
  · obtain ⟨u, hu, hname⟩ := Inputs.exists_name_eq_of_mem_check hi
    exact hname ▸ h.name_ne (.inr hu)

end Default

/-- A variable of a prompt of a pack that was read, with its default left out. -/
lemma omits_of_readPack {doc : Json} (hread : (Document.readPack doc).result = .ok pack)
    (hp : pack.prompt? name = some p) (hdeclared : p.declared = before ++ v :: after)
    (hd : v.default? = some d) (habsent : inputs.get? v.name = none) :
    inputs.Omits before v after d := by
  have hprompt : p.WellFormed := (Document.wellFormed_of_readPack hread).prompts name p hp
  have hv : v ∈ p.declared := by simp [hdeclared]
  exact ⟨hdeclared ▸ hprompt.distinct, hd, (hprompt.declared v hv).default_type d hd, habsent⟩

/-- **A default that is given renders as one that is left out**, exactly where the rules of the
variable allow it or something is wrong with a variable that is declared before. Otherwise giving
the default is an error that blames the variable, and leaving it out never is. -/
theorem default_given_iff {doc : Json} (hread : (Document.readPack doc).result = .ok pack)
    (hp : pack.prompt? name = some p) (hdeclared : p.declared = before ++ v :: after)
    (hd : v.default? = some d) (habsent : inputs.get? v.name = none) (o : RenderOptions) :
    (EndAlike pack o name (inputs.give v d) inputs ↔
      v.rules.Allows d ∨ ∃ u ∈ before, inputs.IsFaulty u) ∧
    (¬ v.rules.Allows d → (∀ u ∈ before, ¬ inputs.IsFaulty u) →
      ∃ b, v.rules.check d = some b ∧
        (prompt pack o name (inputs.give v d)).result =
          .error (.invalidVariable v.name b.message) ∧
        (messages pack o name (inputs.give v d)).result =
          .error (.invalidVariable v.name b.message)) ∧
    ∀ reason, (prompt pack o name inputs).result ≠ .error (.invalidVariable v.name reason) ∧
      (messages pack o name inputs).result ≠ .error (.invalidVariable v.name reason) := by
  have h : inputs.Omits before v after d := omits_of_readPack hread hp hdeclared hd habsent
  have hfree := not_blamed_of_omits (o := o) hp hdeclared h
  refine ⟨⟨fun hsame => ?_, fun hor => ?_⟩, exists_blame_of_not_allows hp hdeclared h, hfree⟩
  · by_contra hnone
    rw [not_or] at hnone
    obtain ⟨b, -, hprompt, -⟩ :=
      exists_blame_of_not_allows (o := o) hp hdeclared h hnone.1 fun u hu hfaulty =>
        hnone.2 ⟨u, hu, hfaulty⟩
    exact (hfree b.message).1 (hsame.1.symm.trans hprompt)
  · rcases hor with hallows | hbefore
    · exact renderings_of_allows hp hdeclared h hallows
    · exact renderings_of_earlier hp hdeclared h hbefore

/-! ### A tone with a rule -/

/-- A document with one variable, which has a default of two characters and a rule for the least
length. -/
def courteous (least : Nat) : Json :=
  .object [("id", .string "demo"), ("name", .string "Demo"), ("version", .string "1.0.0"),
    ("prompts", .object [("main", .object [("id", .string "main"), ("name", .string "Main"),
      ("version", .string "1.0.0"), ("system_template", .string "\x7b\x7btone\x7d\x7d"),
      ("variables", .array [.object [("name", .string "tone"), ("type", .string "string"),
        ("default", .string "Hi"), ("validation", .object [("min_length", .nat least)])]])])])]

def toneVariable (least : Nat) : Variable where
  name := "tone"
  type := .string
  presence := .default (.string "Hi")
  rules := { minLength := some least }

def courteousPrompt (least : Nat) : Prompt where
  id := "main"
  name := "Main"
  version := "1.0.0"
  system := some "\x7b\x7btone\x7d\x7d"
  declared := [toneVariable least]

def courteousPack (least : Nat) : Pack where
  id := "demo"
  name := "Demo"
  version := "1.0.0"
  prompts := NameMap.ofList [("main", courteousPrompt least)]

/-- No inputs at all. -/
def nothing : Inputs := .empty

lemma result_courteous_two : (Document.readPack (courteous 2)).result = .ok (courteousPack 2) := by
  rfl

lemma result_courteous_three :
    (Document.readPack (courteous 3)).result = .ok (courteousPack 3) := by
  rfl

theorem default_given_iff_tone :
    (Document.readPack (courteous 2)).result = .ok (courteousPack 2) ∧
    (courteousPack 2).prompt? "main" = some (courteousPrompt 2) ∧
    (courteousPrompt 2).declared = [] ++ toneVariable 2 :: [] ∧
    (toneVariable 2).default? = some (.string "Hi") ∧ nothing.get? (toneVariable 2).name = none ∧
    EndAlike (courteousPack 2) {} "main" (nothing.give (toneVariable 2) (.string "Hi"))
      nothing := by
  have hp : (courteousPack 2).prompt? "main" = some (courteousPrompt 2) := rfl
  have hdeclared : (courteousPrompt 2).declared = [] ++ toneVariable 2 :: [] := rfl
  have hd : (toneVariable 2).default? = some (.string "Hi") := rfl
  have habsent : nothing.get? (toneVariable 2).name = none := rfl
  have hallows : (toneVariable 2).rules.Allows (.string "Hi") :=
    VariableRules.check_eq_none.mp rfl
  obtain ⟨hiff, -, -⟩ := default_given_iff result_courteous_two hp hdeclared hd habsent {}
  exact ⟨result_courteous_two, hp, hdeclared, hd, habsent, hiff.mpr (.inl hallows)⟩

/-- A default that is too short for the rule of its variable. -/
theorem default_too_short :
    (Document.readPack (courteous 3)).result = .ok (courteousPack 3) ∧
    (courteousPack 3).prompt? "main" = some (courteousPrompt 3) ∧
    toneVariable 3 ∈ (courteousPrompt 3).declared ∧
    (toneVariable 3).default? = some (.string "Hi") ∧ nothing.get? (toneVariable 3).name = none ∧
    (prompt (courteousPack 3) {} "main" nothing).result = .ok "Hi" ∧
    (prompt (courteousPack 3) {} "main" (nothing.give (toneVariable 3) (.string "Hi"))).result =
      .error (.invalidVariable "tone" "string too short: 2 < 3") := by
  have hp : (courteousPack 3).prompt? "main" = some (courteousPrompt 3) := rfl
  have hissue : (nothing.give (toneVariable 3) (.string "Hi")).check (courteousPrompt 3).declared =
      [⟨"tone", .rule (.tooShort 2 3)⟩] := rfl
  have htemplate : mainTemplate (courteousPrompt 3) none = "\x7b\x7btone\x7d\x7d" := rfl
  have hresolve : ((Resolver.ofPack (courteousPack 3)).resolve "\x7b\x7btone\x7d\x7d").result =
      .ok "\x7b\x7btone\x7d\x7d" := Resolver.resolve_self (fun _ _ => rfl) (by decide)
  have hscan : (Resolver.ofPack (courteousPack 3)).scan "\x7b\x7btone\x7d\x7d" =
      [.slot "tone"] := by decide +kernel
  refine ⟨result_courteous_three, hp, List.mem_singleton_self _, rfl, rfl, ?_, ?_⟩
  · rw [result_prompt hp rfl, htemplate, fill_of_resolve_ok hresolve, hscan, substitute_lenient]
    rfl
  · exact result_prompt_of_issue hp hissue

end Render

end PromptKit
