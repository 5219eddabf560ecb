import PromptKit.Proofs.Expansion.Inlining
import PromptKit.Proofs.Render.Course

/-!
The messages of a prompt, and its text.

A prompt has a list of templates for a model: that of the system, then that of the user, as far as
they are there. The messages are what these templates are filled to, one after the other up to the
first that fails. The text is what the first of them is filled to.
-/

namespace PromptKit

/-- The templates that a prompt has for a model, each with the one who speaks in it. -/
def Prompt.templatesFor (p : Prompt) (model : Option String) : List (Role × String) :=
  (p.systemFor model).toList.map (.system, ·) ++ p.user.toList.map (.user, ·)

namespace Render

variable {pack : Pack} {o : RenderOptions} {name : String} {p : Prompt} {inputs : Inputs}
variable {values : NameMap String}

/-- The message that a template is filled to. -/
def spoken (pack : Pack) (o : RenderOptions) (values : NameMap String) (t : Role × String) :
    Except RenderError ChatMessage :=
  (fill (.ofPack pack) o.strictness values t.2).result.map (⟨t.1, ·⟩)

/-- A message has the role of its template and what the template is filled to. -/
structure Speaks (pack : Pack) (o : RenderOptions) (values : NameMap String) (t : Role × String)
    (m : ChatMessage) : Prop where
  role_eq : m.role = t.1
  fill_eq : (fill (.ofPack pack) o.strictness values t.2).result = .ok m.content

lemma spoken_eq_ok {t : Role × String} {m : ChatMessage} :
    spoken pack o values t = .ok m ↔ Speaks pack o values t m := by
  rw [spoken, map_eq_ok]
  constructor
  · rintro ⟨text, hfill, rfl⟩
    exact ⟨rfl, hfill⟩
  · rintro ⟨hrole, hfill⟩
    exact ⟨m.content, hfill, by rw [← hrole]⟩

/-! ### Two renderings of one list of templates -/

lemma result_message?_eq_mapM (role : Role) (t? : Option String) :
    (message? pack o values role t?).result =
      (t?.toList.map (role, ·)).mapM (spoken pack o values) := by
  cases t? with
  | none => rfl
  | some t =>
    rw [result_message?_some, Option.toList_some, List.map_cons, List.map_nil, List.mapM_cons,
      List.mapM_nil, spoken]
    rcases (fill (.ofPack pack) o.strictness values t).result with e | text
    · rfl
    · rfl

/-- **The messages go through all templates.** -/
lemma result_messages_eq_mapM (hp : pack.prompt? name = some p)
    (hcheck : inputs.check p.declared = []) :
    (messages pack o name inputs).result =
      (p.templatesFor o.model).mapM (spoken pack o (inputs.textsFor p.declared)) := by
  rw [result_messages hp hcheck, result_message?_eq_mapM, result_message?_eq_mapM,
    Prompt.templatesFor, List.mapM_append]

/-- A prompt without a template has no text in it. -/
lemma fill_empty (r : Resolver) (strictness : Strictness) :
    (fill r strictness values "").result = .ok "" := by
  have hscan : r.scan "" = [] := Template.scan_nil
  have hresolve : (r.resolve "").result = .ok "" := by
    refine Resolver.resolve_self (fun n hn => ?_) (Nat.zero_le _)
    rw [hscan] at hn
    exact absurd hn List.not_mem_nil
  rw [fill_of_resolve_ok hresolve, hscan]
  cases strictness with
  | lenient => rfl
  | strict => rfl

/-- **The text goes through the first template.** -/
lemma result_prompt_eq_head (hp : pack.prompt? name = some p)
    (hcheck : inputs.check p.declared = []) :
    (prompt pack o name inputs).result = match p.templatesFor o.model with
      | [] => .ok ""
      | t :: _ => (fill (.ofPack pack) o.strictness (inputs.textsFor p.declared) t.2).result := by
  rw [result_prompt hp hcheck, mainTemplate, Prompt.templatesFor]
  rcases p.systemFor o.model with _ | system
  · rcases p.user with _ | user
    · exact fill_empty _ _
    · rfl
  · rfl

/-- Whose messages there are, one for each template. -/
lemma map_fst_templatesFor (p : Prompt) (model : Option String) :
    (p.templatesFor model).map (·.1) =
      (if (p.systemFor model).isSome then [.system] else []) ++
        (if p.user.isSome then [.user] else []) := by
  rw [Prompt.templatesFor]
  rcases p.systemFor model with _ | system
  · rcases p.user with _ | user
    · rfl
    · rfl
  · rcases p.user with _ | user
    · rfl
    · rfl

lemma result_prompt_of_messages {ms : List ChatMessage} (hp : pack.prompt? name = some p)
    (hcheck : inputs.check p.declared = [])
    (h : List.Forall₂ (Speaks pack o (inputs.textsFor p.declared)) (p.templatesFor o.model) ms) :
    (prompt pack o name inputs).result = .ok ((ms.head?.map (·.content)).getD "") := by
  rw [result_prompt_eq_head hp hcheck]
  generalize p.templatesFor o.model = templates at h
  cases h with
  | nil => rfl
  | cons hspeaks _ => exact hspeaks.fill_eq

/-- What fails at the first template fails at all of them. -/
lemma result_messages_of_prompt_error {e : RenderError} (hp : pack.prompt? name = some p)
    (hcheck : inputs.check p.declared = [])
    (h : (prompt pack o name inputs).result = .error e) :
    (messages pack o name inputs).result = .error e := by
  rw [result_prompt_eq_head hp hcheck] at h
  rw [result_messages_eq_mapM hp hcheck]
  cases ht : p.templatesFor o.model with
  | nil => simp [ht] at h
  | cons t rest =>
    simp only [ht] at h
    have hspoken : spoken pack o (inputs.textsFor p.declared) t = .error e := map_eq_error.mpr h
    rw [List.mapM_cons, bind_eq_error]
    exact .inl hspoken

/-- Behind the first of the templates there is that of the user alone, and the first is that of the
system then. -/
lemma templatesFor_eq_cons_append {model : Option String} {t u : Role × String}
    {between behind : List (Role × String)}
    (h : p.templatesFor model = t :: (between ++ u :: behind)) :
    p.systemFor model = some t.2 ∧ p.user = some u.2 := by
  rw [Prompt.templatesFor] at h
  rcases hsystem : p.systemFor model with _ | system
  · rcases huser : p.user with _ | user
    · simp [hsystem, huser] at h
    · simp [hsystem, huser] at h
  · rcases huser : p.user with _ | user
    · simp [hsystem, huser] at h
    · rw [hsystem, huser] at h
      obtain ⟨rfl, hrest⟩ := List.cons.inj h
      have hone : between ++ u :: behind = [(.user, user)] := hrest.symm
      rcases List.append_eq_singleton_iff.mp hone with ⟨-, hu⟩ | ⟨-, hnil⟩
      · rw [(List.cons.inj hu).1]
        exact ⟨rfl, rfl⟩
      · cases hnil

/-- Where the text succeeds and the messages fail, the template of the user fails. -/
lemma exists_user_of_messages_error {out : String} {e : RenderError}
    (hp : pack.prompt? name = some p) (hcheck : inputs.check p.declared = [])
    (hprompt : (prompt pack o name inputs).result = .ok out)
    (hmessages : (messages pack o name inputs).result = .error e) :
    ∃ system user, p.systemFor o.model = some system ∧ p.user = some user ∧
      (fill (.ofPack pack) o.strictness (inputs.textsFor p.declared) system).result = .ok out ∧
      (fill (.ofPack pack) o.strictness (inputs.textsFor p.declared) user).result = .error e := by
  rw [result_prompt_eq_head hp hcheck] at hprompt
  rw [result_messages_eq_mapM hp hcheck] at hmessages
  obtain ⟨before, u, behind, htemplates, hu, -⟩ := exists_of_mapM_eq_error hmessages
  have hfail := map_eq_error.mp hu
  cases before with
  | nil =>
    -- the first template would fail, and the text with it
    rw [List.nil_append] at htemplates
    simp only [htemplates] at hprompt
    exact absurd (hfail.symm.trans hprompt) (by simp)
  | cons t before =>
    rw [List.cons_append] at htemplates
    simp only [htemplates] at hprompt
    obtain ⟨hsystem, huser⟩ := templatesFor_eq_cons_append htemplates
    exact ⟨t.2, u.2, hsystem, huser, hprompt, hfail⟩

/-- **The text of a prompt is that of its first message.** If a prompt has messages, there is one
of the system exactly if it has a system template for the model, and behind it one of the user
exactly if it has a user template, each with what its template is filled to; and the text of the
prompt is that of the first message, or empty if there is none. If the prompt has no text, the
messages fail with the same error. So the messages fail on their own only over a user template
behind a system template: the text is that of the system template then. -/
theorem messages_agree (pack : Pack) (o : RenderOptions) (name : String) (inputs : Inputs) :
    (∀ ms, (messages pack o name inputs).result = .ok ms →
      ∃ p, pack.prompt? name = some p ∧
        ms.map (·.role) = (if (p.systemFor o.model).isSome then [.system] else []) ++
          (if p.user.isSome then [.user] else []) ∧
        List.Forall₂ (Speaks pack o (inputs.textsFor p.declared)) (p.templatesFor o.model) ms ∧
        (prompt pack o name inputs).result = .ok ((ms.head?.map (·.content)).getD "")) ∧
    (∀ e, (prompt pack o name inputs).result = .error e →
      (messages pack o name inputs).result = .error e) ∧
    ∀ out e, (prompt pack o name inputs).result = .ok out →
      (messages pack o name inputs).result = .error e →
      ∃ p system user, pack.prompt? name = some p ∧ p.systemFor o.model = some system ∧
        p.user = some user ∧
        (fill (.ofPack pack) o.strictness (inputs.textsFor p.declared) system).result = .ok out ∧
        (fill (.ofPack pack) o.strictness (inputs.textsFor p.declared) user).result =
          .error e := by
  rcases hp : pack.prompt? name with _ | p
  · rw [result_prompt_of_none hp, result_messages_of_none hp]
    exact ⟨fun ms h => (nomatch h), fun e h => congrArg _ (Except.error.inj h),
      fun out e h => (nomatch h)⟩
  rcases hcheck : inputs.check p.declared with _ | ⟨i, rest⟩
  · refine ⟨fun ms hms => ⟨p, rfl, ?_⟩, fun e => result_messages_of_prompt_error hp hcheck,
      fun out e hprompt hmessages => ⟨p, ?_⟩⟩
    · rw [result_messages_eq_mapM hp hcheck] at hms
      have hspeaks : List.Forall₂ (Speaks pack o (inputs.textsFor p.declared))
          (p.templatesFor o.model) ms :=
        forall₂_of_mapM_eq_ok (fun _ _ _ hm => spoken_eq_ok.mp hm) hms
      have hroles : ms.map (·.role) = (p.templatesFor o.model).map (·.1) :=
        map_eq_of_mapM_eq_ok (fun _ _ hm => (spoken_eq_ok.mp hm).role_eq) hms
      refine ⟨?_, hspeaks, result_prompt_of_messages hp hcheck hspeaks⟩
      rw [hroles, map_fst_templatesFor]
    · obtain ⟨system, user, hfilled⟩ := exists_user_of_messages_error hp hcheck hprompt hmessages
      exact ⟨system, user, rfl, hfilled⟩
  · rw [result_prompt_of_issue hp hcheck, result_messages_of_issue hp hcheck]
    exact ⟨fun ms h => (nomatch h), fun e h => congrArg _ (Except.error.inj h),
      fun out e h => (nomatch h)⟩

/-! ### A question with a gap -/

/-- A prompt whose user template asks for a variable that nothing declares. -/
def question : Prompt where
  id := "question"
  name := "Question"
  version := "1.0.0"
  system := some "Be brief."
  user := some "Who is \x7b\x7bname\x7d\x7d?"

def questions : Pack where
  id := "questions"
  name := "Questions"
  version := "1.0.0"
  prompts := NameMap.ofList [("question", question)]

/-- Neither template of the question has a fragment. -/
lemma fill_question {t : String} (hbytes : Text.bytes t.toList ≤ 1048576) :
    (fill (.ofPack questions) .strict values t).result =
      (substitute .default values .strict (Template.scan .default t.toList)).result :=
  fill_of_resolve_ok (Resolver.resolve_self (fun _ _ => rfl) hbytes)

/-- Under strictness the question has a text and no messages. -/
theorem messages_agree_question :
    (prompt questions { strictness := .strict } "question" .empty).result = .ok "Be brief." ∧
    (messages questions { strictness := .strict } "question" .empty).result =
      .error (.undefinedPlaceholder "name") ∧
    ∃ system user, question.systemFor none = some system ∧ question.user = some user ∧
      (fill (.ofPack questions) .strict (Inputs.textsFor .empty question.declared) user).result =
        .error (.undefinedPlaceholder "name") := by
  have hsystem : (fill (.ofPack questions) .strict (Inputs.textsFor .empty question.declared)
      "Be brief.").result = .ok "Be brief." := by
    rw [fill_question (by decide)]
    decide +kernel
  have huser : (fill (.ofPack questions) .strict (Inputs.textsFor .empty question.declared)
      "Who is \x7b\x7bname\x7d\x7d?").result = .error (.undefinedPlaceholder "name") := by
    rw [fill_question (by decide)]
    decide +kernel
  have hprompt : (prompt questions { strictness := .strict } "question" .empty).result =
      .ok "Be brief." := by
    rw [result_prompt (p := question) rfl rfl]
    exact hsystem
  have hmessages : (messages questions { strictness := .strict } "question" .empty).result =
      .error (.undefinedPlaceholder "name") := by
    rw [result_messages (p := question) rfl rfl, bind_eq_error]
    refine .inr ⟨[⟨.system, "Be brief."⟩], ?_, bind_eq_error.mpr (.inl ?_)⟩
    · exact (result_message?_some .system _).trans (map_eq_ok.mpr ⟨_, hsystem, rfl⟩)
    · exact (result_message?_some .user _).trans (map_eq_error.mpr huser)
  obtain ⟨p, system, user, hp, hs, hu, -, hfail⟩ :=
    (messages_agree questions { strictness := .strict } "question" .empty).2.2 _ _ hprompt hmessages
  obtain rfl : question = p := Option.some.inj hp
  exact ⟨hprompt, hmessages, system, user, hs, hu, hfail⟩

end Render

end PromptKit
