import PromptKit.Proofs.Document.Given
import PromptKit.Proofs.Document.Placement

/-!
Variables in a list and in a mapping.

A prompt may list its variables, each with its name inside, or map the names to the rest of them.
Both forms have the same meaning. Where a variable is at fault the fault is the same too; it is
found under the index of the variable in the one form, and under its name in the other.
-/

namespace PromptKit.Document

/-- An item that says its name, and the member of this name, with the name kept or dropped. -/
inductive SameEntry : Json → String × Json → Prop
  | kept {es : Members} {name : String} (h : es.present? "name" = some (.string name)) :
    SameEntry (.object es) (name, .object es)
  | dropped {es : Members} {name : String} (h : es.present? "name" = some (.string name)) :
    SameEntry (.object es) (name, .object (es.without "name"))

/-- A list of variables with distinct names, and the mapping of these names to the variables. -/
structure TwoForms (vs : List Json) (os : Members) : Prop where
  distinct : (os.map (·.1)).Nodup
  entries : List.Forall₂ SameEntry vs os

/-- The same fault, under the index of a variable and under its name. -/
def Renamed (path : FieldPath) (names : List String) (e e' : PackError) : Prop :=
  ∃ i name, names[i]? = some name ∧ Moved (path.index i) (path.key name) e e'

/-- The same error, or one that is renamed. -/
def EqualOrRenamed (path : FieldPath) (names : List String) (e e' : PackError) : Prop :=
  e = e' ∨ Renamed path names e e'

variable {vs : List Json} {os : Members} {path : FieldPath} {names : List String} {name : String}
  {n : Node}

lemma EqualOrRenamed.refl (e : PackError) : EqualOrRenamed path names e e := .inl rfl

/-! ### One variable in both forms -/

lemma readListed_of_name {es : Members} (h : es.present? "name" = some (.string name)) (i : Nat) :
    readListed path (i, .object es) = readVariable name ⟨es, path.index i⟩ := by
  have hname : Node.requiredString ⟨es, path.index i⟩ "name" = pure name :=
    Node.requiredString_eq_ok.mpr h
  simp only [readListed, Node.object, pure_bind, hname]

/-- The member of a mapping need not say its name, but it may. -/
lemma readKeyed_of_name {es : Members} {o : Option String} (hd : (os.map (·.1)).Nodup)
    (hm : (name, .object es) ∈ os) (h : es.present? "name" = o.map .string)
    (ho : ∀ s ∈ o, s = name) :
    readKeyed ⟨os, path⟩ name = readVariable name ⟨es, path.key name⟩ := by
  have hentry : Node.requiredObject ⟨os, path⟩ name = pure ⟨es, path.key name⟩ :=
    Node.requiredObject_eq_ok.mpr
      ⟨es, (Members.present?_eq_some_iff hd).mpr ⟨hm, by simp⟩, rfl⟩
  have hname : Node.optionalString ⟨es, path.key name⟩ "name" = pure o :=
    Node.optionalString_eq_ok.mpr h
  have hrepeats (p : FieldPath) : Node.repeats p name .variableName o = pure () := by
    cases o with
    | none => rfl
    | some s => simp [Node.repeats, Node.rejectIf, ho s rfl]
  simp only [readKeyed, hentry, hname, hrepeats, pure_bind]

/-- A variable is read alike as an item and as a member. -/
lemma alike_of_sameEntry {v : Json} {m : String × Json} (h : SameEntry v m)
    (hd : (os.map (·.1)).Nodup) (hm : m ∈ os) (i : Nat) :
    Alike (Moved (path.index i) (path.key m.1)) (readListed path (i, v))
      (readKeyed ⟨os, path⟩ m.1) := by
  cases h with
  | @kept es name hname =>
    rw [readListed_of_name hname, readKeyed_of_name (o := some name) hd hm hname (by simp)]
    exact alike_readVariable ⟨es, path.index i⟩ ⟨es, path.key name⟩ name fun _ _ => rfl
  | @dropped es name hname =>
    have hnone : (es.without "name").present? "name" = none := by
      rw [Members.present?_without, if_pos rfl]
    rw [readListed_of_name hname, readKeyed_of_name (o := none) hd hm hnone (by simp)]
    refine alike_readVariable ⟨es, path.index i⟩ ⟨es.without "name", path.key name⟩ name
      fun key hkey => ?_
    rw [Members.present?_without, if_neg hkey]

/-! ### All variables -/

lemma readVariables_of_list (h : n.members.get? "variables" = some (.array vs)) :
    readVariables n = (Node.indexed vs).mapM (readListed (n.child "variables")) := by
  rw [readVariables, h]

lemma readVariables_of_mapping (n : Node) (os : Members) :
    readVariables (n.set "variables" (.object os)) =
      os.mapM fun m => readKeyed ⟨os, n.child "variables"⟩ m.1 := by
  rw [readVariables, Node.set, Members.get?_set, if_pos rfl]
  rfl

/-- The two forms of each variable stand side by side. -/
lemma TwoForms.forall₂ (h : TwoForms vs os) (path : FieldPath) :
    List.Forall₂ (fun iv m => Alike (Renamed path (os.map (·.1))) (readListed path iv)
      (readKeyed ⟨os, path⟩ m.1)) (Node.indexed vs) os := by
  obtain ⟨hlength, hentries⟩ := List.forall₂_iff_get.mp h.entries
  refine List.forall₂_iff_get.mpr ⟨by simpa [Node.indexed] using hlength, fun i hi hi' => ?_⟩
  have hvs : i < vs.length := hlength ▸ hi'
  have hitem : (Node.indexed vs).get ⟨i, hi⟩ = (i, vs.get ⟨i, hvs⟩) := by simp [Node.indexed]
  have hname : (os.map (·.1))[i]? = some (os.get ⟨i, hi'⟩).1 := by simp [hi']
  rw [hitem]
  exact (alike_of_sameEntry (hentries i hvs hi') h.distinct (List.get_mem os _) i).mono
    fun _ _ hmoved => ⟨i, _, hname, hmoved⟩

lemma alike_readVariables (h : TwoForms vs os)
    (hvs : n.members.get? "variables" = some (.array vs)) :
    Alike (Renamed (n.child "variables") (os.map (·.1))) (readVariables n)
      (readVariables (n.set "variables" (.object os))) := by
  rw [readVariables_of_list hvs, readVariables_of_mapping]
  exact Alike.mapM (h.forall₂ _)

/-! ### Prompts and packs -/

lemma alike_readPrompt (h : TwoForms vs os) (toolNames : List String)
    (hvs : n.members.get? "variables" = some (.array vs)) :
    Traced.Alike (EqualOrRenamed (n.child "variables") (os.map (·.1))) (readPrompt toolNames n)
      (readPrompt toolNames (n.set "variables" (.object os))) := by
  have hsees (key : String) (hkey : key ≠ "variables") :
      (n.set "variables" (.object os)).Agree n key := Node.agree_set hkey
  have hchild (key : String) : (n.set "variables" (.object os)).child key = n.child key := rfl
  have hpath : (n.set "variables" (.object os)).path = n.path := rfl
  have hvariables : Traced.Alike (EqualOrRenamed (n.child "variables") (os.map (·.1)))
      (liftM (readVariables n) : Traced PackError (List Variable))
      (liftM (readVariables (n.set "variables" (.object os)))) :=
    .lift ((alike_readVariables h hvs).mono fun _ _ => .inr)
  simp only [readPrompt, (hsees "id" (by decide)).requiredString,
    (hsees "name" (by decide)).requiredString, (hsees "version" (by decide)).requiredString,
    Node.optionalString, (hsees "description" (by decide)).optional,
    (hsees "system_template" (by decide)).optional, (hsees "user_template" (by decide)).optional,
    (hsees "parameters" (by decide)).ofObject, readValidators_eq (hsees "validators" (by decide)),
    (hsees "tools" (by decide)).stringList, readPolicyOf_eq (hsees "tool_policy" (by decide)),
    readOverrides_eq (hsees "model_overrides" (by decide)), hchild, hpath]
  -- up to the variables and behind them both forms take the same steps
  refine .after .refl _ fun id => .after .refl _ fun _ => .after .refl _ fun name => ?_
  refine .after .refl _ fun _ => .after .refl _ fun version => .after .refl _ fun _ => ?_
  refine .after .refl _ fun description => .after .refl _ fun system => ?_
  refine .after .refl _ fun user => ?_
  exact hvariables.bind fun declared => .refl .refl _

lemma Node.requiredObject_of_get? {key : String} {ms : Members}
    (h : n.members.get? key = some (.object ms)) :
    n.requiredObject key = pure ⟨ms, n.child key⟩ := by
  refine Node.requiredObject_eq_ok.mpr ⟨ms, ?_, rfl⟩
  rw [Members.present?, h]
  rfl

lemma Node.requiredObject_set (n : Node) (key : String) (ms : Members) :
    (n.set key (.object ms)).requiredObject key = pure ⟨ms, n.child key⟩ := by
  refine Node.requiredObject_of_get? ?_
  rw [Node.set, Members.get?_set, if_pos rfl]

/-- The path of the variables of a prompt. -/
def variablesPath (key : String) : FieldPath :=
  ((FieldPath.root.key "prompts").key key).key "variables"

/-- The prompts of a pack, one of which has its variables in another form. -/
lemma alike_readPrompts {key : String} {ms : Members} (h : TwoForms vs os)
    (toolNames : List String) (hkey : n.members.get? key = some (.object ms))
    (hvs : ms.get? "variables" = some (.array vs)) (keys : List String) :
    Traced.Alike (EqualOrRenamed ((n.child key).key "variables") (os.map (·.1)))
      (readPrompts toolNames n keys)
      (readPrompts toolNames (n.set key (.object (ms.set "variables" (.object os)))) keys) := by
  have hobject : n.requiredObject key = pure ⟨ms, n.child key⟩ :=
    Node.requiredObject_of_get? hkey
  have hobject' : (n.set key (.object (ms.set "variables" (.object os)))).requiredObject key =
      pure (Node.set ⟨ms, n.child key⟩ "variables" (.object os)) :=
    Node.requiredObject_set _ _ _
  induction keys with
  | nil => exact .refl .refl _
  | cons k keys ih =>
    rw [readPrompts, readPrompts]
    by_cases hk : k = key
    · subst hk
      rw [hobject, hobject', Traced.lift_pure, Traced.lift_pure, pure_bind, pure_bind]
      refine (alike_readPrompt (n := ⟨ms, n.child k⟩) h toolNames hvs).bind fun p => ?_
      exact ih.bind fun _ => .refl .refl _
    · rw [(Node.agree_set hk).requiredObject]
      refine .after .refl _ fun m => .after .refl _ fun p => ?_
      exact ih.bind fun _ => .refl .refl _

lemma alike_readRoot {key : String} {ps ms : Members} (h : TwoForms vs os)
    (hps : n.members.get? "prompts" = some (.object ps)) (hkey : ps.get? key = some (.object ms))
    (hvs : ms.get? "variables" = some (.array vs)) :
    Traced.Alike (EqualOrRenamed (((n.child "prompts").key key).key "variables") (os.map (·.1)))
      (readRoot n)
      (readRoot (n.set "prompts"
        (.object (ps.set key (.object (ms.set "variables" (.object os))))))) := by
  set ps' := ps.set key (.object (ms.set "variables" (.object os)))
  have hsees (k : String) (hk : k ≠ "prompts") : (n.set "prompts" (.object ps')).Agree n k :=
    Node.agree_set hk
  have hchild (k : String) : (n.set "prompts" (.object ps')).child k = n.child k := rfl
  have hobject : n.requiredObject "prompts" = pure ⟨ps, n.child "prompts"⟩ :=
    Node.requiredObject_of_get? hps
  have hobject' : (n.set "prompts" (.object ps')).requiredObject "prompts" =
      pure ⟨ps', n.child "prompts"⟩ :=
    Node.requiredObject_set _ _ _
  have hnames : ps'.map (·.1) = ps.map (·.1) :=
    Members.names_set (List.mem_map_of_mem (Members.mem_of_get? hkey)) _
  have hempty : ps'.isEmpty = ps.isEmpty := by
    have hmap := congrArg List.isEmpty hnames
    simpa using hmap
  simp only [readRoot, (hsees "id" (by decide)).requiredString,
    (hsees "name" (by decide)).requiredString, (hsees "version" (by decide)).requiredString,
    Node.optionalString, (hsees "description" (by decide)).optional,
    readEngineOf_eq (hsees "template_engine" (by decide)),
    readFragments_eq (hsees "fragments" (by decide)), readTools_eq (hsees "tools" (by decide)),
    hobject, hobject', Traced.lift_pure, pure_bind, hchild]
  refine .after .refl _ fun id => .after .refl _ fun _ => .after .refl _ fun name => ?_
  refine .after .refl _ fun _ => .after .refl _ fun version => .after .refl _ fun _ => ?_
  refine .after .refl _ fun description => .after .refl _ fun engine => ?_
  refine .after .refl _ fun fragments => .after .refl _ fun tools => ?_
  rw [hnames, hempty]
  refine .after .refl _ fun _ => ?_
  exact (alike_readPrompts (n := ⟨ps, n.child "prompts"⟩) h _ hkey hvs _).bind
    fun prompts => .refl .refl _

/-- What the two forms of some variables have in common. -/
structure SameMeaning (vs : List Json) (os : Members) : Prop where
  /-- The variables are the same, in the same order, or the first fault is. -/
  declared : ∀ n : Node, n.members.get? "variables" = some (.array vs) →
    Alike (Renamed (n.child "variables") (os.map (·.1))) (readVariables n)
      (readVariables (n.set "variables" (.object os)))
  /-- So is the prompt around them. -/
  prompt : ∀ (toolNames : List String) (n : Node),
    n.members.get? "variables" = some (.array vs) →
    Traced.Alike (EqualOrRenamed (n.child "variables") (os.map (·.1))) (readPrompt toolNames n)
      (readPrompt toolNames (n.set "variables" (.object os)))
  /-- So is the pack around the prompt. -/
  pack : ∀ (root ps ms : Members) (key : String), root.get? "prompts" = some (.object ps) →
    ps.get? key = some (.object ms) → ms.get? "variables" = some (.array vs) →
    Traced.Alike (EqualOrRenamed (variablesPath key) (os.map (·.1))) (readPack (.object root))
      (readPack (.object (root.set "prompts"
        (.object (ps.set key (.object (ms.set "variables" (.object os))))))))

/-- **Variables in a list and in a mapping.** Take a list of variables with distinct names, and
the mapping of the names to them, where each may keep the name inside or drop it. In their place
both give the same variables in the same order, or they fail with the same fault, and the paths
differ in one step: it is the index of a variable in the list, and its name in the mapping. The
same is true of the prompt and the pack that the variables are part of. -/
theorem same_meaning_of_two_forms {vs : List Json} {os : Members} (h : TwoForms vs os) :
    SameMeaning vs os where
  declared _ hvs := alike_readVariables h hvs
  prompt toolNames _ hvs := alike_readPrompt h toolNames hvs
  pack root _ _ _ hps hkey hvs := alike_readRoot (n := ⟨root, .root⟩) h hps hkey hvs

/-! ### Two variables -/

def listedTopics : List Json :=
  [.object [("name", .string "topic"), ("type", .string "string"), ("required", .bool true)],
    .object [("type", .string "boolean"), ("name", .string "brief"), ("default", .string "yes")]]

/-- The first variable repeats its name and the second does not. -/
def mappedTopics : Members :=
  [("topic", .object
      [("name", .string "topic"), ("type", .string "string"), ("required", .bool true)]),
    ("brief", .object [("type", .string "boolean"), ("default", .string "yes")])]

lemma twoForms_topics : TwoForms listedTopics mappedTopics where
  distinct := by decide
  entries := .cons (.kept rfl) (.cons (.dropped rfl) .nil)

def topics : Node := ⟨[("variables", .array listedTopics)], .root⟩

theorem same_meaning_of_two_forms_topics :
    TwoForms listedTopics mappedTopics ∧
    topics.members.get? "variables" = some (.array listedTopics) ∧
    ∃ xs, readVariables topics = .ok xs ∧
      readVariables (topics.set "variables" (.object mappedTopics)) = .ok xs ∧
      xs.map (·.name) = ["topic", "brief"] :=
  ⟨twoForms_topics, rfl, _, rfl,
    ((same_meaning_of_two_forms twoForms_topics).declared topics rfl).eq_ok rfl, rfl⟩

/-- A type that is not known is found under the index in the list and under the name in the
mapping. -/
example :
    readVariables ⟨[("variables", .array [.object [("name", .string "topic"),
      ("type", .string "text")]])], .root⟩ =
      .error (.invalid ⟨[.key "variables", .index 0, .key "type"]⟩ (.variableType "text")) ∧
    readVariables ⟨[("variables", .object [("topic", .object [("type", .string "text")])])],
      .root⟩ =
      .error (.invalid ⟨[.key "variables", .key "topic", .key "type"]⟩ (.variableType "text")) :=
  ⟨rfl, rfl⟩

end PromptKit.Document
