import PromptKit.Proofs.Document.Visible

/-!
Where errors point to.

An error of a reader points to the node that is read or to something below it. The steps down to
that place go through members and items that are there; only the last step may ask for something
that is missing.
-/

namespace PromptKit

/-! ### The steps of a document -/

namespace Json

/-- Going down by keys and indices leads to a node. -/
inductive Reaches : Json → List Step → Json → Prop
  | here (v : Json) : Reaches v [] v
  | key {ms : Members} {name : String} {v w : Json} {steps : List Step} (hmem : (name, v) ∈ ms)
      (h : Reaches v steps w) : Reaches (.object ms) (.key name :: steps) w
  | index {vs : List Json} {i : Nat} {v w : Json} {steps : List Step} (hitem : vs[i]? = some v)
      (h : Reaches v steps w) : Reaches (.array vs) (.index i :: steps) w

/-- Every part of the way that stops before its end leads to a node. -/
def Leads (v : Json) (steps : List Step) : Prop :=
  ∀ part, part <+: steps → part ≠ steps → ∃ w, v.Reaches part w

variable {u v w : Json} {s : Step} {steps : List Step}

@[simp] lemma reaches_nil : v.Reaches [] w ↔ v = w :=
  ⟨fun h => by cases h; rfl, fun h => h ▸ .here v⟩

@[simp] lemma reaches_key {name : String} :
    u.Reaches (.key name :: steps) w ↔
      ∃ ms v, u = .object ms ∧ (name, v) ∈ ms ∧ v.Reaches steps w := by
  constructor
  · rintro (_ | ⟨hmem, h⟩)
    exact ⟨_, _, rfl, hmem, h⟩
  · rintro ⟨ms, v, rfl, hmem, h⟩
    exact .key hmem h

@[simp] lemma reaches_index {i : Nat} :
    u.Reaches (.index i :: steps) w ↔
      ∃ vs v, u = .array vs ∧ vs[i]? = some v ∧ v.Reaches steps w := by
  constructor
  · rintro (_ | _ | ⟨hitem, h⟩)
    exact ⟨_, _, rfl, hitem, h⟩
  · rintro ⟨vs, v, rfl, hitem, h⟩
    exact .index hitem h

lemma Reaches.cons (h : u.Reaches [s] v) (hv : v.Reaches steps w) : u.Reaches (s :: steps) w := by
  cases h with
  | key hmem hend =>
    cases hend
    exact .key hmem hv
  | index hitem hend =>
    cases hend
    exact .index hitem hv

lemma leads_nil (v : Json) : v.Leads [] :=
  fun _ hpart hne => absurd (List.prefix_nil.mp hpart) hne

/-- The last step need not lead anywhere. -/
lemma leads_singleton (v : Json) (s : Step) : v.Leads [s] := by
  intro part hpart hne
  rcases List.prefix_cons_iff.mp hpart with rfl | ⟨rest, rfl, hrest⟩
  · exact ⟨v, .here v⟩
  · exact absurd (by rw [List.prefix_nil.mp hrest]) hne

lemma Leads.cons (h : u.Reaches [s] v) (hv : v.Leads steps) : u.Leads (s :: steps) := by
  intro part hpart hne
  rcases List.prefix_cons_iff.mp hpart with rfl | ⟨rest, rfl, hrest⟩
  · exact ⟨u, .here u⟩
  · obtain ⟨w, hw⟩ := hv rest hrest fun heq => hne (by rw [heq])
    exact ⟨w, h.cons hw⟩

end Json

/-! ### Errors of a computation -/

section FailsOnly

variable {ε ε' α β : Type} {P Q : ε → Prop} {x : Except ε α}

/-- If a computation fails, its error has a property. -/
def FailsOnly (P : ε → Prop) (x : Except ε α) : Prop := ∀ e, x = .error e → P e

namespace FailsOnly

lemma ok (a : α) : FailsOnly P (.ok a : Except ε α) := fun _ h => by cases h

lemma error {e : ε} (h : P e) : FailsOnly P (.error e : Except ε α) := fun _ he => by
  cases he
  exact h

lemma mono (h : FailsOnly P x) (hPQ : ∀ e, P e → Q e) : FailsOnly Q x :=
  fun e he => hPQ e (h e he)

lemma bind {f : α → Except ε β} (hx : FailsOnly P x)
    (hf : ∀ a, x = .ok a → FailsOnly P (f a)) : FailsOnly P (x >>= f) := by
  intro e he
  rcases bind_eq_error.mp he with he | ⟨a, ha, he⟩
  · exact hx e he
  · exact hf a ha e he

lemma mapM {f : α → Except ε β} {xs : List α} (h : ∀ a ∈ xs, FailsOnly P (f a)) :
    FailsOnly P (xs.mapM f) := by
  intro e he
  obtain ⟨before, a, behind, rfl, ha, -⟩ := exists_of_mapM_eq_error he
  exact h a (by simp) e ha

lemma map {f : α → β} (h : FailsOnly P x) : FailsOnly P (f <$> x) :=
  fun e he => h e (map_eq_error.mp he)

lemma mapError {f : ε' → ε} {x : Except ε' α} (h : ∀ e, P (f e)) : FailsOnly P (x.mapError f) := by
  intro e he
  obtain ⟨e', -, rfl⟩ := mapError_eq_error.mp he
  exact h e'

end FailsOnly

end FailsOnly

namespace Document

open Node (reject rejectIf placed shaped)

/-! ### Errors at a node and below it -/

variable {α : Type} {plain : Prop} {v : Json} {path : FieldPath} {n : Node} {key : String}
  {vs : List Json} {i : Nat} {e : PackError}

/-- An error at a node or below it. If the document is plain, the steps to the place lead there
or to where it is missing. -/
def AtNode (plain : Prop) (v : Json) (path : FieldPath) (e : PackError) : Prop :=
  ∃ steps, e.path? = some ⟨path.steps ++ steps⟩ ∧ (plain → v.Leads steps)

/-- An error below a node. -/
def BelowNode (plain : Prop) (v : Json) (path : FieldPath) (e : PackError) : Prop :=
  ∃ steps, steps ≠ [] ∧ e.path? = some ⟨path.steps ++ steps⟩ ∧ (plain → v.Leads steps)

lemma BelowNode.atNode (h : BelowNode plain v path e) : AtNode plain v path e := by
  obtain ⟨steps, -, hpath, hleads⟩ := h
  exact ⟨steps, hpath, hleads⟩

lemma atNode_self (he : e.path? = some path) : AtNode plain v path e :=
  ⟨[], by simpa using he, fun _ => v.leads_nil⟩

/-- What is directly below a node may be missing. -/
lemma belowNode_key (he : e.path? = some (path.key key)) : BelowNode plain v path e :=
  ⟨[.key key], by simp, he, fun _ => v.leads_singleton _⟩

/-- An error at what one step leads to is below the node that the step starts from. -/
lemma AtNode.below {u : Json} {s : Step} (h : AtNode plain v ⟨path.steps ++ [s]⟩ e)
    (hstep : plain → u.Reaches [s] v) : BelowNode plain u path e := by
  obtain ⟨steps, hpath, hleads⟩ := h
  refine ⟨s :: steps, by simp, ?_, fun hplain => .cons (hstep hplain) (hleads hplain)⟩
  rw [hpath, List.append_assoc, List.singleton_append]

lemma atNode_of_below {x : Node.Result α} (h : FailsOnly (BelowNode plain v path) x) :
    FailsOnly (AtNode plain v path) x :=
  h.mono fun _ he => he.atNode

lemma failsOnly_reject_self (v : Json) (path : FieldPath) (fault : Fault) :
    FailsOnly (AtNode plain v path) (reject path fault : Node.Result α) :=
  .error (atNode_self rfl)

lemma failsOnly_placed_self (v : Json) (path : FieldPath) (check : Except Fault Unit) :
    FailsOnly (AtNode plain v path) (placed path check) :=
  .mapError fun _ => atNode_self rfl

lemma failsOnly_reject (v : Json) (path : FieldPath) (key : String) (fault : Fault) :
    FailsOnly (BelowNode plain v path) (reject (path.key key) fault : Node.Result α) :=
  .error (belowNode_key rfl)

lemma failsOnly_rejectIf (v : Json) (path : FieldPath) (bad : Bool) (key : String)
    (fault : Fault) : FailsOnly (BelowNode plain v path) (rejectIf bad (path.key key) fault) := by
  cases bad with
  | false => exact .ok ()
  | true => exact failsOnly_reject v path key fault

namespace Node

/-- The errors of a computation are below an object. -/
def Within (plain : Prop) (n : Node) (x : Result α) : Prop :=
  FailsOnly (BelowNode plain (.object n.members) n.path) x

lemma within_reject (n : Node) (key : String) (fault : Fault) :
    n.Within plain (reject (n.child key) fault : Result α) :=
  failsOnly_reject _ n.path key fault

lemma within_rejectIf (n : Node) (bad : Bool) (key : String) (fault : Fault) :
    n.Within plain (rejectIf bad (n.child key) fault) :=
  failsOnly_rejectIf _ n.path bad key fault

lemma within_placed (n : Node) (key : String) (check : Except Fault Unit) :
    n.Within plain (placed (n.child key) check) :=
  .mapError fun _ => belowNode_key rfl

/-- The errors at a member are below the object. -/
lemma within_member {x : Result α} (hmem : (key, v) ∈ n.members)
    (h : FailsOnly (AtNode plain v (n.child key)) x) : n.Within plain x :=
  h.mono fun _ he => he.below (s := .key key) fun _ => .key hmem (.here v)

lemma mem_of_mem_indexed (h : (i, v) ∈ indexed vs) : vs[i]? = some v := by
  obtain ⟨j, hj, heq⟩ := List.mem_iff_getElem.mp h
  simp only [indexed, List.getElem_zip, List.getElem_range, Prod.mk.injEq] at heq
  obtain ⟨rfl, rfl⟩ := heq
  simp

/-- The errors at the items of a list are below it. -/
lemma failsOnly_items {f : Nat × Json → Result α}
    (h : ∀ i v, vs[i]? = some v → FailsOnly (AtNode plain v (path.index i)) (f (i, v))) :
    FailsOnly (AtNode plain (.array vs) path) ((indexed vs).mapM f) := by
  refine .mapM fun iv hiv => ?_
  have hitem := mem_of_mem_indexed hiv
  exact (h iv.1 iv.2 hitem).mono fun _ he =>
    (he.below (s := .index iv.1) fun _ => .index hitem (.here iv.2)).atNode

/-! ### Access to members -/

lemma within_required (n : Node) (key : String) : n.Within plain (n.required key) := by
  unfold required
  split
  · exact .ok _
  · exact n.within_reject key _

lemma within_optional (n : Node) (key : String) (wanted : Wanted) (read : Json → Option α) :
    n.Within plain (n.optional key wanted read) := by
  unfold optional
  split
  · exact .ok none
  · split
    · exact .ok _
    · exact n.within_reject key _

lemma within_requiredString (n : Node) (key : String) :
    n.Within plain (n.requiredString key) := by
  refine (n.within_required key).bind fun v _ => ?_
  split
  · exact .ok _
  · exact n.within_reject key _

lemma within_optionalCount (n : Node) (key : String) : n.Within plain (n.optionalCount key) := by
  unfold optionalCount
  split
  · exact .ok none
  · split
    · exact .ok _
    · exact n.within_reject key _
  · exact n.within_reject key _

lemma mem_of_optionalArray (h : n.optionalArray key = .ok (some vs)) :
    (key, .array vs) ∈ n.members := by
  unfold optionalArray optional at h
  split at h
  · cases h
  · rename_i v hv
    cases v with
    | array ws =>
      cases h
      exact Members.mem_of_present? hv
    | _ => exact absurd h reject_ne_ok

lemma within_stringList (n : Node) (key : String) : n.Within plain (n.stringList key) := by
  refine (n.within_optional key _ _).bind fun o ho => ?_
  cases o with
  | none => exact .ok []
  | some vs =>
    refine within_member (mem_of_optionalArray ho) (failsOnly_items fun i v _ => ?_)
    dsimp only
    split
    · exact .ok _
    · exact failsOnly_reject_self _ _ _

lemma within_ofObject (n : Node) (key : String) (absent : α) {read : Node → Result α}
    (h : ∀ ms, (key, .object ms) ∈ n.members →
      Within plain ⟨ms, n.child key⟩ (read ⟨ms, n.child key⟩)) :
    n.Within plain (n.ofObject key absent read) := by
  intro e he
  unfold ofObject optionalObject optional at he
  rcases hv : n.members.present? key with _ | v
  · rw [hv] at he
    cases he
  · rw [hv] at he
    have hmem := Members.mem_of_present? hv
    cases v with
    | object ms => exact within_member hmem (atNode_of_below (h ms hmem)) e he
    | _ => exact n.within_reject key _ e he

lemma failsOnly_object (v : Json) (path : FieldPath) :
    FailsOnly (AtNode plain v path) (Node.object v path) := by
  cases v with
  | object ms => exact .ok _
  | _ => exact failsOnly_reject_self _ _ _

lemma within_requiredObject (n : Node) (key : String) : n.Within plain (n.requiredObject key) := by
  refine (n.within_required key).bind fun v hv => ?_
  unfold required at hv
  split at hv
  · rename_i w hw
    obtain rfl := pure_eq_ok.mp hv
    exact within_member (Members.mem_of_present? hw) (failsOnly_object w _)
  · exact absurd hv reject_ne_ok

end Node

end Document

end PromptKit
