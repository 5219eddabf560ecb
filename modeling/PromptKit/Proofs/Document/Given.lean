import PromptKit.Document
import PromptKit.Proofs.Document.Members

/-!
What an object gives under a name, told by membership alone.

The accessors of an object take the first member of a name and null for none. In a document
whose objects have distinct names, what they read is what the object gives.
-/

namespace PromptKit

/-- Every object in a value has distinct names. -/
inductive Json.Distinct : Json → Prop
  | null : Distinct .null
  | bool (b : Bool) : Distinct (.bool b)
  | number (n : Number) : Distinct (.number n)
  | string (s : String) : Distinct (.string s)
  | array {vs : List Json} (h : ∀ v ∈ vs, Distinct v) : Distinct (.array vs)
  | object {ms : Members} (hd : (ms.map (·.1)).Nodup) (h : ∀ m ∈ ms, Distinct m.2) :
    Distinct (.object ms)

/-! ### What an object gives -/

namespace Members

/-- What an object gives under a name; a member that is null gives nothing. -/
def Gives (ms : Members) (name : String) : Option Json → Prop
  | some v => (name, v) ∈ ms ∧ v ≠ .null
  | none => ∀ v, (name, v) ∈ ms → v = .null

/-- The items of the list under a name; nothing has none. -/
def GivesItems (ms : Members) (name : String) (vs : List Json) : Prop :=
  ms.Gives name (some (.array vs)) ∨ ms.Gives name none ∧ vs = []

/-- The members of the object under a name; nothing has none. -/
def GivesMembers (ms : Members) (name : String) (os : Members) : Prop :=
  ms.Gives name (some (.object os)) ∨ ms.Gives name none ∧ os = []

/-- A flag under a name, or what stands for it where it is missing. -/
def Flag (ms : Members) (name : String) (default b : Bool) : Prop :=
  (name, .bool b) ∈ ms ∨ name ∉ ms.map (·.1) ∧ b = default

variable {ms : Members} {name : String}

/-- With distinct names a look-up gives what the object gives. -/
lemma gives_iff {o : Option Json} (hd : (ms.map (·.1)).Nodup) :
    ms.Gives name o ↔ ms.present? name = o := by
  cases o with
  | some v => rw [Gives, present?_eq_some_iff hd]
  | none =>
    rw [Gives, Option.eq_none_iff_forall_ne_some]
    simp only [ne_eq, present?_eq_some_iff hd, not_and, not_not]

end Members

/-! ### Distinct names -/

namespace Json

variable {ms : Members} {vs : List Json} {name : String} {v : Json}

attribute [simp] Distinct.null Distinct.bool Distinct.number Distinct.string

@[simp] lemma distinct_object_iff :
    Distinct (.object ms) ↔ (ms.map (·.1)).Nodup ∧ ∀ m ∈ ms, m.2.Distinct := by
  constructor
  · rintro (_ | _ | _ | _ | _ | ⟨hd, h⟩)
    exact ⟨hd, h⟩
  · rintro ⟨hd, h⟩
    exact .object hd h

@[simp] lemma distinct_array_iff : Distinct (.array vs) ↔ ∀ v ∈ vs, v.Distinct := by
  constructor
  · rintro (_ | _ | _ | _ | h | _)
    exact h
  · exact .array

@[simp] lemma distinct_nat (n : Nat) : Distinct (.nat n) := by
  unfold nat
  split
  · exact .number _
  · exact .null

namespace Distinct

lemma names (h : Distinct (.object ms)) : (ms.map (·.1)).Nodup :=
  (distinct_object_iff.mp h).1

lemma member (h : Distinct (.object ms)) (hv : ms.present? name = some v) : v.Distinct :=
  (distinct_object_iff.mp h).2 (name, v) (Members.mem_of_present? hv)

end Distinct

end Json

namespace Document

/-! ### Reading a member -/

namespace Node

variable {n m : Node} {name : String}

lemma requiredString_eq_ok {s : String} :
    n.requiredString name = .ok s ↔ n.members.present? name = some (.string s) := by
  unfold requiredString required
  rcases n.members.present? name with _ | v
  · simp
  · cases v <;> simp

lemma optionalString_eq_ok {o : Option String} :
    n.optionalString name = .ok o ↔ n.members.present? name = o.map .string := by
  unfold optionalString optional
  rcases n.members.present? name with _ | v
  · cases o <;> simp
  · cases v <;> cases o <;> simp [string?]

lemma requiredObject_eq_ok :
    n.requiredObject name = .ok m ↔
      ∃ ms, n.members.present? name = some (.object ms) ∧ ⟨ms, n.child name⟩ = m := by
  unfold requiredObject required
  rcases n.members.present? name with _ | v
  · simp
  · cases v <;> simp [object]

/-- A list that is read is the one of the object, or is empty where there is none. -/
lemma givesItems_of_optionalArray {o : Option (List Json)} (hd : (n.members.map (·.1)).Nodup)
    (h : n.optionalArray name = .ok o) : n.members.GivesItems name (o.getD []) := by
  unfold optionalArray optional at h
  rcases hv : n.members.present? name with _ | v
  · rw [hv] at h
    obtain rfl := pure_eq_ok.mp h
    exact .inr ⟨(Members.gives_iff hd).mpr hv, rfl⟩
  · rw [hv] at h
    cases v with
    | array vs =>
      obtain rfl := pure_eq_ok.mp h
      exact .inl ((Members.gives_iff hd).mpr hv)
    | _ => exact absurd h reject_ne_ok

lemma map_snd_indexed (vs : List Json) : (indexed vs).map (·.2) = vs :=
  List.map_snd_zip (by simp)

/-- Items that are read by their index stand beside what is read of them. -/
lemma forall₂_of_indexed {α : Type} {R : Json → α → Prop} {f : Nat × Json → Result α}
    {vs : List Json} {xs : List α} (hf : ∀ i v x, f (i, v) = .ok x → R v x)
    (h : (indexed vs).mapM f = .ok xs) : List.Forall₂ R vs xs := by
  rw [← map_snd_indexed vs, List.forall₂_map_left_iff]
  exact forall₂_of_mapM_eq_ok (fun iv _ x hx => hf iv.1 iv.2 x hx) h

/-- A list of strings is read as it is. -/
lemma givesItems_of_stringList {names : List String} (hd : (n.members.map (·.1)).Nodup)
    (h : n.stringList name = .ok names) : n.members.GivesItems name (names.map .string) := by
  obtain ⟨_ | vs, hvs, h⟩ := bind_eq_ok.mp h
  · obtain rfl := pure_eq_ok.mp h
    exact givesItems_of_optionalArray hd hvs
  · have hnames : names.map .string = (indexed vs).map (·.2) := by
      refine map_eq_of_mapM_eq_ok (fun iv s hs => ?_) h
      split at hs
      · rename_i t ht
        rw [ht, pure_eq_ok.mp hs]
      · exact absurd hs reject_ne_ok
    rw [hnames, map_snd_indexed]
    exact givesItems_of_optionalArray hd hvs

/-- An object that may be left out is read as one without members, if the reader says so. -/
lemma givesMembers_of_ofObject {α : Type} {absent a : α} {read : Node → Result α}
    (hn : (Json.object n.members).Distinct) (h : n.ofObject name absent read = .ok a)
    (habsent : read ⟨[], n.child name⟩ = .ok absent) :
    ∃ os, n.members.GivesMembers name os ∧ (Json.object os).Distinct ∧
      read ⟨os, n.child name⟩ = .ok a := by
  rcases ofObject_eq_ok.mp h with ⟨hnone, rfl⟩ | ⟨os, hos, hread⟩
  · exact ⟨[], .inr ⟨(Members.gives_iff hn.names).mpr hnone, rfl⟩, .object List.nodup_nil (by simp),
      habsent⟩
  · exact ⟨os, .inl ((Members.gives_iff hn.names).mpr hos), hn.member hos, hread⟩

end Node

/-! ### Records -/

/-- The members of a record: those of an object, or the items of an array in the order of the
fields. -/
def recordMembers (fields : List String) : Json → Members
  | .object ms => ms
  | .array vs => fields.zip vs
  | _ => []

section Shape

variable {α : Type} {ms : Members} {name : String} {read : Json → Shape.Result α} {a : α}

lemma exists_of_get (h : Shape.get ms name read = .ok a) :
    ∃ v, ms.get? name = some v ∧ read v = .ok a := by
  unfold Shape.get at h
  split at h
  · exact ⟨_, ‹_›, h⟩
  · exact absurd h throw_ne_ok

lemma exists_of_getD {default : α} (h : Shape.getD ms name read default = .ok a) :
    (∃ v, ms.get? name = some v ∧ read v = .ok a) ∨ ms.get? name = none ∧ a = default := by
  unfold Shape.getD at h
  split at h
  · exact .inl ⟨_, ‹_›, h⟩
  · exact .inr ⟨‹_›, (pure_eq_ok.mp h).symm⟩

lemma eq_of_string {v : Json} {s : String} (h : Shape.string v = .ok s) : v = .string s := by
  cases v with
  | string t => rw [pure_eq_ok.mp h]
  | _ => exact absurd h throw_ne_ok

lemma eq_of_bool {v : Json} {b : Bool} (h : Shape.bool v = .ok b) : v = .bool b := by
  cases v with
  | bool t => rw [pure_eq_ok.mp h]
  | _ => exact absurd h throw_ne_ok

lemma exists_of_optional {v : Json} {o : Option α} (hv : v ≠ .null)
    (h : Shape.optional read v = .ok o) : ∃ a, read v = .ok a ∧ some a = o := by
  unfold Shape.optional at h
  split at h
  · exact absurd rfl hv
  · exact map_eq_ok.mp h

/-- A record that is read has the members of the object, or of the array with its fields. -/
lemma eq_recordMembers_of_record {record : String} {fields : List Shape.Field} {v : Json}
    (h : Shape.record record fields v = .ok ms) : ms = recordMembers (fields.map (·.name)) v := by
  cases v with
  | object os =>
    obtain ⟨_, -, h⟩ := bind_eq_ok.mp h
    split at h
    · exact absurd h throw_ne_ok
    · exact (pure_eq_ok.mp h).symm
  | array vs =>
    obtain ⟨_, -, h⟩ := bind_eq_ok.mp h
    split at h
    · exact absurd h throw_ne_ok
    · split at h
      · exact absurd h throw_ne_ok
      · exact (pure_eq_ok.mp h).symm
  | _ => exact absurd h throw_ne_ok

lemma sublist_map_fst_zip (fields : List String) (vs : List Json) :
    ((fields.zip vs).map (·.1)).Sublist fields := by
  induction fields generalizing vs with
  | nil => simp
  | cons f fields ih =>
    cases vs with
    | nil => simp
    | cons v vs => exact (ih vs).cons_cons f

lemma nodup_recordMembers {fields : List String} {v : Json} (hfields : fields.Nodup)
    (hv : v.Distinct) : ((recordMembers fields v).map (·.1)).Nodup := by
  cases v with
  | object os => exact hv.names
  | array vs => exact hfields.sublist (sublist_map_fst_zip fields vs)
  | _ => exact List.nodup_nil

lemma eq_of_list {v : Json} {names : List String} (h : Shape.list Shape.string v = .ok names) :
    v = .array (names.map .string) := by
  cases v with
  | array vs =>
    have hnames : names.map Json.string = vs.map id :=
      map_eq_of_mapM_eq_ok (fun v s hs => (eq_of_string hs).symm) h
    rw [hnames, List.map_id]
  | _ => exact absurd h throw_ne_ok

/-- A flag that is read is the one of the record, or what stands for it. -/
lemma flag_of_getD {default b : Bool} (h : Shape.getD ms name Shape.bool default = .ok b) :
    ms.Flag name default b := by
  rcases exists_of_getD h with ⟨v, hv, hb⟩ | ⟨hnone, rfl⟩
  · rw [eq_of_bool hb] at hv
    exact .inl (Members.mem_of_get? hv)
  · exact .inr ⟨Members.get?_eq_none_iff.mp hnone, rfl⟩

/-- A list of names that may be missing or null. -/
lemma givesItems_of_getD {o : Option (List String)} (hd : (ms.map (·.1)).Nodup)
    (h : Shape.getD ms name (Shape.optional (Shape.list Shape.string)) none = .ok o) :
    ms.GivesItems name ((o.getD []).map .string) := by
  -- a null reads as no list, and with distinct names nothing else is under the name
  rcases exists_of_getD h with ⟨v, hv, ho⟩ | ⟨hnone, rfl⟩
  · have hmem := Members.mem_of_get? hv
    by_cases hnull : v = .null
    · obtain rfl := hnull
      obtain rfl := pure_eq_ok.mp ho
      exact .inr ⟨fun w hw => Members.eq_of_mem hd hw hmem, rfl⟩
    · obtain ⟨names, hnames, rfl⟩ := exists_of_optional hnull ho
      rw [eq_of_list hnames] at hmem hnull
      exact .inl ⟨hmem, hnull⟩
  · refine .inr ⟨fun w hw => ?_, rfl⟩
    exact absurd (List.mem_map_of_mem hw) (Members.get?_eq_none_iff.mp hnone)

end Shape

end Document

end PromptKit
