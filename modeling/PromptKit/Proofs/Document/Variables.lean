import PromptKit.Proofs.Document.WellFormed
import PromptKit.Proofs.Success

/-!
The variables that a document declares are well-formed.

Each reader has one lemma, which uses those of the readers that it calls. What an optional object
gives is what stands for an absent one, or it was read.
-/

namespace PromptKit.Document

open Node (rejectIf)

/-! ### Checks and optional objects -/

@[simp] lemma Node.rejectIf_eq_ok {bad : Bool} {path : FieldPath} {fault : Fault} {u : Unit} :
    rejectIf bad path fault = .ok u ↔ bad = false := by
  cases bad with
  | false => simp [rejectIf]
  | true => simp [rejectIf]

lemma Node.eq_or_exists_of_ofObject {α : Type} {n : Node} {key : String} {absent a : α}
    {read : Node → Node.Result α} (h : n.ofObject key absent read = .ok a) :
    a = absent ∨ ∃ m, read m = .ok a := by
  unfold ofObject at h
  obtain ⟨_ | m, -, h⟩ := bind_eq_ok.mp h
  · exact .inl (pure_eq_ok.mp h).symm
  · exact .inr ⟨m, h⟩

/-! ### Variables -/

/-- Variables that are null are left out. -/
lemma readVariables_eq_match (n : Node) :
    readVariables n = match n.members.present? "variables" with
      | none => pure []
      | some (.array vs) => (Node.indexed vs).mapM (readListed (n.child "variables"))
      | some (.object ms) => ms.mapM fun m => readKeyed ⟨ms, n.child "variables"⟩ m.1
      | some v => Node.reject (n.child "variables") (.kind .variableList v.kind) := by
  rw [readVariables, Members.present?]
  rcases n.members.get? "variables" with _ | v
  · rfl
  · cases v <;> rfl

/-- A default that is converted has the declared type. -/
lemma type_of_convert? {t : ValueType} {v w : Value} (h : convert? t v = some w) : w.type = t := by
  unfold convert? at h
  split at h
  · rename_i hv
    obtain rfl := Option.some.inj h
    simpa [Value.isA] using hv
  · split at h
    · obtain rfl := Option.some.inj h
      rfl
    · obtain rfl := Option.some.inj h
      rfl
    · obtain ⟨n, -, rfl⟩ := Option.map_eq_some_iff.mp h
      rfl
    · obtain ⟨b, -, rfl⟩ := Option.map_eq_some_iff.mp h
      rfl
    · cases h

lemma type_of_readPresence {n : Node} {t : ValueType} {d : Value}
    (h : readPresence n t = .ok (.default d)) : d.type = t := by
  unfold readPresence at h
  obtain ⟨required, -, h⟩ := bind_eq_ok.mp h
  split at h
  · cases h
  · cases h
  · cases h
  · split at h
    · rename_i w hw
      cases h
      exact type_of_convert? hw
    · cases h

lemma le_of_checkLengths {n : Node} {least most : Nat} {u : Unit}
    (h : checkLengths n (some least) (some most) = .ok u) : least ≤ most := by
  simpa [checkLengths] using h

lemma le_of_readRules {n : Node} {r : VariableRules} (h : readRules n = .ok r) :
    ∀ least most, r.minLength = some least → r.maxLength = some most → least ≤ most := by
  simp only [readRules, bind_eq_ok, pure_eq_ok] at h
  obtain ⟨pattern, -, minLength, -, maxLength, -, _, hlengths, minimum, -, maximum, -, allowed, -,
    rfl⟩ := h
  rintro least most rfl rfl
  exact le_of_checkLengths hlengths

lemma wellFormed_of_readVariable {name : String} {n : Node} {v : Variable}
    (h : readVariable name n = .ok v) : v.WellFormed := by
  simp only [readVariable, bind_eq_ok, Node.placed_eq_ok, pure_eq_ok] at h
  obtain ⟨_, hname, type, -, description, -, presence, hpresence, rules, hrules, rfl⟩ := h
  refine ⟨Name.isSymbol_of_checkSymbol hname, fun hrequired => ?_, fun d hd => ?_, ?_⟩
  · cases presence with
    | optional => rfl
    | required => rfl
    | default d => simp [Variable.isRequired] at hrequired
  · cases presence with
    | optional => cases hd
    | required => cases hd
    | default w =>
      cases hd
      exact type_of_readPresence hpresence
  · rcases Node.eq_or_exists_of_ofObject hrules with rfl | ⟨m, hm⟩
    · rintro least most ⟨⟩
    · exact le_of_readRules hm

/-- Both forms of variables are read by way of `readVariable`. -/
lemma wellFormed_of_readVariables {n : Node} {vs : List Variable}
    (h : readVariables n = .ok vs) : ∀ v ∈ vs, v.WellFormed := by
  unfold readVariables at h
  split at h
  · cases h
    simp
  · cases h
    simp
  · intro v hv
    obtain ⟨iv, -, hread⟩ := exists_of_mapM_eq_ok h v hv
    simp only [readListed, bind_eq_ok] at hread
    obtain ⟨entry, -, name, -, hread⟩ := hread
    exact wellFormed_of_readVariable hread
  · intro v hv
    obtain ⟨m, -, hread⟩ := exists_of_mapM_eq_ok h v hv
    simp only [readKeyed, bind_eq_ok] at hread
    obtain ⟨entry, -, name, -, _, -, hread⟩ := hread
    exact wellFormed_of_readVariable hread
  · cases h

end PromptKit.Document
