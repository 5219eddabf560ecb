import Mathlib.Tactic.Common
import PromptKit.Name

/-!
The grammars of names.

A name is a first character and others, each out of a class of its own. The checks of names
accept what their grammars describe.
-/

namespace PromptKit.Name

/-- A text of one character of the class `first` and any number of the class `rest`. -/
def Spells (first rest : Char → Prop) (s : String) : Prop :=
  ∃ c cs, s.toList = c :: cs ∧ first c ∧ ∀ x ∈ cs, rest x

def IsLower (c : Char) : Prop := 'a' ≤ c ∧ c ≤ 'z'

def IsLetter (c : Char) : Prop := IsLower c ∨ 'A' ≤ c ∧ c ≤ 'Z'

def IsDigit (c : Char) : Prop := '0' ≤ c ∧ c ≤ '9'

/-- `[a-z][a-z0-9-]*` -/
def IsPackId : String → Prop := Spells IsLower fun c => IsLower c ∨ IsDigit c ∨ c = '-'

/-- `[a-z][a-z0-9_-]*` -/
def IsPromptId : String → Prop :=
  Spells IsLower fun c => IsLower c ∨ IsDigit c ∨ c = '-' ∨ c = '_'

/-- `[A-Za-z_][A-Za-z0-9_]*` -/
def IsSymbol : String → Prop :=
  Spells (fun c => IsLetter c ∨ c = '_') fun c => IsLetter c ∨ IsDigit c ∨ c = '_'

lemma isLower_iff {c : Char} : c.isLower ↔ IsLower c := by
  have h : c.isLower = (decide ('a' ≤ c) && decide (c ≤ 'z')) := rfl
  rw [h, Bool.and_eq_true, decide_eq_true_iff, decide_eq_true_iff, IsLower]

lemma isUpper_iff {c : Char} : c.isUpper ↔ 'A' ≤ c ∧ c ≤ 'Z' := by
  have h : c.isUpper = decide ('A' ≤ c ∧ c ≤ 'Z') := rfl
  rw [h, decide_eq_true_iff]

lemma isDigit_iff {c : Char} : c.isDigit ↔ IsDigit c := by
  have h : c.isDigit = (decide ('0' ≤ c) && decide (c ≤ '9')) := rfl
  rw [h, Bool.and_eq_true, decide_eq_true_iff, decide_eq_true_iff, IsDigit]

lemma isAlpha_iff {c : Char} : c.isAlpha ↔ IsLetter c := by
  have h : c.isAlpha = (c.isUpper || c.isLower) := rfl
  rw [h, Bool.or_eq_true, isUpper_iff, isLower_iff, or_comm, IsLetter]

lemma isWordChar_iff {c : Char} : isWordChar c ↔ IsLetter c ∨ IsDigit c ∨ c = '_' := by
  have h : isWordChar c = (c.isAlpha || c.isDigit || decide (c = '_')) := rfl
  rw [h, Bool.or_eq_true, Bool.or_eq_true, isAlpha_iff, isDigit_iff, decide_eq_true_iff, or_assoc]

lemma isLowercaseId_iff {underscores : Bool} {s : String} :
    isLowercaseId underscores s.toList ↔
      Spells IsLower (fun c => IsLower c ∨ IsDigit c ∨ c = '-' ∨ (underscores ∧ c = '_')) s := by
  unfold Spells
  rcases s.toList with _ | ⟨c, cs⟩
  · simp [isLowercaseId]
  · simp [isLowercaseId, isIdChar, isLower_iff, isDigit_iff, or_assoc]

lemma isSymbol_iff {s : String} : isSymbol s.toList ↔ IsSymbol s := by
  unfold IsSymbol Spells
  rcases s.toList with _ | ⟨c, cs⟩
  · simp [isSymbol]
  · simp [isSymbol, isWordChar_iff, isAlpha_iff]

lemma length_le_utf8ByteSize (s : String) : s.length ≤ s.utf8ByteSize := by
  obtain ⟨cs, rfl⟩ : ∃ cs, s = String.ofList cs := ⟨s.toList, String.ofList_toList.symm⟩
  induction cs with
  | nil => simp
  | cons c cs ih =>
    have hpos := c.utf8Size_pos
    rw [String.length_ofList] at ih
    calc (String.ofList (c :: cs)).length = cs.length + 1 := by
          rw [String.length_ofList, List.length_cons]
      _ ≤ c.utf8Size + (String.ofList cs).utf8ByteSize := by omega
      _ = (String.ofList (c :: cs)).utf8ByteSize := by
          rw [String.ofList_cons, String.utf8ByteSize_append, String.utf8ByteSize_singleton]

/-! ### What the checks accept -/

lemma isPackId_of_checkPackId {id : String} (h : checkPackId id = .ok ()) :
    IsPackId id ∧ id.length ≤ maxPackId := by
  unfold checkPackId at h
  split at h
  · cases h
  · rename_i hlength
    split at h
    · rename_i hid
      refine ⟨?_, ?_⟩
      · simpa [IsPackId] using isLowercaseId_iff.mp hid
      · have := length_le_utf8ByteSize id
        omega
    · cases h

lemma isPromptId_of_checkPromptId {id : String} (h : checkPromptId id = .ok ()) :
    IsPromptId id := by
  unfold checkPromptId at h
  split at h
  · rename_i hid
    simpa [IsPromptId] using isLowercaseId_iff.mp hid
  · cases h

lemma isSymbol_of_checkSymbol {name : String} (h : checkSymbol name = .ok ()) :
    IsSymbol name := by
  unfold checkSymbol at h
  split at h
  · rename_i hname
    exact isSymbol_iff.mp hname
  · cases h

end PromptKit.Name
