import PromptKit.Unicode.Category

/-!
The decimal digits of all scripts.

Every script that has decimal digits has ten of them in a row, from zero to nine.
-/

namespace PromptKit.Unicode

/-- The characters of the general category of decimal digits. -/
def isDecimalDigit (c : Char) : Bool := Category.ndRanges.contains c.toNat

theorem isDecimalDigit_of_isDigit {c : Char} (h : c.isDigit) : isDecimalDigit c := by
  simp only [Char.isDigit, Bool.and_eq_true, decide_eq_true_eq, ge_iff_le] at h
  have h1 : 48 ≤ c.toNat := UInt32.le_iff_toNat_le.1 h.1
  have h2 : c.toNat ≤ 57 := UInt32.le_iff_toNat_le.1 h.2
  refine List.any_eq_true.2 ⟨(0x30, 0x39), List.mem_cons_self, ?_⟩
  simp
  omega

end PromptKit.Unicode
