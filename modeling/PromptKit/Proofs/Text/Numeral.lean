import Mathlib.Tactic.Common
import PromptKit.Decimal.Reading
import PromptKit.Proofs.Text.Blank

/-!
Whole numbers in texts.

A whole number that is written in decimal reads back as itself, as a whole number and as the
double nearest to it. Blanks around it are trimmed before.
-/

namespace PromptKit

namespace Text

/-- Digits have no upper case. -/
lemma lowerAscii_of_forall_isDigit {cs : List Char} (h : ∀ c ∈ cs, c.isDigit) :
    lowerAscii (String.ofList cs) = String.ofList cs := by
  have hlower : cs.map Char.toLower = cs := by
    refine (List.map_congr_left fun c hc => ?_).trans (List.map_id cs)
    have hle : c.toNat ≤ 57 := (Char.isDigit_iff_toNat.mp (h c hc)).2
    have hupper : ¬ (65 ≤ c.toNat ∧ c.toNat ≤ 90) := by omega
    exact dif_neg hupper
  rw [lowerAscii, String.toList_ofList, hlower]

end Text

namespace Decimal

variable {n : Nat}

lemma isDigit_of_mem_toDigits {c : Char} (h : c ∈ Nat.toDigits 10 n) : c.isDigit :=
  Nat.isDigit_of_mem_toDigits (by decide) (by decide) h

lemma appendDigits_toDigits (n : Nat) : appendDigits 0 (Nat.toDigits 10 n) = n := by
  have h : appendDigits 0 (Nat.toDigits 10 n) = Nat.ofDigitChars 10 (Nat.toDigits 10 n) 0 :=
    Nat.ofDigitChars_eq_foldl.symm
  rw [h, Nat.ofDigitChars_ten_toDigits]

lemma natural?_toDigits (n : Nat) : natural? (Nat.toDigits 10 n) = some n := by
  have hdigits : (Nat.toDigits 10 n).all Char.isDigit :=
    List.all_eq_true.mpr fun c hc => isDigit_of_mem_toDigits hc
  simp [natural?, hdigits, Nat.toDigits_ne_nil, appendDigits_toDigits]

/-- Digits have no sign in front. -/
lemma splitSign_of_forall_isDigit {cs : List Char} (h : ∀ c ∈ cs, c.isDigit) :
    splitSign cs = (false, cs) := by
  unfold splitSign
  split
  · exact absurd (h '+' List.mem_cons_self) (by decide)
  · exact absurd (h '-' List.mem_cons_self) (by decide)
  · rfl

lemma toList_toString_nat (n : Nat) : (toString n).toList = Nat.toDigits 10 n := by
  have h : toString n = n.repr := rfl
  rw [h]
  simp

lemma toList_toString_int (k : Int) :
    (toString k).toList =
      if 0 ≤ k then Nat.toDigits 10 k.toNat else '-' :: Nat.toDigits 10 (-k).toNat := by
  have h : toString k = k.repr := rfl
  rw [h, Int.repr_eq_if]
  split
  · simp
  · simp

lemma not_isBlank_of_mem_toString {k : Int} {c : Char} (h : c ∈ (toString k).toList) :
    ¬ Text.isBlank c := by
  rw [toList_toString_int] at h
  split at h
  · exact Text.not_isBlank_of_isDigit (isDigit_of_mem_toDigits h)
  · rcases List.mem_cons.mp h with rfl | h
    · decide
    · exact Text.not_isBlank_of_isDigit (isDigit_of_mem_toDigits h)

/-- A whole number is read back as it was written. -/
lemma integer?_toString (k : Int) : integer? (toString k).toList = some k := by
  rw [toList_toString_int]
  split
  · rename_i hk
    have hsign := splitSign_of_forall_isDigit fun c hc => isDigit_of_mem_toDigits (n := k.toNat) hc
    simp only [integer?, hsign, natural?_toDigits, Option.map_some]
    exact congrArg some (Int.toNat_of_nonneg hk)
  · rename_i hk
    have hneg : Int.ofNat (-k).toNat = -k := Int.toNat_of_nonneg (by omega)
    simp only [integer?, splitSign, natural?_toDigits, Option.map_some, if_pos, hneg, Int.neg_neg]

/-- As a double, the digits of a number stand for the double nearest to it. -/
lemma read?_toDigits (n : Nat) :
    read? (String.ofList (Nat.toDigits 10 n)) = some (nearest n 0) := by
  have hdigits : ∀ c ∈ Nat.toDigits 10 n, c.isDigit := fun c hc => isDigit_of_mem_toDigits hc
  -- the names of the special values have letters
  have hname (name : String) (c : Char) (hc : c ∈ name.toList) (hletter : ¬ c.isDigit) :
      String.ofList (Nat.toDigits 10 n) ≠ name := by
    rintro rfl
    rw [String.toList_ofList] at hc
    exact hletter (hdigits c hc)
  have hinf := hname "inf" 'i' (by decide) (by decide)
  have hinfinity := hname "infinity" 'i' (by decide) (by decide)
  have hnan := hname "nan" 'n' (by decide) (by decide)
  have hwhole : (Nat.toDigits 10 n).takeWhile Char.isDigit = Nat.toDigits 10 n :=
    List.takeWhile_eq_self_iff.mpr hdigits
  have hrest : (Nat.toDigits 10 n).dropWhile Char.isDigit = [] :=
    List.dropWhile_eq_nil_iff.mpr hdigits
  have hmagnitude : magnitude? (Nat.toDigits 10 n) = some (nearest n 0) := by
    simp [magnitude?, hwhole, hrest, Nat.toDigits_ne_nil, exponent?, appendDigits_toDigits]
  simp [read?, splitSign_of_forall_isDigit hdigits, Text.lowerAscii_of_forall_isDigit hdigits,
    hinf, hinfinity, hnan, hmagnitude]

end Decimal

end PromptKit
