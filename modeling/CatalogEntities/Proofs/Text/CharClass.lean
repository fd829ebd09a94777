import CatalogEntities.Text.CharClass

/-!
Classes of ASCII characters.
-/

namespace CatalogEntities.Text

theorem toNat_of_isAsciiLetter {c : Char} (h : isAsciiLetter c) :
    65 ≤ c.toNat ∧ c.toNat ≤ 90 ∨ 97 ≤ c.toNat ∧ c.toNat ≤ 122 := by
  have hval : c.val.toNat = c.toNat := rfl
  simp only [isAsciiLetter, isAsciiUpper, isAsciiLower, Bool.or_eq_true, Bool.and_eq_true,
    decide_eq_true_eq, Char.le_def, UInt32.le_iff_toNat_le, hval] at h
  exact h

theorem isAscii_of_isAsciiLetter {c : Char} (h : isAsciiLetter c) : isAscii c := by
  have hrange := toNat_of_isAsciiLetter h
  rw [isAscii, decide_eq_true_eq]
  omega

theorem not_isBlank_of_isAsciiLetter {c : Char} (h : isAsciiLetter c) : ¬ isBlank c := by
  have hrange := toNat_of_isAsciiLetter h
  simp only [isBlank, Bool.or_eq_true, Bool.and_eq_true, decide_eq_true_eq, beq_iff_eq]
  omega

theorem toNat_of_isAsciiDigit {c : Char} (h : isAsciiDigit c) : 48 ≤ c.toNat ∧ c.toNat ≤ 57 := by
  have hval : c.val.toNat = c.toNat := rfl
  simp only [isAsciiDigit, Bool.and_eq_true, decide_eq_true_eq, Char.le_def, UInt32.le_iff_toNat_le,
    hval] at h
  exact h

theorem isAscii_of_isAsciiDigit {c : Char} (h : isAsciiDigit c) : isAscii c := by
  have hrange := toNat_of_isAsciiDigit h
  rw [isAscii, decide_eq_true_eq]
  omega

theorem isDecimal_of_isAsciiDigit {c : Char} (h : isAsciiDigit c) : isDecimal c := by
  rw [isDecimal, decimalValue?, if_pos (isAscii_of_isAsciiDigit h), if_pos h]
  rfl

end CatalogEntities.Text
