import CatalogEntities.Proofs.Text.Capital

/-!
Digits beyond ASCII. Decimal digits of all scripts are digits in the wide sense, and no letter,
numeral or digit is a blank.
-/

namespace CatalogEntities.Text

/-- The codes of decimal digits beyond ASCII, as ranges. -/
def decimalTable : CharTable := (decimalZeros.drop 1).map fun first => (first, first + 9)

/-- The codes of blanks, as ranges. -/
def blankTable : CharTable :=
  [(9, 13), (28, 32), (0x85, 0x85), (0xa0, 0xa0), (0x1680, 0x1680), (0x2000, 0x200a),
    (0x2028, 0x2029), (0x202f, 0x202f), (0x205f, 0x205f), (0x3000, 0x3000)]

theorem digitTables_parts : decimalTable.within digitTable ∧
    blankTable.apart ([(48, 57)] ++ digitTable) := by decide +kernel

theorem blankTable_apart :
    blankTable.apart ([(48, 57), (65, 90), (97, 122)] ++ letterTable ++ numeralTable) := by
  decide +kernel

theorem blankTable_holds {c : Char} (h : isBlank c) : blankTable.Holds c.toNat := by
  simp only [isBlank, Bool.or_eq_true, Bool.and_eq_true, decide_eq_true_eq, beq_iff_eq] at h
  simp only [CharTable.Holds, blankTable, List.exists_mem_cons_iff]
  omega

theorem decimalTable_holds {c : Char} (hascii : ¬ isAscii c) (h : isDecimal c) :
    decimalTable.Holds c.toNat := by
  simp only [isDecimal, decimalValue?, if_neg hascii, Option.isSome_map, List.find?_isSome,
    Bool.and_eq_true, decide_eq_true_eq] at h
  obtain ⟨first, hfirst, hlow, hhigh⟩ := h
  have hzeros : decimalZeros = 0x30 :: decimalZeros.drop 1 := rfl
  rw [hzeros] at hfirst
  rcases List.mem_cons.mp hfirst with rfl | hfirst
  · exact absurd (decide_eq_true (show c.toNat < 128 by omega)) hascii
  · exact ⟨_, List.mem_map_of_mem hfirst, hlow, hhigh⟩

theorem isAsciiDigit_of_isDecimal {c : Char} (hascii : isAscii c) (h : isDecimal c) :
    isAsciiDigit c := by
  by_contra hnone
  simp [isDecimal, decimalValue?, hascii, hnone] at h

theorem isDigit_of_isDecimal {c : Char} (h : isDecimal c) : isDigit c := by
  by_cases hascii : isAscii c
  · rw [isDigit, if_pos hascii, isAsciiDigit_of_isDecimal hascii h]
  · rw [isDigit, if_neg hascii]
    exact CharTable.has_iff.mpr
      (CharTable.holds_of_within digitTables_parts.1 (decimalTable_holds hascii h))

theorem not_isBlank_of_isDigit {c : Char} (h : isDigit c) : ¬ isBlank c := by
  intro hblank
  refine CharTable.not_holds_of_apart digitTables_parts.2 (blankTable_holds hblank) ?_
  rw [CharTable.holds_append]
  by_cases hascii : isAscii c
  · rw [isDigit, if_pos hascii] at h
    exact .inl ⟨_, List.mem_singleton_self _, toNat_of_isAsciiDigit h⟩
  · rw [isDigit, if_neg hascii] at h
    exact .inr (CharTable.has_iff.mp h)

theorem not_isLetterOrNumeral_of_isBlank {c : Char} (h : isBlank c) : ¬ isLetterOrNumeral c := by
  have hkind := CharTable.not_holds_of_apart blankTable_apart (blankTable_holds h)
  rw [CharTable.holds_append, CharTable.holds_append, not_or, not_or] at hkind
  obtain ⟨⟨hascii, hletter⟩, hnumeral⟩ := hkind
  rw [← CharTable.has_iff] at hletter hnumeral
  have hval : c.val.toNat = c.toNat := rfl
  intro hc
  by_cases hlow : isAscii c
  · refine hascii ?_
    simp only [isLetterOrNumeral, isLetter, isNumeral, if_pos hlow, isAsciiLetter, isAsciiUpper,
      isAsciiLower, isAsciiDigit, Bool.or_eq_true, Bool.and_eq_true, decide_eq_true_eq, Char.le_def,
      UInt32.le_iff_toNat_le, hval] at hc
    simp only [CharTable.Holds, List.exists_mem_cons_iff]
    simp at hc ⊢
    omega
  · simp [isLetterOrNumeral, isLetter, isNumeral, hlow, hletter, hnumeral] at hc

end CatalogEntities.Text
