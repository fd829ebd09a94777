import CatalogEntities.Proofs.Number.IntegerText
import CatalogEntities.Proofs.Text.Digits

/-!
Texts that are made of digits alone. A number is read from such a text exactly if its digits are
decimal, of whatever scripts, and not too many.

Main result: `Number.readInteger_digits_iff`.
-/

namespace CatalogEntities.Number

open Text

/-- Decimal digits, at least one and not more than are read. -/
structure DigitText (cs : List Char) : Prop where
  ne_nil : cs ≠ []
  decimal : ∀ c ∈ cs, isDecimal c
  fits : cs.length ≤ digitLimit

/-- The number that decimal digits denote. -/
def digitTextValue (cs : List Char) : Nat := ofDigits (cs.filterMap decimalValue?)

theorem decimalValue?_lt {c : Char} {d : Nat} (h : decimalValue? c = some d) : d < 10 := by
  unfold decimalValue? at h
  split at h
  · split at h
    · rename_i hdigit
      have hrange := toNat_of_isAsciiDigit hdigit
      have hzero : '0'.toNat = 48 := rfl
      have hd := Option.some.inj h
      omega
    · contradiction
  · obtain ⟨first, hfirst, rfl⟩ := Option.map_eq_some_iff.mp h
    have hrange := List.find?_some hfirst
    rw [Bool.and_eq_true, decide_eq_true_eq, decide_eq_true_eq] at hrange
    omega

theorem digitValue?_of_isAscii {c : Char} (h : isAscii c) : digitValue? c = decimalValue? c := by
  rw [digitValue?, decimalValue?, if_pos h]

/-- A decimal digit of any script is read as the ASCII digit of its value. -/
theorem digitValue?_plainChar {c : Char} (h : isDecimal c) :
    digitValue? (plainChar c) = decimalValue? c := by
  have hdigits : ∀ d : Fin 10, digitValue? (Char.ofNat ('0'.toNat + d.val)) = some d.val := by
    decide
  have hblank : ¬ isBlank c := not_isBlank_of_isDigit (isDigit_of_isDecimal h)
  obtain ⟨d, hd⟩ := Option.isSome_iff_exists.mp h
  rw [plainChar]
  by_cases hlow : c.toNat < 127
  · rw [if_pos hlow, digitValue?_of_isAscii (decide_eq_true (Nat.lt_succ_of_lt hlow))]
  · rw [if_neg hlow, if_neg hblank, hd]
    exact hdigits ⟨d, decimalValue?_lt hd⟩

section

variable {cs : List Char} (h : ∀ c ∈ cs, isDecimal c)
include h

theorem plain_digits :
    ∃ f : Char → Char, plain cs = cs.map f ∧ ∀ c ∈ cs, digitValue? (f c) = decimalValue? c := by
  obtain ⟨f, hplain, hf⟩ := plain_eq_map cs
  refine ⟨f, hplain, fun c hc => ?_⟩
  rcases hf c hc with himage | ⟨himage, hascii⟩
  · rw [himage, digitValue?_plainChar (h c hc)]
  · rw [himage, digitValue?_of_isAscii hascii]

theorem isAsciiDigit_of_mem_plain {c : Char} (hc : c ∈ plain cs) : isAsciiDigit c := by
  obtain ⟨f, hplain, hf⟩ := plain_digits h
  obtain ⟨e, he, rfl⟩ := List.mem_map.mp (hplain ▸ hc)
  have hsome : (digitValue? (f e)).isSome := (hf e he).symm ▸ h e he
  unfold digitValue? at hsome
  split at hsome
  · assumption
  · contradiction

theorem ofDigitChars_plain : Nat.ofDigitChars 10 (plain cs) 0 = digitTextValue cs := by
  obtain ⟨f, hplain, hf⟩ := plain_digits h
  have hvalues :
      (plain cs).map (fun c => c.toNat - '0'.toNat) = (plain cs).filterMap digitValue? := by
    rw [← List.filterMap_eq_map]
    refine List.filterMap_congr fun c hc => ?_
    rw [digitValue?, if_pos (isAsciiDigit_of_mem_plain h hc)]
    rfl
  rw [← ofDigits_map, hvalues, digitTextValue, hplain, List.filterMap_map]
  exact congrArg ofDigits (List.filterMap_congr hf)

/-- Decimal digits denote their number, unless there are too many of them. -/
theorem readInteger_decimal (hne : cs ≠ []) (literal : String) : readInteger literal cs =
    if digitLimit < cs.length then .error (.tooManyDigits cs.length)
    else .ok (digitTextValue cs : Nat) := by
  have hlength : (plain cs).length = cs.length := by
    obtain ⟨f, hplain, -⟩ := plain_digits h
    rw [hplain, List.length_map]
  rw [readInteger_of_plain hne fun c hc => isAsciiDigit_of_mem_plain h hc, hlength,
    ofDigitChars_plain h]

end

theorem readInteger_digitText {cs : List Char} (h : DigitText cs) (literal : String) :
    readInteger literal cs = .ok (digitTextValue cs : Nat) := by
  rw [readInteger_decimal h.decimal h.ne_nil, if_neg (Nat.not_lt_of_le h.fits)]

/-- Digits that are not decimal, such as a superscript, spoil a number. -/
theorem isDecimal_of_readInteger {literal : String} {cs : List Char} {n : Int}
    (h : readInteger literal cs = .ok n)
    {c : Char} (hc : c ∈ cs) (hdigit : isDigit c) : isDecimal c := by
  rcases standsInNumber_of_mem h hc with ⟨hascii, -⟩ | ⟨-, hblank | hdecimal⟩
  · rw [isDigit, if_pos hascii] at hdigit
    exact isDecimal_of_isAsciiDigit hdigit
  · exact absurd hblank (not_isBlank_of_isDigit hdigit)
  · exact hdecimal

theorem readInteger_digits_iff {cs : List Char} (hne : cs ≠ []) (h : ∀ c ∈ cs, isDigit c)
    (literal : String) :
    (∃ n, readInteger literal cs = .ok n) ↔ DigitText cs := by
  refine ⟨?_, fun hdigits => ⟨_, readInteger_digitText hdigits literal⟩⟩
  rintro ⟨n, hread⟩
  have hdecimal : ∀ c ∈ cs, isDecimal c := fun c hc => isDecimal_of_readInteger hread hc (h c hc)
  refine ⟨hne, hdecimal, Nat.le_of_not_lt fun hlong => ?_⟩
  rw [readInteger_decimal hdecimal hne, if_pos hlong] at hread
  contradiction

end CatalogEntities.Number
