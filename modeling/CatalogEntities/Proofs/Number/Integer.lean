import CatalogEntities.Number.Integer
import CatalogEntities.Proofs.Text.CharClass

/-!
Decimal text of a number is read back as that number.

Main result: `Number.integerOfText_natText`.
-/

namespace CatalogEntities.Number

open Text

theorem isAsciiDigit_of_mem_natText {n : Nat} {c : Char} (h : c ∈ (natText n).toList) :
    isAsciiDigit c := by
  rw [natText, String.toList_ofList] at h
  have hdigit : c.isDigit := Nat.isDigit_of_mem_toDigits (by decide) (by decide) h
  simpa [isAsciiDigit, Char.isDigit, Char.le_def] using hdigit

theorem natText_ne_nil (n : Nat) : (natText n).toList ≠ [] := by
  rw [natText, String.toList_ofList]
  exact Nat.toDigits_ne_nil

theorem digitRun?_digits {cs : List Char} (h : ∀ c ∈ cs, isAsciiDigit c) :
    digitRun? false cs = some (cs.map fun c => c.toNat - '0'.toNat, []) := by
  induction cs with
  | nil => rfl
  | cons c rest ih =>
    have hc := h c List.mem_cons_self
    have hunderscore : ¬ (c == '_') := by
      intro he
      rw [eq_of_beq he] at hc
      contradiction
    rw [digitRun?, if_neg hunderscore, digitValue?, if_pos hc,
      ih fun d hd => h d (List.mem_cons_of_mem c hd)]
    rfl

/-- A digit may stand where one is due. -/
theorem digitRun?_due {c : Char} (hc : isAsciiDigit c) (rest : List Char) :
    digitRun? true (c :: rest) = digitRun? false (c :: rest) := by
  have hunderscore : ¬ (c == '_') := by
    intro he
    rw [eq_of_beq he] at hc
    contradiction
  rw [digitRun?, digitRun?, if_neg hunderscore, if_neg hunderscore, digitValue?, if_pos hc]

theorem ofDigits_map (cs : List Char) :
    ofDigits (cs.map fun c => c.toNat - '0'.toNat) = Nat.ofDigitChars 10 cs 0 := by
  rw [ofDigits, List.foldl_map, Nat.ofDigitChars_eq_foldl]

/-- A text in digits alone is refused only for the number of its digits. -/
theorem readInteger_of_plain {cs : List Char} (hne : cs ≠ [])
    (hdigits : ∀ c ∈ plain cs, isAsciiDigit c) (literal : String) : readInteger literal cs =
      if digitLimit < (plain cs).length then .error (.tooManyDigits (plain cs).length)
      else .ok (Nat.ofDigitChars 10 (plain cs) 0 : Nat) := by
  have hplain : plain cs ≠ [] := by
    unfold plain
    split <;> simpa using hne
  obtain ⟨c, rest, hcs⟩ := List.exists_cons_of_ne_nil hplain
  rw [hcs] at hdigits ⊢
  have hc := hdigits c List.mem_cons_self
  have hblank : ¬ isAsciiBlank c := by
    have hrange := toNat_of_isAsciiDigit hc
    simp only [isAsciiBlank, Bool.or_eq_true, Bool.and_eq_true, decide_eq_true_eq, beq_iff_eq]
    omega
  have hsign : takeSign (c :: rest) = (false, c :: rest) := by
    unfold takeSign
    split
    · rename_i heq
      rw [(List.cons.inj heq).1] at hc
      contradiction
    · rename_i heq
      rw [(List.cons.inj heq).1] at hc
      contradiction
    · rfl
  rw [readInteger, hcs, List.dropWhile_cons_of_neg hblank, hsign]
  simp only [digitRun?_due hc, digitRun?_digits hdigits, ofDigits_map, List.length_map]
  rfl

theorem integerOfText_natText {n : Nat} (h : (natText n).length ≤ digitLimit) :
    integerOfText (natText n) = .ok n := by
  have hdigits : ∀ c ∈ (natText n).toList, isAsciiDigit c :=
    fun c hc => isAsciiDigit_of_mem_natText hc
  have hplain : plain (natText n).toList = (natText n).toList :=
    if_pos (List.all_eq_true.mpr fun c hc => isAscii_of_isAsciiDigit (hdigits c hc))
  have hlength : ¬ digitLimit < (natText n).toList.length := by
    rw [String.length_toList]
    omega
  have hvalue : Nat.ofDigitChars 10 (natText n).toList 0 = n := by
    rw [natText, String.toList_ofList, Nat.ofDigitChars_ten_toDigits]
  rw [integerOfText, readInteger_of_plain (natText_ne_nil n) (hplain.symm ▸ hdigits), hplain,
    if_neg hlength, hvalue]

end CatalogEntities.Number
