import CatalogEntities.Proofs.Text.CharClass
import CatalogEntities.Text.Case
import Mathlib.Data.List.Basic

/-!
ASCII and case. What is no ASCII letter in lower case is none in upper case, and upper case has no
ASCII characters that are neither capitals nor there before.
-/

namespace CatalogEntities.Text

/-- Letters that are those of a lower-case word up to their case. -/
theorem isAsciiLetter_of_asciiLower {cs word : List Char} (h : asciiLower cs = word)
    (hword : word.all isAsciiLetter) {c : Char} (hc : c ∈ cs) : isAsciiLetter c := by
  by_cases hupper : isAsciiUpper c
  · simp [isAsciiLetter, hupper]
  · have himage : c ∈ asciiLower cs := by
      refine List.mem_map.mpr ⟨c, hc, ?_⟩
      rw [if_neg hupper]
    exact List.all_eq_true.mp hword c (h ▸ himage)

/-! ### Upper case -/

/-- Codes of characters: those beyond ASCII and the capitals. -/
def isCapitalCode (code : Nat) : Bool :=
  (65 ≤ code && code ≤ 90) || (128 ≤ code && code < 0xd800) || (0xe000 ≤ code && code < 0x110000)

theorem isAsciiUpper_ofNat {code : Nat} (h : isCapitalCode code)
    (hascii : isAscii (Char.ofNat code)) :
    isAsciiUpper (Char.ofNat code) := by
  simp only [isCapitalCode, Bool.or_eq_true, Bool.and_eq_true, decide_eq_true_eq] at h
  have hvalid : code.isValidChar := by
    simp only [Nat.isValidChar]
    omega
  have hcode : (Char.ofNat code).toNat = code := by
    rw [Char.ofNat, dif_pos hvalid]
    rfl
  have hval : (Char.ofNat code).val.toNat = (Char.ofNat code).toNat := rfl
  simp only [isAscii, decide_eq_true_eq] at hascii
  simp only [isAsciiUpper, Bool.and_eq_true, decide_eq_true_eq, Char.le_def, UInt32.le_iff_toNat_le,
    hval, hcode]
  rw [hcode] at hascii
  simp
  omega

/-- Whether all codes between the two ends of the images of a run are such codes. -/
def CaseRun.isCapital (run : CaseRun) : Bool :=
  let low := run.1 + run.2.2.2
  let high := run.2.1 + run.2.2.2
  (65 ≤ low && high ≤ 90) || (128 ≤ low && high < 0xd800) || (0xe000 ≤ low && high < 0x110000)

theorem upperRuns_capital : ∀ run ∈ upperRuns, CaseRun.isCapital run := by decide +kernel

theorem upperExpansions_capital :
    ∀ entry ∈ upperExpansions, entry.2 ≠ [] ∧ ∀ code ∈ entry.2, isCapitalCode code := by
  decide

theorem exists_capitalCode {run : CaseRun} (h : CaseRun.isCapital run) {n : Nat} {d : Char}
    (hd : CaseRun.image? run n = some d) : ∃ code, isCapitalCode code ∧ d = Char.ofNat code := by
  obtain ⟨first, last, step, offset⟩ := run
  simp only [CaseRun.image?] at hd
  split at hd
  · rename_i hrange
    refine ⟨_, ?_, (Option.some.inj hd).symm⟩
    simp only [CaseRun.isCapital, isCapitalCode, Bool.or_eq_true, Bool.and_eq_true,
      decide_eq_true_eq] at h hrange ⊢
    omega
  · contradiction

theorem isAsciiUpper_of_mem_mapCase {c d : Char} (hc : ¬ isAscii c)
    (h : d ∈ mapCase upperRuns upperExpansions c) (hd : isAscii d) : isAsciiUpper d := by
  unfold mapCase at h
  split at h
  · rename_i codes hlookup
    obtain ⟨code, hcode, rfl⟩ := List.mem_map.mp h
    obtain ⟨before, after, hmem, -⟩ := List.lookup_eq_some_iff.mp hlookup
    have hentry : (c.toNat, codes) ∈ upperExpansions :=
      hmem ▸ List.mem_append_right before List.mem_cons_self
    exact isAsciiUpper_ofNat ((upperExpansions_capital _ hentry).2 code hcode) hd
  · obtain rfl := List.mem_singleton.mp h
    cases himage : upperRuns.findSome? fun run => CaseRun.image? run c.toNat with
    | none =>
      rw [himage] at hd
      exact absurd hd hc
    | some e =>
      rw [himage, Option.getD_some] at hd
      obtain ⟨run, hrun, he⟩ := List.exists_of_findSome?_eq_some himage
      obtain ⟨code, hcode, rfl⟩ := exists_capitalCode (upperRuns_capital run hrun) he
      exact isAsciiUpper_ofNat hcode hd

/-- In upper case there are no ASCII characters but capitals and the character itself, if it has no
case. -/
theorem upperChar_of_isAscii {c d : Char} (h : d ∈ upperChar c) (hd : isAscii d) :
    isAsciiUpper d ∨ d = c ∧ ¬ isAsciiLower c := by
  unfold upperChar at h
  split at h
  · by_cases hlower : isAsciiLower c
    · rw [if_pos hlower] at h
      obtain rfl := List.mem_singleton.mp h
      have hval : c.val.toNat = c.toNat := rfl
      simp only [isAsciiLower, Bool.and_eq_true, decide_eq_true_eq, Char.le_def,
        UInt32.le_iff_toNat_le, hval] at hlower
      simp at hlower
      have hcode : isCapitalCode (c.toNat - 32) := by
        simp only [isCapitalCode, Bool.or_eq_true, Bool.and_eq_true, decide_eq_true_eq]
        omega
      exact .inl (isAsciiUpper_ofNat hcode hd)
    · rw [if_neg hlower] at h
      exact .inr ⟨List.mem_singleton.mp h, hlower⟩
  · rename_i hc
    exact .inl (isAsciiUpper_of_mem_mapCase hc h hd)

theorem upperChar_ne_nil (c : Char) : upperChar c ≠ [] := by
  unfold upperChar
  split
  · exact List.cons_ne_nil _ _
  · unfold mapCase
    split
    · rename_i codes hlookup
      obtain ⟨before, after, hmem, -⟩ := List.lookup_eq_some_iff.mp hlookup
      have hentry : (c.toNat, codes) ∈ upperExpansions :=
        hmem ▸ List.mem_append_right before List.mem_cons_self
      simpa using (upperExpansions_capital _ hentry).1
    · exact List.cons_ne_nil _ _

end CatalogEntities.Text
