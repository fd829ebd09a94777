import CatalogEntities.Proofs.Number.Integer
import CatalogEntities.Proofs.Text.Identifier
import CatalogEntities.Proofs.Text.Span
import Mathlib.Algebra.Group.Nat.Defs

/-!
Texts that are read as integers: blanks, perhaps a sign, digits with underscores among them, and
blanks again. Such a text has no letters and so no case; its number can be written, and the numeral
of source text that is written for it denotes the same number.

Main results: `Number.exists_parts`, `Number.sourceInteger?_integerText`.
-/

namespace CatalogEntities.Number

open Text

/-! ### Characters in the form that numbers are read in -/

/-- A text is taken as it is only if all of it is ASCII. -/
theorem plain_eq_map (cs : List Char) :
    ∃ f : Char → Char, plain cs = cs.map f ∧ ∀ c ∈ cs, f c = plainChar c ∨ f c = c ∧ isAscii c := by
  unfold plain
  split
  · rename_i hascii
    exact ⟨id, (List.map_id cs).symm, fun c hc => .inr ⟨rfl, List.all_eq_true.mp hascii c hc⟩⟩
  · exact ⟨plainChar, rfl, fun c _ => .inl rfl⟩

theorem isBlank_plainChar {c : Char} (h : isBlank c) : isBlank (plainChar c) := by
  unfold plainChar
  split
  · exact h
  · decide

theorem isBlank_of_isAsciiBlank {c : Char} (h : isAsciiBlank c) : isBlank c := by
  simp only [isAsciiBlank, isBlank, Bool.or_eq_true, Bool.and_eq_true, decide_eq_true_eq,
    beq_iff_eq] at h ⊢
  omega

theorem filterMap_digitValue?_of_blank {cs : List Char} (h : ∀ c ∈ cs, isBlank c) :
    cs.filterMap digitValue? = [] := by
  rw [List.filterMap_eq_nil_iff]
  intro c hc
  have hblank := h c hc
  simp only [isBlank, Bool.or_eq_true, Bool.and_eq_true, decide_eq_true_eq, beq_iff_eq] at hblank
  refine if_neg fun hdigit => ?_
  have hrange := toNat_of_isAsciiDigit hdigit
  omega

/-- ASCII characters of a number and of the blanks around it. -/
def isNumberChar (c : Char) : Bool :=
  isAsciiBlank c || isAsciiDigit c || c == '+' || c == '-' || c == '_'

theorem not_isNumberChar_of_isAsciiLetter {c : Char} (h : isAsciiLetter c) : ¬ isNumberChar c := by
  have hcode := toNat_of_isAsciiLetter h
  intro hnumber
  simp only [isNumberChar, Bool.or_eq_true, beq_iff_eq] at hnumber
  rcases hnumber with (((hblank | hdigit) | rfl) | rfl) | rfl
  · exact not_isBlank_of_isAsciiLetter h (isBlank_of_isAsciiBlank hblank)
  · have hrange := toNat_of_isAsciiDigit hdigit
    omega
  all_goals contradiction

/-- Characters that may stand in a text that is read as a number. -/
def StandsInNumber (c : Char) : Prop :=
  isAscii c ∧ isNumberChar c ∨ ¬ isAscii c ∧ (isBlank c ∨ isDecimal c)

theorem standsInNumber_of_plainChar {c : Char} (h : isNumberChar (plainChar c)) :
    StandsInNumber c := by
  unfold plainChar at h
  split at h
  · rename_i hlow
    exact .inl ⟨by rw [isAscii, decide_eq_true_eq]; omega, h⟩
  · split at h
    · rename_i hhigh hblank
      refine .inr ⟨fun hascii => ?_, .inl hblank⟩
      -- the one character that is left of ASCII is no blank
      have hcode : c.toNat = 127 := by
        rw [isAscii, decide_eq_true_eq] at hascii
        omega
      simp [isBlank, hcode] at hblank
    · split at h
      · rename_i hhigh hblank d hd
        refine .inr ⟨fun hascii => ?_, .inr (by rw [isDecimal, hd]; rfl)⟩
        rw [decimalValue?, if_pos hascii] at hd
        split at hd
        · rename_i hdigit
          have hrange := toNat_of_isAsciiDigit hdigit
          omega
        · contradiction
      · exact absurd h (by decide)

/-! ### Numbers have no case -/

/-- Decimal digits and blanks beyond ASCII. -/
def numberCodes : CharTable :=
  decimalZeros.map (fun first => (first, first + 9)) ++
    [(0x85, 0x85), (0xa0, 0xa0), (0x1680, 0x1680), (0x2000, 0x200a), (0x2028, 0x2029),
      (0x202f, 0x202f), (0x205f, 0x205f), (0x3000, 0x3000)]

theorem numberCodes_apart : numberCodes.apart (caseTable lowerRuns lowerExpansions) := by
  decide +kernel

theorem numberCodes_holds {c : Char} (hc : ¬ isAscii c) (h : isBlank c ∨ isDecimal c) :
    numberCodes.Holds c.toNat := by
  rw [numberCodes, CharTable.holds_append]
  rcases h with hblank | hdecimal
  · right
    have hhigh : 128 ≤ c.toNat := by
      rw [isAscii, decide_eq_true_eq] at hc
      omega
    simp only [isBlank, Bool.or_eq_true, Bool.and_eq_true, decide_eq_true_eq, beq_iff_eq] at hblank
    simp only [CharTable.Holds, List.mem_cons, List.not_mem_nil, or_false, exists_eq_or_imp,
      exists_eq_left]
    omega
  · left
    rw [isDecimal, decimalValue?, if_neg hc, Option.isSome_map] at hdecimal
    obtain ⟨first, hfirst⟩ := Option.isSome_iff_exists.mp hdecimal
    have hrange := List.find?_some hfirst
    rw [Bool.and_eq_true, decide_eq_true_eq, decide_eq_true_eq] at hrange
    exact ⟨(first, first + 9), List.mem_map_of_mem (List.mem_of_find?_eq_some hfirst), hrange⟩

theorem StandsInNumber.lowerChar_eq {c : Char} (h : StandsInNumber c) : lowerChar c = [c] := by
  unfold lowerChar
  rcases h with ⟨hascii, hnumber⟩ | ⟨hascii, hkind⟩
  · have hupper : ¬ isAsciiUpper c := fun hupper =>
      absurd hnumber (not_isNumberChar_of_isAsciiLetter (by simp [isAsciiLetter, hupper]))
    rw [if_pos hascii, if_neg hupper]
  · rw [if_neg hascii]
    exact mapCase_of_not_holds
      (CharTable.not_holds_of_apart numberCodes_apart (numberCodes_holds hascii hkind))

/-! ### The parts of a number -/

/-- The parts of a text that denotes an integer. -/
structure Parts (cs before sign run after : List Char) (n : Int) : Prop where
  text : plain cs = before ++ (sign ++ (run ++ after))
  before_blank : ∀ c ∈ before, isAsciiBlank c
  sign_cases : sign = [] ∨ sign = ['+'] ∨ sign = ['-']
  run_digits : ∀ c ∈ run, c = '_' ∨ isAsciiDigit c
  after_blank : ∀ c ∈ after, isAsciiBlank c
  digits_ne_nil : run.filterMap digitValue? ≠ []
  digits_fit : (run.filterMap digitValue?).length ≤ digitLimit
  value : n = if sign = ['-'] then -(ofDigits (run.filterMap digitValue?) : Int)
    else ofDigits (run.filterMap digitValue?)

theorem digitRun?_parts {due : Bool} {cs after : List Char} {ds : List Nat}
    (h : digitRun? due cs = some (ds, after)) :
    ∃ run, cs = run ++ after ∧ (∀ c ∈ run, c = '_' ∨ isAsciiDigit c) ∧
    ds = run.filterMap digitValue? ∧
      (due → ds ≠ []) := by
  induction cs generalizing due ds after with
  | nil =>
    rw [digitRun?] at h
    split at h
    · contradiction
    · rename_i hdue
      cases h
      exact ⟨[], rfl, by simp, rfl, fun hd => absurd hd hdue⟩
  | cons c rest ih =>
    rw [digitRun?] at h
    split at h
    · rename_i hunderscore
      obtain rfl := eq_of_beq hunderscore
      split at h
      · contradiction
      · rename_i hdue
        -- an underscore is no digit of the number
        obtain ⟨run, rfl, hrun, rfl, -⟩ := ih h
        exact ⟨'_' :: run, rfl, by simpa using hrun, rfl, fun hd => absurd hd hdue⟩
    · split at h
      · rename_i d hd
        obtain ⟨⟨more, after'⟩, hmore, heq⟩ := Option.map_eq_some_iff.mp h
        obtain ⟨rfl, rfl⟩ := Prod.mk.inj heq
        obtain ⟨run, rfl, hrun, rfl, -⟩ := ih hmore
        have hdigit : isAsciiDigit c := by
          unfold digitValue? at hd
          split at hd
          · assumption
          · contradiction
        refine ⟨c :: run, rfl, ?_, (List.filterMap_cons_some hd).symm,
          fun _ => List.cons_ne_nil _ _⟩
        rintro e (_ | ⟨_, he⟩)
        · exact .inr hdigit
        · exact hrun e he
      · split at h
        · contradiction
        · rename_i hdue
          cases h
          exact ⟨[], rfl, by simp, rfl, fun hd => absurd hd hdue⟩

theorem takeSign_parts (cs : List Char) : ∃ sign, cs = sign ++ (takeSign cs).2 ∧
    (sign = [] ∨ sign = ['+'] ∨ sign = ['-']) ∧ ((takeSign cs).1 ↔ sign = ['-']) := by
  unfold takeSign
  split
  · exact ⟨['-'], rfl, by simp, by simp⟩
  · exact ⟨['+'], rfl, by simp, by simp⟩
  · exact ⟨[], rfl, by simp, by simp⟩

theorem exists_parts {literal : String} {cs : List Char} {n : Int}
    (h : readInteger literal cs = .ok n) :
    ∃ before sign run after, Parts cs before sign run after n := by
  obtain ⟨sign, hsign, hcases, hnegative⟩ := takeSign_parts ((plain cs).dropWhile isAsciiBlank)
  unfold readInteger at h
  split at h
  rename_i negative body htaken
  rw [htaken] at hsign hnegative
  split at h
  · contradiction
  · rename_i ds after hrun
    split at h
    · contradiction
    · rename_i hlength
      split at h
      · rename_i hafter
        obtain ⟨run, hbody, hdigits, rfl, hne⟩ := digitRun?_parts hrun
        refine ⟨(plain cs).takeWhile isAsciiBlank, sign, run, after, ?_, ?_, hcases, hdigits, ?_,
          hne rfl, ?_, ?_⟩
        · rw [← hbody, ← hsign, List.takeWhile_append_dropWhile]
        · exact fun c hc => List.mem_takeWhile_imp hc
        · exact List.all_eq_true.mp hafter
        · exact Nat.le_of_not_lt hlength
        · rw [← Except.ok.inj h]
          simp only [hnegative]
      · contradiction

namespace Parts

variable {cs before sign run after : List Char} {n : Int} (h : Parts cs before sign run after n)
include h

theorem isNumberChar_of_mem {c : Char} (hc : c ∈ plain cs) : isNumberChar c := by
  rw [h.text, List.mem_append, List.mem_append, List.mem_append] at hc
  simp only [isNumberChar, Bool.or_eq_true, beq_iff_eq]
  rcases hc with hc | hc | hc | hc
  · simp [h.before_blank c hc]
  · rcases h.sign_cases with rfl | rfl | rfl <;> simp at hc <;> simp [hc]
  · rcases h.run_digits c hc with rfl | hdigit
    · simp
    · simp [hdigit]
  · simp [h.after_blank c hc]

/-- The digits of the text are those of the run. -/
theorem digits_eq : (plain cs).filterMap digitValue? = run.filterMap digitValue? := by
  have hsign : sign.filterMap digitValue? = [] := by
    rcases h.sign_cases with rfl | rfl | rfl <;> rfl
  have hbefore :=
    filterMap_digitValue?_of_blank fun c hc => isBlank_of_isAsciiBlank (h.before_blank c hc)
  have hafter :=
    filterMap_digitValue?_of_blank fun c hc => isBlank_of_isAsciiBlank (h.after_blank c hc)
  rw [h.text, List.filterMap_append, List.filterMap_append, List.filterMap_append, hbefore,
    hsign, hafter, List.nil_append, List.nil_append, List.append_nil]

end Parts

theorem ofDigits_lt {ds : List Nat} (h : ∀ d ∈ ds, d < 10) : ofDigits ds < 10 ^ ds.length := by
  -- from any number on, each digit makes it ten times as large and adds less than ten
  have hfrom (n : Nat) : ds.foldl (fun n d => 10 * n + d) n < (n + 1) * 10 ^ ds.length := by
    induction ds generalizing n with
    | nil => simp
    | cons d rest ih =>
      have hd := h d List.mem_cons_self
      calc rest.foldl (fun n d => 10 * n + d) (10 * n + d)
        _ < (10 * n + d + 1) * 10 ^ rest.length :=
          ih (fun e he => h e (List.mem_cons_of_mem d he)) _
        _ ≤ ((n + 1) * 10) * 10 ^ rest.length := Nat.mul_le_mul_right _ (by omega)
        _ = (n + 1) * 10 ^ (d :: rest).length := by
          rw [Nat.mul_assoc, List.length_cons, Nat.pow_succ']
  simpa [ofDigits] using hfrom 0

theorem digit_lt_of_mem_filterMap {cs : List Char} {d : Nat} (h : d ∈ cs.filterMap digitValue?) :
    d < 10 := by
  obtain ⟨c, -, hd⟩ := List.mem_filterMap.mp h
  unfold digitValue? at hd
  split at hd
  · rename_i hdigit
    have hrange := toNat_of_isAsciiDigit hdigit
    have hzero : '0'.toNat = 48 := rfl
    have hsub := Option.some.inj hd
    omega
  · contradiction

/-- A number that was read can be written. -/
theorem natText_fits {literal : String} {cs : List Char} {n : Int}
    (h : readInteger literal cs = .ok n) :
    (natText n.natAbs).length ≤ digitLimit := by
  obtain ⟨before, sign, run, after, hparts⟩ := exists_parts h
  have habs : n.natAbs = ofDigits (run.filterMap digitValue?) := by
    rw [hparts.value]
    split <;> simp
  have hlimit : 0 < digitLimit := by decide
  rw [natText, String.length_ofList, Nat.length_toDigits_le_iff (by decide) hlimit, habs]
  calc ofDigits (run.filterMap digitValue?)
    _ < 10 ^ (run.filterMap digitValue?).length :=
      ofDigits_lt fun d hd => digit_lt_of_mem_filterMap hd
    _ ≤ 10 ^ digitLimit := Nat.pow_le_pow_right (by decide) hparts.digits_fit

/-! ### Texts that are read as integers -/

section

variable {literal : String} {cs : List Char} {n : Int} (h : readInteger literal cs = .ok n)
include h

theorem standsInNumber_of_mem {c : Char} (hc : c ∈ cs) : StandsInNumber c := by
  obtain ⟨before, sign, run, after, hparts⟩ := exists_parts h
  obtain ⟨f, hplain, hf⟩ := plain_eq_map cs
  have hnumber := hparts.isNumberChar_of_mem (hplain ▸ List.mem_map_of_mem hc)
  rcases hf c hc with himage | ⟨himage, hascii⟩
  · exact standsInNumber_of_plainChar (himage ▸ hnumber)
  · exact .inl ⟨hascii, himage ▸ hnumber⟩

/-- A number has no case, blanks around it or not. -/
theorem lower_trim_of_number : lower (trim cs) = trim cs := by
  obtain ⟨before, after, hcs, -, -⟩ := exists_trimmed cs
  refine lower_of_lowerChar fun c hc => (standsInNumber_of_mem h ?_).lowerChar_eq
  rw [hcs]
  exact List.mem_append_right _ (List.mem_append_left _ hc)

theorem not_mem_of_isAsciiLetter {c : Char} (hc : isAsciiLetter c) : c ∉ cs := by
  intro hmem
  rcases standsInNumber_of_mem h hmem with ⟨-, hnumber⟩ | ⟨hascii, -⟩
  · exact not_isNumberChar_of_isAsciiLetter hc hnumber
  · exact hascii (isAscii_of_isAsciiLetter hc)

theorem eq_one_of_trim (htrim : trim cs = ['1']) : n = 1 := by
  obtain ⟨before, sign, run, after, hparts⟩ := exists_parts h
  obtain ⟨f, hplain, hf⟩ := plain_eq_map cs
  obtain ⟨front, back, hcs, hfront, hback⟩ := exists_trimmed cs
  rw [htrim] at hcs
  -- blanks stay blanks and the one digit stays itself
  have hblank {c : Char} (hc : c ∈ cs) (hb : isBlank c) : isBlank (f c) := by
    rcases hf c hc with himage | ⟨himage, -⟩
    · exact himage ▸ isBlank_plainChar hb
    · exact himage.symm ▸ hb
  have hone : f '1' = '1' := by
    rcases hf '1' (by simp [hcs]) with himage | ⟨himage, -⟩
    · exact himage
    · exact himage
  have htext : plain cs = front.map f ++ '1' :: back.map f := by
    rw [hplain, hcs, List.map_append, List.singleton_append, List.map_cons, hone]
  have hbefore : ∀ c ∈ front.map f, isBlank c := by
    rintro _ hc
    obtain ⟨d, hd, rfl⟩ := List.mem_map.mp hc
    exact hblank (by simp [hcs, hd]) (hfront d hd)
  have hafter : ∀ c ∈ back.map f, isBlank c := by
    rintro _ hc
    obtain ⟨d, hd, rfl⟩ := List.mem_map.mp hc
    exact hblank (by simp [hcs, hd]) (hback d hd)
  have hdigits : run.filterMap digitValue? = [1] := by
    rw [← hparts.digits_eq, htext, List.filterMap_append, filterMap_digitValue?_of_blank hbefore,
      List.nil_append, List.filterMap_cons_some (by decide : digitValue? '1' = some 1),
      filterMap_digitValue?_of_blank hafter]
  have hsign : sign ≠ ['-'] := by
    rintro rfl
    have hmem : '-' ∈ front.map f ++ '1' :: back.map f := by simp [← htext, hparts.text]
    rcases List.mem_append.mp hmem with hmem | hmem
    · exact absurd (hbefore '-' hmem) (by decide)
    · rcases List.mem_cons.mp hmem with heq | hmem
      · exact absurd heq (by decide)
      · exact absurd (hafter '-' hmem) (by decide)
  rw [hparts.value, if_neg hsign, hdigits]
  rfl

end

/-! ### Numerals of source text -/

/-- The number of a decimal numeral of source text, which may have leading zeros only if it is zero.
The underscores that a numeral may have are left out here. -/
def numeral? (cs : List Char) : Option Nat :=
  if cs ≠ [] ∧ cs.all isAsciiDigit ∧ (cs.head? = some '0' → cs.all (· == '0')) ∧
  cs.length ≤ digitLimit then
    some (Nat.ofDigitChars 10 cs 0)
  else none

/-- The integer that source text denotes: a numeral, negated behind a sign. -/
def sourceInteger? : List Char → Option Int
  | '-' :: rest => (numeral? rest).map fun n => -Int.ofNat n
  | cs => (numeral? cs).map Int.ofNat

theorem head?_toDigits {n : Nat} (h : 0 < n) : (Nat.toDigits 10 n).head? ≠ some '0' := by
  induction n using Nat.strongRecOn with
  | ind n ih =>
    by_cases hn : n < 10
    · have hall : ∀ d : Fin 10, 0 < d.val → d.val.digitChar ≠ '0' := by decide
      rw [Nat.toDigits_of_lt_base hn]
      simpa using hall ⟨n, hn⟩ h
    · have hfirst := ih (n / 10) (by omega) (by omega)
      obtain ⟨c, rest, hdigits⟩ :=
        List.exists_cons_of_ne_nil (Nat.toDigits_ne_nil (n := n / 10) (b := 10))
      rw [Nat.toDigits_of_base_le (by decide) (by omega), hdigits]
      simpa [hdigits] using hfirst

theorem numeral?_natText {n : Nat} (h : (natText n).length ≤ digitLimit) :
    numeral? (natText n).toList = some n := by
  have hzero : (natText n).toList.head? = some '0' → (natText n).toList.all (· == '0') := by
    intro hhead
    rcases Nat.eq_zero_or_pos n with rfl | hpos
    · decide
    · rw [natText, String.toList_ofList] at hhead
      exact absurd hhead (head?_toDigits hpos)
  have hdigits : (natText n).toList.all isAsciiDigit :=
    List.all_eq_true.mpr fun c hc => isAsciiDigit_of_mem_natText hc
  rw [numeral?, if_pos ⟨natText_ne_nil n, hdigits, hzero, by rwa [String.length_toList]⟩]
  rw [natText, String.toList_ofList, Nat.ofDigitChars_ten_toDigits]

/-- The integer that a text denotes is written as a numeral of that integer. -/
theorem sourceInteger?_integerText {n : Int} (h : (natText n.natAbs).length ≤ digitLimit) :
    sourceInteger? (integerText n).toList = some n := by
  have hnumeral := numeral?_natText h
  unfold integerText
  split
  · rename_i hnegative
    rw [String.toList_append, show "-".toList = ['-'] from rfl, List.singleton_append,
      sourceInteger?, hnumeral]
    have hvalue : -(n.natAbs : Int) = n := by omega
    exact congrArg some hvalue
  · rename_i hnegative
    unfold sourceInteger?
    split
    · rename_i rest hdash
      have hmem : '-' ∈ (natText n.natAbs).toList := hdash ▸ List.mem_cons_self
      exact absurd (isAsciiDigit_of_mem_natText hmem) (by decide)
    · rw [hnumeral]
      have hvalue : (n.natAbs : Int) = n := by omega
      exact congrArg some hvalue

end CatalogEntities.Number
