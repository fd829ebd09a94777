import CatalogEntities.Proofs.Number.DigitText
import Mathlib.Data.List.Forall2

/-!
The spellings of an integer: blanks, perhaps a sign, decimal digits of any script with at most one
underscore between one and the next, and blanks again. A number is read from just these texts, and
the text that is written for it is the plainest of them.

Main results: `Number.integerOfText_ok_iff`, `Number.canonical_integerText`.
-/

namespace CatalogEntities.Number

open Text

/-- The blanks that may stand around a number: all but the four separators from U+001C. -/
def isOuterBlank (c : Char) : Bool := isBlank c && !(28 ≤ c.toNat && c.toNat ≤ 31)

/-- Decimal digits, at most one underscore between one and the next, and the values of
the digits. -/
inductive DigitGroups : List Char → List Nat → Prop
  | last {c : Char} {d : Nat} : decimalValue? c = some d → DigitGroups [c] [d]
  | next {c : Char} {d : Nat} {cs : List Char} {ds : List Nat} :
      decimalValue? c = some d → DigitGroups cs ds → DigitGroups (c :: cs) (d :: ds)
  | underscore {c : Char} {d : Nat} {cs : List Char} {ds : List Nat} :
      decimalValue? c = some d → DigitGroups cs ds → DigitGroups (c :: '_' :: cs) (d :: ds)

/-- A sign or none, and whether it negates. -/
inductive SignText : Bool → List Char → Prop
  | none : SignText false []
  | plus : SignText false ['+']
  | minus : SignText true ['-']

def signed (negative : Bool) (n : Nat) : Int := if negative then -(n : Int) else n

/-- The texts that denote an integer. -/
inductive Spells : Int → List Char → Prop
  | mk {before sign digits after : List Char} {negative : Bool} {ds : List Nat} :
      (∀ c ∈ before, isOuterBlank c) → SignText negative sign → DigitGroups digits ds →
      ds.length ≤ digitLimit →
      (∀ c ∈ after, isOuterBlank c) →
      Spells (signed negative (ofDigits ds)) (before ++ (sign ++ (digits ++ after)))

/-! ### Characters in the form that numbers are read in -/

/-- `p` counts in a number as `c` does in its text. -/
structure ReadAs (c p : Char) : Prop where
  digit : digitValue? p = decimalValue? c
  blank : isAsciiBlank p = isOuterBlank c
  mark : ∀ m ∈ ['_', '+', '-'], p = m ↔ c = m

theorem isOuterBlank_iff {c : Char} (h : c.toNat < 128) : isOuterBlank c = isAsciiBlank c := by
  rw [Bool.eq_iff_iff]
  simp only [isOuterBlank, isBlank, isAsciiBlank, Bool.and_eq_true, Bool.or_eq_true,
    Bool.not_eq_true',
    decide_eq_true_eq, beq_iff_eq, Bool.and_eq_false_iff, decide_eq_false_iff_not]
  omega

theorem readAs_self {c : Char} (h : isAscii c) : ReadAs c c := by
  have hlow : c.toNat < 128 := by simpa [isAscii] using h
  exact ⟨digitValue?_of_isAscii h, (isOuterBlank_iff hlow).symm, fun _ _ => Iff.rfl⟩

/-- Of a character that is none of ASCII only the class counts, and it is no mark. -/
theorem ReadAs.of_class {c p : Char} (hhigh : ¬ c.toNat < 127)
    (hdigit : digitValue? p = decimalValue? c)
    (hblank : isAsciiBlank p = isBlank c) (hmark : p ∉ ['_', '+', '-']) : ReadAs c p := by
  have hsep : (28 ≤ c.toNat && c.toNat ≤ 31) = false := by
    rw [Bool.and_eq_false_iff, decide_eq_false_iff_not, decide_eq_false_iff_not]
    omega
  have hmarks : ∀ m ∈ ['_', '+', '-'], m.toNat < 127 := by simp
  refine ⟨hdigit, by rw [isOuterBlank, hsep, Bool.not_false, Bool.and_true, hblank], fun m hm => ?_⟩
  exact iff_of_false (fun heq => hmark (heq ▸ hm)) (fun heq => hhigh (heq ▸ hmarks m hm))

theorem readAs_plainChar (c : Char) : ReadAs c (plainChar c) := by
  by_cases hlow : c.toNat < 127
  · have hplain : plainChar c = c := if_pos hlow
    rw [hplain]
    exact readAs_self (decide_eq_true (Nat.lt_succ_of_lt hlow))
  by_cases hblank : isBlank c
  · have hplain : plainChar c = ' ' := by rw [plainChar, if_neg hlow, if_pos hblank]
    have hdigit : decimalValue? c = none := by
      by_contra hsome
      have hdecimal : isDecimal c := Option.isSome_iff_ne_none.mpr hsome
      exact not_isBlank_of_isDigit (isDigit_of_isDecimal hdecimal) hblank
    rw [hplain]
    exact .of_class hlow (by rw [hdigit]; rfl) (by rw [hblank]; rfl) (by decide)
  cases hvalue : decimalValue? c with
  | some d =>
    have hplain : plainChar c = Char.ofNat ('0'.toNat + d) := by
      simp only [plainChar, if_neg hlow, if_neg hblank, hvalue]
    have hclass : ∀ d : Fin 10, isAsciiBlank (Char.ofNat ('0'.toNat + d.val)) = false ∧
        Char.ofNat ('0'.toNat + d.val) ∉ ['_', '+', '-'] := by decide
    obtain ⟨hnone, hmark⟩ := hclass ⟨d, decimalValue?_lt hvalue⟩
    have hdecimal : isDecimal c := by rw [isDecimal, hvalue]; rfl
    refine .of_class hlow (digitValue?_plainChar hdecimal) ?_ (hplain ▸ hmark)
    rw [hplain, hnone, Bool.eq_false_iff.mpr hblank]
  | none =>
    have hplain : plainChar c = '?' := by simp only [plainChar, if_neg hlow, if_neg hblank, hvalue]
    rw [hplain]
    exact .of_class hlow (by rw [hvalue]; rfl)
      (by rw [Bool.eq_false_iff.mpr hblank]; rfl) (by decide)

theorem readAs_plain (cs : List Char) : List.Forall₂ ReadAs cs (plain cs) := by
  unfold plain
  split
  · rename_i hascii
    exact List.forall₂_same.mpr fun c hc => readAs_self (List.all_eq_true.mp hascii c hc)
  · exact List.forall₂_map_right_iff.mpr (List.forall₂_same.mpr fun c _ => readAs_plainChar c)

/-! ### Parts of a number, read one after the other -/

variable {cs ps : List Char}

theorem readAs_dropWhile (h : List.Forall₂ ReadAs cs ps) :
    List.Forall₂ ReadAs (cs.dropWhile isOuterBlank) (ps.dropWhile isAsciiBlank) := by
  induction h with
  | nil => exact .nil
  | @cons c p cs ps hc h ih =>
    by_cases hblank : isOuterBlank c
    · rw [List.dropWhile_cons_of_pos hblank, List.dropWhile_cons_of_pos (hc.blank.trans hblank)]
      exact ih
    · have hkept : ¬ isAsciiBlank p := by rwa [hc.blank]
      rw [List.dropWhile_cons_of_neg hblank, List.dropWhile_cons_of_neg hkept]
      exact .cons hc h

theorem readAs_blank (h : List.Forall₂ ReadAs cs ps) :
    (∀ p ∈ ps, isAsciiBlank p) ↔ ∀ c ∈ cs, isOuterBlank c := by
  induction h with
  | nil => simp
  | cons hc _ ih => rw [List.forall_mem_cons, List.forall_mem_cons, ih, hc.blank]

theorem takeSign_reads (h : List.Forall₂ ReadAs cs ps) : ∃ sign rest, cs = sign ++ rest ∧
    SignText (takeSign ps).1 sign ∧ List.Forall₂ ReadAs rest (takeSign ps).2 := by
  fun_cases takeSign ps with
  | case1 rest =>
    cases h with
    | cons hc h =>
      obtain rfl := (hc.mark '-' (by decide)).mp rfl
      exact ⟨['-'], _, rfl, .minus, h⟩
  | case2 rest =>
    cases h with
    | cons hc h =>
      obtain rfl := (hc.mark '+' (by decide)).mp rfl
      exact ⟨['+'], _, rfl, .plus, h⟩
  | case3 => exact ⟨[], _, rfl, .none, h⟩

/-- What may follow where a digit is not due: nothing, digits, or digits behind an underscore. -/
inductive Continuation : List Char → List Nat → Prop
  | nothing : Continuation [] []
  | digits {cs : List Char} {ds : List Nat} : DigitGroups cs ds → Continuation cs ds
  | underscore {cs : List Char} {ds : List Nat} : DigitGroups cs ds → Continuation ('_' :: cs) ds

theorem Continuation.after_digit {c : Char} {d : Nat} {ds : List Nat}
    (hc : decimalValue? c = some d) (h : Continuation cs ds) : DigitGroups (c :: cs) (d :: ds) := by
  cases h with
  | nothing => exact .last hc
  | digits h => exact .next hc h
  | underscore h => exact .underscore hc h

theorem digitRun?_reads {due : Bool} {ds : List Nat} {after : List Char}
    (h : List.Forall₂ ReadAs cs ps)
    (hrun : digitRun? due ps = some (ds, after)) : ∃ run rest, cs = run ++ rest ∧
      List.Forall₂ ReadAs rest after ∧ Continuation run ds ∧ (due → DigitGroups run ds) := by
  induction h generalizing due ds after with
  | nil =>
    cases due with
    | true => cases hrun
    | false =>
      obtain ⟨rfl, rfl⟩ : [] = ds ∧ [] = after := by simpa [digitRun?] using hrun
      exact ⟨[], [], rfl, .nil, .nothing, fun h => absurd h Bool.false_ne_true⟩
  | @cons c p cs ps hc h ih =>
    rw [digitRun?] at hrun
    split at hrun
    · rename_i hmark
      obtain rfl := (hc.mark '_' (by decide)).mp (eq_of_beq hmark)
      cases due with
      | true => cases hrun
      | false =>
        -- behind an underscore a digit is due, so the rest opens with one
        obtain ⟨run, rest, rfl, hrest, -, hdigits⟩ := ih hrun
        exact ⟨'_' :: run, rest, rfl, hrest, .underscore (hdigits rfl),
          fun h => absurd h Bool.false_ne_true⟩
    · split at hrun
      · rename_i d hd
        obtain ⟨⟨more, after'⟩, hmore, heq⟩ := Option.map_eq_some_iff.mp hrun
        obtain ⟨rfl, rfl⟩ := Prod.mk.inj heq
        obtain ⟨run, rest, rfl, hrest, hcont, -⟩ := ih hmore
        have hgroups := hcont.after_digit (hc.digit.symm.trans hd)
        exact ⟨c :: run, rest, rfl, hrest, .digits hgroups, fun _ => hgroups⟩
      · cases due with
        | true => cases hrun
        | false =>
          obtain ⟨rfl, rfl⟩ : [] = ds ∧ p :: ps = after := by simpa using hrun
          exact ⟨[], c :: cs, rfl, .cons hc h, .nothing, fun h => absurd h Bool.false_ne_true⟩

/-- Blanks are no part of a run of digits. -/
theorem digitRun?_blank (h : List.Forall₂ ReadAs cs ps) (hblank : ∀ c ∈ cs, isOuterBlank c) :
    digitRun? false ps = some ([], ps) := by
  cases h with
  | nil => rfl
  | @cons c p cs ps hc h =>
    have hp : isAsciiBlank p := hc.blank.trans (hblank c List.mem_cons_self)
    have hmark : ¬ (p == '_') := by
      intro he
      rw [eq_of_beq he] at hp
      contradiction
    have hdigit : digitValue? p = none := by
      refine if_neg fun hd => ?_
      have hrange := toNat_of_isAsciiDigit hd
      simp only [isAsciiBlank, Bool.or_eq_true, Bool.and_eq_true, decide_eq_true_eq,
        beq_iff_eq] at hp
      omega
    rw [digitRun?, if_neg hmark, hdigit]
    rfl

theorem digitRun?_underscore (ps : List Char) :
    digitRun? false ('_' :: ps) = digitRun? true ps := by
  rw [digitRun?]
  rfl

theorem digitRun?_digit {c p : Char} {d : Nat} (hc : ReadAs c p) (hd : decimalValue? c = some d)
    (due : Bool) (ps : List Char) :
    digitRun? due (p :: ps) = (digitRun? false ps).map fun (ds, after) => (d :: ds, after) := by
  have hvalue := hc.digit.trans hd
  have hmark : ¬ (p == '_') := by
    intro he
    rw [eq_of_beq he] at hvalue
    contradiction
  rw [digitRun?, if_neg hmark, hvalue]

theorem DigitGroups.digitRun? {ds : List Nat} {rest : List Char} (hgroups : DigitGroups cs ds)
    (hblank : ∀ c ∈ rest, isOuterBlank c) (h : List.Forall₂ ReadAs (cs ++ rest) ps) :
    ∃ after, (∀ due, Number.digitRun? due ps = some (ds, after)) ∧
    List.Forall₂ ReadAs rest after := by
  induction hgroups generalizing ps with
  | @last c d hd =>
    obtain _ | ⟨hc, h⟩ := h
    refine ⟨_, fun due => ?_, h⟩
    rw [digitRun?_digit hc hd, digitRun?_blank h hblank]
    rfl
  | @next c d cs ds hd _ ih =>
    obtain _ | ⟨hc, h⟩ := h
    obtain ⟨after, hrun, hafter⟩ := ih h
    refine ⟨after, fun due => ?_, hafter⟩
    rw [digitRun?_digit hc hd, hrun]
    rfl
  | @underscore c d cs ds hd _ ih =>
    obtain _ | ⟨hc, h⟩ := h
    obtain _ | ⟨hmark, h⟩ := h
    obtain rfl := (hmark.mark '_' (by decide)).mpr rfl
    obtain ⟨after, hrun, hafter⟩ := ih h
    refine ⟨after, fun due => ?_, hafter⟩
    rw [digitRun?_digit hc hd, digitRun?_underscore, hrun]
    rfl

/-! ### Numbers -/

/-- A number starts with a sign or a digit. -/
theorem exists_start {negative : Bool} {sign digits : List Char} {ds : List Nat}
    (hsign : SignText negative sign) (hgroups : DigitGroups digits ds) :
    ∃ first more, sign ++ digits = first :: more ∧ ¬ isOuterBlank first := by
  have hdigit {c : Char} {d : Nat} (hd : decimalValue? c = some d) : ¬ isOuterBlank c := by
    intro hblank
    have hdecimal : isDecimal c := by rw [isDecimal, hd]; rfl
    exact not_isBlank_of_isDigit (isDigit_of_isDecimal hdecimal) (Bool.and_eq_true_iff.mp hblank).1
  cases hsign with
  | none =>
    cases hgroups with
    | last hd => exact ⟨_, _, rfl, hdigit hd⟩
    | next hd => exact ⟨_, _, rfl, hdigit hd⟩
    | underscore hd => exact ⟨_, _, rfl, hdigit hd⟩
  | plus => exact ⟨'+', _, rfl, by decide⟩
  | minus => exact ⟨'-', _, rfl, by decide⟩

theorem SignText.takeSign {negative : Bool} {sign digits rest : List Char} {ds : List Nat}
    (hsign : SignText negative sign) (hgroups : DigitGroups digits ds)
    (h : List.Forall₂ ReadAs (sign ++ (digits ++ rest)) ps) :
    (Number.takeSign ps).1 = negative ∧
    List.Forall₂ ReadAs (digits ++ rest) (Number.takeSign ps).2 := by
  have hdigit {c : Char} {d : Nat} (hd : decimalValue? c = some d) : c ≠ '+' ∧ c ≠ '-' := by
    constructor <;> rintro rfl <;> contradiction
  cases hsign with
  | plus =>
    obtain _ | ⟨hc, h⟩ := h
    obtain rfl := (hc.mark '+' (by decide)).mpr rfl
    exact ⟨rfl, h⟩
  | minus =>
    obtain _ | ⟨hc, h⟩ := h
    obtain rfl := (hc.mark '-' (by decide)).mpr rfl
    exact ⟨rfl, h⟩
  | none =>
    -- without a sign a digit comes first, and that is no mark
    obtain ⟨c, more, hcs, hplus, hminus⟩ :
        ∃ c more, digits ++ rest = c :: more ∧ c ≠ '+' ∧ c ≠ '-' := by
      cases hgroups with
      | last hd => exact ⟨_, _, rfl, hdigit hd⟩
      | next hd => exact ⟨_, _, rfl, hdigit hd⟩
      | underscore hd => exact ⟨_, _, rfl, hdigit hd⟩
    rw [List.nil_append, hcs] at h
    rw [hcs]
    obtain _ | ⟨hc, hmore⟩ := h
    unfold Number.takeSign
    split
    · rename_i heq
      exact absurd ((hc.mark '-' (by decide)).mp (List.cons.inj heq).1) hminus
    · rename_i heq
      exact absurd ((hc.mark '+' (by decide)).mp (List.cons.inj heq).1) hplus
    · exact ⟨rfl, .cons hc hmore⟩

theorem readInteger_ok_iff {literal : String} {n : Int} :
    readInteger literal cs = .ok n ↔ Spells n cs := by
  constructor
  · intro h
    -- the parts are cut off from left to right, as they are read
    obtain ⟨sign, body, hdrop, hsign, hbody⟩ := takeSign_reads (readAs_dropWhile (readAs_plain cs))
    unfold readInteger at h
    split at h
    rename_i negative rest htaken
    rw [htaken] at hsign hbody
    split at h
    · cases h
    · rename_i ds after hrun
      obtain ⟨digits, behind, rfl, hbehind, -, hgroups⟩ := digitRun?_reads hbody hrun
      split at h
      · cases h
      · rename_i hlength
        split at h
        · rename_i hafter
          have hblank := (readAs_blank hbehind).mp (List.all_eq_true.mp hafter)
          have hbefore : ∀ c ∈ cs.takeWhile isOuterBlank, isOuterBlank c :=
            fun c hc => List.mem_takeWhile_imp hc
          have hspells := Spells.mk hbefore hsign (hgroups rfl) (Nat.le_of_not_lt hlength) hblank
          rw [← hdrop, List.takeWhile_append_dropWhile] at hspells
          exact Except.ok.inj h ▸ hspells
        · cases h
  · rintro ⟨hbefore, hsign, hgroups, hlength, hafter⟩
    rename_i before sign digits after negative ds
    -- a sign or a digit ends the blanks in front
    obtain ⟨first, more, hfirst, hkept⟩ := exists_start hsign hgroups
    have hdrop : (before ++ (sign ++ (digits ++ after))).dropWhile isOuterBlank =
        sign ++ (digits ++ after) := by
      rw [← List.append_assoc sign, hfirst, List.cons_append, dropWhile_append_cons hbefore hkept]
    have hplain := readAs_dropWhile (readAs_plain (before ++ (sign ++ (digits ++ after))))
    rw [hdrop] at hplain
    obtain ⟨hnegative, hbody⟩ := hsign.takeSign hgroups hplain
    obtain ⟨behind, hrun, hbehind⟩ := hgroups.digitRun? hafter hbody
    have hblank : behind.all isAsciiBlank :=
      List.all_eq_true.mpr ((readAs_blank hbehind).mpr hafter)
    have htaken :
        takeSign ((plain (before ++ (sign ++ (digits ++ after)))).dropWhile isAsciiBlank) =
          (negative, _) :=
      Prod.ext hnegative rfl
    rw [readInteger, htaken]
    simp only [hrun, if_neg (Nat.not_lt_of_le hlength), hblank, ↓reduceIte]
    rfl

/-- A number is read from a text exactly if the text spells it. -/
theorem integerOfText_ok_iff {s : String} {n : Int} : integerOfText s = .ok n ↔ Spells n s.toList :=
  readInteger_ok_iff

/-! ### The text of a number -/

/-- The spelling of a number without anything to leave out: no blanks, no plus sign, no underscores,
no leading zeros, ASCII digits only. -/
structure Canonical (n : Int) (cs : List Char) : Prop where
  digits : ∃ ds, cs = (if n < 0 then ['-'] else []) ++ ds ∧ (∀ c ∈ ds, isAsciiDigit c) ∧
    (ds.head? = some '0' → ds = ['0'])
  spells : Spells n cs

theorem digitGroups_of_digits (hne : cs ≠ []) (h : ∀ c ∈ cs, isAsciiDigit c) :
    DigitGroups cs (cs.map fun c => c.toNat - '0'.toNat) := by
  have hvalue {c : Char} (hc : isAsciiDigit c) : decimalValue? c = some (c.toNat - '0'.toNat) := by
    rw [decimalValue?, if_pos (isAscii_of_isAsciiDigit hc), if_pos hc]
  induction cs with
  | nil => exact absurd rfl hne
  | cons c rest ih =>
    obtain ⟨hc, hrest⟩ := List.forall_mem_cons.mp h
    cases rest with
    | nil => exact .last (hvalue hc)
    | cons d more => exact .next (hvalue hc) (ih (List.cons_ne_nil d more) hrest)

theorem natText_head {n : Nat} (h : (natText n).toList.head? = some '0') :
    (natText n).toList = ['0'] := by
  rcases Nat.eq_zero_or_pos n with rfl | hpos
  · decide
  · rw [natText, String.toList_ofList] at h
    exact absurd h (head?_toDigits hpos)

theorem canonical_integerText {n : Int} (h : (natText n.natAbs).length ≤ digitLimit) :
    Canonical n (integerText n).toList := by
  have hdigits : ∀ c ∈ (natText n.natAbs).toList, isAsciiDigit c :=
    fun c hc => isAsciiDigit_of_mem_natText hc
  have hgroups := digitGroups_of_digits (natText_ne_nil n.natAbs) hdigits
  have hvalue :
      ofDigits ((natText n.natAbs).toList.map fun c => c.toNat - '0'.toNat) = n.natAbs := by
    rw [ofDigits_map, natText, String.toList_ofList, Nat.ofDigitChars_ten_toDigits]
  have hlength :
      ((natText n.natAbs).toList.map fun c => c.toNat - '0'.toNat).length ≤ digitLimit := by
    rwa [List.length_map, String.length_toList]
  have hnone : ∀ c ∈ ([] : List Char), isOuterBlank c := List.forall_mem_nil _
  by_cases hnegative : n < 0
  · have htext : (integerText n).toList = '-' :: (natText n.natAbs).toList := by
      rw [integerText, if_pos hnegative, String.toList_append]
      rfl
    have hspells := Spells.mk hnone .minus hgroups hlength hnone
    have hsame : signed true n.natAbs = n := by
      simp only [signed, ↓reduceIte]
      omega
    rw [hvalue, hsame, List.nil_append, List.append_nil] at hspells
    exact ⟨⟨_, by rw [htext, if_pos hnegative]; rfl, hdigits, natText_head⟩, htext ▸ hspells⟩
  · have htext : (integerText n).toList = (natText n.natAbs).toList := by
      rw [integerText, if_neg hnegative]
    have hspells := Spells.mk hnone .none hgroups hlength hnone
    have hsame : signed false n.natAbs = n := by
      simp only [signed, Bool.false_eq_true, ↓reduceIte]
      omega
    rw [hvalue, hsame, List.nil_append, List.append_nil] at hspells
    exact ⟨⟨_, by rw [htext, if_neg hnegative]; rfl, hdigits, natText_head⟩, htext ▸ hspells⟩

end CatalogEntities.Number
