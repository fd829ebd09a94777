import CatalogEntities.Text.Case

/-!
Letters and numerals that identifiers refuse, such as superscript digits. They are beyond ASCII, and
they have no case: none of them is the upper or the lower case of another character, and each is its
own.
-/

namespace CatalogEntities.Text

/-! ### Tables as sets of codes -/

namespace CharTable

/-- Whether a code lies in one of the ranges. -/
def Holds (table : CharTable) (code : Nat) : Prop :=
  ∃ range ∈ table, range.1 ≤ code ∧ code ≤ range.2

/-- The set of codes as a number, a bit for each. Long tables are compared by one operation on such
numbers, which the kernel evaluates at once. -/
def mask (table : CharTable) : Nat :=
  table.foldr (fun range bits => (1 <<< (range.2 + 1 - range.1) - 1) <<< range.1 ||| bits) 0

/-- Whether no code is in both tables. -/
def apart (table other : CharTable) : Bool := table.mask &&& other.mask == 0

variable {table other : CharTable} {code : Nat}

theorem has_iff {c : Char} : table.has c ↔ table.Holds c.toNat := by
  simp only [has, Holds, List.any_eq_true, Bool.and_eq_true, decide_eq_true_eq]

theorem holds_append : (table ++ other).Holds code ↔ table.Holds code ∨ other.Holds code := by
  simp only [Holds, List.mem_append, or_and_right, exists_or]

theorem testBit_mask (table : CharTable) (code : Nat) :
    table.mask.testBit code ↔ table.Holds code := by
  induction table with
  | nil => simp [mask, Holds]
  | cons range rest ih =>
    have hrange : ((1 <<< (range.2 + 1 - range.1) - 1) <<< range.1).testBit code ↔
        range.1 ≤ code ∧ code ≤ range.2 := by
      rw [Nat.testBit_shiftLeft, Nat.one_shiftLeft, Nat.testBit_two_pow_sub_one, Bool.and_eq_true,
        decide_eq_true_eq, decide_eq_true_eq]
      omega
    have hmask :
        mask (range :: rest) = (1 <<< (range.2 + 1 - range.1) - 1) <<< range.1 ||| mask rest := rfl
    rw [hmask, Nat.testBit_or, Bool.or_eq_true, hrange, ih]
    simp [Holds]

theorem not_holds_of_apart (h : table.apart other) (hcode : table.Holds code) :
    ¬ other.Holds code := by
  have hnone : table.mask &&& other.mask = 0 := eq_of_beq h
  have hbit := congrArg (Nat.testBit · code) hnone
  simp only [Nat.testBit_and, Nat.zero_testBit, (testBit_mask table code).mpr hcode,
    Bool.true_and] at hbit
  rw [← testBit_mask, hbit]
  exact Bool.false_ne_true

end CharTable

/-! ### Strays -/

/-- A letter or numeral that identifiers refuse. -/
def isStray (c : Char) : Bool := isWordChar c && !continuesIdentifier c

theorem partRefused_of_isStray {c : Char} (h : isStray c) : identifierPartRefused.has c := by
  simp only [isStray, continuesIdentifier, Bool.and_eq_true, Bool.not_eq_true',
    Bool.or_eq_false_iff] at h
  simpa [h.1] using h.2.1

/-- Codes that have a case and codes that are one, as ranges. A run may skip some of the codes
between its ends. -/
def caseTable (runs : List CaseRun) (expansions : List (Nat × List Nat)) : CharTable :=
  runs.map (fun run => (run.1, run.2.1)) ++
    runs.map (fun run => ((run.1 + run.2.2.2).toNat, (run.2.1 + run.2.2.2).toNat)) ++
    expansions.flatMap fun entry => (entry.1 :: entry.2).map fun code => (code, code)

/-- The codes of ASCII, of the three sigmas, and of all else that has a case or is one. -/
def casedCodes : CharTable :=
  [(0, 127), (0x3a3, 0x3a3), (0x3c2, 0x3c3)] ++ caseTable upperRuns upperExpansions ++
    caseTable lowerRuns lowerExpansions

theorem casedCodes_apart : casedCodes.apart identifierPartRefused := by decide +kernel

theorem not_isStray_of_holds {c : Char} (hc : casedCodes.Holds c.toNat) :
    ¬ isStray c := fun hstray =>
  CharTable.not_holds_of_apart casedCodes_apart hc
    (CharTable.has_iff.mp (partRefused_of_isStray hstray))

theorem casedCodes_holds_ascii {code : Nat} (h : code < 128) : casedCodes.Holds code :=
  ⟨(0, 127), by simp [casedCodes], Nat.zero_le _, by simp only; omega⟩

theorem not_isStray_of_isAscii {c : Char} (h : isAscii c) : ¬ isStray c :=
  not_isStray_of_holds (casedCodes_holds_ascii (of_decide_eq_true h))

/-- Not every number is the code of a character, and for the others another character stands in. -/
theorem isAscii_ofNat_or (code : Nat) :
    (Char.ofNat code).toNat = code ∨ isAscii (Char.ofNat code) := by
  by_cases hvalid : code.isValidChar
  · left
    rw [Char.ofNat, dif_pos hvalid]
    rfl
  · right
    rw [Char.ofNat, dif_neg hvalid]
    rfl

theorem not_isStray_ofNat {code : Nat} (hcode : casedCodes.Holds code) :
    ¬ isStray (Char.ofNat code) := by
  rcases isAscii_ofNat_or code with hkept | hascii
  · exact not_isStray_of_holds (hkept.symm ▸ hcode)
  · exact not_isStray_of_isAscii hascii

theorem isLetterOrNumeral_of_isStray {c : Char} (h : isStray c) : isLetterOrNumeral c := by
  have hword : isWordChar c := (Bool.and_eq_true_iff.mp h).1
  rcases Bool.or_eq_true_iff.mp hword with hunderscore | hkind
  · obtain rfl := eq_of_beq hunderscore
    exact absurd h (not_isStray_of_isAscii (by decide))
  · exact hkind

theorem continuesIdentifier_iff {c : Char} (h : isWordChar c) :
    continuesIdentifier c ↔ ¬ isStray c := by
  simp [isStray, h]

/-- A letter that an identifier may not hold may not start one, either, and is no exception from
that. -/
theorem identifierPartRefused_letters :
    letterTable.mask &&& identifierPartRefused.mask &&& identifierStartRefused.mask =
      letterTable.mask &&& identifierPartRefused.mask ∧
    identifierStartRefused.apart identifierStartExtra := by decide +kernel

theorem not_startsIdentifier_of_isStray {c : Char} (hletter : isLetter c) (h : isStray c) :
    ¬ startsIdentifier c := by
  have hascii : ¬ isAscii c := fun hascii => not_isStray_of_isAscii hascii h
  have hpart := (CharTable.testBit_mask _ _).mpr (CharTable.has_iff.mp (partRefused_of_isStray h))
  rw [isLetter, if_neg hascii] at hletter
  have hstart : identifierStartRefused.Holds c.toNat := by
    have hbit := congrArg (Nat.testBit · c.toNat) identifierPartRefused_letters.1
    have hletter := (CharTable.testBit_mask _ _).mpr (CharTable.has_iff.mp hletter)
    simp only [Nat.testBit_and, hletter, hpart, Bool.true_and] at hbit
    exact (CharTable.testBit_mask _ _).mp hbit
  have hrefused : identifierStartRefused.has c := CharTable.has_iff.mpr hstart
  have hextra : ¬ identifierStartExtra.has c := by
    rw [CharTable.has_iff]
    exact CharTable.not_holds_of_apart identifierPartRefused_letters.2 hstart
  have hunderscore : c ≠ '_' := by
    rintro rfl
    exact hascii (by decide)
  simp [startsIdentifier, hunderscore, hrefused, hextra]

/-! ### Case -/

section

variable {runs : List CaseRun} {expansions : List (Nat × List Nat)}

theorem caseTable_holds_image {run : CaseRun} (hrun : run ∈ runs) {n : Nat} {d : Char}
    (hd : CaseRun.image? run n = some d) : (caseTable runs expansions).Holds n ∧
      ∃ code, (caseTable runs expansions).Holds code ∧ d = Char.ofNat code := by
  obtain ⟨first, last, step, offset⟩ := run
  simp only [CaseRun.image?] at hd
  split at hd
  · rename_i hrange
    simp only [Bool.and_eq_true, decide_eq_true_eq] at hrange
    simp only [caseTable, CharTable.holds_append]
    refine ⟨.inl (.inl ⟨_, List.mem_map_of_mem hrun, hrange.1.1, hrange.1.2⟩), _, .inl (.inr ?_),
      (Option.some.inj hd).symm⟩
    exact ⟨_, List.mem_map_of_mem hrun, by simp only; omega, by simp only; omega⟩
  · contradiction

theorem caseTable_holds_expansion {n code : Nat} {codes : List Nat}
    (h : expansions.lookup n = some codes)
    (hcode : code ∈ n :: codes) : (caseTable runs expansions).Holds code := by
  obtain ⟨before, after, hsplit, -⟩ := List.lookup_eq_some_iff.mp h
  have hentry : (n, codes) ∈ expansions := hsplit ▸ List.mem_append_right before List.mem_cons_self
  rw [caseTable, CharTable.holds_append]
  right
  exact ⟨(code, code), List.mem_flatMap.mpr ⟨_, hentry, List.mem_map_of_mem hcode⟩, Nat.le_refl _,
    Nat.le_refl _⟩

/-- What is in no table of cases is its own case. -/
theorem mapCase_of_not_holds {c : Char} (h : ¬ (caseTable runs expansions).Holds c.toNat) :
    mapCase runs expansions c = [c] := by
  unfold mapCase
  split
  · rename_i codes hlookup
    exact absurd (caseTable_holds_expansion hlookup List.mem_cons_self) h
  · cases himage : runs.findSome? fun run => CaseRun.image? run c.toNat with
    | none => rfl
    | some e =>
      obtain ⟨run, hrun, he⟩ := List.exists_of_findSome?_eq_some himage
      exact absurd (caseTable_holds_image hrun he).1 h

theorem mem_mapCase_iff (h : ∀ code, (caseTable runs expansions).Holds code → casedCodes.Holds code)
    {c d : Char} (hd : isStray d) : d ∈ mapCase runs expansions c ↔ d = c := by
  unfold mapCase
  split
  · rename_i codes hlookup
    constructor
    · intro hmem
      obtain ⟨code, hcode, rfl⟩ := List.mem_map.mp hmem
      have hheld := h code (caseTable_holds_expansion hlookup (List.mem_cons_of_mem _ hcode))
      exact absurd hd (not_isStray_ofNat hheld)
    · rintro rfl
      have hheld := h d.toNat (caseTable_holds_expansion hlookup List.mem_cons_self)
      exact absurd hd (not_isStray_of_holds hheld)
  · -- an image in a run is one character
    rw [List.mem_singleton]
    cases himage : runs.findSome? fun run => CaseRun.image? run c.toNat with
    | none => rfl
    | some e =>
      obtain ⟨run, hrun, he⟩ := List.exists_of_findSome?_eq_some himage
      obtain ⟨hc, code, hcode, rfl⟩ : (caseTable runs expansions).Holds c.toNat ∧
          ∃ code, (caseTable runs expansions).Holds code ∧ e = Char.ofNat code :=
        caseTable_holds_image hrun he
      rw [Option.getD_some]
      constructor
      · rintro rfl
        exact absurd hd (not_isStray_ofNat (h code hcode))
      · rintro rfl
        exact absurd hd (not_isStray_of_holds (h _ hc))

end

theorem casedCodes_holds_upper (code : Nat) (h : (caseTable upperRuns upperExpansions).Holds code) :
    casedCodes.Holds code := by
  rw [casedCodes, CharTable.holds_append, CharTable.holds_append]
  exact Or.inl (Or.inr h)

theorem casedCodes_holds_lower (code : Nat) (h : (caseTable lowerRuns lowerExpansions).Holds code) :
    casedCodes.Holds code := by
  rw [casedCodes, CharTable.holds_append]
  exact Or.inr h

section

variable {d : Char} (hd : isStray d)
include hd

/-- Both cases move a letter of ASCII within ASCII. -/
theorem eq_moved_iff {c : Char} (hascii : isAscii c) {p : Bool} {code : Nat} (hcode : code < 128) :
    d ∈ [if p then Char.ofNat code else c] ↔ d = c := by
  have hne : d ≠ c := by
    rintro rfl
    exact not_isStray_of_isAscii hascii hd
  have hmoved : d ≠ Char.ofNat code := by
    rintro rfl
    exact not_isStray_ofNat (casedCodes_holds_ascii hcode) hd
  rw [List.mem_singleton]
  split <;> simp [hne, hmoved]

theorem mem_upperChar_iff {c : Char} : d ∈ upperChar c ↔ d = c := by
  unfold upperChar
  split
  · rename_i hascii
    have hcode : c.toNat < 128 := of_decide_eq_true hascii
    exact eq_moved_iff hd hascii (by omega)
  · exact mem_mapCase_iff casedCodes_holds_upper hd

theorem mem_lowerChar_iff {c : Char} : d ∈ lowerChar c ↔ d = c := by
  unfold lowerChar
  split
  · rename_i hascii
    by_cases hupper : isAsciiUpper c
    · have hcode : c.toNat ≤ 90 := by
        rw [isAsciiUpper, Bool.and_eq_true, decide_eq_true_eq, decide_eq_true_eq] at hupper
        exact hupper.2
      exact eq_moved_iff hd hascii (by omega)
    · rw [if_neg hupper, List.mem_singleton]
  · exact mem_mapCase_iff casedCodes_holds_lower hd

theorem mem_lowerAfter_iff {before cs : List Char} : d ∈ lowerAfter before cs ↔ d ∈ cs := by
  induction cs generalizing before with
  | nil => rfl
  | cons c rest ih =>
    have hsigma : ∀ e ∈ ['Σ', 'σ', 'ς'], d ≠ e := by
      rintro e he rfl
      refine not_isStray_of_holds ?_ hd
      rw [casedCodes, CharTable.holds_append, CharTable.holds_append]
      refine Or.inl (Or.inl ?_)
      simp only [List.mem_cons, List.not_mem_nil, or_false] at he
      rcases he with rfl | rfl | rfl
      · exact ⟨(0x3a3, 0x3a3), by decide, by decide⟩
      · exact ⟨(0x3c2, 0x3c3), by decide, by decide⟩
      · exact ⟨(0x3c2, 0x3c3), by decide, by decide⟩
    rw [lowerAfter, List.mem_append, ih, List.mem_cons]
    refine or_congr_left ?_
    by_cases hc : c = 'Σ'
    · subst hc
      rw [if_pos (beq_self_eq_true _)]
      split <;> simp [hsigma]
    · rw [if_neg (by simpa using hc)]
      exact mem_lowerChar_iff hd

theorem mem_lower_iff {cs : List Char} : d ∈ lower cs ↔ d ∈ cs := mem_lowerAfter_iff hd

end

/-- A text whose characters are their own lower case is its own, too. -/
theorem lower_of_lowerChar {cs : List Char} (h : ∀ c ∈ cs, lowerChar c = [c]) : lower cs = cs := by
  have hafter (before : List Char) : lowerAfter before cs = cs := by
    induction cs generalizing before with
    | nil => rfl
    | cons c rest ih =>
      have hc := h c List.mem_cons_self
      have hsigma : ¬ (c == 'Σ') := by
        intro heq
        rw [eq_of_beq heq] at hc
        exact absurd hc (by decide)
      rw [lowerAfter, if_neg hsigma, hc, ih (fun d hd => h d (List.mem_cons_of_mem c hd)),
        List.singleton_append]
  exact hafter []

end CatalogEntities.Text
