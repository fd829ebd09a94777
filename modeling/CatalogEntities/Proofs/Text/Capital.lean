import CatalogEntities.Proofs.Text.Case
import CatalogEntities.Proofs.Text.Identifier

/-!
Upper case and identifiers. Upper case either leaves a letter or numeral as it is, or makes an
identifier of it, and then the character starts one, too. What starts an identifier may also stand
further behind in it.

Main results: `continuesIdentifier_of_starts`, `upperChar_cases`.
-/

namespace CatalogEntities.Text

namespace CharTable

variable {table other : CharTable} {code : Nat}

/-- Whether all codes are in the other table, too. -/
def within (table other : CharTable) : Bool := table.mask &&& other.mask == table.mask

theorem holds_of_within (h : table.within other) (hcode : table.Holds code) : other.Holds code := by
  have hall : table.mask &&& other.mask = table.mask := eq_of_beq h
  have hbit := congrArg (Nat.testBit · code) hall
  simp only [Nat.testBit_and, (testBit_mask table code).mpr hcode, Bool.true_and] at hbit
  exact (testBit_mask other code).mp hbit

theorem holds_ascii {c : Char} (h : isAscii c) : CharTable.Holds [(0, 127)] c.toNat := by
  have hlow : c.toNat < 128 := of_decide_eq_true h
  exact ⟨_, List.mem_singleton_self _, Nat.zero_le _, by simp only; omega⟩

/-- Single codes as a table. -/
def ofCodes (codes : List Nat) : CharTable := codes.map fun code => (code, code)

theorem holds_ofCodes {codes : List Nat} (h : code ∈ codes) : (ofCodes codes).Holds code :=
  ⟨(code, code), List.mem_map_of_mem h, Nat.le_refl _, Nat.le_refl _⟩

theorem holds_flatMap {α : Type} {f : α → CharTable} {xs : List α} {x : α} (hx : x ∈ xs)
    (h : (f x).Holds code) :
    CharTable.Holds (xs.flatMap f) code := by
  obtain ⟨range, hrange, hcode⟩ := h
  exact ⟨range, List.mem_flatMap.mpr ⟨x, hx, hrange⟩, hcode⟩

end CharTable

/-! ### Characters that start an identifier -/

/-- Codes of capitals, of letters beyond ASCII, and of what starts an identifier without being a
letter. -/
def starterTable : CharTable := [(0x41, 0x5a)] ++ (letterTable ++ identifierStartExtra)

/-- The tables of letters and numerals begin behind ASCII, and so does the one of letters that start
no identifier. What starts an identifier without being a letter is the underscore, a numeral, or a
character that identifiers take further behind. -/
theorem identifierTables_parts :
    CharTable.apart [(0, 127)] (letterTable ++ numeralTable ++ identifierStartRefused) ∧
      identifierStartExtra.within ([(0x5f, 0x5f)] ++ (numeralTable ++ identifierPartExtra)) ∧
      identifierStartExtra.apart identifierPartRefused := by decide +kernel

theorem not_isAscii_of_holds {c : Char}
    (h : (letterTable ++ numeralTable ++ identifierStartRefused).Holds c.toNat) :
    ¬ isAscii c := fun hascii =>
  CharTable.not_holds_of_apart identifierTables_parts.1 (CharTable.holds_ascii hascii) h

theorem isLetter_of_holds {c : Char} (h : letterTable.Holds c.toNat) : isLetter c := by
  have hascii : ¬ isAscii c :=
    not_isAscii_of_holds (by simp only [CharTable.holds_append, h, true_or])
  rw [isLetter, if_neg hascii]
  exact CharTable.has_iff.mpr h

theorem isNumeral_of_holds {c : Char} (h : numeralTable.Holds c.toNat) : isNumeral c := by
  have hascii : ¬ isAscii c :=
    not_isAscii_of_holds (by simp only [CharTable.holds_append, h, true_or, or_true])
  rw [isNumeral, if_neg hascii]
  exact CharTable.has_iff.mpr h

theorem startsIdentifier_of_isAsciiLetter {c : Char} (h : isAsciiLetter c) :
    startsIdentifier c := by
  have hascii := isAscii_of_isAsciiLetter h
  have hrefused : ¬ identifierStartRefused.has c := by
    rw [CharTable.has_iff]
    intro hrefused
    exact not_isAscii_of_holds (by simp only [CharTable.holds_append, hrefused, or_true]) hascii
  simp [startsIdentifier, isLetter, hascii, h, hrefused]

theorem startsIdentifier_of_holds {c : Char} (hc : starterTable.Holds c.toNat)
    (hrefused : ¬ identifierStartRefused.Holds c.toNat) : startsIdentifier c := by
  rw [starterTable, CharTable.holds_append, CharTable.holds_append] at hc
  rcases hc with ⟨range, hrange, hlow, hhigh⟩ | hletter | hextra
  · obtain rfl := List.mem_singleton.mp hrange
    have hval : c.val.toNat = c.toNat := rfl
    refine startsIdentifier_of_isAsciiLetter ?_
    simp only [isAsciiLetter, isAsciiUpper, Bool.or_eq_true, Bool.and_eq_true, decide_eq_true_eq,
      Char.le_def, UInt32.le_iff_toNat_le, hval]
    exact .inl ⟨hlow, hhigh⟩
  · have hrefused : ¬ identifierStartRefused.has c := mt CharTable.has_iff.mp hrefused
    simp [startsIdentifier, isLetter_of_holds hletter, hrefused]
  · simp [startsIdentifier, CharTable.has_iff.mpr hextra]

theorem continuesIdentifier_of_starts {c : Char} (h : startsIdentifier c) :
    continuesIdentifier c := by
  simp only [startsIdentifier, Bool.or_eq_true] at h
  rcases h with (hunderscore | hletter) | hextra
  · rw [eq_of_beq hunderscore]
    decide
  · have hstarts : startsIdentifier c := by simp [startsIdentifier, hletter]
    have hkind : isLetter c := (Bool.and_eq_true_iff.mp hletter).1
    have hword : isWordChar c := by simp [isWordChar, isLetterOrNumeral, hkind]
    exact (continuesIdentifier_iff hword).mpr
      fun hstray => not_startsIdentifier_of_isStray hkind hstray hstarts
  · have hheld := CharTable.has_iff.mp hextra
    have hrefused : ¬ identifierPartRefused.has c := by
      rw [CharTable.has_iff]
      exact CharTable.not_holds_of_apart identifierTables_parts.2.2 hheld
    have hparts := CharTable.holds_of_within identifierTables_parts.2.1 hheld
    rw [CharTable.holds_append, CharTable.holds_append] at hparts
    rcases hparts with ⟨range, hrange, hlow, hhigh⟩ | hnumeral | hpart
    · obtain rfl := List.mem_singleton.mp hrange
      have hcode : c.toNat = '_'.toNat := Nat.le_antisymm hhigh hlow
      rw [Char.toNat_inj.mp hcode]
      decide
    · simp [continuesIdentifier, isWordChar, isLetterOrNumeral,
        isNumeral_of_holds hnumeral, hrefused]
    · simp [continuesIdentifier, CharTable.has_iff.mpr hpart]

theorem all_continues_of_isAsciiLetter {cs : List Char} (h : cs.all isAsciiLetter) :
    cs.all continuesIdentifier := by
  rw [List.all_eq_true] at h ⊢
  exact fun c hc => continuesIdentifier_of_starts (startsIdentifier_of_isAsciiLetter (h c hc))

theorem isIdentifier_of_isAsciiLetter {c : Char} {rest : List Char}
    (h : (c :: rest).all isAsciiLetter) :
    isIdentifier (c :: rest) := by
  rw [List.all_cons, Bool.and_eq_true] at h
  rw [isIdentifier, Bool.and_eq_true]
  exact ⟨startsIdentifier_of_isAsciiLetter h.1, all_continues_of_isAsciiLetter h.2⟩

/-! ### Upper case -/

/-- Whether a run has marks or circled letters, which are neither letters nor numerals. -/
def CaseRun.isMark (run : CaseRun) : Bool := run.1 == 0x345 || run.1 == 0x24d0

/-- The codes that a run maps, and those it maps them to, as ranges. A run in steps has gaps, which
are no matter if the images fill them. -/
def CaseRun.codes (run : CaseRun) : CharTable :=
  if run.2.2.1 == 1 || run.2.2.2 == -1 then
    [(run.1, run.2.1), ((run.1 + run.2.2.2).toNat, (run.2.1 + run.2.2.2).toNat)]
  else
    (List.range ((run.2.1 - run.1) / run.2.2.1 + 1)).flatMap fun i =>
      let code := run.1 + run.2.2.1 * i
      CharTable.ofCodes [code, (code + run.2.2.2).toNat]

/-- The codes of marks that upper case changes. -/
def markCodes : CharTable := (upperRuns.filter CaseRun.isMark).map fun run => (run.1, run.2.1)

/-- The codes of the others, and of what they become; of an expansion, its first. -/
def capitalCodes : CharTable :=
  (upperRuns.filter (!CaseRun.isMark ·)).flatMap CaseRun.codes ++
    CharTable.ofCodes (upperExpansions.flatMap fun entry => entry.1 :: entry.2.take 1)

/-- The codes that stand further behind in expansions. -/
def laterCodes : CharTable :=
  CharTable.ofCodes (upperExpansions.flatMap fun entry => entry.2.drop 1)

theorem upperTables_parts :
    markCodes.apart (letterTable ++ numeralTable) ∧ capitalCodes.within starterTable ∧
      laterCodes.within (starterTable ++ identifierPartExtra) ∧
      CharTable.apart (capitalCodes ++ laterCodes) identifierStartRefused := by decide +kernel

theorem startsIdentifier_of_capitalCodes {c : Char} (h : capitalCodes.Holds c.toNat) :
    startsIdentifier c := by
  have hboth : (capitalCodes ++ laterCodes).Holds c.toNat := CharTable.holds_append.mpr (.inl h)
  exact startsIdentifier_of_holds (CharTable.holds_of_within upperTables_parts.2.1 h)
    (CharTable.not_holds_of_apart upperTables_parts.2.2.2 hboth)

theorem CaseRun.holds_codes {run : CaseRun} {n : Nat} {d : Char}
    (h : CaseRun.image? run n = some d) :
    (CaseRun.codes run).Holds n ∧ ∃ code, (CaseRun.codes run).Holds code ∧ d = Char.ofNat code := by
  obtain ⟨first, last, step, offset⟩ := run
  simp only [CaseRun.image?] at h
  split at h
  · rename_i hrange
    simp only [Bool.and_eq_true, decide_eq_true_eq, beq_iff_eq] at hrange
    obtain ⟨⟨hlow, hhigh⟩, hstep⟩ := hrange
    suffices hcodes : (CaseRun.codes (first, last, step, offset)).Holds n ∧
        (CaseRun.codes (first, last, step, offset)).Holds (n + offset).toNat from
      ⟨hcodes.1, _, hcodes.2, (Option.some.inj h).symm⟩
    unfold CaseRun.codes
    split
    · have hfirst : ((first : Int) + offset).toNat ≤ (n + offset).toNat := by omega
      have hlast : (n + offset).toNat ≤ ((last : Int) + offset).toNat := by omega
      exact ⟨⟨_, List.mem_cons_self, hlow, hhigh⟩, _, List.mem_cons_of_mem _ List.mem_cons_self,
        hfirst, hlast⟩
    · have hcode : first + step * ((n - first) / step) = n := by
        have hdiv := Nat.div_add_mod (n - first) step
        omega
      have hle : (n - first) / step ≤ (last - first) / step := Nat.div_le_div_right (by omega)
      have hmem := List.mem_range.mpr (Nat.lt_succ_of_le hle)
      constructor
      · refine ⟨(n, n), List.mem_flatMap.mpr ⟨_, hmem, ?_⟩, Nat.le_refl _, Nat.le_refl _⟩
        simp only [hcode, CharTable.ofCodes, List.map_cons, List.mem_cons, true_or]
      · refine ⟨((n + offset).toNat, (n + offset).toNat), List.mem_flatMap.mpr ⟨_, hmem, ?_⟩,
          Nat.le_refl _, Nat.le_refl _⟩
        simp only [hcode, CharTable.ofCodes, List.map_cons, List.mem_cons, true_or, or_true]
  · contradiction

/-- A letter or numeral that a run maps starts an identifier before and after. -/
theorem startsIdentifier_image {run : CaseRun} (hrun : run ∈ upperRuns) {c d : Char}
    (hascii : ¬ isAscii c) (hc : isLetterOrNumeral c) (hd : CaseRun.image? run c.toNat = some d) :
    startsIdentifier c ∧ (¬ isAscii d → startsIdentifier d) := by
  obtain ⟨hcode, code, himage, hof⟩ := CaseRun.holds_codes hd
  by_cases hmark : CaseRun.isMark run
  · have hkind : (letterTable ++ numeralTable).Holds c.toNat := by
      rw [CharTable.holds_append, ← CharTable.has_iff, ← CharTable.has_iff]
      simpa [isLetterOrNumeral, isLetter, isNumeral, hascii] using hc
    have hin := List.mem_map_of_mem (f := fun run : CaseRun => (run.1, run.2.1))
      (List.mem_filter.mpr ⟨hrun, hmark⟩)
    obtain ⟨first, last, step, offset⟩ := run
    simp only [CaseRun.image?] at hd
    split at hd
    · rename_i hrange
      simp only [Bool.and_eq_true, decide_eq_true_eq] at hrange
      exact absurd hkind (CharTable.not_holds_of_apart upperTables_parts.1 ⟨_, hin, hrange.1⟩)
    · contradiction
  · have hin : run ∈ upperRuns.filter (!CaseRun.isMark ·) :=
      List.mem_filter.mpr ⟨hrun, by simp [hmark]⟩
    have hstart {c : Char} (h : (CaseRun.codes run).Holds c.toNat) : startsIdentifier c :=
      startsIdentifier_of_capitalCodes
        (CharTable.holds_append.mpr (.inl (CharTable.holds_flatMap hin h)))
    refine ⟨hstart hcode, fun hd' => ?_⟩
    rw [hof] at hd' ⊢
    have hkept := (isAscii_ofNat_or code).resolve_right hd'
    exact hstart (hkept.symm ▸ himage)

theorem startsIdentifier_of_isAsciiUpper {c : Char} (h : isAsciiUpper c) : startsIdentifier c :=
  startsIdentifier_of_isAsciiLetter (by simp [isAsciiLetter, h])

/-- A character that upper case expands starts an identifier, and it becomes one. -/
theorem isIdentifier_expansion {c : Char} {codes : List Nat}
    (h : (c.toNat, codes) ∈ upperExpansions) :
    startsIdentifier c ∧ isIdentifier (codes.map Char.ofNat) := by
  obtain ⟨hne, hcapital⟩ := upperExpansions_capital _ h
  obtain ⟨first, rest, rfl⟩ := List.exists_cons_of_ne_nil hne
  have hkept {code : Nat} (hcode : code ∈ first :: rest) :
      startsIdentifier (Char.ofNat code) ∨ (Char.ofNat code).toNat = code := by
    rcases isAscii_ofNat_or code with hkept | hascii
    · exact .inr hkept
    · exact .inl
        (startsIdentifier_of_isAsciiUpper (isAsciiUpper_ofNat (hcapital code hcode) hascii))
  have hstart {d : Char} (hd : d.toNat ∈ [c.toNat, first]) : startsIdentifier d := by
    have hfirst : d.toNat ∈ upperExpansions.flatMap fun entry => entry.1 :: entry.2.take 1 :=
      List.mem_flatMap.mpr ⟨_, h, hd⟩
    exact startsIdentifier_of_capitalCodes
      (CharTable.holds_append.mpr (.inr (CharTable.holds_ofCodes hfirst)))
  refine ⟨hstart List.mem_cons_self, ?_⟩
  rw [List.map_cons, isIdentifier, Bool.and_eq_true, List.all_eq_true]
  refine ⟨?_, fun d hd => ?_⟩
  · rcases hkept List.mem_cons_self with hfirst | hcode
    · exact hfirst
    · exact hstart (by rw [hcode]; exact List.mem_cons_of_mem _ List.mem_cons_self)
  · obtain ⟨code, hmem, rfl⟩ := List.mem_map.mp hd
    rcases hkept (List.mem_cons_of_mem _ hmem) with hother | hcode
    · exact continuesIdentifier_of_starts hother
    · have hlater : code ∈ upperExpansions.flatMap fun entry => entry.2.drop 1 :=
        List.mem_flatMap.mpr ⟨_, h, hmem⟩
      have hheld : laterCodes.Holds (Char.ofNat code).toNat :=
        hcode.symm ▸ CharTable.holds_ofCodes hlater
      have hboth : (capitalCodes ++ laterCodes).Holds (Char.ofNat code).toNat :=
        CharTable.holds_append.mpr (.inr hheld)
      rcases CharTable.holds_append.mp (CharTable.holds_of_within upperTables_parts.2.2.1 hheld)
        with hstarter | hextra
      · exact continuesIdentifier_of_starts
          (startsIdentifier_of_holds hstarter
            (CharTable.not_holds_of_apart upperTables_parts.2.2.2 hboth))
      · simp [continuesIdentifier, CharTable.has_iff.mpr hextra]

theorem upperChar_cases {c : Char} (hc : isLetterOrNumeral c) :
    upperChar c = [c] ∨ startsIdentifier c ∧ isIdentifier (upperChar c) := by
  by_cases hascii : isAscii c
  · by_cases hlower : isAsciiLower c
    · have himage : upperChar c = [Char.ofNat (c.toNat - 32)] := by
        rw [upperChar, if_pos hascii, if_pos hlower]
      have hsmall : isAscii (Char.ofNat (c.toNat - 32)) := by
        have hlow : c.toNat < 128 := of_decide_eq_true hascii
        rcases isAscii_ofNat_or (c.toNat - 32) with hkept | hascii'
        · rw [isAscii, hkept, decide_eq_true_eq]
          omega
        · exact hascii'
      have hupper : isAsciiUpper (Char.ofNat (c.toNat - 32)) :=
        (upperChar_of_isAscii (himage ▸ List.mem_singleton_self _) hsmall).resolve_right
          fun h => h.2 hlower
      right
      rw [himage, isIdentifier, startsIdentifier_of_isAsciiUpper hupper]
      exact ⟨startsIdentifier_of_isAsciiLetter (by simp [isAsciiLetter, hlower]), rfl⟩
    · left
      rw [upperChar, if_pos hascii, if_neg hlower]
  · have hmap : upperChar c = mapCase upperRuns upperExpansions c := if_neg hascii
    rw [hmap]
    unfold mapCase
    split
    · rename_i codes hlookup
      -- the expansions are listed, and each entry was checked
      obtain ⟨before, after, hsplit, -⟩ := List.lookup_eq_some_iff.mp hlookup
      have hentry : (c.toNat, codes) ∈ upperExpansions :=
        hsplit ▸ List.mem_append_right before List.mem_cons_self
      obtain ⟨hstart, hcodes⟩ := isIdentifier_expansion hentry
      exact .inr ⟨hstart, hcodes⟩
    · rename_i hlookup
      cases himage : upperRuns.findSome? fun run => CaseRun.image? run c.toNat with
      | none => exact .inl rfl
      | some d =>
        -- an image in a run is one character, which is outside ASCII or a capital letter there
        obtain ⟨run, hrun, hd⟩ := List.exists_of_findSome?_eq_some himage
        obtain ⟨hstart, himageStart⟩ := startsIdentifier_image hrun hascii hc hd
        have hdstart : startsIdentifier d := by
          by_cases hd' : isAscii d
          · have hmem : d ∈ mapCase upperRuns upperExpansions c := by
              rw [mapCase, hlookup, himage]
              exact List.mem_singleton_self d
            exact startsIdentifier_of_isAsciiUpper (isAsciiUpper_of_mem_mapCase hascii hmem hd')
          · exact himageStart hd'
        right
        rw [Option.getD_some, isIdentifier, hdstart]
        exact ⟨hstart, rfl⟩

end CatalogEntities.Text
