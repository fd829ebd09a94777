import CatalogEntities.Naming.Relation
import CatalogEntities.Proofs.Naming.Characters
import CatalogEntities.Proofs.Number.Integer
import CatalogEntities.Proofs.Text.Identifier
import CatalogEntities.Proofs.Text.Span

/-!
Which names are identifiers. Cleaning replaces what is no word character and guards the start, so it
leaves two things to chance: letters and numerals that identifiers refuse, and letters that may not
start one. The word forms of a name neither add nor drop any of the former.

Main results: `isIdentifier_attributeName_iff`, `attributeName_not_mem`, and one equivalence for
each kind of relation name.
-/

namespace CatalogEntities.Naming

open Number Text

/-! ### Texts without strays -/

def NoStray (cs : List Char) : Prop := ∀ c ∈ cs, ¬ isStray c

/-- A text that makes an identifier: it has no strays, and no letter in front that may not start
one. -/
structure Spells (cs : List Char) : Prop where
  noStray : NoStray cs
  start : ∀ c ∈ cs.head?, isLetter c → startsIdentifier c

/-- Texts with the same strays. -/
def SameStrays (xs ys : List Char) : Prop := ∀ d, isStray d → (d ∈ xs ↔ d ∈ ys)

theorem SameStrays.trans {xs ys zs : List Char} (h : SameStrays xs ys) (h' : SameStrays ys zs) :
    SameStrays xs zs := fun d hd => (h d hd).trans (h' d hd)

theorem SameStrays.noStray_iff {xs ys : List Char} (h : SameStrays xs ys) :
    NoStray xs ↔ NoStray ys := by
  constructor
  · intro hxs c hc hstray
    exact hxs c ((h c hstray).mpr hc) hstray
  · intro hys c hc hstray
    exact hys c ((h c hstray).mp hc) hstray

theorem noStray_append {xs ys : List Char} : NoStray (xs ++ ys) ↔ NoStray xs ∧ NoStray ys :=
  List.forall_mem_append

theorem noStray_cons {c : Char} {cs : List Char} : NoStray (c :: cs) ↔ ¬ isStray c ∧ NoStray cs :=
  List.forall_mem_cons

theorem noStray_of_ascii {cs : List Char} (h : cs.all isAscii) : NoStray cs := fun c hc =>
  not_isStray_of_isAscii (List.all_eq_true.mp h c hc)

theorem sameStrays_append_ascii (cs : List Char) {more : List Char} (h : more.all isAscii) :
    SameStrays (cs ++ more) cs := by
  intro d hd
  rw [List.mem_append]
  exact or_iff_left fun hmem => noStray_of_ascii h d hmem hd

theorem sameStrays_ascii_append {first : List Char} (h : first.all isAscii) (cs : List Char) :
    SameStrays (first ++ cs) cs := by
  intro d hd
  rw [List.mem_append]
  exact or_iff_right fun hmem => noStray_of_ascii h d hmem hd

theorem spells_of_ascii {c : Char} {rest : List Char} (h : (c :: rest).all isAscii)
    (hstart : startsIdentifier c) :
    Spells (c :: rest) := by
  refine ⟨noStray_of_ascii h, fun d hd _ => ?_⟩
  obtain rfl : c = d := by simpa using hd
  exact hstart

/-- More text behind a text has to be free of strays. -/
theorem spells_append {xs ys : List Char} (hne : xs ≠ []) :
    Spells (xs ++ ys) ↔ Spells xs ∧ NoStray ys := by
  obtain ⟨c, rest, rfl⟩ := List.exists_cons_of_ne_nil hne
  constructor
  · intro h
    obtain ⟨hxs, hys⟩ := noStray_append.mp h.noStray
    exact ⟨⟨hxs, h.start⟩, hys⟩
  · rintro ⟨hxs, hys⟩
    exact ⟨noStray_append.mpr ⟨hxs.noStray, hys⟩, hxs.start⟩

/-! ### Cleaned names -/

theorem isIdentifier_append {xs ys : List Char} (hne : xs ≠ []) :
    isIdentifier (xs ++ ys) ↔ isIdentifier xs ∧ ys.all continuesIdentifier := by
  obtain ⟨c, rest, rfl⟩ := List.exists_cons_of_ne_nil hne
  simp only [List.cons_append, isIdentifier, List.all_append, Bool.and_eq_true, and_assoc]

/-- What cleaning makes of one character. -/
theorem continuesIdentifier_cleaned (c : Char) :
    continuesIdentifier (if isWordChar c then c else '_') ↔ ¬ isStray c := by
  by_cases hword : isWordChar c
  · rw [if_pos hword]
    exact continuesIdentifier_iff hword
  · rw [if_neg hword]
    have hunderscore : continuesIdentifier '_' := by decide
    simp [hunderscore, isStray, hword]

theorem all_continues_wordChars (cs : List Char) :
    (wordChars cs).all continuesIdentifier ↔ NoStray cs := by
  induction cs with
  | nil => simp [wordChars, NoStray]
  | cons c rest ih =>
    rw [wordChars, List.map_cons, List.all_cons, Bool.and_eq_true, continuesIdentifier_cleaned,
      noStray_cons, ← ih]
    rfl

theorem isIdentifier_guardStart_iff {cs : List Char} (hne : cs ≠ []) :
    isIdentifier (guardStart (wordChars cs)) ↔ Spells cs := by
  obtain ⟨c, rest, rfl⟩ := List.exists_cons_of_ne_nil hne
  have hwords := all_continues_wordChars rest
  have hclean : wordChars (c :: rest) = (if isWordChar c then c else '_') :: wordChars rest := rfl
  have hstart : startsIdentifier '_' := by decide
  rw [hclean]
  by_cases hletter : isLetter c
  · -- The name starts with the letter itself, which has to start an identifier.
    have hword : isWordChar c := by simp [isWordChar, isLetterOrNumeral, hletter]
    rw [if_pos hword, guardStart, if_pos (by simp [hletter]), isIdentifier,
      Bool.and_eq_true, hwords]
    constructor
    · rintro ⟨hstarts, hrest⟩
      have hc : ¬ isStray c := fun hstray => not_startsIdentifier_of_isStray hletter hstray hstarts
      refine ⟨noStray_cons.mpr ⟨hc, hrest⟩, fun d hd _ => ?_⟩
      obtain rfl : c = d := by simpa using hd
      exact hstarts
    · intro h
      exact ⟨h.start c rfl hletter, (noStray_cons.mp h.noStray).2⟩
  · have hspells : Spells (c :: rest) ↔ ¬ isStray c ∧ NoStray rest := by
      rw [← noStray_cons]
      refine ⟨Spells.noStray, fun h => ⟨h, fun d hd hd' => ?_⟩⟩
      obtain rfl : c = d := by simpa using hd
      exact absurd hd' hletter
    have hc := continuesIdentifier_cleaned c
    rw [hspells, ← hwords, ← hc]
    by_cases hunderscore : (if isWordChar c then c else '_') = '_'
    · have hcontinues : continuesIdentifier '_' := by decide
      rw [hunderscore, guardStart, if_pos (by simp), isIdentifier, hstart, hcontinues]
      simp
    · -- A numeral gets an underscore in front, and only has to continue the identifier.
      have hword : isWordChar c := by
        by_contra hword
        exact hunderscore (if_neg hword)
      rw [if_pos hword] at hunderscore ⊢
      rw [guardStart, if_neg (by simp [hletter, hunderscore]), isIdentifier, hstart, Bool.true_and,
        List.all_cons, Bool.and_eq_true]

theorem guardStart_eq_nil_iff {cs : List Char} : guardStart (wordChars cs) = [] ↔ cs = [] := by
  cases cs with
  | nil => exact Iff.rfl
  | cons c rest =>
    rw [wordChars, List.map_cons]
    generalize (if isWordChar c then c else '_') = first
    rw [guardStart]
    split <;> simp

theorem attributeName_eq (s : String) : attributeName s =
    if s.toList = [] then "_field"
    else if String.ofList (guardStart (wordChars s.toList)) ∈ keywords ++ declarativeNames then
      String.ofList (guardStart (wordChars s.toList)) ++ "_"
    else String.ofList (guardStart (wordChars s.toList)) := by
  have hempty : (String.ofList (guardStart (wordChars s.toList))).isEmpty = true ↔
      s.toList = [] := by
    rw [String.isEmpty_iff, ← String.toList_eq_nil_iff, String.toList_ofList, guardStart_eq_nil_iff]
  simp only [attributeName, hempty, Bool.or_eq_true, List.contains_iff_mem, List.mem_append]

/-- A cleaned name is an identifier exactly if the text makes one. -/
theorem isIdentifier_attributeName_iff (s : String) :
    isIdentifier (attributeName s).toList ↔ Spells s.toList := by
  rw [attributeName_eq]
  by_cases hempty : s.toList = []
  · rw [if_pos hempty, hempty]
    have hfield : isIdentifier "_field".toList := by decide
    exact iff_of_true hfield ⟨List.forall_mem_nil _, by simp⟩
  · rw [if_neg hempty]
    have hname := isIdentifier_guardStart_iff hempty
    split
    · have hne : guardStart (wordChars s.toList) ≠ [] := mt guardStart_eq_nil_iff.mp hempty
      have hunderscore : "_".toList.all continuesIdentifier := by decide
      rw [String.toList_append, String.toList_ofList, isIdentifier_append hne, hname]
      exact and_iff_left hunderscore
    · rw [String.toList_ofList, hname]

theorem attributeName_start (s : String) :
    ∃ c rest, (attributeName s).toList = c :: rest ∧ (isLetter c || c == '_') := by
  rw [attributeName_eq]
  by_cases hempty : s.toList = []
  · rw [if_pos hempty]
    exact ⟨'_', "field".toList, by decide, by decide⟩
  · rw [if_neg hempty]
    obtain ⟨c, rest, hname, hstart⟩ : ∃ c rest, guardStart (wordChars s.toList) = c :: rest ∧
        (isLetter c || c == '_') := by
      obtain ⟨c, rest, hcs⟩ := List.exists_cons_of_ne_nil hempty
      rw [hcs, wordChars, List.map_cons]
      generalize (if isWordChar c then c else '_') = first
      rw [guardStart]
      split
      · exact ⟨first, _, rfl, ‹_›⟩
      · exact ⟨'_', _, rfl, by decide⟩
    split
    · exact ⟨c, rest ++ ['_'],
        by rw [String.toList_append, String.toList_ofList, hname]; rfl, hstart⟩
    · exact ⟨c, rest, by rw [String.toList_ofList, hname], hstart⟩

theorem attributeName_ne_nil (s : String) : (attributeName s).toList ≠ [] := by
  obtain ⟨c, rest, hcs, -⟩ := attributeName_start s
  rw [hcs]
  exact List.cons_ne_nil c rest

/-- How keywords and names of the declarative base are not spelled. -/
theorem reserved_spelling : (∀ word ∈ keywords, '_' ∉ word.toList) ∧
    ∀ word ∈ keywords ++ declarativeNames, word ++ "_" ∉ keywords ++ declarativeNames ∧
      word ≠ "_field" ∧ (word.toList.all fun c => !isAsciiDigit c) ∧
      ¬ ('_' ∈ word.toList ∧ 'v' ∈ word.toList) := by decide +kernel

theorem attributeName_not_mem (s : String) : attributeName s ∉ keywords ++ declarativeNames := by
  rw [attributeName_eq]
  split
  · exact fun hmem => (reserved_spelling.2 _ hmem).2.1 rfl
  · split
    · rename_i hmem
      exact (reserved_spelling.2 _ hmem).1
    · assumption

/-- Cleaning a second time changes nothing. -/
theorem attributeName_attributeName (s : String) :
    attributeName (attributeName s) = attributeName s := by
  obtain ⟨c, rest, hcs, hstart⟩ := attributeName_start s
  have hwords : wordChars (attributeName s).toList = (attributeName s).toList := by
    have hkept : ∀ c ∈ (attributeName s).toList, (if isWordChar c then c else '_') = c :=
      fun c hc =>
      if_pos (attributeName_wordChars s c hc)
    rw [wordChars, List.map_congr_left hkept, List.map_id']
  have hclean : guardStart (wordChars (attributeName s).toList) = (attributeName s).toList := by
    rw [hwords, hcs, guardStart, if_pos hstart]
  rw [attributeName_eq, if_neg (attributeName_ne_nil s), hclean, String.ofList_toList,
    if_neg (attributeName_not_mem s)]

theorem spells_attributeName_iff (s : String) :
    Spells (attributeName s).toList ↔ Spells s.toList := by
  rw [← isIdentifier_attributeName_iff, attributeName_attributeName, isIdentifier_attributeName_iff]

/-! ### Appended text -/

theorem not_mem_keywords_of_underscore {name : String} (h : '_' ∈ name.toList) :
    name ∉ keywords := by
  exact fun hmem => reserved_spelling.1 name hmem h

/-- Numbered names are neither keywords nor names of the declarative base. -/
theorem not_mem_of_digit {name : String} {c : Char} (hc : c ∈ name.toList)
    (hdigit : isAsciiDigit c) :
    name ∉ keywords ++ declarativeNames := by
  intro hmem
  have hc := List.all_eq_true.mp (reserved_spelling.2 name hmem).2.2.1 c hc
  simp [hdigit] at hc

theorem all_continues_of_digits {more : List Char} (h : ∀ c ∈ more, isAsciiDigit c) :
    more.all continuesIdentifier := by
  rw [List.all_eq_true]
  intro c hc
  have hdigit := h c hc
  have hascii := isAscii_of_isAsciiDigit hdigit
  have hword : isWordChar c := by simp [isWordChar, isLetterOrNumeral, isNumeral, hascii, hdigit]
  exact (continuesIdentifier_iff hword).mpr (not_isStray_of_isAscii hascii)

/-- A cleaned name with an underscore, and with a number behind that. -/
theorem isIdentifier_marked_iff (s : String) {more : List Char} (h : ∀ c ∈ more, isAsciiDigit c) :
    isIdentifier ((attributeName s).toList ++ '_' :: more) ↔ Spells s.toList := by
  have hmore : ('_' :: more).all continuesIdentifier := by
    rw [List.all_cons, Bool.and_eq_true]
    exact ⟨by decide, all_continues_of_digits h⟩
  rw [isIdentifier_append (attributeName_ne_nil s), isIdentifier_attributeName_iff]
  exact and_iff_left hmore

/-! ### Word forms -/

section

variable {d : Char} (hd : d ≠ '_')
include hd

theorem mem_breakWords_iff (cs : List Char) : d ∈ breakWords cs ↔ d ∈ cs := by
  fun_induction breakWords cs with
  | case1 c u l rest _ ih =>
    have hrest : d ∈ rest ↔ d ∈ rest.takeWhile isAsciiLower ∨ d ∈ rest.dropWhile isAsciiLower := by
      rw [← List.mem_append, List.takeWhile_append_dropWhile]
    simp only [List.cons_append, List.mem_cons, List.mem_append, ih, hrest, hd, false_or]
  | case2 c u l rest _ ih =>
    rw [List.mem_cons, ih]
    exact List.mem_cons.symm
  | case3 => rfl

theorem mem_mergeBreaks_iff (cs : List Char) : d ∈ mergeBreaks cs ↔ d ∈ cs := by
  fun_induction mergeBreaks cs with
  | case1 u rest _ ih => simp only [List.mem_cons, ih, hd, false_or]
  | case2 u rest _ ih => simp only [List.mem_cons, ih, hd, false_or]
  | case3 c rest _ ih => rw [List.mem_cons, ih, List.mem_cons]
  | case4 => rfl

theorem mem_breakHumps_iff (cs : List Char) : d ∈ breakHumps cs ↔ d ∈ cs := by
  fun_induction breakHumps cs with
  | case1 a u rest _ ih => simp only [List.mem_cons, ih, hd, false_or]
  | case2 a u rest _ ih =>
    rw [List.mem_cons, ih]
    exact List.mem_cons.symm
  | case3 => rfl

end

theorem ne_underscore_of_isStray {d : Char} (hd : isStray d) : d ≠ '_' := by
  rintro rfl
  exact not_isStray_of_isAscii (by decide) hd

theorem sameStrays_snakeChars (cs : List Char) : SameStrays (snakeChars cs) cs := by
  intro d hd
  have hne := ne_underscore_of_isStray hd
  rw [snakeChars, mem_lower_iff hd, mem_breakHumps_iff hne, mem_mergeBreaks_iff hne,
    mem_breakWords_iff hne]

theorem sameStrays_snakeCase (s : String) : SameStrays (snakeCase s).toList s.toList := by
  rw [snakeCase, onChars, String.toList_ofList]
  exact sameStrays_snakeChars _

theorem sameStrays_capitalise (cs : List Char) : SameStrays (capitalise cs) cs := by
  intro d hd
  cases cs with
  | nil => rfl
  | cons c rest => rw [capitalise, List.mem_append, mem_upperChar_iff hd, List.mem_cons]

theorem sameStrays_pascalCase (s : String) : SameStrays (pascalCase s).toList s.toList := by
  intro d hd
  have hkept : ¬ (!isLetterOrNumeral d) := by simp [isLetterOrNumeral_of_isStray hd]
  rw [pascalCase, onChars, String.toList_ofList, pascalChars, List.mem_flatMap,
    ← mem_pieces_iff (p := (!isLetterOrNumeral ·)) hkept]
  exact exists_congr fun piece => and_congr_right fun _ => sameStrays_capitalise piece d hd

theorem sameStrays_withStem {stem : String} (hstem : stem.toList.all isAscii) (name : String) :
    SameStrays (withStem stem name).toList name.toList := by
  unfold withStem
  split
  · rename_i hnil
    rw [hnil, ← List.append_nil stem.toList]
    exact sameStrays_ascii_append hstem []
  · rename_i c rest _
    have hunderscore : "_".toList.all isAscii := by decide
    extract_lets started
    have hname : SameStrays started.toList name.toList := by
      unfold started
      split
      · rw [String.toList_append]
        exact sameStrays_ascii_append hstem _
      · exact fun d _ => Iff.rfl
    split
    · rw [String.toList_append]
      exact (sameStrays_append_ascii _ hunderscore).trans hname
    · exact hname

theorem sameStrays_className (table : String) :
    SameStrays (className table).toList table.toList := by
  have hstem : "Table".toList.all isAscii := by decide
  have hentity : "Entity".toList.all isAscii := by decide
  have hname := (sameStrays_withStem hstem (pascalCase table)).trans (sameStrays_pascalCase table)
  unfold className
  dsimp only
  split
  · rw [String.toList_append]
    exact (sameStrays_append_ascii _ hentity).trans hname
  · exact hname

/-! ### Names of relations -/

/-- The part of a forward name that is there for every column. -/
theorem spells_forwardBase (table : String) :
    Spells ("fk_" ++ snakeCase (className table)).toList ↔ NoStray table.toList := by
  have hfirst : Spells "fk_".toList := by
    rw [show "fk_".toList = ['f', 'k', '_'] by decide]
    exact spells_of_ascii (by decide) (by decide)
  have hsame := (sameStrays_snakeCase (className table)).trans (sameStrays_className table)
  rw [String.toList_append, spells_append (by decide), hsame.noStray_iff]
  exact and_iff_right hfirst

theorem isIdentifier_forwardName_iff (table : String) (column : Option String) :
    isIdentifier (forwardName table column).toList ↔
      NoStray table.toList ∧ NoStray (relationStem (column.getD "")).toList := by
  have hstem :
      (column.getD "").isEmpty = true → NoStray (relationStem (column.getD "")).toList := by
    intro hempty
    rw [String.isEmpty_iff.mp hempty]
    exact List.forall_mem_nil _
  rw [forwardName, isIdentifier_attributeName_iff]
  split
  · rename_i hempty
    rw [spells_forwardBase]
    exact (and_iff_left (hstem hempty)).symm
  · have hbase : ("fk_" ++ snakeCase (className table)).toList ++ "_".toList ≠ [] :=
      List.append_ne_nil_of_right_ne_nil _ (by decide)
    have hunderscore : NoStray "_".toList := noStray_of_ascii (by decide)
    have hne : ("fk_" ++ snakeCase (className table)).toList ≠ [] := by
      rw [String.toList_append]
      exact List.append_ne_nil_of_left_ne_nil (by decide) _
    rw [String.toList_append, String.toList_append, spells_append hbase, spells_append hne,
      spells_forwardBase, and_iff_left hunderscore, (sameStrays_snakeCase _).noStray_iff]

theorem forwardName_not_mem (table : String) (column : Option String) :
    forwardName table column ∉ keywords ++ declarativeNames := by
  rw [forwardName]
  exact attributeName_not_mem _

theorem spells_plural_iff (table : String) :
    Spells (plural table).toList ↔ Spells table.toList := by
  rw [plural, onChars, String.toList_ofList, pluralChars]
  split
  · rfl
  · by_cases hempty : table.toList = []
    · rw [hempty]
      exact iff_of_true (spells_of_ascii (by decide) (by decide)) ⟨List.forall_mem_nil _, by simp⟩
    · rw [spells_append hempty]
      exact and_iff_left (noStray_of_ascii (by decide))

theorem isIdentifier_inverseName_iff (table : String) :
    isIdentifier (inverseName table).toList ↔ Spells table.toList := by
  rw [inverseName, isIdentifier_attributeName_iff, spells_plural_iff]

theorem inverseName_not_mem (table : String) :
    inverseName table ∉ keywords ++ declarativeNames := by
  rw [inverseName]
  exact attributeName_not_mem _

theorem isIdentifier_inverseAlternate_iff (table column : String) :
    isIdentifier (inverseAlternate (inverseName table) column).toList ↔
      Spells table.toList ∧ NoStray (relationStem column).toList := by
  have hby : NoStray "_by_".toList := noStray_of_ascii (by decide)
  have hne : (inverseName table).toList ++ "_by_".toList ≠ [] :=
    List.append_ne_nil_of_right_ne_nil _ (by decide)
  rw [inverseAlternate, isIdentifier_attributeName_iff, String.toList_append, String.toList_append,
    spells_append hne, inverseName, spells_append (attributeName_ne_nil _),
    spells_attributeName_iff, spells_plural_iff, and_iff_left hby]

theorem inverseAlternate_not_mem (name column : String) :
    inverseAlternate name column ∉ keywords ++ declarativeNames := by
  rw [inverseAlternate]
  exact attributeName_not_mem _

/-- The ends of a many-to-many relation are named as inverse relations are. -/
theorem manyToManyName_eq (table : String) : manyToManyName table = inverseName table := rfl

/-- A name behind a further text, such as the junction that a relation goes through. -/
theorem not_mem_of_via {name : String} (h : '_' ∈ name.toList) (hvia : 'v' ∈ name.toList) :
    name ∉ keywords ++ declarativeNames := by
  exact fun hmem => (reserved_spelling.2 name hmem).2.2.2 ⟨h, hvia⟩

end CatalogEntities.Naming
