import CatalogEntities.Proofs.Naming.EnumName
import CatalogEntities.Proofs.Naming.InTurn
import CatalogEntities.Proofs.Naming.Spelling
import CatalogEntities.Proofs.Text.Digits

/-!
Which names of classes and of members of enumerations are identifiers. They are words in Pascal
case, with a stem in front of a digit, so two things are left to chance: letters and numerals that
identifiers refuse, and a first letter or numeral that is no digit and starts no identifier, such as
a fraction. None of the names is a keyword.

Main results: `isIdentifier_className_iff`, `isIdentifier_enumClassName_iff`,
`isIdentifier_memberName_iff`.
-/

namespace CatalogEntities.Naming

open Number Text

/-! ### Words in Pascal case -/

/-- A text whose words make a name: it has no strays, and its first letter or numeral starts an
identifier or is a digit, which gets a stem in front. -/
structure SpellsWords (cs : List Char) : Prop where
  noStray : NoStray cs
  start : ∀ c ∈ cs.find? isLetterOrNumeral, isDigit c ∨ startsIdentifier c

/-- All characters but strays may stand in an identifier. -/
def Wordy (cs : List Char) : Prop := ∀ c ∈ cs, isStray c ∨ continuesIdentifier c

theorem Wordy.all_continues_iff {cs : List Char} (h : Wordy cs) :
    cs.all continuesIdentifier ↔ NoStray cs := by
  rw [List.all_eq_true]
  constructor
  · intro hall c hc hstray
    have hcontinues := hall c hc
    simp [isStray, hcontinues] at hstray
  · exact fun hnone c hc => (h c hc).resolve_left (hnone c hc)

theorem wordy_append {xs ys : List Char} :
    Wordy (xs ++ ys) ↔ Wordy xs ∧ Wordy ys := List.forall_mem_append

theorem wordy_of_isWordChar {cs : List Char} (h : ∀ c ∈ cs, isWordChar c) : Wordy cs := by
  intro c hc
  by_cases hstray : isStray c
  · exact .inl hstray
  · exact .inr ((continuesIdentifier_iff (h c hc)).mpr hstray)

theorem wordy_of_isIdentifier {cs : List Char} (h : isIdentifier cs) : Wordy cs := by
  cases cs with
  | nil => exact List.forall_mem_nil _
  | cons c rest =>
    rw [isIdentifier, Bool.and_eq_true, List.all_eq_true] at h
    intro d hd
    rcases List.mem_cons.mp hd with rfl | hd
    · exact .inr (continuesIdentifier_of_starts h.1)
    · exact .inr (h.2 d hd)

theorem wordy_digits (k : Nat) : Wordy (natText k).toList := fun _ hc =>
  .inr (List.all_eq_true.mp
    (all_continues_of_digits fun _ => isAsciiDigit_of_mem_natText (n := k)) _ hc)

theorem wordy_upperChar {c : Char} (hc : isLetterOrNumeral c) : Wordy (upperChar c) := by
  rcases upperChar_cases hc with hkept | ⟨-, himage⟩
  · rw [hkept]
    refine wordy_of_isWordChar fun d hd => ?_
    obtain rfl := List.mem_singleton.mp hd
    simp [isWordChar, hc]
  · exact wordy_of_isIdentifier himage

theorem wordy_pascalCase (s : String) : Wordy (pascalCase s).toList := by
  rw [pascalCase, onChars, String.toList_ofList, pascalChars]
  intro d hd
  obtain ⟨piece, hpiece, hd⟩ := List.mem_flatMap.mp hd
  have hkind : ∀ c ∈ piece, isLetterOrNumeral c := fun c hc => by
    simpa using not_separator_of_mem_splitWhere (List.mem_filter.mp hpiece).1 hc
  cases piece with
  | nil => exact absurd hd List.not_mem_nil
  | cons c rest =>
    have hrest : Wordy rest := wordy_of_isWordChar fun e he => by
      simp [isWordChar, hkind e (List.mem_cons_of_mem _ he)]
    exact wordy_append.mpr ⟨wordy_upperChar (hkind c List.mem_cons_self), hrest⟩ d hd

/-- Pascal case begins with the upper case of the first letter or numeral. -/
theorem pascalChars_start (cs : List Char) :
    match cs.find? isLetterOrNumeral with
    | none => pascalChars cs = []
    | some c => ∃ rest, pascalChars cs = upperChar c ++ rest := by
  induction cs with
  | nil => rfl
  | cons c rest ih =>
    by_cases hc : isLetterOrNumeral c
    · rw [List.find?_cons_of_pos hc]
      obtain ⟨first, more, hsplit⟩ :=
        List.exists_cons_of_ne_nil (splitWhere_ne_nil (p := (!isLetterOrNumeral ·)) rest)
      have hfirst : ∀ d ∈ [c], ¬ (!isLetterOrNumeral d) := by simp [hc]
      have hword := splitWhere_append hfirst hsplit
      rw [List.singleton_append] at hword
      refine ⟨first ++ (more.filter (!·.isEmpty)).flatMap capitalise, ?_⟩
      rw [pascalChars, pieces, hword, List.singleton_append, List.filter_cons_of_pos (by rfl),
        List.flatMap_cons, capitalise, List.append_assoc]
    · have hsplit := splitWhere_separator (p := (!isLetterOrNumeral ·)) (c := c) (by simp [hc]) rest
      have hskip : pascalChars (c :: rest) = pascalChars rest := by
        rw [pascalChars, pieces, hsplit, List.filter_cons_of_neg (by simp)]
        rfl
      rw [List.find?_cons_of_neg hc, hskip]
      exact ih

theorem start_upperChar {c d : Char} {image : List Char} (hc : isLetterOrNumeral c)
    (h : upperChar c = d :: image) :
    isDigit d ∨ startsIdentifier d ↔ isDigit c ∨ startsIdentifier c := by
  rcases upperChar_cases hc with hkept | ⟨hstart, himage⟩
  · rw [h] at hkept
    obtain rfl := (List.cons.inj hkept).1
    rfl
  · rw [h, isIdentifier, Bool.and_eq_true] at himage
    exact iff_of_true (.inr himage.1) (.inr hstart)

theorem spellsWords_of_not_mem {cs : List Char} (h : ∀ c ∈ cs, ¬ isLetterOrNumeral c) :
    SpellsWords cs := by
  refine ⟨fun c hc hstray => h c hc (isLetterOrNumeral_of_isStray hstray), ?_⟩
  rw [List.find?_eq_none.mpr h]
  exact fun c hc => absurd hc (by simp)

/-! ### Names with a stem -/

theorem withStem_not_mem_keywords {stem : String} (hstem : stem ∉ keywords) (name : String) :
    withStem stem name ∉ keywords := by
  unfold withStem
  split
  · exact hstem
  · extract_lets started
    split
    · refine not_mem_keywords_of_underscore ?_
      rw [String.toList_append]
      exact List.mem_append_right _ (List.mem_singleton_self _)
    · rename_i hkept
      simpa using hkept

/-- An underscore behind a keyword is of no account. -/
theorem isIdentifier_kept {name : String} (hne : name.toList ≠ []) :
    isIdentifier (if keywords.contains name then name ++ "_" else name).toList ↔
      isIdentifier name.toList := by
  split
  · have hmark : "_".toList.all continuesIdentifier := by decide
    rw [String.toList_append, isIdentifier_append hne]
    exact and_iff_left hmark
  · rfl

theorem isIdentifier_withStem_iff {stem : String} (hstem : isIdentifier stem.toList) (s : String) :
    isIdentifier (withStem stem (pascalCase s)).toList ↔ SpellsWords s.toList := by
  have htext : (pascalCase s).toList = pascalChars s.toList := by
    rw [pascalCase, onChars, String.toList_ofList]
  have hall : (pascalChars s.toList).all continuesIdentifier ↔ NoStray s.toList := by
    rw [← htext, (wordy_pascalCase s).all_continues_iff, (sameStrays_pascalCase s).noStray_iff]
  have hstart := pascalChars_start s.toList
  cases hfind : s.toList.find? isLetterOrNumeral with
  | none =>
    rw [hfind] at hstart
    -- nothing is left of a text without letters, and the stem stands alone
    have hname : withStem stem (pascalCase s) = stem := by rw [withStem, htext, hstart]
    rw [hname]
    exact iff_of_true hstem (spellsWords_of_not_mem (List.find?_eq_none.mp hfind))
  | some c =>
    rw [hfind] at hstart
    obtain ⟨rest, hpascal⟩ := hstart
    have hc : isLetterOrNumeral c := List.find?_some hfind
    obtain ⟨d, image, himage⟩ := List.exists_cons_of_ne_nil (upperChar_ne_nil c)
    rw [himage, List.cons_append] at hpascal
    have hspells : SpellsWords s.toList ↔ NoStray s.toList ∧ (isDigit d ∨ startsIdentifier d) := by
      rw [start_upperChar hc himage]
      constructor
      · exact fun h => ⟨h.noStray, h.start c hfind⟩
      · rintro ⟨hnone, hfirst⟩
        refine ⟨hnone, fun e he => ?_⟩
        obtain rfl : c = e := by simpa [hfind] using he
        exact hfirst
    have hne : (pascalCase s).toList ≠ [] := by
      rw [htext, hpascal]
      exact List.cons_ne_nil _ _
    have hname : withStem stem (pascalCase s) =
        (let name := if isDigit d then stem ++ pascalCase s else pascalCase s
         if keywords.contains name then name ++ "_" else name) := by rw [withStem, htext, hpascal]
    rw [hname, hspells, ← hall]
    by_cases hdigit : isDigit d
    · -- behind the stem a digit only has to continue the name
      have hstemne : stem.toList ≠ [] := by
        intro hnil
        rw [hnil] at hstem
        contradiction
      rw [if_pos hdigit, isIdentifier_kept (by simp [hstemne]), String.toList_append,
        isIdentifier_append hstemne, htext]
      simp only [hstem, hdigit, true_and, true_or, and_true]
    · rw [if_neg hdigit, isIdentifier_kept hne, htext, hpascal, isIdentifier, List.all_cons,
        Bool.and_eq_true, Bool.and_eq_true]
      constructor
      · exact fun h => ⟨⟨continuesIdentifier_of_starts h.1, h.2⟩, .inr h.1⟩
      · exact fun h => ⟨h.2.resolve_left hdigit, h.1.2⟩

theorem withStem_empty (stem : String) : withStem stem "" = stem := rfl

/-- What a name with a stem is made of. -/
theorem withStem_forms (stem name : String) : ∃ front,
    (front = stem ∨ front = stem ++ name ∨ name.toList ≠ [] ∧ front = name) ∧
      (withStem stem name = front ∨ withStem stem name = front ++ "_") := by
  unfold withStem
  split
  · exact ⟨stem, .inl rfl, .inl rfl⟩
  · rename_i c rest hname
    extract_lets started
    refine ⟨started, ?_, ?_⟩
    · unfold started
      split
      · exact .inr (.inl rfl)
      · exact .inr (.inr ⟨hname ▸ List.cons_ne_nil c rest, rfl⟩)
    · split
      · exact .inr rfl
      · exact .inl rfl

theorem wordy_withStem {stem : String} (hstem : isIdentifier stem.toList) (s : String) :
    Wordy (withStem stem (pascalCase s)).toList := by
  have hstem := wordy_of_isIdentifier hstem
  have hmark : Wordy "_".toList := wordy_of_isIdentifier (by decide)
  obtain ⟨front, hfront, hname⟩ := withStem_forms stem (pascalCase s)
  have hwordy : Wordy front.toList := by
    rcases hfront with rfl | rfl | ⟨-, rfl⟩
    · exact hstem
    · rw [String.toList_append]
      exact wordy_append.mpr ⟨hstem, wordy_pascalCase s⟩
    · exact wordy_pascalCase s
  rcases hname with hname | hname
  · rw [hname]
    exact hwordy
  · rw [hname, String.toList_append]
    exact wordy_append.mpr ⟨hwordy, hmark⟩

theorem not_isAsciiLower_of_mem_upperChar {c d : Char} (h : d ∈ upperChar c) :
    ¬ isAsciiLower d := by
  intro hlower
  have hascii : isAscii d := isAscii_of_isAsciiLetter (by simp [isAsciiLetter, hlower])
  rcases upperChar_of_isAscii h hascii with hupper | ⟨rfl, hnone⟩
  · simp only [isAsciiUpper, isAsciiLower, Bool.and_eq_true, decide_eq_true_eq] at hupper hlower
    exact absurd (Char.le_trans hlower.1 hupper.2) (by decide)
  · exact hnone hlower

theorem pascalCase_start {s : String} (h : (pascalCase s).toList ≠ []) :
    ∃ d more, (pascalCase s).toList = d :: more ∧ ¬ isAsciiLower d := by
  have hstart := pascalChars_start s.toList
  rw [pascalCase, onChars, String.toList_ofList] at h ⊢
  split at hstart
  · exact absurd hstart h
  · rename_i c _
    obtain ⟨rest, hrest⟩ := hstart
    obtain ⟨d, image, himage⟩ := List.exists_cons_of_ne_nil (upperChar_ne_nil c)
    refine ⟨d, image ++ rest, by rw [hrest, himage, List.cons_append], ?_⟩
    exact not_isAsciiLower_of_mem_upperChar (himage ▸ List.mem_cons_self)

/-! ### Classes of tables -/

/-- Keywords have no character of a stem, and behind their first character small letters only. -/
theorem keywords_spelling : ∀ word ∈ keywords, 'E' ∉ word.toList ∧ 'V' ∉ word.toList ∧
    word.toList.tail.all isAsciiLower := by decide +kernel

theorem className_forms (table : String) :
    className table = withStem "Table" (pascalCase table) ∨
      className table = withStem "Table" (pascalCase table) ++ "Entity" := by
  unfold className
  extract_lets name
  split
  · exact .inr rfl
  · exact .inl rfl

/-- A name with a stem begins with the stem or with a capital of the words, which is no small letter
of ASCII. -/
theorem withStem_start {stem : String} {c : Char} {rest : List Char}
    (hstem : stem.toList = c :: rest) (hc : ¬ isAsciiLower c) (s : String) :
    ∃ d more, (withStem stem (pascalCase s)).toList = d :: more ∧ ¬ isAsciiLower d := by
  obtain ⟨front, hfront, hname⟩ := withStem_forms stem (pascalCase s)
  obtain ⟨d, more, hstart, hd⟩ : ∃ d more, front.toList = d :: more ∧ ¬ isAsciiLower d := by
    rcases hfront with rfl | rfl | ⟨hne, rfl⟩
    · exact ⟨c, rest, hstem, hc⟩
    · exact ⟨c, rest ++ (pascalCase s).toList,
        by rw [String.toList_append, hstem, List.cons_append], hc⟩
    · exact pascalCase_start hne
  rcases hname with hname | hname
  · exact ⟨d, more, by rw [hname, hstart], hd⟩
  · exact ⟨d, more ++ "_".toList, by rw [hname, String.toList_append, hstart, List.cons_append], hd⟩

theorem tableOwn_start (table : String) :
    ∃ c rest, (withStem "Table" (pascalCase table)).toList = c :: rest := by
  have hstem : "Table".toList = 'T' :: "able".toList := by decide
  obtain ⟨c, rest, hname, -⟩ := withStem_start hstem (by decide) table
  exact ⟨c, rest, hname⟩

theorem className_ne_nil (table : String) : (className table).toList ≠ [] := by
  obtain ⟨d, more, hname⟩ := tableOwn_start table
  rcases className_forms table with hclass | hclass
  · rw [hclass, hname]
    exact List.cons_ne_nil d more
  · rw [hclass, String.toList_append, hname]
    exact List.cons_ne_nil d _

theorem className_not_mem_keywords (table : String) : className table ∉ keywords := by
  rcases className_forms table with hclass | hclass
  · rw [hclass]
    exact withStem_not_mem_keywords (by decide) _
  · rw [hclass]
    intro hmem
    refine (keywords_spelling _ hmem).1 ?_
    rw [String.toList_append]
    exact List.mem_append_right _ List.mem_cons_self

theorem isIdentifier_className_iff (table : String) :
    isIdentifier (className table).toList ↔ SpellsWords table.toList := by
  have hstem : isIdentifier "Table".toList := isIdentifier_of_isAsciiLetter (by decide)
  obtain ⟨d, more, hname⟩ := tableOwn_start table
  rw [← isIdentifier_withStem_iff hstem]
  rcases className_forms table with hclass | hclass
  · rw [hclass]
  · have hentity : "Entity".toList.all continuesIdentifier :=
      all_continues_of_isAsciiLetter (by decide)
    have hne : (withStem "Table" (pascalCase table)).toList ≠ [] := hname ▸ List.cons_ne_nil d more
    rw [hclass, String.toList_append, isIdentifier_append hne]
    exact and_iff_left hentity

theorem wordy_className (table : String) : Wordy (className table).toList := by
  have hstem : isIdentifier "Table".toList := isIdentifier_of_isAsciiLetter (by decide)
  have hentity : isIdentifier "Entity".toList := isIdentifier_of_isAsciiLetter (by decide)
  have hname := wordy_withStem hstem table
  rcases className_forms table with hclass | hclass
  · rw [hclass]
    exact hname
  · rw [hclass, String.toList_append]
    exact wordy_append.mpr ⟨hname, wordy_of_isIdentifier hentity⟩

/-! ### Classes of enumerations -/

theorem enumOwn_start (column : String) :
    ∃ c rest, (withStem "Enum" (pascalCase column)).toList = c :: rest ∧ ¬ isAsciiLower c := by
  have hstem : "Enum".toList = 'E' :: "num".toList := by decide
  exact withStem_start hstem (by decide) column

theorem firstTried_cases (taken : List String) (stem : String) :
    firstTried taken stem = stem ∨ ∃ k, firstTried taken stem = stem ++ natText k := by
  unfold firstTried
  split
  · exact .inr ⟨_, rfl⟩
  · exact .inl rfl

theorem enumStem_not_mem_keywords (table : String) (taken : List String) (column : String) :
    enumStem (className table) taken column ∉ keywords := by
  unfold enumStem
  extract_lets own
  split
  · intro hmem
    obtain ⟨c, rest, hown, hc⟩ := enumOwn_start column
    obtain ⟨d, more, hclass⟩ := List.exists_cons_of_ne_nil (className_ne_nil table)
    have hlower := (keywords_spelling _ hmem).2.2
    rw [String.toList_append, hclass, List.cons_append, List.tail_cons, List.all_eq_true] at hlower
    exact hc
      (hlower c (List.mem_append_right _ (show c ∈ own.toList from hown ▸ List.mem_cons_self)))
  · exact withStem_not_mem_keywords (by decide) _

theorem enumClassName_not_mem_keywords (column table : String) (taken : List String) :
    enumClassName column (className table) taken ∉ keywords := by
  rw [enumClassName_eq]
  rcases firstTried_cases taken (enumStem (className table) taken column) with hname | ⟨k, hname⟩
  · rw [hname]
    exact enumStem_not_mem_keywords table taken column
  · obtain ⟨c, rest, hdigits⟩ := List.exists_cons_of_ne_nil (natText_ne_nil k)
    have hc : c ∈ (natText k).toList := hdigits ▸ List.mem_cons_self
    rw [hname]
    intro hmem
    refine not_mem_of_digit (c := c) ?_ (isAsciiDigit_of_mem_natText hc)
      (List.mem_append_left _ hmem)
    rw [String.toList_append]
    exact List.mem_append_right _ hc

theorem isIdentifier_enumStem_iff (table : String) (taken : List String) (column : String) :
    isIdentifier (enumStem (className table) taken column).toList ↔
      if withStem "Enum" (pascalCase column) ∈ taken then SpellsWords table.toList ∧
      NoStray column.toList
      else SpellsWords column.toList := by
  have hstem : isIdentifier "Enum".toList := isIdentifier_of_isAsciiLetter (by decide)
  unfold enumStem
  extract_lets own
  by_cases htaken : own ∈ taken
  · have hascii : "Enum".toList.all isAscii := by decide
    have hown : own.toList.all continuesIdentifier ↔ NoStray column.toList := by
      rw [(wordy_withStem hstem column).all_continues_iff,
        (sameStrays_withStem hascii _).noStray_iff, (sameStrays_pascalCase column).noStray_iff]
    rw [if_pos htaken, if_pos (List.contains_iff_mem.mpr htaken), String.toList_append,
      isIdentifier_append (className_ne_nil table), isIdentifier_className_iff, hown]
  · rw [if_neg htaken, if_neg (by simpa using htaken)]
    exact isIdentifier_withStem_iff hstem column

theorem enumStem_ne_nil (table : String) (taken : List String) (column : String) :
    (enumStem (className table) taken column).toList ≠ [] := by
  unfold enumStem
  extract_lets own
  split
  · rw [String.toList_append]
    exact List.append_ne_nil_of_left_ne_nil (className_ne_nil table) _
  · obtain ⟨c, rest, hown, -⟩ := enumOwn_start column
    exact hown ▸ List.cons_ne_nil c rest

theorem isIdentifier_enumClassName_iff (column table : String) (taken : List String) :
    isIdentifier (enumClassName column (className table) taken).toList ↔
      if withStem "Enum" (pascalCase column) ∈ taken then SpellsWords table.toList ∧
      NoStray column.toList
      else SpellsWords column.toList := by
  rw [enumClassName_eq, ← isIdentifier_enumStem_iff]
  rcases firstTried_cases taken (enumStem (className table) taken column) with hname | ⟨k, hname⟩
  · rw [hname]
  · have hdigits := all_continues_of_digits fun _ => isAsciiDigit_of_mem_natText (n := k)
    rw [hname, String.toList_append, isIdentifier_append (enumStem_ne_nil table taken column)]
    exact and_iff_left hdigits

theorem wordy_enumClassName (column table : String) (taken : List String) :
    Wordy (enumClassName column (className table) taken).toList := by
  have hstem : isIdentifier "Enum".toList := isIdentifier_of_isAsciiLetter (by decide)
  have hown := wordy_withStem hstem column
  have hname : Wordy (enumStem (className table) taken column).toList := by
    unfold enumStem
    extract_lets own
    split
    · rw [String.toList_append]
      exact wordy_append.mpr ⟨wordy_className table, hown⟩
    · exact hown
  rw [enumClassName_eq]
  rcases firstTried_cases taken (enumStem (className table) taken column) with hform | ⟨k, hform⟩
  · rw [hform]
    exact hname
  · rw [hform, String.toList_append]
    exact wordy_append.mpr ⟨hname, wordy_digits k⟩

/-! ### Members of enumerations -/

theorem decimalTable_apart : decimalTable.apart identifierPartRefused := by decide +kernel

theorem not_isStray_of_isDecimal {c : Char} (h : isDecimal c) : ¬ isStray c := by
  by_cases hascii : isAscii c
  · exact not_isStray_of_isAscii hascii
  · have hpart := CharTable.not_holds_of_apart decimalTable_apart (decimalTable_holds hascii h)
    exact fun hstray => hpart (CharTable.has_iff.mp (partRefused_of_isStray hstray))

theorem takeDecimals?_eq_some {cs rest : List Char} (h : takeDecimals? cs = some rest) :
    ∀ c ∈ cs, isDecimal c ∨ c ∈ rest := by
  unfold takeDecimals? at h
  split at h
  · contradiction
  · obtain rfl := Option.some.inj h
    intro c hc
    rw [← List.takeWhile_append_dropWhile (p := isDecimal) (l := cs), List.mem_append] at hc
    exact hc.imp_left fun hc => List.mem_takeWhile_imp hc

/-- A number has decimal digits, a sign and a point. -/
theorem mem_of_isNumberChars {cs : List Char} (h : isNumberChars cs) :
    ∀ c ∈ cs, isDecimal c ∨ c ∈ ['+', '-', '.'] := by
  intro c hc
  unfold isNumberChars at h
  extract_lets body at h
  have hsign : c ∈ body ∨ c ∈ ['+', '-', '.'] := by
    unfold body
    split
    · exact (List.mem_cons.mp hc).symm.imp_right fun hc => by simp [hc]
    · exact (List.mem_cons.mp hc).symm.imp_right fun hc => by simp [hc]
    · exact .inl hc
  rcases hsign with hc | hc
  · split at h
    · contradiction
    · rename_i hwhole
      exact .inl ((takeDecimals?_eq_some hwhole c hc).resolve_right List.not_mem_nil)
    · rename_i rest hwhole
      rcases takeDecimals?_eq_some hwhole c hc with hdecimal | hrest
      · exact .inl hdecimal
      · rcases List.mem_cons.mp hrest with rfl | hrest
        · exact .inr (by simp)
        · exact .inl ((takeDecimals?_eq_some (eq_of_beq h) c hrest).resolve_right List.not_mem_nil)
    · contradiction
  · exact .inr hc

/-- The letters and numerals of a number are decimal digits. -/
theorem isDecimal_of_isNumber {s : String} (h : isNumber s) :
    ∀ c ∈ s.toList, isLetterOrNumeral c → isDecimal c := by
  intro c hc hkind
  obtain ⟨before, after, hsplit, hbefore, hafter⟩ := exists_trimmed s.toList
  rw [hsplit, List.mem_append, List.mem_append] at hc
  rcases hc with hc | hc | hc
  · exact absurd hkind (not_isLetterOrNumeral_of_isBlank (hbefore c hc))
  · refine (mem_of_isNumberChars h c hc).resolve_right fun hmark => ?_
    simp only [List.mem_cons, List.not_mem_nil, or_false] at hmark
    rcases hmark with rfl | rfl | rfl <;> exact absurd hkind (by decide)
  · exact absurd hkind (not_isLetterOrNumeral_of_isBlank (hafter c hc))

theorem spellsWords_of_isNumber {s : String} (h : isNumber s) : SpellsWords s.toList := by
  constructor
  · intro c hc hstray
    exact not_isStray_of_isDecimal
      (isDecimal_of_isNumber h c hc (isLetterOrNumeral_of_isStray hstray)) hstray
  · intro c hc
    have hfirst := Option.mem_def.mp hc
    exact .inl (isDigit_of_isDecimal
      (isDecimal_of_isNumber h c (List.mem_of_find?_eq_some hfirst) (List.find?_some hfirst)))

theorem isIdentifier_memberName_iff (literal : String) :
    isIdentifier (memberName literal).toList ↔ SpellsWords literal.toList := by
  have hval : isIdentifier "Val".toList := isIdentifier_of_isAsciiLetter (by decide)
  unfold memberName
  split
  · rename_i hnumber
    have hspells := spellsWords_of_isNumber hnumber
    have htrim : NoStray (trim literal.toList) := by
      obtain ⟨before, after, hsplit, -⟩ := exists_trimmed literal.toList
      have hnone := hspells.noStray
      rw [hsplit, noStray_append, noStray_append] at hnone
      exact hnone.2.1
    have hclean := (all_continues_wordChars _).mpr htrim
    rw [String.toList_append, isIdentifier_append (by decide),
      String.toList_ofList (l := wordChars _)]
    exact iff_of_true ⟨hval, hclean⟩ hspells
  · dsimp only
    split
    · rename_i hempty
      have hname : withStem "Val" (pascalCase literal) = "Val" := by
        rw [String.isEmpty_iff.mp hempty, withStem_empty]
      have hword : isIdentifier "Empty".toList := isIdentifier_of_isAsciiLetter (by decide)
      rw [← isIdentifier_withStem_iff hval, hname]
      exact iff_of_true hword hval
    · exact isIdentifier_withStem_iff hval literal

theorem wordy_memberName (literal : String) : Wordy (memberName literal).toList := by
  have hval : isIdentifier "Val".toList := isIdentifier_of_isAsciiLetter (by decide)
  have hempty : isIdentifier "Empty".toList := isIdentifier_of_isAsciiLetter (by decide)
  unfold memberName
  split
  · rw [String.toList_append, String.toList_ofList (l := wordChars _)]
    exact wordy_append.mpr ⟨wordy_of_isIdentifier hval,
      wordy_of_isWordChar fun _ => isWordChar_of_mem_wordChars⟩
  · dsimp only
    split
    · exact wordy_of_isIdentifier hempty
    · exact wordy_withStem hval literal

theorem memberName_not_mem_keywords (literal : String) : memberName literal ∉ keywords := by
  unfold memberName
  split
  · intro hmem
    refine (keywords_spelling _ hmem).2.1 ?_
    rw [String.toList_append]
    exact List.mem_append_left _ List.mem_cons_self
  · dsimp only
    split
    · decide
    · exact withStem_not_mem_keywords (by decide) _

theorem memberName_ne_nil (literal : String) : (memberName literal).toList ≠ [] := by
  obtain ⟨c, rest, hname, -⟩ := memberName_plain literal
  exact hname ▸ List.cons_ne_nil c rest

/-- A number behind the name of a member changes nothing. -/
theorem isIdentifier_numbered_iff {base : String} (hne : base.toList ≠ []) (k : Nat) :
    isIdentifier (numbered base k).toList ↔ isIdentifier base.toList := by
  have hmark : "_".toList.all continuesIdentifier := by decide
  have hdigits := all_continues_of_digits fun _ => isAsciiDigit_of_mem_natText (n := k)
  rw [numbered, String.toList_append, String.toList_append, List.append_assoc,
    isIdentifier_append hne, List.all_append, Bool.and_eq_true]
  exact and_iff_left ⟨hmark, hdigits⟩

theorem numbered_not_mem_keywords (base : String) (k : Nat) : numbered base k ∉ keywords := by
  refine not_mem_keywords_of_underscore ?_
  rw [numbered, String.toList_append, String.toList_append]
  exact List.mem_append_left _ (List.mem_append_right _ (List.mem_singleton_self _))

/-- Members are identifiers exactly if their literals make a name, and no keywords. -/
theorem Named.isIdentifier_iff {seen : Counters} {literals : List String}
    {members : List EnumMember} (h : Named seen literals members) :
    List.Forall₂ (fun literal (m : EnumMember) => m.name ∉ keywords ∧
      (isIdentifier m.name.toList ↔ SpellsWords literal.toList)) literals members := by
  induction h with
  | nil => exact .nil
  | @cons seen counted literal given rest members hsearch _ ih =>
    refine .cons ?_ ih
    dsimp only
    rw [← isIdentifier_memberName_iff]
    rcases hsearch.is_numbered with hgiven | ⟨k, hgiven⟩
    · rw [hgiven]
      exact ⟨memberName_not_mem_keywords literal, Iff.rfl⟩
    · rw [hgiven]
      exact ⟨numbered_not_mem_keywords _ k, isIdentifier_numbered_iff (memberName_ne_nil literal) k⟩

theorem Named.wordy {seen : Counters} {literals : List String} {members : List EnumMember}
    (h : Named seen literals members) : ∀ m ∈ members, Wordy m.name.toList := by
  have hmark : isIdentifier "_".toList := by decide
  induction h with
  | nil => exact List.forall_mem_nil _
  | @cons seen counted literal given rest members hsearch _ ih =>
    refine List.forall_mem_cons.mpr ⟨?_, ih⟩
    dsimp only
    have hbase := wordy_memberName literal
    rcases hsearch.is_numbered with hgiven | ⟨k, hgiven⟩
    · rw [hgiven]
      exact hbase
    · rw [hgiven, numbered, String.toList_append, String.toList_append]
      exact wordy_append.mpr ⟨wordy_append.mpr ⟨hbase, wordy_of_isIdentifier hmark⟩, wordy_digits k⟩

/-! ### All names in Pascal case -/

/-- No name is a keyword, and which of them are identifiers. The class of an enumeration has the
class of its table in front if the own name is taken. -/
theorem pascal_names_identifiers (literals : List String) (column table : String)
    (taken : List String) :
    List.Forall₂ (fun literal (m : EnumMember) => m.name ∉ keywords ∧
        (isIdentifier m.name.toList ↔ SpellsWords literal.toList)) literals (enumMembers literals) ∧
      (enumClassName column (className table) taken ∉ keywords ∧
        (isIdentifier (enumClassName column (className table) taken).toList ↔
          if withStem "Enum" (pascalCase column) ∈ taken then SpellsWords table.toList ∧
          NoStray column.toList
          else SpellsWords column.toList)) ∧
      className table ∉ keywords ∧
      (isIdentifier (className table).toList ↔ SpellsWords table.toList) := by
  have hmembers := (named_iff.mpr rfl : Named [] literals (enumMembers literals)).isIdentifier_iff
  have henum := isIdentifier_enumClassName_iff column table taken
  refine ⟨hmembers, ⟨enumClassName_not_mem_keywords column table taken, henum⟩, ?_⟩
  exact ⟨className_not_mem_keywords table, isIdentifier_className_iff table⟩

/-- A superscript digit is kept, with a stem in front if it comes first, and a fraction is kept in
front. -/
theorem superscript_names : (enumMembers ["m²", "²", "½"]).map (·.name) = ["M²", "Val²", "½"] ∧
    enumClassName "m²" (className "Plot") [] = "M²" ∧ className "²" = "Table²" ∧
    ∀ name ∈ ["M²", "½", "Table²"], ¬ isIdentifier name.toList := by decide +kernel

end CatalogEntities.Naming
