import CatalogEntities.Catalog.Row
import CatalogEntities.Proofs.Catalog.Declaration

/-!
Quoted literals are read back as they were quoted. A pair of quotes in a literal is read as one
quote of it, and the quote that closes the literal has no quote behind it; so what stands between
two literals never changes where a literal ends.

Main result: `Catalog.quoted_read_back`.
-/

namespace CatalogEntities.Catalog

open Text

namespace EnumLiteral

theorem double_cons_of_ne {c : Char} (h : c ≠ '\'') (rest : List Char) :
    double (c :: rest) = c :: double rest :=
  if_neg (by simpa using h)

/-- A quote with another character or nothing behind it closes a literal. -/
theorem body?_quote {after : List Char} (h : after.head? ≠ some '\'') :
    body? ('\'' :: after) = some ([], after) := by
  cases after with
  | nil => rfl
  | cons c rest =>
    have hc : c ≠ '\'' := by simpa using h
    rw [body?.eq_def]
    split
    · contradiction
    · rename_i heq
      obtain ⟨-, heq⟩ := List.cons.inj heq
      exact absurd (List.cons.inj heq).1 hc
    · rename_i heq
      rw [(List.cons.inj heq).2]
    · rename_i hquote heq
      exact absurd (List.cons.inj heq).1.symm hquote

theorem body?_cons_of_ne {c : Char} (h : c ≠ '\'') (rest : List Char) :
    body? (c :: rest) = (body? rest).map fun (text, after) => (c :: text, after) := by
  rw [body?.eq_def]
  split
  · contradiction
  · rename_i heq
    exact absurd (List.cons.inj heq).1 h
  · rename_i heq
    exact absurd (List.cons.inj heq).1 h
  · rename_i heq
    obtain ⟨rfl, rfl⟩ := List.cons.inj heq
    rfl

theorem body?_double (cs : List Char) {after : List Char} (h : after.head? ≠ some '\'') :
    body? (double cs ++ '\'' :: after) = some (cs, after) := by
  induction cs with
  | nil => exact body?_quote h
  | cons c rest ih =>
    by_cases hc : c = '\''
    · subst hc
      show body? ('\'' :: '\'' :: (double rest ++ '\'' :: after)) = _
      rw [body?, ih]
    · rw [double_cons_of_ne hc, List.cons_append, body?_cons_of_ne hc, ih, Option.map_some]

theorem readAll_encode_append (cs : List Char) {after : List Char} (h : after.head? ≠ some '\'') :
    readAll (encode cs ++ after) = cs :: readAll after := by
  have htext : encode cs ++ after = '\'' :: (double cs ++ '\'' :: after) := by simp [encode]
  rw [htext, readAll, if_pos (by rfl)]
  split
  · rename_i text rest hbody
    rw [body?_double cs h] at hbody
    obtain ⟨rfl, rfl⟩ := Prod.mk.inj (Option.some.inj hbody)
    rfl
  · rename_i hnone
    rw [body?_double cs h] at hnone
    contradiction

/-- Whatever has no quotes may stand in front of a literal. -/
theorem readAll_skip {front : List Char} (h : '\'' ∉ front) (cs : List Char) :
    readAll (front ++ cs) = readAll cs := by
  induction front with
  | nil => rfl
  | cons c front ih =>
    obtain ⟨hc, hfront⟩ : '\'' ≠ c ∧ '\'' ∉ front := by simpa using h
    have hne : ¬ (c == '\'') := by simpa using Ne.symm hc
    rw [List.cons_append, readAll, if_neg hne, ih hfront]

/-- A literal is closed if there is another quote at all. -/
theorem body?_eq_none_iff {cs : List Char} : body? cs = none ↔ '\'' ∉ cs := by
  fun_induction body? cs with
  | case1 => simp
  | case2 => simp
  | case3 => simp
  | case4 => simp
  | case5 c rest _ hquote ih =>
    have hne : '\'' ≠ c := fun heq => hquote heq.symm
    simp [ih, hne]

/-- There is a literal as soon as there are two quotes. -/
theorem readAll_eq_nil_iff {cs : List Char} : readAll cs = [] ↔ cs.count '\'' < 2 := by
  fun_induction readAll cs with
  | case1 => simp
  | case2 c rest hc text after hbody ih =>
    have hmem : '\'' ∈ rest := by
      by_contra hnone
      rw [body?_eq_none_iff.mpr hnone] at hbody
      contradiction
    have hpos := List.count_pos_iff.mpr hmem
    rw [List.count_cons, if_pos hc]
    simp only [reduceCtorEq, false_iff]
    omega
  | case3 c rest hc hbody ih =>
    have hzero := List.count_eq_zero.mpr (body?_eq_none_iff.mp hbody)
    rw [List.count_cons, if_pos hc, ih]
    omega
  | case4 c rest hc ih => rw [List.count_cons, if_neg hc, Nat.add_zero, ih]

theorem undouble_cons_of_ne {c : Char} (h : c ≠ '\'') (rest : List Char) :
    undouble (c :: rest) = c :: undouble rest := by
  rw [undouble]
  rintro more rfl
  exact absurd rfl h

theorem undouble_double (cs : List Char) : undouble (double cs) = cs := by
  induction cs with
  | nil => rfl
  | cons c rest ih =>
    by_cases hc : c = '\''
    · subst hc
      show undouble ('\'' :: '\'' :: double rest) = _
      rw [undouble, ih]
    · rw [double_cons_of_ne hc, undouble_cons_of_ne hc, ih]

/-- A text as a literal. -/
def quoted (s : String) : String := onChars encode s

/-- Further literals, each with the blanks that stand behind its comma. -/
def listed : List (String × String) → String
  | [] => ""
  | (gap, literal) :: rest => "," ++ gap ++ quoted literal ++ listed rest

theorem head?_listed (more : List (String × String)) : (listed more).toList.head? ≠ some '\'' := by
  cases more with
  | nil => simp [listed]
  | cons item rest => simp [listed]

theorem readAll_listed {more : List (String × String)}
    (h : ∀ item ∈ more, ∀ c ∈ item.1.toList, isBlank c) :
    readAll (listed more).toList = more.map (·.2.toList) := by
  induction more with
  | nil => rw [listed, String.toList_empty, readAll, List.map_nil]
  | cons item rest ih =>
    obtain ⟨gap, literal⟩ := item
    have hskip : '\'' ∉ ',' :: gap.toList := by
      intro hquote
      rcases List.mem_cons.mp hquote with hquote | hquote
      · contradiction
      · exact absurd (h (gap, literal) List.mem_cons_self _ hquote) (by decide)
    have htext : (listed ((gap, literal) :: rest)).toList =
        (',' :: gap.toList) ++ (encode literal.toList ++ (listed rest).toList) := by
      simp [listed, quoted, onChars]
    rw [htext, readAll_skip hskip, readAll_encode_append _ (head?_listed rest),
      ih fun later hlater => h later (List.mem_cons_of_mem _ hlater), List.map_cons]

end EnumLiteral

open EnumLiteral

/-! ### Declarations -/

/-- The declaration of an enumeration. -/
def enumText (keyword first : String) (more : List (String × String)) : String :=
  keyword ++ "(" ++ quoted first ++ listed more ++ ")"

theorem ColumnType.ofText_enumText {keyword : String}
    (hk : asciiLower keyword.toList = "enum".toList)
    (first : String) {more : List (String × String)}
    (hgaps : ∀ item ∈ more, ∀ c ∈ item.1.toList, isBlank c) :
    ofText (enumText keyword first more) = .ok (enumeration (first :: more.map (·.2))) := by
  have hne : keyword.toList ≠ [] := by
    intro hnil
    rw [hnil] at hk
    contradiction
  have htext : (enumText keyword first more).toList =
      [] ++ (keyword.toList ++ '(' ::
        ((encode first.toList ++ (listed more).toList) ++ [')'])) := by
    simp [enumText, quoted, onChars]
  have hopens : Opens (enumText keyword first more).toList keyword.toList
      ('(' :: ((encode first.toList ++ (listed more).toList) ++ [')'])) :=
    ⟨⟨[], List.forall_mem_nil _, htext⟩, hne, fun c => isAsciiLetter_of_asciiLower hk (by decide),
      by rintro c ⟨⟩; decide⟩
  -- the arguments reach to the last parenthesis, whatever the literals have in them
  have hdeclares := hopens.declares_some ⟨[], [], List.forall_mem_nil _, List.not_mem_nil, rfl⟩
  have hliterals :
      literals (encode first.toList ++ (listed more).toList) = first :: more.map (·.2) := by
    rw [literals, readAll_encode_append _ (head?_listed more), readAll_listed hgaps, List.map_cons,
      List.map_map, String.ofList_toList]
    simp [Function.comp_def]
  rw [ofText_of_declares hdeclares]
  simp only [ofDeclaration, hk, String.ofList_toList, BEq.rfl, ↓reduceIte,
    Option.getD_some, hliterals]

/-! ### Defaults -/

theorem Row.normalizeDefault_quoted (s : String) : Row.normalizeDefault (quoted s) = some s := by
  have htext : (quoted s).toList = '\'' :: (double s.toList ++ ['\'']) := by
    simp [quoted, onChars, encode]
  -- upper case keeps the quote, so a literal is never taken for the word null
  have hupper : ¬ (upper (quoted s).toList == "NULL".toList) := by
    intro heq
    rw [htext, upper, List.flatMap_cons, show upperChar '\'' = ['\''] from rfl] at heq
    have hquote : '\'' = 'N' := (List.cons.inj (eq_of_beq heq)).1
    contradiction
  have hlast : (double s.toList ++ ['\'']).getLast? == some '\'' := by simp
  rw [normalizeDefault]
  rw [if_neg hupper, htext]
  simp only
  rw [if_pos hlast, List.dropLast_concat, undouble_double, String.ofList_toList]

/-- Literals are read back in their order from the declaration that lists them, and so is a literal
default. -/
theorem quoted_read_back {keyword : String} (hk : asciiLower keyword.toList = "enum".toList)
    (first : String)
    {more : List (String × String)} (hgaps : ∀ item ∈ more, ∀ c ∈ item.1.toList, isBlank c) :
    (ColumnType.ofText (enumText keyword first more)).map (·.enumValues) =
      .ok (first :: more.map (·.2)) ∧
      ∀ text, Row.normalizeDefault (quoted text) = some text := by
  refine ⟨?_, Row.normalizeDefault_quoted⟩
  rw [ColumnType.ofText_enumText hk first hgaps]
  rfl

/-- Literals that hold quotes, a comma, a parenthesis and a line end, or nothing. -/
theorem quotedMarks_read_back : asciiLower "eNuM".toList = "enum".toList ∧
    (∀ item ∈ [("", "'"), (" \n", "a)','b"), ("", "")], ∀ c ∈ item.1.toList, isBlank c) ∧
    enumText "eNuM" "''\n" [("", "'"), (" \n", "a)','b"), ("", "")] =
      "eNuM('''''\n','''', \n'a)'',''b','')" ∧
    (ColumnType.ofText (enumText "eNuM" "''\n" [("", "'"), (" \n", "a)','b"), ("", "")])).map
      (·.enumValues) =
      .ok ["''\n", "'", "a)','b", ""] ∧
    Row.normalizeDefault (quoted "'") = some "'" := by
  have hkeyword : asciiLower "eNuM".toList = "enum".toList := by decide +kernel
  have hblank :
      [("", "'"), (" \n", "a)','b"), ("", "")].all fun item => item.1.toList.all isBlank := by
    decide +kernel
  have hgaps : ∀ item ∈ [("", "'"), (" \n", "a)','b"), ("", "")], ∀ c ∈ item.1.toList, isBlank c :=
    fun item hitem => List.all_eq_true.mp (List.all_eq_true.mp hblank item hitem)
  have hread := quoted_read_back hkeyword "''\n" hgaps
  exact ⟨hkeyword, hgaps, by decide +kernel, hread.1, hread.2 "'"⟩

end CatalogEntities.Catalog
