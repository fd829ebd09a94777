import CatalogEntities.Proofs.Naming.ClassNames

/-!
Which names of modules are valid. A module is named as an attribute is, but loses all leading
underscores if there are two of them. What they stood in front of is then free again: a letter or
numeral that starts no identifier, or a keyword.

Main result: `validName_moduleName_iff`.
-/

namespace CatalogEntities.Naming

open Text

/-- A name that a statement may bind: an identifier that is no keyword. -/
def ValidName (name : String) : Prop := isIdentifier name.toList ∧ name ∉ keywords

instance (name : String) : Decidable (ValidName name) := inferInstanceAs (Decidable (_ ∧ _))

theorem validName_className_iff (table : String) :
    ValidName (className table) ↔ SpellsWords table.toList := by
  rw [ValidName, isIdentifier_className_iff]
  exact and_iff_left (className_not_mem_keywords table)

/-! ### Leading underscores -/

/-- Whether a cleaned text has two underscores in front. -/
def opensHidden (cs : List Char) : Bool := ['_', '_'].isPrefixOf (wordChars cs)

/-- What a cleaned text has behind its leading underscores. -/
def bareWord (cs : List Char) : List Char := (wordChars cs).dropWhile (· == '_')

/-- A text that makes the name of a module. Two underscores in front are lost together with what
guards the name of an attribute, so what stands behind them has to be valid by itself. -/
def SpellsModule (cs : List Char) : Prop :=
  if opensHidden cs then
    NoStray cs ∧ (∀ c ∈ (bareWord cs).head?, startsIdentifier c) ∧
    String.ofList (bareWord cs) ∉ keywords
  else Spells cs

/-- Leading underscores are of no account for the rest. -/
theorem all_continues_bareWord (cs : List Char) :
    (bareWord cs).all continuesIdentifier ↔ NoStray cs := by
  have hfront : ((wordChars cs).takeWhile (· == '_')).all continuesIdentifier := by
    rw [List.all_eq_true]
    intro c hc
    have hmark := List.mem_takeWhile_imp hc
    rw [beq_iff_eq] at hmark
    rw [hmark]
    decide
  have hsplit : (wordChars cs).takeWhile (· == '_') ++ bareWord cs = wordChars cs :=
    List.takeWhile_append_dropWhile
  rw [← all_continues_wordChars, ← hsplit, List.all_append, Bool.and_eq_true]
  exact (and_iff_right hfront).symm

/-- The characters of an attribute: the guarded text, with an underscore behind a reserved name. -/
theorem attributeName_toList {s : String} (hne : s.toList ≠ []) :
    ∃ more, (more = [] ∨ more = ['_']) ∧
    (attributeName s).toList = guardStart (wordChars s.toList) ++ more ∧
    (more = ['_'] →
      String.ofList (guardStart (wordChars s.toList)) ∈ keywords ++ declarativeNames) := by
  rw [attributeName_eq, if_neg hne]
  split
  · rename_i hmem
    exact ⟨['_'], .inr rfl,
      by rw [String.toList_append, String.toList_ofList (l := guardStart _)]; rfl, fun _ => hmem⟩
  · exact ⟨[], .inl rfl, by rw [String.toList_ofList, List.append_nil], by simp⟩

/-- No reserved name is a single underscore, and those with two in front have more of them further
behind. -/
theorem reserved_underscore : ∀ word ∈ keywords ++ declarativeNames, word.toList ≠ ['_'] ∧
    (['_', '_'].isPrefixOf word.toList → '_' ∈ word.toList.dropWhile (· == '_')) := by
  decide +kernel

/-- Without two underscores in front of the cleaned text there are none in front of the attribute,
and the module is called like it. -/
theorem moduleName_plain {table : String} (h : ¬ opensHidden table.toList) :
    moduleName table = attributeName table := by
  have hplain (rest : List Char) : (attributeName table).toList ≠ '_' :: '_' :: rest := by
    intro hname
    by_cases hempty : table.toList = []
    · rw [attributeName_eq, if_pos hempty] at hname
      have hsecond : some 'f' = some '_' := congrArg (·.tail.head?) hname
      exact absurd hsecond (by decide)
    · obtain ⟨more, hmore, htext, hreserved⟩ := attributeName_toList hempty
      obtain ⟨c, cs, hclean⟩ :=
        List.exists_cons_of_ne_nil (mt List.map_eq_nil_iff.mp hempty : wordChars table.toList ≠ [])
      rw [htext, hclean, guardStart] at hname
      rw [hclean, guardStart] at hreserved
      rw [opensHidden, hclean] at h
      split at hname
      · rename_i hstart
        rw [if_pos hstart] at hreserved
        obtain ⟨rfl, hrest⟩ := List.cons.inj hname
        cases cs with
        | nil =>
          -- one underscore, and one more if a single underscore were reserved
          rcases hmore with rfl | rfl
          · exact absurd hrest (List.cons_ne_nil _ _).symm
          · exact (reserved_underscore _ (hreserved rfl)).1 String.toList_ofList
        | cons d more =>
          obtain ⟨rfl, -⟩ := List.cons.inj hrest
          exact h rfl
      · rename_i hstart
        obtain ⟨rfl, -⟩ := List.cons.inj (List.cons.inj hname).2
        exact hstart (by decide)
  unfold moduleName
  extract_lets name
  split
  · rename_i rest hname
    exact absurd hname (hplain rest)
  · rfl

/-- Otherwise the module is what stands behind the underscores, with one more behind a reserved
name. -/
theorem moduleName_hidden {table : String} (h : opensHidden table.toList) :
    bareWord table.toList = [] ∧ moduleName table = "_table" ∨
      bareWord table.toList ≠ [] ∧ ∃ more,
      (more = [] ∨ more = ['_'] ∧ '_' ∈ bareWord table.toList) ∧
        moduleName table = String.ofList (bareWord table.toList) ++ String.ofList more := by
  obtain ⟨rest, hclean⟩ := List.isPrefixOf_iff_prefix.mp h
  rw [List.cons_append, List.cons_append, List.nil_append] at hclean
  have hempty : table.toList ≠ [] := by
    intro hnil
    rw [hnil] at hclean
    exact absurd hclean (List.cons_ne_nil _ _)
  obtain ⟨more, hmore, htext, hreserved⟩ := attributeName_toList hempty
  have hguard : guardStart (wordChars table.toList) = wordChars table.toList := by
    rw [← hclean, guardStart, if_pos (by decide)]
  rw [hguard] at htext hreserved
  have hinner : more = ['_'] → '_' ∈ bareWord table.toList := by
    intro hmark
    have hword := (reserved_underscore _ (hreserved hmark)).2
    rw [String.toList_ofList] at hword
    exact hword h
  rw [← hclean, List.cons_append, List.cons_append] at htext
  have hbare : bareWord table.toList = rest.dropWhile (· == '_') := by rw [bareWord, ← hclean]; rfl
  have hmarks : more.dropWhile (· == '_') = [] := by rcases hmore with rfl | rfl <;> rfl
  have hmodule : moduleName table = if ((rest ++ more).dropWhile (· == '_')).isEmpty then "_table"
      else String.ofList ((rest ++ more).dropWhile (· == '_')) := by
    unfold moduleName
    simp only [htext]
  rw [List.dropWhile_append, ← hbare, hmarks] at hmodule
  cases hword : bareWord table.toList with
  | nil =>
    rw [hword] at hmodule
    exact .inl ⟨rfl, hmodule⟩
  | cons c cs =>
    rw [hword] at hmodule
    refine .inr ⟨List.cons_ne_nil c cs, more,
      hmore.imp_right fun hmark => ⟨hmark, hword ▸ hinner hmark⟩, ?_⟩
    rw [hmodule, ← String.ofList_append]
    rfl

theorem validName_moduleName_iff (table : String) :
    ValidName (moduleName table) ↔ SpellsModule table.toList := by
  unfold SpellsModule
  split
  · rename_i hhidden
    have hall := all_continues_bareWord table.toList
    rcases moduleName_hidden hhidden with ⟨hnil, hname⟩ | ⟨hne, more, hmore, hname⟩
    · rw [hnil] at hall ⊢
      have htable : ValidName "_table" := by decide
      have hfree : String.ofList [] ∉ keywords := by decide
      rw [hname]
      exact iff_of_true htable ⟨hall.mp rfl, by simp, hfree⟩
    · obtain ⟨c, cs, hword⟩ := List.exists_cons_of_ne_nil hne
      rw [hword] at hall hmore hname ⊢
      have hspelled : isIdentifier (String.ofList (c :: cs)).toList ↔
          NoStray table.toList ∧ startsIdentifier c := by
        rw [← hall, String.toList_ofList, isIdentifier, List.all_cons, Bool.and_eq_true,
          Bool.and_eq_true]
        exact ⟨fun h => ⟨⟨continuesIdentifier_of_starts h.1, h.2⟩, h.1⟩, fun h => ⟨h.2, h.1.2⟩⟩
      -- a mark at the end changes nothing: with an underscore in it neither name is a keyword
      have hvalid : ValidName (moduleName table) ↔ ValidName (String.ofList (c :: cs)) := by
        rcases hmore with rfl | ⟨rfl, hinner⟩
        · rw [hname, String.ofList_nil, String.append_empty]
        · have hmark : (String.ofList ['_']).toList.all continuesIdentifier := by decide
          have hfree : String.ofList (c :: cs) ∉ keywords :=
            not_mem_keywords_of_underscore (by rwa [String.toList_ofList])
          have hfree' : String.ofList (c :: cs) ++ String.ofList ['_'] ∉ keywords :=
            not_mem_keywords_of_underscore (by simp)
          have hcs : (String.ofList (c :: cs)).toList ≠ [] := by simp
          rw [hname, ValidName, ValidName, String.toList_append, isIdentifier_append hcs]
          simp only [hmark, hfree, hfree', and_true, not_false_eq_true]
      rw [hvalid, ValidName, hspelled]
      simp [and_assoc]
  · rename_i hplain
    rw [moduleName_plain hplain, ValidName, isIdentifier_attributeName_iff]
    exact and_iff_left fun hmem => attributeName_not_mem table (List.mem_append_left _ hmem)

end CatalogEntities.Naming
