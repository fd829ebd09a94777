import CatalogEntities.Catalog.ColumnType
import CatalogEntities.Proofs.Text.Case
import CatalogEntities.Proofs.Text.Span

/-!
The grammar of declarations: blanks, a word of ASCII letters, and arguments between a parenthesis
behind it and the last closing one of the text. Reading a declaration succeeds on just these texts
and returns their parts.

Main result: `Declaration.ofChars?_eq_some_iff`.
-/

namespace CatalogEntities.Catalog.ColumnType

open Text

/-- A text that opens with a word, and what follows the last letter of it. -/
structure Opens (cs word rest : List Char) : Prop where
  text : ∃ before, (∀ c ∈ before, isBlank c) ∧ cs = before ++ (word ++ rest)
  word_ne_nil : word ≠ []
  letters : ∀ c ∈ word, isAsciiLetter c
  ends : ∀ c ∈ rest.head?, ¬ isAsciiLetter c

/-- Arguments in what follows a word: nothing but blanks stands before their parenthesis, and no
other closing parenthesis behind them. -/
def Encloses (rest arguments : List Char) : Prop :=
  ∃ gap suffix, (∀ c ∈ gap, isBlank c) ∧ ')' ∉ suffix ∧
  rest = gap ++ '(' :: (arguments ++ ')' :: suffix)

/-- The keyword of a text, in lower case, and the arguments behind it. -/
def Declares (s keyword : String) (arguments : Option (List Char)) : Prop :=
  ∃ word rest, Opens s.toList word rest ∧ String.ofList (asciiLower word) = keyword ∧
    ∀ inner, arguments = some inner ↔ Encloses rest inner

section

variable {cs word rest : List Char}

theorem takeWhile_letters (hword : ∀ c ∈ word, isAsciiLetter c)
    (hrest : ∀ c ∈ rest.head?, ¬ isAsciiLetter c) :
    (word ++ rest).takeWhile isAsciiLetter = word ∧
    (word ++ rest).dropWhile isAsciiLetter = rest := by
  cases rest with
  | nil => simpa using hword
  | cons c rest =>
    have hc : ¬ isAsciiLetter c := hrest c rfl
    exact ⟨takeWhile_append_cons hword hc rest, dropWhile_append_cons hword hc rest⟩

theorem Opens.dropWhile_blank (h : Opens cs word rest) : cs.dropWhile isBlank = word ++ rest := by
  obtain ⟨before, hbefore, rfl⟩ := h.text
  obtain ⟨first, more, rfl⟩ := List.exists_cons_of_ne_nil h.word_ne_nil
  rw [List.dropWhile_append_of_pos hbefore, List.cons_append,
    List.dropWhile_cons_of_neg (not_isBlank_of_isAsciiLetter (h.letters first List.mem_cons_self))]

theorem encloses_iff {inner : List Char} : Encloses rest inner ↔
    ∃ more suffix, rest.dropWhile isBlank = '(' :: more ∧
    cutLast? ')' more = some (inner, suffix) := by
  constructor
  · rintro ⟨gap, suffix, hgap, hsuffix, rfl⟩
    exact ⟨_, suffix, dropWhile_append_cons hgap (by decide) _,
      cutLast?_eq_some_iff.mpr ⟨rfl, hsuffix⟩⟩
  · rintro ⟨more, suffix, hmore, hcut⟩
    obtain ⟨rfl, hsuffix⟩ := cutLast?_eq_some_iff.mp hcut
    refine ⟨rest.takeWhile isBlank, suffix, fun c hc => List.mem_takeWhile_imp hc, hsuffix, ?_⟩
    rw [← hmore, List.takeWhile_append_dropWhile]

theorem Opens.ofChars? (h : Opens cs word rest) : ∃ arguments,
    Declaration.ofChars? cs = some ⟨String.ofList (asciiLower word), arguments⟩ ∧
      ∀ inner, arguments = some inner ↔ Encloses rest inner := by
  obtain ⟨htake, hdrop⟩ := takeWhile_letters h.letters h.ends
  have hword : word.isEmpty = false := by simpa using h.word_ne_nil
  simp only [Declaration.ofChars?, h.dropWhile_blank, htake, hdrop, hword,
    Bool.false_eq_true, ↓reduceIte]
  refine ⟨_, rfl, fun inner => ?_⟩
  rw [encloses_iff]
  split
  · rename_i more hmore
    simp [hmore]
  · rename_i hnone
    simp only [reduceCtorEq, false_iff]
    rintro ⟨more, -, hmore, -⟩
    exact hnone more hmore

theorem ofChars?_eq_none_iff :
    Declaration.ofChars? cs = none ↔ ∀ word rest, ¬ Opens cs word rest := by
  constructor
  · intro hnone word rest h
    obtain ⟨arguments, hsome, -⟩ := h.ofChars?
    rw [hnone] at hsome
    contradiction
  · intro hnone
    by_contra hsome
    refine hnone ((cs.dropWhile isBlank).takeWhile isAsciiLetter)
      ((cs.dropWhile isBlank).dropWhile isAsciiLetter)
      ⟨⟨cs.takeWhile isBlank, fun c hc => List.mem_takeWhile_imp hc, ?_⟩, fun hnil => hsome ?_,
        fun c hc => List.mem_takeWhile_imp hc, fun c hc hletter => ?_⟩
    · rw [List.takeWhile_append_dropWhile, List.takeWhile_append_dropWhile]
    · simp only [Declaration.ofChars?, hnil, List.isEmpty_nil, ↓reduceIte]
    · have hstop := List.head?_dropWhile_not isAsciiLetter (cs.dropWhile isBlank)
      rw [Option.mem_def.mp hc] at hstop
      exact Bool.false_ne_true (hstop.symm.trans hletter)

end

/-- A declaration is read exactly as the grammar has it. -/
theorem Declaration.ofChars?_eq_some_iff {s keyword : String} {arguments : Option (List Char)} :
    Declaration.ofChars? s.toList = some ⟨keyword, arguments⟩ ↔ Declares s keyword arguments := by
  constructor
  · intro h
    have hopens : ∃ word rest, Opens s.toList word rest := by
      by_contra hnone
      rw [ofChars?_eq_none_iff.mpr fun word rest hopens => hnone ⟨word, rest, hopens⟩] at h
      contradiction
    obtain ⟨word, rest, hopens⟩ := hopens
    obtain ⟨arguments', hread, hinner⟩ := hopens.ofChars?
    rw [hread, Option.some.injEq, Declaration.mk.injEq] at h
    exact ⟨word, rest, hopens, h.1, h.2 ▸ hinner⟩
  · rintro ⟨word, rest, hopens, rfl, hinner⟩
    obtain ⟨arguments', hread, hinner'⟩ := hopens.ofChars?
    have hsame : arguments' = arguments :=
      Option.ext fun inner => (hinner' inner).trans (hinner inner).symm
    rw [hread, hsame]

section

variable {s : String} {word rest : List Char} (h : Opens s.toList word rest)
include h

theorem Opens.declares_some {inner : List Char} (hinner : Encloses rest inner) :
    Declares s (String.ofList (asciiLower word)) (some inner) := by
  refine ⟨word, rest, h, rfl, fun other => ⟨?_, fun hother => ?_⟩⟩
  · rintro ⟨⟩
    exact hinner
  · obtain ⟨more, suffix, hmore, hcut⟩ := encloses_iff.mp hinner
    obtain ⟨more', suffix', hmore', hcut'⟩ := encloses_iff.mp hother
    obtain rfl := (List.cons.inj (hmore.symm.trans hmore')).2
    exact congrArg some (Prod.mk.inj (Option.some.inj (hcut.symm.trans hcut'))).1

theorem Opens.declares_none (hnone : ∀ inner, ¬ Encloses rest inner) :
    Declares s (String.ofList (asciiLower word)) none :=
  ⟨word, rest, h, rfl,
    fun inner => ⟨fun hsome => (Option.some_ne_none inner hsome.symm).elim, fun hinner =>
    (hnone inner hinner).elim⟩⟩

end

theorem ofText_of_declares {s keyword : String} {arguments : Option (List Char)}
    (h : Declares s keyword arguments) :
    ofText s = ofDeclaration ⟨keyword, arguments⟩ := by
  rw [ofText, Declaration.ofChars?_eq_some_iff.mpr h]

theorem declares_or (s : String) : (∃ keyword arguments, Declares s keyword arguments) ∨
    ∀ word rest, ¬ Opens s.toList word rest := by
  cases h : Declaration.ofChars? s.toList with
  | none => exact .inr (ofChars?_eq_none_iff.mp h)
  | some d => exact .inl ⟨d.keyword, d.arguments, Declaration.ofChars?_eq_some_iff.mp h⟩

end CatalogEntities.Catalog.ColumnType
