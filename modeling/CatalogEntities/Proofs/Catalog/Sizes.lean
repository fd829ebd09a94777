import CatalogEntities.Proofs.Catalog.Declaration
import CatalogEntities.Proofs.Number.DigitText

/-!
Sizes in declarations. The first two items of the arguments are sizes if both of them are numbers in
digits; then lengths of texts and precisions of decimals carry them over, however the keyword is
written and whatever follows the arguments.

Main result: `ColumnType.sizes_kept`.
-/

namespace CatalogEntities.Catalog.ColumnType

open Number Text

/-! ### Items -/

/-- The items of an argument list that may be sizes, without the blanks around them. -/
def sizeItems (arguments : List Char) : List (List Char) :=
  ((splitAt ',' arguments).map trim).take 2

/-- An item that looks like a number and cannot be read as one: it has digits that are not decimal,
or more than are read. -/
structure Refused (item : List Char) : Prop where
  ne_nil : item ≠ []
  digits : ∀ c ∈ item, isDigit c
  unreadable : ¬ DigitText item

theorem sizes_some (arguments : List Char) :
    sizes (some arguments) = sizes.readSizes [] (sizeItems arguments) := by
  cases arguments with
  | nil => rfl
  | cons c rest => rfl

section

variable {item : List Char}

theorem looksNumeric_iff :
    ¬ (item.isEmpty || !item.all isDigit) ↔ item ≠ [] ∧ ∀ c ∈ item, isDigit c := by
  rw [Bool.or_eq_true, not_or, List.isEmpty_iff, Bool.not_eq_true', Bool.not_eq_false,
    List.all_eq_true]

variable (found : List Nat) (rest : List (List Char))

theorem readSizes_number (h : DigitText item) :
    sizes.readSizes found (item :: rest) =
      sizes.readSizes (found ++ [digitTextValue item]) rest := by
  have hlooks := looksNumeric_iff.mpr ⟨h.ne_nil, fun c hc => isDigit_of_isDecimal (h.decimal c hc)⟩
  rw [sizes.readSizes, if_neg hlooks, integerOfText, String.toList_ofList, readInteger_digitText h]
  rfl

theorem readSizes_refused (h : Refused item) :
    ∃ fault, sizes.readSizes found (item :: rest) = .error fault := by
  have hnone :=
    mt (readInteger_digits_iff h.ne_nil h.digits (Literal.encodeText (String.ofList item))).mp
      h.unreadable
  rw [sizes.readSizes, if_neg (looksNumeric_iff.mpr ⟨h.ne_nil, h.digits⟩), integerOfText,
    String.toList_ofList]
  cases hread : readInteger (Literal.encodeText (String.ofList item)) item with
  | error fault => exact ⟨fault, rfl⟩
  | ok n => exact absurd ⟨n, hread⟩ hnone

/-- An item that does not even look like a number ends the reading, and there are no sizes then. -/
theorem readSizes_other (hnumber : ¬ DigitText item) (hrefused : ¬ Refused item) :
    sizes.readSizes found (item :: rest) = .ok (none, none) := by
  rw [sizes.readSizes, if_pos]
  by_contra hlooks
  obtain ⟨hne, hdigits⟩ := looksNumeric_iff.mp hlooks
  exact hrefused ⟨hne, hdigits, hnumber⟩

end

theorem readSizes_append {front : List (List Char)} (h : ∀ item ∈ front, DigitText item)
    (found : List Nat) (rest : List (List Char)) :
    sizes.readSizes found (front ++ rest) =
      sizes.readSizes (found ++ front.map digitTextValue) rest := by
  induction front generalizing found with
  | nil => simp
  | cons item front ih =>
    rw [List.cons_append, readSizes_number found _ (h item List.mem_cons_self),
      ih fun later hlater => h later (List.mem_cons_of_mem _ hlater)]
    simp

theorem readSizes_numbers {items : List (List Char)} (h : ∀ item ∈ items, DigitText item) :
    sizes.readSizes [] items =
      .ok (items[0]?.map digitTextValue, items[1]?.map digitTextValue) := by
  have hread := readSizes_append h [] []
  rw [List.append_nil, List.nil_append] at hread
  rw [hread, sizes.readSizes, List.getElem?_map, List.getElem?_map]

/-! ### Declarations with sizes -/

/-- The keywords of the table are words in lower case, each with one meaning. -/
theorem typeTable_parts :
    ∀ entry ∈ typeTable, typeTable.lookup entry.1 = some entry.2 ∧ entry.1 ≠ "enum" ∧
    entry.1.toList ≠ [] ∧ entry.1.toList.all isAsciiLetter ∧
    asciiLower entry.1.toList = entry.1.toList := by
  decide +kernel

theorem ofText_known {keyword : String} {spec : TypeSpec} (hspec : (keyword, spec) ∈ typeTable)
    {s : String} {arguments : Option (List Char)} (h : Declares s keyword arguments) :
    ofText s = (sizes arguments).map fun found => ofSpec keyword spec found.1 found.2 := by
  obtain ⟨hlookup, henum, -⟩ := typeTable_parts _ hspec
  have hne : ¬ (keyword == "enum") := by simpa using henum
  rw [ofText_of_declares h]
  simp only [ofDeclaration, if_neg hne, hlookup]
  cases sizes arguments <;> rfl

/-- A keyword in letters of either case, with blanks before and after it. -/
structure Spelling (keyword : String) where
  before : List Char
  word : List Char
  after : List Char
  before_blank : ∀ c ∈ before, isBlank c
  spells : asciiLower word = keyword.toList
  after_blank : ∀ c ∈ after, isBlank c

/-- The keyword with blanks around it, and what stands behind. -/
def Spelling.text {keyword : String} (k : Spelling keyword) (tail : List Char) : String :=
  String.ofList (k.before ++ (k.word ++ (k.after ++ tail)))

/-- A number in digits with blanks before and after it. -/
structure SizeText where
  before : List Char
  digits : List Char
  after : List Char
  before_blank : ∀ c ∈ before, isBlank c
  isNumber : DigitText digits
  after_blank : ∀ c ∈ after, isBlank c

namespace SizeText

def chars (n : SizeText) : List Char := n.before ++ (n.digits ++ n.after)

def value (n : SizeText) : Nat := digitTextValue n.digits

theorem trim_chars (n : SizeText) : trim n.chars = n.digits :=
  trim_surrounded n.before_blank
    (fun c hc => not_isBlank_of_isDigit (isDigit_of_isDecimal (n.isNumber.decimal c hc)))
    n.after_blank

theorem comma_not_mem (n : SizeText) : ',' ∉ n.chars := by
  intro hcomma
  rw [chars, List.mem_append, List.mem_append] at hcomma
  rcases hcomma with hcomma | hcomma | hcomma
  · exact absurd (n.before_blank _ hcomma) (by decide)
  · exact absurd (n.isNumber.decimal _ hcomma) (by decide)
  · exact absurd (n.after_blank _ hcomma) (by decide)

end SizeText

/-- One size, or two of them with a comma between them. -/
def sizeArguments (first : SizeText) : Option SizeText → List Char
  | none => first.chars
  | some second => first.chars ++ ',' :: second.chars

theorem sizeItems_sizeArguments (first : SizeText) (second : Option SizeText) :
    sizeItems (sizeArguments first second) =
      first.digits :: (second.map SizeText.digits).toList := by
  cases second with
  | none =>
    simp [sizeItems, sizeArguments, splitAt_of_not_mem first.comma_not_mem, first.trim_chars]
  | some second =>
    simp [sizeItems, sizeArguments, splitAt_append first.comma_not_mem,
      splitAt_of_not_mem second.comma_not_mem, first.trim_chars, second.trim_chars]

theorem sizes_sizeArguments (first : SizeText) (second : Option SizeText) :
    sizes (some (sizeArguments first second)) =
      .ok (some first.value, second.map SizeText.value) := by
  rw [sizes_some, sizeItems_sizeArguments, readSizes_numbers]
  · cases second <;> rfl
  · intro item hitem
    rcases List.mem_cons.mp hitem with rfl | hitem
    · exact first.isNumber
    · rw [Option.mem_toList, Option.map_eq_some_iff] at hitem
      obtain ⟨second, -, rfl⟩ := hitem
      exact second.isNumber

section

variable {keyword : String} {spec : TypeSpec} (hspec : (keyword, spec) ∈ typeTable)
    (k : Spelling keyword)
include hspec

theorem Spelling.opens {tail : List Char} (htail : ∀ c ∈ tail.head?, ¬ isAsciiLetter c) :
    Opens (k.text tail).toList k.word (k.after ++ tail) := by
  obtain ⟨-, -, hne, hletters, -⟩ := typeTable_parts _ hspec
  refine ⟨⟨k.before, k.before_blank, by rw [Spelling.text, String.toList_ofList]⟩,
    fun hnil => hne ?_,
    fun c hc => isAsciiLetter_of_asciiLower k.spells hletters hc, fun c hc hletter => ?_⟩
  · rw [← k.spells, hnil]
    rfl
  · cases hafter : k.after with
    | nil =>
      rw [hafter, List.nil_append] at hc
      exact htail c hc hletter
    | cons first more =>
      rw [hafter, List.cons_append, List.head?_cons, Option.mem_def, Option.some.injEq] at hc
      subst hc
      exact not_isBlank_of_isAsciiLetter hletter (k.after_blank first (hafter ▸ List.mem_cons_self))

theorem Spelling.declares_arguments {inner suffix : List Char} (hsuffix : ')' ∉ suffix) :
    Declares (k.text ('(' :: (inner ++ ')' :: suffix))) keyword (some inner) := by
  have hopens : Opens _ k.word (k.after ++ '(' :: (inner ++ ')' :: suffix)) :=
    k.opens hspec (by rintro c ⟨⟩; decide)
  have hdeclares := hopens.declares_some ⟨k.after, suffix, k.after_blank, hsuffix, rfl⟩
  rwa [k.spells, String.ofList_toList] at hdeclares

theorem Spelling.declares_bare : Declares (k.text []) keyword none := by
  have hopens : Opens _ k.word (k.after ++ []) := k.opens hspec (by simp)
  have hdeclares := hopens.declares_none fun inner => by
    rintro ⟨gap, suffix, -, -, hrest⟩
    have hparenthesis : '(' ∈ k.after ++ [] := hrest ▸ List.mem_append_right _ List.mem_cons_self
    rw [List.append_nil] at hparenthesis
    exact absurd (k.after_blank _ hparenthesis) (by decide)
  rwa [k.spells, String.ofList_toList] at hdeclares

end

/-- A keyword with one size or two means the type of the table with these sizes: the first is the
length of `varchar` and `char`, both are precision and scale of `decimal` and `numeric`, and nothing
else has sizes. The keyword alone has the length of the table. -/
theorem sizes_kept {keyword : String} {spec : TypeSpec} (hspec : (keyword, spec) ∈ typeTable)
    (k : Spelling keyword)
    (first : SizeText) (second : Option SizeText) {suffix : List Char} (hsuffix : ')' ∉ suffix) :
    ofText (k.text ('(' :: (sizeArguments first second ++ ')' :: suffix))) =
      .ok { logical := spec.logical, storage := keyword, column := spec.column
            length := if keyword ∈ ["varchar", "char"] then some first.value else none
            precision := if keyword ∈ ["decimal", "numeric"] then some first.value else none
            scale := if keyword ∈ ["decimal", "numeric"] then second.map SizeText.value else none
            enumValues := [], transform := spec.transform } ∧
    ofText (k.text []) =
      .ok { logical := spec.logical, storage := keyword, column := spec.column
            length := if keyword ∈ ["varchar", "char"] then spec.length else none
            precision := none, scale := none, enumValues := [], transform := spec.transform } := by
  have hlength : lengthKeywords.contains keyword ↔ keyword ∈ ["varchar", "char"] :=
    List.contains_iff_mem
  have hprecision : precisionKeywords.contains keyword ↔ keyword ∈ ["decimal", "numeric"] :=
    List.contains_iff_mem
  constructor
  · rw [ofText_known hspec (k.declares_arguments hspec hsuffix), sizes_sizeArguments]
    simp only [Except.map, ofSpec, hlength, hprecision]
    rfl
  · rw [ofText_known hspec (k.declares_bare hspec)]
    simp only [sizes, Except.map, ofSpec, hlength, hprecision, ite_self]
    rfl

/-- A keyword in letters of both cases. -/
def spelledDecimal : Spelling "decimal" where
  before := "\t ".toList
  word := "DecImal".toList
  after := " ".toList
  before_blank := List.all_eq_true.mp (by decide)
  spells := by decide
  after_blank := List.all_eq_true.mp (by decide)

/-- The digits of another script. -/
def arabicTen : SizeText where
  before := " ".toList
  digits := "١٠".toList
  after := " ".toList
  before_blank := List.all_eq_true.mp (by decide)
  isNumber := ⟨by decide, List.all_eq_true.mp (by decide +kernel), by decide⟩
  after_blank := List.all_eq_true.mp (by decide)

def paddedTwo : SizeText where
  before := "\n".toList
  digits := "02".toList
  after := "\t".toList
  before_blank := List.all_eq_true.mp (by decide)
  isNumber := ⟨by decide, List.all_eq_true.mp (by decide +kernel), by decide⟩
  after_blank := List.all_eq_true.mp (by decide)

theorem spelledDecimal_sizes : ("decimal", ⟨.decimal, "Numeric", none, none⟩) ∈ typeTable ∧
    ')' ∉ " unsigned (".toList ∧
    spelledDecimal.text
      ('(' :: (sizeArguments arabicTen (some paddedTwo) ++ ')' :: " unsigned (".toList)) =
      "\t DecImal ( ١٠ ,\n02\t) unsigned (" ∧
    ofText "\t DecImal ( ١٠ ,\n02\t) unsigned (" =
      .ok ⟨.decimal, "decimal", "Numeric", none, some 10, some 2, [], none⟩ ∧
    ofText "\t DecImal " = .ok ⟨.decimal, "decimal", "Numeric", none, none, none, [], none⟩ := by
  have hspec : ("decimal", ⟨.decimal, "Numeric", none, none⟩) ∈ typeTable := by decide +kernel
  have hsuffix : ')' ∉ " unsigned (".toList := by decide
  have htext : spelledDecimal.text
      ('(' :: (sizeArguments arabicTen (some paddedTwo) ++ ')' :: " unsigned (".toList)) =
      "\t DecImal ( ١٠ ,\n02\t) unsigned (" := by decide +kernel
  have hbare : spelledDecimal.text [] = "\t DecImal " := by decide +kernel
  obtain ⟨hsized, halone⟩ := sizes_kept hspec spelledDecimal arabicTen (some paddedTwo) hsuffix
  have hvalues : arabicTen.value = 10 ∧ paddedTwo.value = 2 := by decide +kernel
  rw [htext] at hsized
  rw [hbare] at halone
  refine ⟨hspec, hsuffix, htext, hsized.trans ?_, halone⟩
  simp [hvalues]

end CatalogEntities.Catalog.ColumnType
