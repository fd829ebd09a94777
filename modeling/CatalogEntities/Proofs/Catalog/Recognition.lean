import CatalogEntities.Proofs.Catalog.EnumLiteral
import CatalogEntities.Proofs.Catalog.Sizes

/-!
Which texts mean a type. Every text does but those with a size that looks like a number and cannot
be read as one; unknown texts mean text of unknown type, and arguments that are no numbers are
passed over.

Main result: `ColumnType.typed_unless_refused`.
-/

namespace CatalogEntities.Catalog.ColumnType

open Number Text

/-! ### Sizes that are passed over -/

theorem numbers_or (items : List (List Char)) : (∀ item ∈ items, DigitText item) ∨
    ∃ front item back, items = front ++ item :: back ∧ (∀ earlier ∈ front, DigitText earlier) ∧
    ¬ DigitText item := by
  induction items with
  | nil => exact .inl (List.forall_mem_nil _)
  | cons first rest ih =>
    by_cases hfirst : DigitText first
    · rcases ih with hrest | ⟨front, item, back, rfl, hfront, hitem⟩
      · exact .inl (List.forall_mem_cons.mpr ⟨hfirst, hrest⟩)
      · exact .inr ⟨first :: front, item, back, rfl,
          List.forall_mem_cons.mpr ⟨hfirst, hfront⟩, hitem⟩
    · exact .inr ⟨[], first, rest, rfl, List.forall_mem_nil _, hfirst⟩

/-- A refused size, with numbers before it. -/
def RefusesSize (arguments : List Char) : Prop :=
  ∃ front item back, sizeItems arguments = front ++ item :: back ∧
  (∀ earlier ∈ front, DigitText earlier) ∧ Refused item

/-- Items that are no numbers and not refused count as absent. -/
theorem sizes_cases (arguments : List Char) :
    (RefusesSize arguments ∧ ∃ fault, sizes (some arguments) = .error fault) ∨
    (¬ RefusesSize arguments ∧ ∃ found, sizes (some arguments) = .ok found ∧
      ((∃ item ∈ sizeItems arguments, ¬ DigitText item) → found = (none, none))) := by
  by_cases hrefuses : RefusesSize arguments
  · left
    obtain ⟨front, item, back, hitems, hfront, hitem⟩ := id hrefuses
    refine ⟨hrefuses, ?_⟩
    rw [sizes_some, hitems, readSizes_append hfront]
    exact readSizes_refused _ back hitem
  · refine .inr ⟨hrefuses, ?_⟩
    rcases numbers_or (sizeItems arguments) with hall | ⟨front, item, back, hitems, hfront, hitem⟩
    · refine ⟨_, (sizes_some arguments).trans (readSizes_numbers hall), ?_⟩
      rintro ⟨item, hmem, hitem⟩
      exact absurd (hall item hmem) hitem
    · refine ⟨(none, none), ?_, fun _ => rfl⟩
      rw [sizes_some, hitems, readSizes_append hfront]
      exact readSizes_other _ back hitem
        fun hrefused => hrefuses ⟨front, item, back, hitems, hfront, hrefused⟩

/-! ### Texts by what they mean -/

theorem Declares.unique {s keyword keyword' : String} {arguments arguments' : Option (List Char)}
    (h : Declares s keyword arguments) (h' : Declares s keyword' arguments') :
    keyword = keyword' ∧ arguments = arguments' := by
  rw [← Declaration.ofChars?_eq_some_iff] at h h'
  simpa using h.symm.trans h'

/-- Texts that mean no known type. -/
inductive Unknown (s : String) : Prop
  | noWord (h : ∀ word rest, ¬ Opens s.toList word rest)
  | unlisted {keyword : String} {arguments : Option (List Char)} (h : Declares s keyword arguments)
      (henum : keyword ≠ "enum") (hlisted : ∀ spec, (keyword, spec) ∉ typeTable)
  | noLiteral {arguments : Option (List Char)} (h : Declares s "enum" arguments)
      (hquotes : (arguments.getD []).count '\'' < 2)

/-- A text whose keyword is in the table, with a size that is refused. -/
def HasRefusedSize (s : String) : Prop :=
  ∃ keyword spec arguments, (keyword, spec) ∈ typeTable ∧ Declares s keyword (some arguments) ∧
  RefusesSize arguments

section

variable {s keyword : String} {arguments : Option (List Char)}

theorem ofText_noWord (h : ∀ word rest, ¬ Opens s.toList word rest) : ofText s = .ok untyped := by
  rw [ofText, ofChars?_eq_none_iff.mpr h]

theorem ofText_enum (h : Declares s "enum" arguments) : ofText s =
    .ok (if (arguments.getD []).count '\'' < 2 then untyped
      else enumeration (literals (arguments.getD []))) := by
  have hnil : literals (arguments.getD []) = [] ↔ (arguments.getD []).count '\'' < 2 := by
    rw [literals, List.map_eq_nil_iff, EnumLiteral.readAll_eq_nil_iff]
  rw [ofText_of_declares h, ofDeclaration, if_pos (by rfl)]
  split
  · rename_i hread
    rw [if_pos (hnil.mp hread)]
  · rename_i values hread
    rw [if_neg fun hquotes => hread (hnil.mpr hquotes)]

theorem ofText_unlisted (h : Declares s keyword arguments) (henum : keyword ≠ "enum")
    (hlisted : ∀ spec, (keyword, spec) ∉ typeTable) : ofText s = .ok untyped := by
  have hne : ¬ (keyword == "enum") := by simpa using henum
  have hlookup : typeTable.lookup keyword = none := by
    cases hfound : typeTable.lookup keyword with
    | none => rfl
    | some spec =>
      obtain ⟨before, after, hsplit, -⟩ := List.lookup_eq_some_iff.mp hfound
      exact absurd (hsplit ▸ List.mem_append_right before List.mem_cons_self) (hlisted spec)
  rw [ofText_of_declares h]
  simp only [ofDeclaration, if_neg hne, hlookup]

theorem ofText_keyword {spec : TypeSpec} (hspec : (keyword, spec) ∈ typeTable) :
    ofText keyword = .ok (ofSpec keyword spec none none) := by
  obtain ⟨-, -, -, -, hlower⟩ := typeTable_parts _ hspec
  let k : Spelling keyword :=
    ⟨[], keyword.toList, [], List.forall_mem_nil _, hlower, List.forall_mem_nil _⟩
  have hdeclares := k.declares_bare hspec
  have htext : k.text [] = keyword := by simp [k, Spelling.text]
  rw [htext] at hdeclares
  rw [ofText_known hspec hdeclares]
  rfl

theorem typeTable_typed : ∀ entry ∈ typeTable, entry.2.logical ≠ .untyped := by decide

theorem not_unknown_of_known {spec : TypeSpec} (hspec : (keyword, spec) ∈ typeTable)
    (h : Declares s keyword arguments) : ¬ Unknown s := by
  rintro (hnone | ⟨h', -, hlisted⟩ | ⟨h', -⟩)
  · obtain ⟨word, rest, hopens, -⟩ := h
    exact hnone word rest hopens
  · obtain ⟨rfl, -⟩ := h.unique h'
    exact hlisted spec hspec
  · obtain ⟨rfl, -⟩ := h.unique h'
    exact (typeTable_parts _ hspec).2.1 rfl

theorem ofSpec_ne_untyped {spec : TypeSpec} (hspec : (keyword, spec) ∈ typeTable)
    (first second : Option Nat) :
    ofSpec keyword spec first second ≠ untyped := fun heq =>
  typeTable_typed _ hspec (congrArg logical heq)

theorem hasRefusedSize_iff {spec : TypeSpec} (hspec : (keyword, spec) ∈ typeTable)
    (h : Declares s keyword arguments) :
    HasRefusedSize s ↔ ∃ inner, arguments = some inner ∧ RefusesSize inner := by
  constructor
  · rintro ⟨keyword', spec', inner, -, h', hrefuses⟩
    exact ⟨inner, (h.unique h').2, hrefuses⟩
  · rintro ⟨inner, rfl, hrefuses⟩
    exact ⟨keyword, spec, inner, hspec, h, hrefuses⟩

theorem not_hasRefusedSize (h : Declares s keyword arguments)
    (hlisted : ∀ spec, (keyword, spec) ∉ typeTable) :
    ¬ HasRefusedSize s := by
  rintro ⟨keyword', spec, arguments', hspec, h', -⟩
  obtain ⟨rfl, -⟩ := h.unique h'
  exact hlisted spec hspec

end

theorem enum_unlisted (spec : TypeSpec) : ("enum", spec) ∉ typeTable := fun hspec =>
  (typeTable_parts _ hspec).2.1 rfl

/-- What is to be shown of a text: it has a type unless a size is refused, and that is known unless
the text is not. -/
def Decided (s : String) : Prop :=
  ((∃ type, ofText s = .ok type) ↔ ¬ HasRefusedSize s) ∧ ∀ type, ofText s = .ok type →
  (type = untyped ↔ Unknown s)

section

variable {s keyword : String} {arguments : Option (List Char)}

theorem decided_of_type {type : ColumnType} (hread : ofText s = .ok type)
    (hrefused : ¬ HasRefusedSize s) (hunknown : type = untyped ↔ Unknown s) : Decided s := by
  refine ⟨iff_of_true ⟨type, hread⟩ hrefused, fun type' hread' => ?_⟩
  obtain rfl := Except.ok.inj (hread.symm.trans hread')
  exact hunknown

theorem decided_of_error {fault : IntegerFault} (hread : ofText s = .error fault)
    (hrefused : HasRefusedSize s) :
    Decided s := by
  refine ⟨iff_of_false ?_ (not_not_intro hrefused), fun type htype => ?_⟩
  · rintro ⟨type, htype⟩
    rw [hread] at htype
    contradiction
  · rw [hread] at htype
    contradiction

theorem decided_of_noWord (h : ∀ word rest, ¬ Opens s.toList word rest) : Decided s := by
  refine decided_of_type (ofText_noWord h) ?_ (iff_of_true rfl (.noWord h))
  rintro ⟨keyword, spec, arguments, -, ⟨word, rest, hopens, -⟩, -⟩
  exact h word rest hopens

theorem decided_of_enum (h : Declares s "enum" arguments) : Decided s := by
  refine decided_of_type (ofText_enum h) (not_hasRefusedSize h enum_unlisted) ?_
  have hne : enumeration (literals (arguments.getD [])) ≠ untyped := fun heq => by
    have hlogical := congrArg logical heq
    contradiction
  split
  · rename_i hquotes
    exact iff_of_true rfl (.noLiteral h hquotes)
  · rename_i hquotes
    refine iff_of_false hne ?_
    rintro (hnone | ⟨h', henum, -⟩ | ⟨h', hfew⟩)
    · obtain ⟨word, rest, hopens, -⟩ := h
      exact hnone word rest hopens
    · exact henum (h.unique h').1.symm
    · obtain ⟨-, rfl⟩ := h.unique h'
      exact hquotes hfew

theorem decided_of_known {spec : TypeSpec} (hspec : (keyword, spec) ∈ typeTable)
    (h : Declares s keyword arguments) :
    Decided s := by
  have hread := ofText_known hspec h
  have hrefused := hasRefusedSize_iff hspec h
  have hkept (found : Option Nat × Option Nat) (hsizes : sizes arguments = .ok found)
      (hnot : ¬ HasRefusedSize s) :
      Decided s := by
    rw [hsizes] at hread
    exact decided_of_type hread hnot
      (iff_of_false (ofSpec_ne_untyped hspec _ _) (not_unknown_of_known hspec h))
  cases arguments with
  | none => exact hkept (none, none) rfl (by simp [hrefused])
  | some inner =>
    rcases sizes_cases inner with ⟨hrefuses, fault, hfault⟩ | ⟨hnot, found, hfound, -⟩
    · rw [hfault] at hread
      exact decided_of_error hread (hrefused.mpr ⟨inner, rfl, hrefuses⟩)
    · exact hkept found hfound (by simpa [hrefused] using hnot)

end

/-- A text has a type unless a size in it is refused. The type is the unknown one exactly if the
text has no word, no keyword of the table, or no literal for an enumeration; and with an item that
is no number among its sizes, a keyword means what it means alone. -/
theorem typed_unless_refused (s : String) :
    ((∃ type, ofText s = .ok type) ↔ ¬ HasRefusedSize s) ∧
    (∀ type, ofText s = .ok type → (type = untyped ↔ Unknown s)) ∧
    ∀ keyword spec arguments, (keyword, spec) ∈ typeTable → Declares s keyword (some arguments) →
      ¬ RefusesSize arguments → (∃ item ∈ sizeItems arguments, ¬ DigitText item) →
      ofText s = ofText keyword := by
  have hdecided : Decided s := by
    rcases declares_or s with ⟨keyword, arguments, h⟩ | hnone
    · by_cases hlisted : ∃ spec, (keyword, spec) ∈ typeTable
      · obtain ⟨spec, hspec⟩ := hlisted
        exact decided_of_known hspec h
      · have hunlisted : ∀ spec, (keyword, spec) ∉ typeTable :=
          fun spec hspec => hlisted ⟨spec, hspec⟩
        by_cases henum : keyword = "enum"
        · subst henum
          exact decided_of_enum h
        · exact decided_of_type (ofText_unlisted h henum hunlisted) (not_hasRefusedSize h hunlisted)
            (iff_of_true rfl (.unlisted h henum hunlisted))
    · exact decided_of_noWord hnone
  refine ⟨hdecided.1, hdecided.2, fun keyword spec arguments hspec h hkept hother => ?_⟩
  obtain ⟨hrefuses, -⟩ | ⟨-, found, hfound, habsent⟩ := sizes_cases arguments
  · exact absurd hrefuses hkept
  · rw [ofText_known hspec h, ofText_keyword hspec, hfound, habsent hother]
    rfl

/-- A size that is made of a digit, but not of a decimal one. -/
theorem superscriptSize_refused : ofText "varchar(²)" = .error (.malformed "'²'") := by
  decide +kernel

end CatalogEntities.Catalog.ColumnType
