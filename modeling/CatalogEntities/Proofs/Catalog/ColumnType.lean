import CatalogEntities.Catalog.ColumnType
import CatalogEntities.Proofs.Outcome

/-!
What the text of a column type can mean: an enumeration, a keyword of the table with its sizes, or
nothing that is known.
-/

namespace CatalogEntities.Catalog.ColumnType

open Number

variable {s : String} {type : ColumnType}

theorem ofText_cases (h : ofText s = .ok type) : type = untyped ∨
    (∃ values, type = enumeration values) ∨
    ∃ keyword spec first second, typeTable.lookup keyword = some spec ∧
    type = ofSpec keyword spec first second := by
  unfold ofText at h
  split at h
  · exact .inl (Except.ok.inj h).symm
  · unfold ofDeclaration at h
    split at h
    · split at h
      · exact .inl (Except.ok.inj h).symm
      · exact .inr (.inl ⟨_, (Except.ok.inj h).symm⟩)
    · split at h
      · exact .inl (Except.ok.inj h).symm
      · rename_i spec hspec
        obtain ⟨⟨first, second⟩, -, hmade⟩ := Outcome.bind_ok_iff.mp h
        exact .inr (.inr ⟨_, spec, first, second, hspec, (Except.ok.inj hmade).symm⟩)

/-- The kinds of value by the keyword of the declaration. -/
def kinds : List (String × LogicalType) :=
  ("text", .untyped) :: ("enum", .text) :: typeTable.map fun entry => (entry.1, entry.2.logical)

theorem mem_kinds (h : ofText s = .ok type) : (type.storage, type.logical) ∈ kinds := by
  rcases ofText_cases h with rfl | ⟨values, rfl⟩ | ⟨keyword, spec, first, second, hspec, rfl⟩
  · exact List.mem_cons_self
  · exact List.mem_cons_of_mem _ List.mem_cons_self
  · obtain ⟨before, after, hsplit, -⟩ := List.lookup_eq_some_iff.mp hspec
    have hentry : (keyword, spec) ∈ typeTable :=
      hsplit ▸ List.mem_append_right before List.mem_cons_self
    exact List.mem_cons_of_mem _ (List.mem_cons_of_mem _ (List.mem_map_of_mem hentry))

theorem logical_eq_bool_iff (h : ofText s = .ok type) :
    type.logical = .bool ↔ type.storage = "tinyint" := by
  have hall : ∀ kind ∈ kinds, kind.2 = .bool ↔ kind.1 = "tinyint" := by decide
  exact hall _ (mem_kinds h)

theorem logical_eq_float_iff (h : ofText s = .ok type) :
    type.logical = .float ↔ type.storage ∈ ["float", "double", "real"] := by
  have hall : ∀ kind ∈ kinds, kind.2 = .float ↔ kind.1 ∈ ["float", "double", "real"] := by decide
  exact hall _ (mem_kinds h)

/-- Character columns hold texts; an unknown declaration goes by one of their keywords, too. -/
theorem logical_of_textKeyword (h : ofText s = .ok type)
    (hkeyword : type.storage ∈ ["char", "varchar", "tinytext", "text", "mediumtext", "longtext"])
    (hknown : ¬ type.isUntyped) : type.logical = .text := by
  have hall :
      ∀ kind ∈ kinds, kind.1 ∈ ["char", "varchar", "tinytext", "text", "mediumtext", "longtext"] →
      kind.2 = .text ∨ kind.2 = .untyped := by decide
  rcases hall _ (mem_kinds h) hkeyword with htext | huntyped
  · exact htext
  · exact absurd (beq_iff_eq.mpr huntyped) hknown

end CatalogEntities.Catalog.ColumnType
