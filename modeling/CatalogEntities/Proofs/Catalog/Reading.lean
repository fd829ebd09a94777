import CatalogEntities.Catalog.Source
import CatalogEntities.Proofs.Outcome

/-!
A reading fails exactly if an answer that it asked for does; a part of a catalog is never the
result.
-/

namespace CatalogEntities.Catalog.Source

/-- The failure that a question is answered with. -/
def failure? (source : Source) : Question → Option Failure
  | .tables => fault source.tables
  | .columns table => fault (source.columns table)
  | .foreignKeys table => fault (source.foreignKeys table)
where
  fault {α : Type} : Except Failure α → Option Failure
    | .ok _ => none
    | .error failure => some failure

variable (source : Source)

theorem readTables_error_iff (names : List (Option String)) (failure : Failure) :
    (source.readTables names).outcome = .error failure ↔
      ∃ q ∈ (source.readTables names).asked, source.failure? q = some failure := by
  induction names with
  | nil => simp [readTables]
  | cons name rest ih =>
    rw [readTables]
    cases hcolumns : source.columns name with
    | error fault => simp [failure?, failure?.fault, hcolumns]
    | ok columns =>
      cases hkeys : source.foreignKeys name with
      | error fault => simp [failure?, failure?.fault, hcolumns, hkeys]
      | ok keys => simp [Outcome.map_error_iff, ih, failure?, failure?.fault, hcolumns, hkeys]

/-- A reading fails with a failure exactly if some question was answered with it. -/
theorem read_error_iff (included excluded : List String) (failure : Failure) :
    (source.read included excluded).outcome = .error failure ↔
      ∃ q ∈ (source.read included excluded).asked, source.failure? q = some failure := by
  rw [read]
  cases htables : source.tables with
  | error fault => simp [failure?, failure?.fault, htables]
  | ok names =>
    dsimp only
    split
    · simp [failure?, failure?.fault, htables]
    · simp [failure?, failure?.fault, htables, readTables_error_iff]

end CatalogEntities.Catalog.Source
