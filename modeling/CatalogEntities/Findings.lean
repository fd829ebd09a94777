import CatalogEntities.Failure
import CatalogEntities.Catalog.Table

/-!
Findings of a check: errors make it fail, warnings do not.
-/

namespace CatalogEntities

structure Findings where
  isValid : Bool
  errors : List String
  warnings : List String
  deriving DecidableEq, Repr

namespace Findings

/-- Findings with errors are never valid. -/
def of (isValid : Bool) (errors warnings : List String) : Findings :=
  ⟨isValid && errors.isEmpty, errors, warnings⟩

def empty : Findings := ⟨true, [], []⟩

def addError (f : Findings) (message : String) : Findings :=
  { f with isValid := false, errors := f.errors ++ [message] }

def addWarning (f : Findings) (message : String) : Findings :=
  { f with warnings := f.warnings ++ [message] }

/-- Fails with all findings unless they are valid. -/
def require (f : Findings) (validator : Option String) : Except Failure Unit :=
  if f.isValid then .ok () else .error (.checkFailed validator f.errors f.warnings)

/-- The check of table filters: no table is both included and excluded. -/
def ofFilters (included excluded : Option (List String)) : Findings :=
  match included.getD [], excluded.getD [] with
  | [], _ => empty
  | _, [] => empty
  | wanted, unwanted =>
    let both := Catalog.sortNames (RelationGraph.distinct (wanted.filter unwanted.contains))
    if both.isEmpty then empty.addWarning "Both include_tables and exclude_tables specified."
    else empty.addError ("Tables both included and excluded: " ++ ", ".intercalate both)

end Findings

end CatalogEntities
