/-!
Conditions found in a schema that do not stop a run.
-/

namespace CatalogEntities

inductive WarningCode
  | missingPrimaryKey
  | nameCollision
  | unknownReference
  | untypedColumn
  deriving DecidableEq, Repr

def WarningCode.text : WarningCode → String
  | .missingPrimaryKey => "missing_primary_key"
  | .nameCollision => "name_collision"
  | .unknownReference => "unknown_reference"
  | .untypedColumn => "untyped_column"

/-- A warning about one table. Recorded warnings may carry any code. -/
structure SchemaWarning where
  table : String
  message : String
  code : String
  deriving DecidableEq, Repr

namespace SchemaWarning

def of (table message : String) (code : WarningCode) : SchemaWarning := ⟨table, message, code.text⟩

def text (w : SchemaWarning) : String := "[" ++ w.table ++ "] " ++ w.message

/-- The warnings about one table, in the order of their recording. -/
def about (warnings : List SchemaWarning) (table : String) : List SchemaWarning :=
  warnings.filter (·.table == table)

end SchemaWarning

end CatalogEntities
