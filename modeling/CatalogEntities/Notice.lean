import CatalogEntities.Log.Record
import CatalogEntities.Warning

/-!
What a stage of a run has to say: warnings, which are recorded and logged, and details, which are
only logged.
-/

namespace CatalogEntities

inductive Notice
  | warning (w : SchemaWarning)
  | detail (message : String)
  deriving DecidableEq, Repr

namespace Notice

def record : Notice → Log.Record
  | .warning w => Log.warning w.text
  | .detail message => Log.debug message

def warning? : Notice → Option SchemaWarning
  | .warning w => some w
  | .detail _ => none

/-- The warnings among the notices, in order. -/
def warnings (notices : List Notice) : List SchemaWarning := notices.filterMap warning?

end Notice

end CatalogEntities
