/-!
Sets of characters given as ascending, disjoint ranges of code points.
-/

namespace CatalogEntities.Text

/-- Ranges of code points, both ends included. -/
abbrev CharTable := List (Nat × Nat)

/-- Whether the character lies in one of the ranges. -/
def CharTable.has (table : CharTable) (c : Char) : Bool :=
  table.any fun range => range.1 ≤ c.toNat && c.toNat ≤ range.2

end CatalogEntities.Text
