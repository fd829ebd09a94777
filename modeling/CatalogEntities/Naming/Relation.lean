import CatalogEntities.Naming.Identifier

/-!
Names of relations: forward ones are prefixed, inverse ones and the ends of many-to-many
relations are plurals of a table's name.
-/

namespace CatalogEntities.Naming

open Text

/-- A column's name without the ending `_id`, in either letter case, unless nothing is left. -/
def relationStemChars (cs : List Char) : List Char :=
  if "_id".toList.isSuffixOf (lower cs) && cs.length > 3 then cs.take (cs.length - 3) else cs

def relationStem (column : String) : String := onChars relationStemChars column

/-- A forward relation to a table; a column tells several to the same table apart. -/
def forwardName (table : String) (column : Option String) : String :=
  let base := "fk_" ++ snakeCase (className table)
  let column := column.getD ""
  attributeName (if column.isEmpty then base else base ++ "_" ++ snakeCase (relationStem column))

/-- The referencing table, in the plural. -/
def inverseName (table : String) : String := attributeName (plural table)

def inverseAlternate (name column : String) : String :=
  attributeName (name ++ "_by_" ++ relationStem column)

/-- The table at the other end, in the plural. -/
def manyToManyName (table : String) : String := attributeName (plural table)

end CatalogEntities.Naming
