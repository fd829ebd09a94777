/-!
Snapshots of the catalog: tables with their columns and outgoing foreign keys.
-/

namespace CatalogEntities.Catalog

structure Column where
  name : String
  physicalType : String
  nullable : Bool
  defaultText : Option String
  isPrimary : Bool
  isAutoIncrement : Bool
  comment : Option String
  extra : String
  deriving DecidableEq, Repr

/-- One column of a foreign key; a composite key is several of these. -/
structure ForeignKey where
  table : String
  column : String
  referencedTable : String
  referencedColumn : String
  constraint : Option String
  deriving DecidableEq, Repr

structure Table where
  name : String
  columns : List Column
  foreignKeys : List ForeignKey
  deriving DecidableEq, Repr

namespace Table

def hasPrimaryKey (t : Table) : Bool := t.columns.any (·.isPrimary)

def column? (t : Table) (name : String) : Option Column := t.columns.find? (·.name == name)

/-- The first foreign key on a column. -/
def foreignKey? (t : Table) (column : String) : Option ForeignKey :=
  t.foreignKeys.find? (·.column == column)

/-- A junction has two columns, both primary, and two foreign keys to two different tables that
are among the known ones. -/
def isJunction (t : Table) (known : List String) : Bool :=
  t.columns.length == 2 && t.columns.all (·.isPrimary) &&
    match t.foreignKeys with
    | [a, b] =>
      a.referencedTable != b.referencedTable && known.contains a.referencedTable &&
        known.contains b.referencedTable
    | _ => false

end Table

/-- Stable order of names by code point. -/
def sortByKey {α : Type} (key : α → String) (xs : List α) : List α :=
  xs.mergeSort fun a b => !(key b < key a)

def sortTables (tables : List Table) : List Table := sortByKey (·.name) tables

def sortNames (names : List String) : List String := sortByKey id names

end CatalogEntities.Catalog
