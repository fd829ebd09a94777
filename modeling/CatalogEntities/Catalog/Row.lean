import CatalogEntities.Catalog.EnumLiteral
import CatalogEntities.Catalog.Table
import CatalogEntities.Text.Utf8
import CatalogEntities.Value

/-!
Rows of the catalog queries as columns and foreign keys. Texts may arrive as bytes; a literal
default may arrive between quotes.
-/

namespace CatalogEntities.Catalog

open Text

/-- A row: the values of its named columns. -/
abbrev Row := Assoc String Value

inductive RowFault
  | missing (key : String)
  | undecodable (fault : Utf8.Fault)
  deriving DecidableEq, Repr

/-- A column as a row tells it; rows may leave its name and type open. -/
structure ColumnRecord where
  name : Option String
  physicalType : Option String
  nullable : Bool
  defaultText : Option String
  isPrimary : Bool
  isAutoIncrement : Bool
  comment : Option String
  extra : String
  deriving DecidableEq, Repr

structure ForeignKeyRecord where
  table : String
  column : Option String
  referencedTable : Option String
  referencedColumn : Option String
  constraint : Option String
  deriving DecidableEq, Repr

/-- A table as its rows tell it; its name may be open, too. -/
structure TableRecord where
  name : Option String
  columns : List ColumnRecord
  foreignKeys : List ForeignKeyRecord
  deriving DecidableEq, Repr

namespace Row

/-- A value as text; bytes are decoded. -/
def asText (v : Value) : Except RowFault (Option String) :=
  match v with
  | .null => .ok none
  | .bytes b => ((Utf8.decode b).map fun cs => some (String.ofList cs)).mapError .undecodable
  | v => .ok (some v.display)

/-- The text under a key; a missing key counts as null. -/
def text (row : Row) (key : String) : Except RowFault (Option String) :=
  asText ((row.get? key).getD .null)

/-- The text under a key that must be there. -/
def required (row : Row) (key : String) : Except RowFault (Option String) :=
  match row.get? key with
  | some v => asText v
  | none => .error (.missing key)

/-- A text without the quotes around a literal; the word null in any letter case stands for no
default. -/
def normalizeDefault (raw : String) : Option String :=
  let cs := raw.toList
  if upper cs == "NULL".toList then none
  else match cs with
    | '\'' :: rest =>
      if rest.getLast? == some '\'' then some (String.ofList (EnumLiteral.undouble rest.dropLast))
      else some raw
    | _ => some raw

def column (row : Row) : Except RowFault ColumnRecord := do
  let extra := (← text row "extra").getD ""
  let comment ← text row "column_comment"
  let name ← required row "column_name"
  let physicalType ← required row "column_type"
  let nullable := (← text row "is_nullable").getD ""
  let raw ← text row "column_default"
  let key ← text row "column_key"
  return {
    name := name
    physicalType := physicalType
    nullable := upper nullable.toList == "YES".toList
    defaultText := raw.bind normalizeDefault
    isPrimary := key == some "PRI"
    isAutoIncrement := occursIn "auto_increment".toList (lower extra.toList)
    comment := comment.filter (!·.isEmpty)
    extra := extra }

def foreignKey (table : String) (row : Row) : Except RowFault ForeignKeyRecord := do
  let column ← required row "column_name"
  let referencedTable ← required row "referenced_table"
  let referencedColumn ← required row "referenced_column"
  let constraint ← text row "constraint_name"
  return { table, column, referencedTable, referencedColumn, constraint }

end Row

/-- The column of a record that has a name; a missing type is no type that is known. -/
def ColumnRecord.toColumn? (r : ColumnRecord) : Option Column :=
  r.name.map fun name =>
    { name := name
      physicalType := r.physicalType.getD "None"
      nullable := r.nullable
      defaultText := r.defaultText
      isPrimary := r.isPrimary
      isAutoIncrement := r.isAutoIncrement
      comment := r.comment
      extra := r.extra }

def ForeignKeyRecord.toForeignKey (r : ForeignKeyRecord) : ForeignKey :=
  { table := r.table
    column := r.column.getD "None"
    referencedTable := r.referencedTable.getD "None"
    referencedColumn := r.referencedColumn.getD "None"
    constraint := r.constraint }

/-- The record of a column of which everything is known. -/
def ColumnRecord.ofColumn (c : Column) : ColumnRecord :=
  { name := some c.name
    physicalType := some c.physicalType
    nullable := c.nullable
    defaultText := c.defaultText
    isPrimary := c.isPrimary
    isAutoIncrement := c.isAutoIncrement
    comment := c.comment
    extra := c.extra }

def ForeignKeyRecord.ofForeignKey (k : ForeignKey) : ForeignKeyRecord :=
  { table := k.table
    column := some k.column
    referencedTable := some k.referencedTable
    referencedColumn := some k.referencedColumn
    constraint := k.constraint }

/-- The record of a table whose rows tell everything. -/
def TableRecord.ofTable (t : Table) : TableRecord :=
  { name := some t.name
    columns := t.columns.map .ofColumn
    foreignKeys := t.foreignKeys.map .ofForeignKey }

/-- The table of a record, if it and all its columns have names. -/
def TableRecord.toTable? (r : TableRecord) : Option Table := do
  let name ← r.name
  let columns ← r.columns.mapM ColumnRecord.toColumn?
  return { name := name, columns := columns, foreignKeys := r.foreignKeys.map (·.toForeignKey) }

end CatalogEntities.Catalog
