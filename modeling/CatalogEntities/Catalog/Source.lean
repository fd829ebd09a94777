import CatalogEntities.Catalog.Row
import CatalogEntities.Failure
import CatalogEntities.Log.Record

/-!
Reading a catalog: its table names are filtered, and the tables that remain are read one after the
other. The first answer that fails ends the reading, and no part of the catalog is returned then.

Main definitions: `selectTables`, `Source.read`.
-/

namespace CatalogEntities.Catalog

open Log

/-- What is asked of a catalog. Rows may leave the name of a table open. -/
inductive Question
  | tables
  | columns (table : Option String)
  | foreignKeys (table : Option String)
  deriving DecidableEq, Repr

/-- Whatever answers the three questions; any answer may be a failure. -/
structure Source where
  tables : Except Failure (List (Option String))
  columns : Option String → Except Failure (List ColumnRecord)
  foreignKeys : Option String → Except Failure (List ForeignKeyRecord)

/-- A name in messages. -/
def shownName (name : Option String) : String := name.getD "None"

def isListed (list : List String) (name : Option String) : Bool :=
  match name with
  | some n => list.contains n
  | none => false

/-- What becomes of a name under the filters: exclusion goes first, and an empty inclusion list
includes all. -/
inductive Selection
  | excluded
  | skipped
  | selected
  deriving DecidableEq, Repr

def selection (included excluded : List String) (name : Option String) : Selection :=
  if isListed excluded name then .excluded
  else if !included.isEmpty && !isListed included name then .skipped
  else .selected

def selectionRecord? (included excluded : List String) (name : Option String) : Option Record :=
  match selection included excluded name with
  | .excluded => some (info ("Excluding table: " ++ shownName name))
  | .skipped => some (debug s!"Skipping table '{shownName name}' (not in include list).")
  | .selected => none

/-- Names that were to be included and are not there, sorted. -/
def missingNames (included : List String) (names : List (Option String)) : List String :=
  sortNames (RelationGraph.distinct (included.filter fun name => !names.contains (some name)))

/-- The names that pass the filters, in catalog order, and what filtering has to say. -/
def selectTables (names : List (Option String)) (included excluded : List String) :
    List Record × List (Option String) :=
  let missing := missingNames included names
  let complaint :=
    if missing.isEmpty then []
    else [warning ("Included tables not found in the database: " ++ ", ".intercalate missing)]
  (names.filterMap (selectionRecord? included excluded) ++ complaint,
    names.filter fun name => selection included excluded name == .selected)

/-- The outcome of a reading, with what was asked and what was logged on the way. -/
structure Reading (α : Type) where
  asked : List Question
  records : List Record
  outcome : Except Failure α

namespace Source

/-- Reads the named tables; per table, its columns are asked for before its foreign keys. -/
def readTables (source : Source) : List (Option String) → Reading (List TableRecord)
  | [] => ⟨[], [], .ok []⟩
  | name :: rest =>
    let noted := debug ("Processing table: " ++ shownName name)
    match source.columns name with
    | .error failure => ⟨[.columns name], [noted], .error failure⟩
    | .ok columns =>
      match source.foreignKeys name with
      | .error failure => ⟨[.columns name, .foreignKeys name], [noted], .error failure⟩
      | .ok foreignKeys =>
        let more := readTables source rest
        { asked := .columns name :: .foreignKeys name :: more.asked
          records := noted :: more.records
          outcome := more.outcome.map (⟨name, columns, foreignKeys⟩ :: ·) }

/-- The tables of a catalog that pass the filters. -/
def read (source : Source) (included excluded : List String) : Reading (List TableRecord) :=
  match source.tables with
  | .error failure => ⟨[.tables], [], .error failure⟩
  | .ok names =>
    let found := info s!"Found {names.length} tables."
    let (noted, selected) := selectTables names included excluded
    if selected.isEmpty then
      { asked := [.tables]
        records := found :: noted ++
          [warning "No tables selected for introspection after filtering."]
        outcome := .ok [] }
    else
      let more := source.readTables selected
      { asked := .tables :: more.asked
        records := found :: noted ++ more.records
        outcome := more.outcome }

/-- The catalog that consists of the given tables; of tables with one name the last answers. -/
def ofTables (tables : List Table) : Source :=
  let records := tables.map TableRecord.ofTable
  let named (name : Option String) : Option TableRecord := records.reverse.find? (·.name == name)
  { tables := .ok (tables.map fun t => some t.name)
    columns := fun name => .ok (((named name).map (·.columns)).getD [])
    foreignKeys := fun name => .ok (((named name).map (·.foreignKeys)).getD []) }

end Source

end CatalogEntities.Catalog
