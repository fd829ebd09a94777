import CatalogEntities.Catalog.Source
import CatalogEntities.Connection.Target

/-!
The reader of a MySQL catalog. It holds an engine while it is open; engines are numbered in the
order of their creation, and each call tells what it did to them.

Main definitions: `Database`, `Reader.connect`, `Reader.readCatalog`.
-/

namespace CatalogEntities.Connection

open Catalog Log

/-- A database as an engine meets it: whether an engine can be made (else the class and the text of
what was in the way), whether it answers, and the rows of its catalog. -/
structure Database where
  creation : Except (String × String) Unit
  greeting : Except String Unit
  rows : Question → Except String (List Row)

/-- The query for a question. -/
def statement : Question → String
  | .tables =>
    "SELECT TABLE_NAME AS table_name FROM information_schema.TABLES " ++
      "WHERE TABLE_SCHEMA = DATABASE() AND TABLE_TYPE = :table_type ORDER BY TABLE_NAME"
  | .columns _ =>
    "SELECT COLUMN_NAME AS column_name, COLUMN_TYPE AS column_type, COLUMN_KEY AS column_key, " ++
      "IS_NULLABLE AS is_nullable, COLUMN_DEFAULT AS column_default, EXTRA AS extra, " ++
      "COLUMN_COMMENT AS column_comment FROM information_schema.COLUMNS " ++
      "WHERE TABLE_SCHEMA = DATABASE() AND TABLE_NAME = :table_name ORDER BY ORDINAL_POSITION"
  | .foreignKeys _ =>
    "SELECT COLUMN_NAME AS column_name, REFERENCED_TABLE_NAME AS referenced_table, " ++
      "REFERENCED_COLUMN_NAME AS referenced_column, CONSTRAINT_NAME AS constraint_name " ++
      "FROM information_schema.KEY_COLUMN_USAGE WHERE TABLE_SCHEMA = DATABASE() " ++
      "AND TABLE_NAME = :table_name AND REFERENCED_TABLE_NAME IS NOT NULL " ++
      "ORDER BY CONSTRAINT_NAME, ORDINAL_POSITION"

/-- The parameter of a question's query. -/
def parameter : Question → String × Option String
  | .tables => ("table_type", some "BASE TABLE")
  | .columns table => ("table_name", table)
  | .foreignKeys table => ("table_name", table)

/-- The table that a question is about. -/
def subject : Question → Option String
  | .tables => none
  | .columns table => table
  | .foreignKeys table => table

/-- What reaches engines. -/
inductive EngineEvent
  | refused
  | created (engine : Nat)
  | greeted (engine : Nat)
  | asked (engine : Nat) (question : Question)
  | disposed (engine : Nat)
  deriving DecidableEq, Repr

/-- `created` counts the engines that were made, `engine` is the one that is held. -/
structure Reader where
  address : String
  target : Target
  created : Nat
  engine : Option Nat
  deriving DecidableEq, Repr

/-- What a call on a reader did: events, log, outcome and the reader after it. -/
structure Call (α : Type) where
  events : List EngineEvent
  records : List Record
  outcome : Except Failure α
  reader : Reader

namespace Reader

/-- A closed reader for a connection string. -/
def of (address : String) : Except Failure Reader :=
  (Target.parse address).map fun target => ⟨address, target, 0, none⟩

def isOpen (r : Reader) : Bool := r.engine.isSome

/-- The reader without its engine, and the disposal of it. -/
def release (r : Reader) : List EngineEvent × Reader :=
  match r.engine with
  | none => ([], r)
  | some engine => ([.disposed engine], { r with engine := none })

def close (r : Reader) : Call Unit :=
  let (events, closed) := r.release
  ⟨events, [], .ok (), closed⟩

/-- The class of what engines complain about. -/
def engineErrorClass : String := "SQLAlchemyError"

def connectRecords (r : Reader) : List Record :=
  [debug ("Connecting to " ++ r.target.url.render true)]

/-- The end of a failed attempt to connect: the engine that is held is disposed of. -/
def giveUp (r : Reader) (events : List EngineEvent) (cause : String × String) : Call Unit :=
  let (released, closed) := r.release
  ⟨events ++ released, r.connectRecords,
    .error (.unreachable r.target.database r.address cause), closed⟩

/-- Makes an engine and checks that the database answers. -/
def connect (r : Reader) (db : Database) : Call Unit :=
  match db.creation with
  | .error cause => r.giveUp [.refused] cause
  | .ok () =>
    let opened := { r with created := r.created + 1, engine := some r.created }
    let events : List EngineEvent := [.created r.created, .greeted r.created]
    match db.greeting with
    | .error text => opened.giveUp events (engineErrorClass, text)
    | .ok () =>
      let connected := info s!"Connected to {r.target.host}:{r.target.port}/{r.target.database}"
      ⟨events, r.connectRecords ++ [connected], .ok (), opened⟩

/-- The rows that answer a question, which only an open reader has. -/
def rows (r : Reader) (db : Database) (question : Question) : Except Failure (List Row) :=
  if r.isOpen then
    (db.rows question).mapError fun text =>
      .queryFailed text (subject question) (some (statement question))
  else .error (.readerNotOpen (subject question))

def rowFailure (table : Option String) : RowFault → Failure
  | .missing key => .missingKey key
  | .undecodable fault => .undecodableCatalog fault table

/-- The rows of an answer, each read by `f`. -/
def mapped {α : Type} (r : Reader) (db : Database) (question : Question)
    (f : Row → Except RowFault α) :
    Except Failure (List α) := do
  let rows ← r.rows db question
  (rows.mapM f).mapError (rowFailure (subject question))

/-- The catalog behind a reader. -/
def source (r : Reader) (db : Database) : Source :=
  { tables := r.mapped db .tables fun row => Row.required row "table_name"
    columns := fun table => r.mapped db (.columns table) Row.column
    foreignKeys := fun table =>
      r.mapped db (.foreignKeys table) (Row.foreignKey (shownName table)) }

/-- The questions that reached an engine. -/
def questionEvents (r : Reader) (asked : List Question) : List EngineEvent :=
  match r.engine with
  | none => []
  | some engine => asked.map (.asked engine)

def listTables (r : Reader) (db : Database) : Call (List (Option String)) :=
  ⟨r.questionEvents [.tables], [], (r.source db).tables, r⟩

def describeColumns (r : Reader) (db : Database) (table : Option String) :
    Call (List ColumnRecord) :=
  ⟨r.questionEvents [.columns table], [], (r.source db).columns table, r⟩

def listForeignKeys (r : Reader) (db : Database) (table : Option String) :
    Call (List ForeignKeyRecord) :=
  ⟨r.questionEvents [.foreignKeys table], [], (r.source db).foreignKeys table, r⟩

/-- Reads the tables that pass the filters. -/
def readCatalog (r : Reader) (db : Database) (included excluded : List String) :
    Call (List TableRecord) :=
  let reading := (r.source db).read included excluded
  ⟨r.questionEvents reading.asked, reading.records, reading.outcome, r⟩

end Reader

end CatalogEntities.Connection
