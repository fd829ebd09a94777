import CatalogEntities.Files.Path
import CatalogEntities.Format.Source
import CatalogEntities.Layout.Modules
import CatalogEntities.Layout.Page
import CatalogEntities.Failure

/-!
The modules of a generated package: one per table and the entry module, rendered in memory and
brought into normal form if that is wanted.

Main definition: `render`.
-/

namespace CatalogEntities.Generation

open Catalog Files Log Text

inductive ModuleKind
  | entity
  | entry
  deriving DecidableEq, Repr

def ModuleKind.name : ModuleKind → String
  | .entity => "entity"
  | .entry => "entry"

/-- A module ready to be written. -/
structure GeneratedModule where
  code : String
  path : String
  kind : ModuleKind
  table : Option String
  lineCount : Nat
  deriving DecidableEq, Repr

def countLines (code : String) : Nat := (lines code.toList).length

/-- A module with as many lines as its code has. -/
def GeneratedModule.of (code path : String) (kind : ModuleKind) (table : Option String) :
    GeneratedModule :=
  { code, path, kind, table, lineCount := countLines code }

/-- Code in normal form, and what is said about it. Code that has none stays as it is, so that it
can be looked at. -/
def formatted (file code : String) : List Record × String :=
  match Format.normalForm? code with
  | some normal => ([debug ("Formatted code using Black: " ++ file)], normal)
  | none =>
    ([error "Could not format Python code using Black: ...",
      warning s!"Writing unformatted Python code for {file}."], code)

/-- Filled templates are formatted if that is wanted. -/
def finish (format : Bool) (file code : String) : List Record × String :=
  if format then
    let (noted, normal) := formatted file code
    (debug ("Formatting Python code using Black: " ++ file) :: noted, normal)
  else ([], code)

/-- The text of a template over named values, finished; a fault names the file that was
asked for. -/
def fillTemplate (format : Bool) (name : String) (t : Layout.Template) (names : Layout.Names)
    (file : String) : List Record × Except Failure String :=
  match Layout.Template.fill t names with
  | .error (.notIterable kind) => ([], .error (.notIterable kind))
  | .error fault => ([], .error (.templateFailed name fault file))
  | .ok code =>
    let (noted, normal) := finish format file code
    (noted, .ok normal)

/-- How modules are rendered. -/
structure Style where
  format : Bool
  time : Layout.Timestamp
  deriving DecidableEq, Repr

def sourceFile (module : String) : String := module ++ ".py"

/-- The module of the package itself. -/
def entryModule : String := "__init__"

def renderEntity (style : Style) (directory : FilePath) (e : Entity) :
    List Record × Except Failure GeneratedModule :=
  let file := sourceFile e.moduleName
  let started := debug s!"Rendering entity {e.className} for table '{e.table.name}'"
  let (noted, code) := fillTemplate style.format Layout.entityTemplateName Layout.entityTemplate
    (Layout.entityPage e style.time).names file
  (started :: noted, code.map fun code =>
    .of code (directory.child file).text .entity (some e.table.name))

def renderEntry (style : Style) (directory : FilePath) (entities : List Entity) :
    List Record × Except Failure GeneratedModule :=
  let file := sourceFile entryModule
  let (noted, code) := fillTemplate style.format Layout.entryTemplateName Layout.entryTemplate
    (Layout.entryPage entities style.time).names file
  (noted, code.map fun code => .of code (directory.child file).text .entry none)

/-- Results in order up to the first failure, with all that was logged until then. -/
def inOrder {α : Type} :
    List (List Record × Except Failure α) → List Record × Except Failure (List α)
  | [] => ([], .ok [])
  | (noted, .error failure) :: _ => (noted, .error failure)
  | (noted, .ok a) :: rest =>
    let (more, all) := inOrder rest
    (noted ++ more, all.map (a :: ·))

/-- Rendered modules, the warnings that came up, and the log. -/
structure Rendering where
  records : List Record
  warnings : List SchemaWarning
  outcome : Except Failure (List GeneratedModule)

/-- What inference and planning have to say about tables. -/
def notices (tables : List Table) : List Notice :=
  let graph := RelationGraph.ofTables tables
  RelationGraph.notices tables ++ Entity.notices tables graph

/-- The entities of a run. -/
def entities (tables : List Table) : Except Failure (List Entity) :=
  match RelationGraph.unpaired? tables with
  | some count => .error (.unpairedJunction count)
  | none => (Entity.ofTables tables (RelationGraph.ofTables tables)).mapError Failure.ofBuildFault

/-- The modules of a package in `directory`: those of the entities by table name, and then the
entry module. -/
def render (tables : List Table) (directory : FilePath) (style : Style) : Rendering :=
  let noted := notices tables
  let warnings := Notice.warnings noted
  match entities tables with
  | .error failure => ⟨noted.map Notice.record, warnings, .error failure⟩
  | .ok entities =>
    let (records, outcome) :=
      inOrder (entities.map (renderEntity style directory) ++
        [renderEntry style directory entities])
    ⟨noted.map Notice.record ++ records, warnings, outcome⟩

end CatalogEntities.Generation
