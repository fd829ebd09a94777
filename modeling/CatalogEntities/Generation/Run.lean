import CatalogEntities.Catalog.Source
import CatalogEntities.Generation.Directory
import CatalogEntities.Generation.Writing

/-!
A run of the generator. The directory is checked before anything is read, the whole catalog is
read and every module rendered before anything is written.

Main definition: `run`.
-/

namespace CatalogEntities.Generation

open Catalog Files Log

/-- What a run is asked for. -/
structure Request where
  directory : String
  included : List String
  excluded : List String
  style : Style

/-- What a run leaves behind: the tree, the questions that the catalog was asked, the log, and the
modules that were written or the failure. -/
structure RunResult where
  tree : Tree
  asked : List Question
  records : List Record
  outcome : Except Failure (List GeneratedModule)

/-- What is wrong with records that name no table or no column. -/
def recordFailure (records : List TableRecord) : Failure :=
  if records.any (·.name.isNone) then
    if 1 < records.length then .unorderedNames else .textExpected "NoneType"
  else .namelessColumn

/-- The tables of records; names may not be missing. -/
def tablesOf (records : List TableRecord) : Except Failure (List Table) :=
  match records.mapM TableRecord.toTable? with
  | some tables => .ok tables
  | none => .error (recordFailure records)

def totalLines (modules : List GeneratedModule) : Nat :=
  modules.foldl (fun n m => n + m.lineCount) 0

/-- The summary of a run that has written its modules. -/
def summary (p : FilePath) (modules : List GeneratedModule) (warnings : List SchemaWarning) :
    List Record :=
  let lines := totalLines modules
  let written := success s!"Wrote {modules.length} modules ({lines} lines) to {p.text}"
  let repeated :=
    if warnings.isEmpty then []
    else
      highlight s!"{warnings.length} schema warnings:" ::
        warnings.map fun w => info ("  " ++ w.text)
  written :: repeated

/-- Renders and writes what was read. -/
def emit (t : Tree) (p : FilePath) (style : Style) (records : List TableRecord) :
    Tree × List Record × Except Failure (List GeneratedModule) :=
  let empty :=
    if records.isEmpty then [warning "No tables found; only the entry module will be written."]
    else []
  let started := empty ++ [progress s!"Rendering {records.length} entities..."]
  match tablesOf records with
  | .error failure => (t, started, .error failure)
  | .ok tables =>
    let rendered := render tables p style
    let noted := started ++ rendered.records
    match rendered.outcome with
    | .error failure => (t, noted, .error failure)
    | .ok modules =>
      let written := writeAll t modules
      let noted := noted ++ written.records
      match written.outcome with
      | .error failure => (written.tree, noted, .error failure)
      | .ok () => (written.tree, noted ++ summary p modules rendered.warnings, .ok modules)

/-- Runs the generator on a catalog. -/
def run (source : Source) (request : Request) (t : Tree) : RunResult :=
  let prepared := prepareDirectory t request.directory
  match prepared.outcome with
  | .error failure => ⟨prepared.tree, [], prepared.records, .error failure⟩
  | .ok p =>
    let noted := prepared.records ++ [progress "Reading database catalog..."]
    let reading := source.read request.included request.excluded
    match reading.outcome with
    | .error failure => ⟨prepared.tree, reading.asked, noted ++ reading.records, .error failure⟩
    | .ok records =>
      let (tree, emitted, outcome) := emit prepared.tree p request.style records
      ⟨tree, reading.asked, noted ++ reading.records ++ emitted, outcome⟩

end CatalogEntities.Generation
