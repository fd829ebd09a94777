import CatalogEntities.Settings.Basic
import CatalogEntities.Text.File
import CatalogEntities.Yaml.Document

/-!
Loading settings: the entries of a YAML document, those given on the command line over them, then
validation. The output directory becomes an absolute path.

Main definitions: `Settings.loadDocument`, `Settings.load`.
-/

namespace CatalogEntities.Settings

open Files Log

/-- The content of a settings file that is there. -/
def fileContent (t : Tree) (path : String) : Except Failure (List UInt8) :=
  match t.query? (.ofText path) with
  | .error fault => .error (.files fault)
  | .ok (some (.file content)) => .ok content
  | .ok _ => .error (.settingsFileNotFound path)

def documentFailure (path : String) : Yaml.Fault → Failure
  | .malformed => .settingsFileUnparsable path
  | .noValue message => .unreadableSetting message
  | .noWord word => .missingKey word

/-- What a settings file holds; an empty file counts as an empty mapping. -/
def documentOf (path : String) (content : List UInt8) :
    Except Failure (List Record × List (Value × Value)) :=
  match Text.readStream content with
  | .error fault => .error (.undecodable fault)
  | .ok cs =>
    match Yaml.read cs with
    | .error fault => .error (documentFailure path fault)
    | .ok .null => .ok ([], [])
    | .ok (.map entries) => .ok ([debug ("Loaded configuration from " ++ path)], entries)
    | .ok _ => .error (.settingsFileNoMapping path)

def loadDocument (t : Tree) (path : String) :
    Except Failure (List Record × List (Value × Value)) := do
  documentOf path (← fileContent t path)

/-- The settings among given values; null stands for a value that is not given. -/
def givenFields (given : Assoc String Value) : Assoc String Value :=
  given.filter fun (name, v) => fieldNames.contains name && !(v matches .null)

/-- The entries of a document with given values over them. -/
def overridden (document : List (Value × Value)) (given : Assoc String Value) :
    List (Value × Value) :=
  Assoc.update document ((givenFields given).map fun (name, v) => (.text name, v))

def overrideRecords (given : Assoc String Value) : List Record :=
  let names := Catalog.sortNames (givenFields given).keys
  if names.isEmpty then []
  else [debug ("Overridden config keys from CLI arguments: " ++
    (Value.list (names.map .text)).display)]

/-- The absolute text of an output directory. -/
def absoluteDirectory (t : Tree) (directory : String) : Except Failure String :=
  let p := FilePath.ofText directory
  if Tree.hasNul p then .error (.files .embeddedNul) else .ok (locationText (p.resolve t.home))

/-- Validation of the entries, of the table filters and of the output directory. -/
def finish (t : Tree) (entries : List (Value × Value)) : List Record × Except Failure Settings :=
  match validate (.map entries) with
  | .error failure => ([], .error failure)
  | .ok settings =>
    let outcome := do
      (Findings.ofFilters settings.includedTables settings.excludedTables).require
        (some "table_filters")
      let outputDirectory ← absoluteDirectory t settings.outputDirectory
      return { settings with outputDirectory }
    ([validatedRecord], outcome)

/-- Settings from a file, if one is named, and from given values. -/
def load (t : Tree) (path : Option String) (given : Assoc String Value) :
    List Record × Except Failure Settings :=
  let named := path.filter (!·.isEmpty)
  match (named.map (loadDocument t)).getD (.ok ([], [])) with
  | .error failure => ([], .error failure)
  | .ok (noted, document) =>
    let (finished, outcome) := finish t (overridden document given)
    (noted ++ overrideRecords given ++ finished, outcome)

end CatalogEntities.Settings
