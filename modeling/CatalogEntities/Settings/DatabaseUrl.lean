import CatalogEntities.Failure
import CatalogEntities.Log.Record
import CatalogEntities.Settings.EnvironmentFile
import CatalogEntities.Text.File

/-!
The connection string that an environment file, or else the environment, gives.
-/

namespace CatalogEntities.EnvironmentFile

open Files Log

/-- The variable that names the database. -/
def databaseKey : String := "DATABASE_URL"

def defaultPath : String := ".env"

def unreadableRecord (line : Nat) : Record :=
  warning s!"python-dotenv could not parse statement starting at line {line}"

/-- The values of a file's bindings, and warnings about what cannot be read. -/
def valuesOf (environment : Assoc String String) (content : List UInt8) :
    Except Failure (List Record × Assoc String (Option String)) :=
  match Text.readWhole content with
  | .error fault => .error (.undecodable fault)
  | .ok cs =>
    let statements := parse cs
    .ok ((unreadableLines statements).map unreadableRecord,
      resolve environment (bindings statements))

/-- The connection string; an empty value in the file counts as none. -/
def databaseUrl (t : Tree) (environment : Assoc String String) (path : String) :
    Except Failure (List Record × Option String) := do
  let (noted, values) ←
    match t.query? (.ofText path) with
    | .error fault => .error (.files fault)
    | .ok (some (.file content)) => valuesOf environment content
    | .ok _ => .ok ([], [])
  match (values.get? databaseKey).join.filter (!·.isEmpty) with
  | some url => return (noted, some url)
  | none => return (noted, environment.get? databaseKey)

end CatalogEntities.EnvironmentFile
