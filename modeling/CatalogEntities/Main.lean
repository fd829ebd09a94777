import CatalogEntities.Command.Session
import CatalogEntities.Files.Change
import Std.Time.Zoned

/-!
The program on a real machine. It gathers the files, the variables and the time that a command line
needs, runs the command line on them, and carries out the changes to the files. No client for a
database is linked in, so engines are refused.
-/

namespace CatalogEntities.Command

open Connection Files

/-- The database of a machine without a client for it. -/
def unreachableDatabase : Database :=
  { creation := .error (Reader.engineErrorClass, "no client for MySQL is linked in")
    greeting := .ok ()
    rows := fun _ => .ok [] }

/-- The directory that a command line is going to write to, if it gets that far. -/
def outputDirectory? (w : World) (a : Arguments) : Option String :=
  match (completed w a).2 with
  | .error _ => none
  | .ok a => ((Settings.load w.tree a.config (given a)).2.toOption).map (·.outputDirectory)

/-- The variables that decide about a run. -/
def variableNames (t : Tree) : List String :=
  let content := ((t.read (.ofText EnvironmentFile.defaultPath)).toOption).getD []
  EnvironmentFile.databaseKey ::
    EnvironmentFile.referencedNames ((Text.readWhole content).toOption.getD [])

/-- Adds what is at a location. What cannot be read counts as missing. -/
def gatherLocation (t : Tree) (location : List String) : IO Tree := do
  let path := (← IO.currentDir) / locationText location
  if (t.entry? location).isSome then return t
  else if ← path.isDir then return t.put location .directory
  else
    try
      return t.put location (.file (← IO.FS.readBinFile path).toList)
    catch _ => return t

/-- Adds what a path passes on its way. -/
def gatherPath (t : Tree) (text : String) : IO Tree :=
  ((FilePath.ofText text).locations t.home).foldlM gatherLocation t

/-- Adds what a directory holds. -/
def gatherDirectory (t : Tree) (text : String) : IO Tree := do
  let t ← gatherPath t text
  let p := FilePath.ofText text
  if t.isDirectory p then
    let entries ← ((← IO.currentDir) / text).readDir
    entries.toList.foldlM (fun t entry => gatherLocation t (p.resolve t.home ++ [entry.fileName])) t
  else return t

def gatherVariable (environment : Assoc String String) (name : String) :
    IO (Assoc String String) := do
  match ← IO.getEnv name with
  | some value => return environment.put name value
  | none => return environment

def localTime : IO Layout.Timestamp := do
  let now ← Std.Time.PlainDateTime.now
  return { year := now.year.toInt.toNat, month := now.month.val.toNat, day := now.day.val.toNat
           hour := now.hour.val.toNat, minute := now.minute.val.toNat,
           second := now.second.val.toNat }

/-- What surrounds the program. -/
def gather (texts : List String) : IO World := do
  let here := FilePath.ofText (← IO.currentDir).toString
  let bare ← (here.locations []).foldlM gatherLocation ⟨here.parts, [], none⟩
  let tree ← gatherPath bare EnvironmentFile.defaultPath
  let environment ← (variableNames tree).foldlM gatherVariable []
  let terminal ← (← IO.getStderr).isTty
  let world : World := ⟨tree, environment, unreachableDatabase, ← localTime, terminal⟩
  match parse texts with
  | .error _ => return world
  | .ok a =>
    let world := { world with tree := ← gatherPath world.tree (a.config.getD "") }
    match outputDirectory? world a with
    | none => return world
    | some directory => return { world with tree := ← gatherDirectory world.tree directory }

def carryOut (change : Change) : IO Unit := do
  let here ← IO.currentDir
  match change with
  | .makeDirectory location => IO.FS.createDir (here / locationText location)
  | .write location content => IO.FS.writeBinFile (here / locationText location) ⟨content.toArray⟩
  | .remove location => IO.FS.removeFile (here / locationText location)

end CatalogEntities.Command

open CatalogEntities in
def main (args : List String) : IO UInt32 := do
  let world ← Command.gather args
  let exit := Command.execute world args
  (world.tree.changes exit.tree).forM Command.carryOut
  IO.print exit.output
  IO.eprint exit.errors
  return exit.code.toUInt32
