import CatalogEntities.Findings
import CatalogEntities.Log.Record

/-!
The directory that modules are written to: it is created if it is missing, and a file is created
and removed in it to see that it can be written to.
-/

namespace CatalogEntities.Generation

open Files Log

def probeName : String := ".write_test"

/-- Creates the directory and tries to write in it. What was created before a fault stays. -/
def probe (t : Tree) (p : FilePath) : Tree × Except Fault Unit :=
  match t.makeDirectories p with
  | (made, .error fault) => (made, .error fault)
  | (made, .ok ()) =>
    match made.touch (p.child probeName) with
    | .error fault => (made, .error fault)
    | .ok touched =>
      match touched.remove (p.child probeName) with
      | .error fault => (touched, .error fault)
      | .ok removed => (removed, .ok ())

/-- A fault as an error of the check; a name with a NUL character is no finding but a failure. -/
def probeError? (p : FilePath) : Fault → Option String
  | .system .denied _ => some ("No write permission for output directory: " ++ p.text)
  | .refused _ => some ("No write permission for output directory: " ++ p.text)
  | .embeddedNul => none
  | .system error path =>
    some ("Cannot access output directory: " ++ (Fault.system error path).message)

def relativeWarning : String :=
  "Output directory is not absolute, resolving relative to current directory"

/-- Checks an output directory. -/
def checkDirectory (t : Tree) (directory : String) : Tree × Except Failure Findings :=
  if directory.isEmpty then (t, .ok (Findings.empty.addError "Output directory is required"))
  else
    let p := FilePath.ofText directory
    let findings :=
      if p.isAbsolute then Findings.empty else Findings.empty.addWarning relativeWarning
    match t.query? p with
    | .error fault => (t, .error (.files fault))
    | .ok (some (.file _)) =>
      (t, .ok (findings.addError ("Output path exists but is not a directory: " ++ p.text)))
    | .ok _ =>
      match probe t p with
      | (probed, .ok ()) => (probed, .ok findings)
      | (probed, .error fault) =>
        match probeError? p fault with
        | some error => (probed, .ok (findings.addError error))
        | none => (probed, .error (.files fault))

/-- The tree after the preparation of an output directory, what was logged, and the outcome. -/
structure Preparation where
  tree : Tree
  records : List Record
  outcome : Except Failure FilePath

/-- Checks an output directory before anything is read; a directory that cannot be used is a
failure. -/
def prepareDirectory (t : Tree) (directory : String) : Preparation :=
  match checkDirectory t directory with
  | (checked, .error failure) => ⟨checked, [], .error failure⟩
  | (checked, .ok findings) =>
    let noted := findings.warnings.map debug
    if findings.isValid then ⟨checked, noted, .ok (.ofText directory)⟩
    else ⟨checked, noted, .error (.unusableOutputDirectory directory findings.errors)⟩

end CatalogEntities.Generation
