import CatalogEntities.Generation.Rendering

/-!
Writing modules one after the other. The first file that cannot be written ends the writing; what
was written before stays.

Main definition: `writeAll`.
-/

namespace CatalogEntities.Generation

open Files Log

/-- Writes a file and creates the directories above it. What was created before a fault stays. -/
def writeFile (t : Tree) (p : FilePath) (content : String) : Tree × Except Fault Unit :=
  match t.makeDirectories p.parent with
  | (made, .error fault) => (made, .error fault)
  | (made, .ok ()) =>
    match made.write p (Text.Utf8.encode content.toList) with
    | .ok written => (written, .ok ())
    | .error fault => (made, .error fault)

/-- A fault of the file system names the module; a NUL character in a name is not one. -/
def writeFailure (m : GeneratedModule) (p : FilePath) : Fault → Failure
  | .embeddedNul => .files .embeddedNul
  | fault => .unwritable p.text m.table fault.message

def writeModule (t : Tree) (m : GeneratedModule) : Tree × Except Failure Record :=
  let p := FilePath.ofText m.path
  match writeFile t p m.code with
  | (written, .ok ()) => (written, .ok (debug ("Generated file: " ++ p.text)))
  | (left, .error fault) => (left, .error (writeFailure m p fault))

/-- The tree after the writing of some modules, the log, and the outcome. -/
structure Writing where
  tree : Tree
  records : List Record
  outcome : Except Failure Unit

/-- Writes all modules in order. -/
def writeAll (t : Tree) : List GeneratedModule → Writing
  | [] => ⟨t, [], .ok ()⟩
  | m :: rest =>
    match writeModule t m with
    | (left, .error failure) => ⟨left, [], .error failure⟩
    | (written, .ok record) =>
      let more := writeAll written rest
      { more with records := record :: more.records }

end CatalogEntities.Generation
