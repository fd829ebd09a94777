import CatalogEntities.Files.Tree

/-!
What turns one file tree into another, step by step.

Main definition: `Tree.changes`.
-/

namespace CatalogEntities.Files

/-- One step on the file system, at an absolute location. -/
inductive Change
  | makeDirectory (location : List String)
  | write (location : List String) (content : List UInt8)
  | remove (location : List String)
  deriving DecidableEq, Repr

def Change.arrival (location : List String) : Entry → Change
  | .directory => .makeDirectory location
  | .file content => .write location content

/-- First what is gone, then what is new or different. A tree lists a directory before what is in
it. -/
def Tree.changes (before after : Tree) : List Change :=
  (before.entries.filter fun (location, _) => (after.entry? location).isNone).map
      (fun (location, _) => .remove location) ++
    (after.entries.filter fun (location, entry) => before.entry? location != some entry).map
      fun (location, entry) => .arrival location entry

/-- The locations that a path passes on its way, first to last. -/
def FilePath.locations (base : List String) (p : FilePath) : List (List String) :=
  (List.range (p.parts.length + 1)).map fun n =>
    FilePath.resolve base { p with parts := p.parts.take n }

end CatalogEntities.Files
