import CatalogEntities.Files.Path
import CatalogEntities.Text.Literal

/-!
A file tree as a value. Each operation looks at the tree as an operating system would, and
either returns the changed tree or the fault that it reports; nothing else changes.

Main definitions: `Tree.makeDirectory`, `Tree.makeDirectories`, `Tree.write`, `Tree.remove`.
-/

namespace CatalogEntities.Files

open Text

inductive SystemError
  | denied
  | notFound
  | alreadyExists
  | notDirectory
  | isDirectory
  | nameTooLong
  deriving DecidableEq, Repr

def SystemError.number : SystemError → Nat
  | .notFound => 2
  | .denied => 13
  | .alreadyExists => 17
  | .notDirectory => 20
  | .isDirectory => 21
  | .nameTooLong => 36

def SystemError.words : SystemError → String
  | .notFound => "No such file or directory"
  | .denied => "Permission denied"
  | .alreadyExists => "File exists"
  | .notDirectory => "Not a directory"
  | .isDirectory => "Is a directory"
  | .nameTooLong => "File name too long"

/-- A refused operation; a name with a NUL character is refused before the system is asked. -/
inductive Fault
  | system (error : SystemError) (path : String)
  | embeddedNul
  | refused (text : String)
  deriving DecidableEq, Repr

def Fault.message : Fault → String
  | .system error path => s!"[Errno {error.number}] {error.words}: " ++ Literal.encodeText path
  | .embeddedNul => "embedded null byte"
  | .refused text => text

inductive Entry
  | file (content : List UInt8)
  | directory
  deriving DecidableEq, Repr

/-- What exists below the root, by absolute location, and the working directory. With a refusal no
file is opened for writing; the refusal is what the system says then. -/
structure Tree where
  home : List String
  entries : List (List String × Entry)
  refusal : Option String
  deriving DecidableEq, Repr

namespace Tree

/-- The root always is a directory. -/
def entry? (t : Tree) (location : List String) : Option Entry :=
  if location.isEmpty then some .directory else t.entries.lookup location

def put (t : Tree) (location : List String) (entry : Entry) : Tree :=
  if (t.entries.lookup location).isSome then
    { t with
      entries := t.entries.map fun pair => if pair.1 == location then (location, entry) else pair }
  else
    { t with entries := t.entries ++ [(location, entry)] }

def erase (t : Tree) (location : List String) : Tree :=
  { t with entries := t.entries.filter (·.1 != location) }

def nameTooLong (name : String) : Bool := name.utf8ByteSize > 255

def pathTooLong (p : FilePath) : Bool := p.text.utf8ByteSize ≥ 4096

def hasNul (p : FilePath) : Bool := p.parts.any (·.contains '\x00')

/-- Follows names downward through directories that exist. -/
def descend (t : Tree) : List String → List String → Except SystemError (List String)
  | location, [] => .ok location
  | location, name :: rest =>
    match t.entry? location with
    | none => .error .notFound
    | some (.file _) => .error .notDirectory
    | some .directory =>
      if nameTooLong name then .error .nameTooLong
      else descend t (if name == ".." then location.dropLast else location ++ [name]) rest

def start (t : Tree) (p : FilePath) : List String := if p.isAbsolute then [] else t.home

/-- The location that a path leads to, whether or not something is there. -/
def locate (t : Tree) (p : FilePath) : Except SystemError (List String) :=
  if pathTooLong p then .error .nameTooLong else descend t (t.start p) p.parts

/-- What is at a path. -/
def status (t : Tree) (p : FilePath) : Except Fault Entry :=
  if hasNul p then .error .embeddedNul
  else match t.locate p with
    | .error e => .error (.system e p.text)
    | .ok location =>
      match t.entry? location with
      | some entry => .ok entry
      | none => .error (.system .notFound p.text)

/-- Whether the path is there; a missing or blocked way means it is not. -/
def query? (t : Tree) (p : FilePath) : Except Fault (Option Entry) :=
  match t.status p with
  | .ok entry => .ok (some entry)
  | .error .embeddedNul => .ok none
  | .error (.system .notFound _) => .ok none
  | .error (.system .notDirectory _) => .ok none
  | .error fault => .error fault

def isDirectory (t : Tree) (p : FilePath) : Bool :=
  match t.query? p with
  | .ok (some .directory) => true
  | _ => false

/-- Creates one directory. -/
def makeDirectory (t : Tree) (p : FilePath) : Except Fault Tree :=
  if hasNul p then .error .embeddedNul
  else if pathTooLong p then .error (.system .nameTooLong p.text)
  else match p.parts.getLast? with
    | none => .error (.system .alreadyExists p.text)
    | some name =>
      match t.locate p with
      | .error e => .error (.system e p.text)
      | .ok location =>
        if name == ".." || (t.entry? location).isSome then .error (.system .alreadyExists p.text)
        else .ok (t.put location .directory)

/-- Creates one directory unless it is there. -/
def ensureDirectory (t : Tree) (p : FilePath) : Except Fault Tree :=
  match t.makeDirectory p with
  | .ok made => .ok made
  | .error .embeddedNul => .error .embeddedNul
  | .error fault => if t.isDirectory p then .ok t else .error fault

/-- Creates a directory and those above it that are missing. What was created before a fault
stays. -/
def makeDirectoriesIn (t : Tree) (anchor : String) :
    (reversed : List String) → Tree × Except Fault Unit
  | [] =>
    match t.ensureDirectory ⟨anchor, []⟩ with
    | .ok made => (made, .ok ())
    | .error fault => (t, .error fault)
  | name :: above =>
    let p : FilePath := ⟨anchor, (name :: above).reverse⟩
    match t.makeDirectory p with
    | .ok made => (made, .ok ())
    | .error (.system .notFound _) =>
      match makeDirectoriesIn t anchor above with
      | (made, .error fault) => (made, .error fault)
      | (made, .ok ()) =>
        match made.ensureDirectory p with
        | .ok all => (all, .ok ())
        | .error fault => (made, .error fault)
    | .error .embeddedNul => (t, .error .embeddedNul)
    | .error fault => if t.isDirectory p then (t, .ok ()) else (t, .error fault)

def makeDirectories (t : Tree) (p : FilePath) : Tree × Except Fault Unit :=
  t.makeDirectoriesIn p.anchor p.parts.reverse

/-- Replaces or creates a file. -/
def write (t : Tree) (p : FilePath) (content : List UInt8) : Except Fault Tree :=
  match t.refusal with
  | some text => .error (.refused text)
  | none =>
    if hasNul p then .error .embeddedNul
    else match t.locate p with
      | .error e => .error (.system e p.text)
      | .ok location =>
        match t.entry? location with
        | some .directory => .error (.system .isDirectory p.text)
        | _ => .ok (t.put location (.file content))

/-- Creates an empty file unless something is there. -/
def touch (t : Tree) (p : FilePath) : Except Fault Tree :=
  match t.refusal, t.status p with
  | some text, _ => .error (.refused text)
  | none, .ok _ => .ok t
  | none, .error _ => t.write p []

/-- Removes a file. -/
def remove (t : Tree) (p : FilePath) : Except Fault Tree :=
  if hasNul p then .error .embeddedNul
  else match t.locate p with
    | .error e => .error (.system e p.text)
    | .ok location =>
      match t.entry? location with
      | none => .error (.system .notFound p.text)
      | some .directory => .error (.system .isDirectory p.text)
      | some (.file _) => .ok (t.erase location)

/-- The content of a file. -/
def read (t : Tree) (p : FilePath) : Except Fault (List UInt8) :=
  match t.status p with
  | .ok (.file content) => .ok content
  | .ok .directory => .error (.system .isDirectory p.text)
  | .error fault => .error fault

end Tree

end CatalogEntities.Files
