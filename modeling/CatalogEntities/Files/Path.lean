import CatalogEntities.Text.Span

/-!
Paths as texts: separators collapse, `.` vanishes, `..` stays until a path is resolved.
-/

namespace CatalogEntities.Files

open Text

/-- An anchor (empty for a relative path) and the names below it. -/
structure FilePath where
  anchor : String
  parts : List String
  deriving DecidableEq, Repr, Inhabited

namespace FilePath

/-- Exactly two leading separators are an anchor of their own. -/
def anchorOf (cs : List Char) : String :=
  match cs with
  | '/' :: '/' :: '/' :: _ => "/"
  | '/' :: '/' :: _ => "//"
  | '/' :: _ => "/"
  | _ => ""

def ofText (s : String) : FilePath :=
  { anchor := anchorOf s.toList
    parts := ((splitAt '/' s.toList).map String.ofList).filter fun part =>
      part != "" && part != "." }

def isAbsolute (p : FilePath) : Bool := p.anchor != ""

/-- The path of the current directory is a single point. -/
def text (p : FilePath) : String :=
  if p.anchor == "" && p.parts.isEmpty then "." else p.anchor ++ joinWith "/" p.parts

def child (p : FilePath) (name : String) : FilePath := { p with parts := p.parts ++ [name] }

def parent (p : FilePath) : FilePath := { p with parts := p.parts.dropLast }

/-- The names of the path below a base, with each `..` taken back. -/
def resolve (base : List String) (p : FilePath) : List String :=
  p.parts.foldl (fun at_ part => if part == ".." then at_.dropLast else at_ ++ [part])
    (if p.isAbsolute then [] else base)

end FilePath

/-- The text of an absolute location. -/
def locationText (location : List String) : String := "/" ++ joinWith "/" location

end CatalogEntities.Files
