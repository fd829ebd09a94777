import CatalogEntities.Naming.Reserved
import CatalogEntities.Naming.Words

/-!
Attribute, class and module names from the names of the catalog.
-/

namespace CatalogEntities.Naming

open Text

/-- Characters that no word holds become underscores. -/
def wordChars (cs : List Char) : List Char := cs.map fun c => if isWordChar c then c else '_'

/-- An underscore in front of a name that starts with no letter. -/
def guardStart : List Char → List Char
  | [] => []
  | c :: rest => if isLetter c || c == '_' then c :: rest else '_' :: c :: rest

/-- An attribute name: word characters only, no digit in front, and an underscore behind a
keyword or a name of the declarative base. -/
def attributeName (s : String) : String :=
  let name := String.ofList (guardStart (wordChars s.toList))
  if name.isEmpty then "_field"
  else if keywords.contains name || declarativeNames.contains name then name ++ "_"
  else name

/-- A name with a stem in front of a leading digit, in the place of nothing, and with an
underscore behind a keyword. -/
def withStem (stem : String) (name : String) : String :=
  match name.toList with
  | [] => stem
  | c :: _ =>
    let name := if isDigit c then stem ++ name else name
    if keywords.contains name then name ++ "_" else name

/-- The class of a table's entity. -/
def className (table : String) : String :=
  let name := withStem "Table" (pascalCase table)
  if moduleNames.contains name || entryNames.contains name then name ++ "Entity" else name

/-- The module of a table's entity. Names with two leading underscores belong to the package, so
they lose all leading ones. -/
def moduleName (table : String) : String :=
  let name := attributeName table
  match name.toList with
  | '_' :: '_' :: rest =>
    let bare := rest.dropWhile (· == '_')
    if bare.isEmpty then "_table" else String.ofList bare
  | _ => name

/-- The first of a family of names, counted from `first`, that is not taken. Among
`taken.length + 1` distinct names one is free. -/
def firstFree (taken : List String) (name : Nat → String) (first : Nat) : Nat :=
  ((List.range (taken.length + 1)).map (first + ·)).find? (fun k => !taken.contains (name k))
    |>.getD first

end CatalogEntities.Naming
