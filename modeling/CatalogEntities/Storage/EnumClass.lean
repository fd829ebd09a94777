import CatalogEntities.Assoc
import CatalogEntities.Text.Literal

/-!
Classes of named values, such as the one that an enumeration column is loaded into. A name is
declared once. A value that an earlier name has makes its name an alias, so that the class lists
every value once, in the order of declaration. The pairs are data here, and their names are taken
as they are; where the names stand in code, they are brought into normal form before.

Main definitions: `EnumClass.ofPairs`, `EnumClass.values`.
-/

namespace CatalogEntities.Storage

open Text

/-- What a name stands for in a class. -/
inductive NameRole
  | member
  | attribute
  /-- Kept for instructions to the class, none of which is served here. -/
  | reserved
  deriving DecidableEq, Repr

/-- Whether a text has the mark at both ends and, between them, no underscore at either end. -/
def isMarked (mark cs : List Char) : Bool :=
  let inner := (cs.drop mark.length).take (cs.length - 2 * mark.length)
  mark.isPrefixOf cs && mark.isSuffixOf cs && !inner.isEmpty && inner.head? != some '_' &&
    inner.getLast? != some '_'

/-- Whether a name is one that only the class itself uses. -/
def isPrivate (className : String) (cs : List Char) : Bool :=
  let mark := '_' :: (className.toList ++ ['_', '_'])
  mark.isPrefixOf cs && mark.length < cs.length && !(['_', '_'].isSuffixOf cs)

def NameRole.of (className name : String) : NameRole :=
  let cs := name.toList
  if isPrivate className cs then .attribute
  else if isMarked ['_'] cs then .reserved
  else if isMarked ['_', '_'] cs then .attribute
  else .member

inductive EnumFault (α : Type)
  | reserved (name : String)
  | repeated (name : String) (earlier : α)
  | unusable (names : List String)
  deriving DecidableEq, Repr

def EnumFault.message {α : Type} (shown : α → String) : EnumFault α → String
  | .reserved name =>
    s!"_sunder_ names, such as {Literal.encodeText name}, are reserved for future Enum use"
  | .repeated name earlier => s!"{Literal.encodeText name} already defined as {shown earlier}"
  | .unusable names => "invalid enum member name(s) " ++ joinWith "," (names.map Literal.encodeText)

/-- The members of a class, aliases left out. -/
structure EnumClass (α : Type) where
  members : List (String × α)
  deriving DecidableEq, Repr

namespace EnumClass

variable {α : Type}

/-- One more pair. -/
def declare (className : String) (declared : Assoc String α) (pair : String × α) :
    Except (EnumFault α) (Assoc String α) :=
  match NameRole.of className pair.1 with
  | .attribute => .ok declared
  | .reserved => .error (.reserved pair.1)
  | .member =>
    match declared.get? pair.1 with
    | some earlier => .error (.repeated pair.1 earlier)
    | none => .ok (declared ++ [pair])

/-- Names that no member may have. -/
def unusableNames : List String := ["mro", ""]

/-- The class with the given names and values. -/
def ofPairs [BEq α] (className : String) (pairs : List (String × α)) :
    Except (EnumFault α) (EnumClass α) := do
  let declared ← pairs.foldlM (declare className) []
  let refused := declared.keys.filter unusableNames.contains
  if refused.isEmpty then return ⟨declared.eraseDupsBy (·.2 == ·.2)⟩
  else throw (.unusable refused)

/-- The values that a column of the class may have in the database. -/
def values (c : EnumClass α) : List α := c.members.map (·.2)

end EnumClass

end CatalogEntities.Storage
