/-!
The member names in use on one entity; the first claim of a name wins.
-/

namespace CatalogEntities.Naming

/-- Names in use, without repetition. -/
structure MemberNames where
  names : List String
  deriving DecidableEq, Repr

namespace MemberNames

def has (m : MemberNames) (name : String) : Bool := m.names.contains name

/-- Adds a name unless it is in use. -/
def insert (m : MemberNames) (name : String) : MemberNames :=
  if m.has name then m else ⟨name :: m.names⟩

def ofList (names : List String) : MemberNames := names.foldl insert ⟨[]⟩

/-- Takes the first candidate that is free; empty candidates do not count. -/
def claim (m : MemberNames) (candidates : List String) : Option String × MemberNames :=
  match candidates.find? fun c => !c.isEmpty && !m.has c with
  | some c => (some c, m.insert c)
  | none => (none, m)

end MemberNames

end CatalogEntities.Naming
