/-!
Finite maps that keep the order of first insertion. Writing to a key again replaces its value in
place.
-/

namespace CatalogEntities

/-- Pairs of a key and its value; no key occurs twice in a map that `put` has built. -/
abbrev Assoc (κ ν : Type) := List (κ × ν)

namespace Assoc

variable {κ ν : Type} [BEq κ]

def get? (m : Assoc κ ν) (key : κ) : Option ν := List.lookup key m

def has (m : Assoc κ ν) (key : κ) : Bool := (m.get? key).isSome

def put : Assoc κ ν → κ → ν → Assoc κ ν
  | [], key, value => [(key, value)]
  | (k, v) :: rest, key, value =>
    if k == key then (k, value) :: rest else (k, v) :: put rest key value

/-- All pairs of the second map written over the first, in order. -/
def update (m : Assoc κ ν) (pairs : Assoc κ ν) : Assoc κ ν :=
  pairs.foldl (fun acc pair => put acc pair.1 pair.2) m

def ofPairs (pairs : List (κ × ν)) : Assoc κ ν := update [] pairs

omit [BEq κ] in
def keys (m : Assoc κ ν) : List κ := m.map (·.1)

omit [BEq κ] in
def values (m : Assoc κ ν) : List ν := m.map (·.2)

end Assoc

end CatalogEntities
