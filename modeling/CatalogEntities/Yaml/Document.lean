import CatalogEntities.Yaml.Node
import CatalogEntities.Yaml.Scalars

/-!
The values of YAML nodes, by their tags. In mappings the key `<<` merges other mappings, whose pairs
come first and yield to the mapping's own.

Main definition: `read`.
-/

namespace CatalogEntities.Yaml

/-- Collections that can change are no keys. -/
def isKey : Value → Bool
  | .list _ => false
  | .map _ => false
  | .set _ => false
  | _ => true

def checkKey (v : Value) : Except Fault Unit := if isKey v then .ok () else .error .malformed

/-- The value of a scalar under a tag. -/
def scalarValue (tag text : String) : Except Fault Value :=
  if tag == standard "str" then .ok (.text text)
  else if tag == standard "null" then .ok .null
  else if tag == standard "bool" then truthOf text
  else if tag == standard "int" then integerOf text
  else if tag == standard "float" then floatOf text
  else if tag == standard "binary" then bytesOf text
  else if tag == standard "timestamp" then momentOf text
  else .error .malformed

def isMergeKey : Node → Bool
  | .scalar tag _ => tag == standard "merge"
  | _ => false

/-- A plain equals sign, which is a text where it is a key. -/
def isValueKey : Node → Bool
  | .scalar tag _ => tag == standard "value"
  | _ => false

mutual

def value : Node → Except Fault Value
  | .scalar tag text => scalarValue tag text
  | .sequence tag items =>
    if tag == standard "seq" then (values items).map .list
    else if tag == standard "omap" || tag == standard "pairs" then (singles items).map .list
    else .error .malformed
  | .mapping tag pairs =>
    if tag == standard "map" then
      (parts pairs).map fun (merged, own) => .map (Assoc.ofPairs (merged ++ own))
    else if tag == standard "set" then
      (parts pairs).map fun (merged, own) => .set (Assoc.ofPairs (merged ++ own)).keys
    else .error .malformed

def values : List Node → Except Fault (List Value)
  | [] => .ok []
  | item :: rest => do
    let v ← value item
    let more ← values rest
    return v :: more

/-- Items that are mappings of one pair each, as pairs. -/
def singles : List Node → Except Fault (List Value)
  | [] => .ok []
  | .mapping _ [(k, v)] :: rest => do
    let key ← value k
    let found ← value v
    let more ← singles rest
    return .tuple [key, found] :: more
  | _ => .error .malformed

/-- The pairs that a mapping merges, and its own. -/
def parts : List (Node × Node) →
    Except Fault (List (Value × Value) × List (Value × Value))
  | [] => .ok ([], [])
  | (k, v) :: rest =>
    if isMergeKey k then do
      let found ← mergedPairs v
      let (merged, own) ← parts rest
      return (found ++ merged, own)
    else do
      let key ← if isValueKey k then .ok (.text "=") else value k
      checkKey key
      let found ← value v
      let (merged, own) ← parts rest
      return (merged, (key, found) :: own)

/-- The pairs of a mapping, or of several of which the first take precedence. -/
def mergedPairs : Node → Except Fault (List (Value × Value))
  | .mapping _ pairs => (parts pairs).map fun (merged, own) => merged ++ own
  | .sequence _ items => mergedItems items
  | .scalar _ _ => .error .malformed

def mergedItems : List Node → Except Fault (List (Value × Value))
  | [] => .ok []
  | .mapping _ pairs :: rest => do
    let (merged, own) ← parts pairs
    let more ← mergedItems rest
    return more ++ merged ++ own
  | _ => .error .malformed

end

/-- The value of a text; an empty text is null. -/
def read (cs : List Char) : Except Fault Value := do
  match ← compose cs with
  | none => return .null
  | some node => value node

end CatalogEntities.Yaml
