import CatalogEntities.Assoc
import CatalogEntities.Catalog.Table
import CatalogEntities.Naming.Relation
import CatalogEntities.Notice
import CatalogEntities.Text.Literal

/-!
Relations between the tables of a run, inferred from their foreign keys before any entity is
built: forward relations on the declaring table, inverse relations on the referenced table, and
many-to-many relations through junction tables.

The tables of a run are looked up by name; of several with one name the last one, in sorted
order, counts.
-/

namespace CatalogEntities

open Catalog Naming

/-- The relation of a foreign key, owned by the table that declares it. -/
structure ForwardRelation where
  table : String
  column : String
  referencedTable : String
  referencedColumn : String
  name : String
  alternate : Option String
  fromJunction : Bool
  deriving DecidableEq, Repr

def ForwardRelation.isSelfReferential (r : ForwardRelation) : Bool := r.table == r.referencedTable

/-- The relation from a referenced table back to one referencing table. -/
structure InverseRelation where
  table : String
  referencingTable : String
  column : String
  forwardName : String
  name : String
  alternate : String
  deriving DecidableEq, Repr

/-- Two tables associated by a junction, the left one with the smaller name. The left name is
the property of the left entity, which leads to the right one. -/
structure ManyToManyRelation where
  left : String
  right : String
  junction : String
  leftColumn : String
  rightColumn : String
  leftName : String
  rightName : String
  deriving DecidableEq, Repr

namespace ManyToManyRelation

def pair (r : ManyToManyRelation) : String × String := (r.left, r.right)

def joins (r : ManyToManyRelation) (table : String) : Bool := table == r.left || table == r.right

def other (r : ManyToManyRelation) (table : String) : String :=
  if table == r.left then r.right else r.left

def nameFor (r : ManyToManyRelation) (table : String) : String :=
  if table == r.left then r.leftName else r.rightName

def alternateFor (r : ManyToManyRelation) (table : String) : String :=
  r.nameFor table ++ "_via_" ++ r.junction

end ManyToManyRelation

/-- All relations of a run. Forward and inverse relations stand under the name of the table that
owns them, tables without any left out. -/
structure RelationGraph where
  forward : Assoc String (List ForwardRelation)
  inverse : Assoc String (List InverseRelation)
  manyToMany : List ManyToManyRelation
  junctions : List String
  deriving Repr

namespace RelationGraph

def forwardFor (g : RelationGraph) (table : String) : List ForwardRelation :=
  (g.forward.get? table).getD []

def inverseFor (g : RelationGraph) (table : String) : List InverseRelation :=
  (g.inverse.get? table).getD []

def manyToManyFor (g : RelationGraph) (table : String) : List ManyToManyRelation :=
  g.manyToMany.filter (·.joins table)

def isJunction (g : RelationGraph) (table : String) : Bool := g.junctions.contains table

/-- Forward relations of a table's foreign keys in catalog order. `seen` holds the targets of
the keys before; only the first key to a target may be named without its column. -/
def forwardFrom (known : List String) (table : String) (fromJunction : Bool) (seen : List String) :
    List ForeignKey → List ForwardRelation
  | [] => []
  | key :: rest =>
    if known.contains key.referencedTable then
      let precise := forwardName key.referencedTable (some key.column)
      let first := !seen.contains key.referencedTable
      { table := table
        column := key.column
        referencedTable := key.referencedTable
        referencedColumn := key.referencedColumn
        name := if first then forwardName key.referencedTable none else precise
        alternate := if first then some precise else none
        fromJunction := fromJunction } ::
        forwardFrom known table fromJunction (key.referencedTable :: seen) rest
    else
      forwardFrom known table fromJunction seen rest

/-- A warning for each key that leads out of the run. -/
def unknownReferences (known : List String) (t : Table) : List SchemaWarning :=
  (t.foreignKeys.filter fun key => !known.contains key.referencedTable).map fun key =>
    .of t.name
      s!"Foreign key '{key.column}' references unknown table '{key.referencedTable}'; relation skipped"
      .unknownReference

/-- The first relation from each table to the target, tables in the order given. -/
def inverseTo (forward : Assoc String (List ForwardRelation)) (target : String) :
    List InverseRelation :=
  forward.filterMap fun (table, relations) =>
    (relations.find? (·.referencedTable == target)).map fun r =>
      let name := inverseName table
      { table := target
        referencingTable := table
        column := r.column
        forwardName := r.name
        name := name
        alternate := inverseAlternate name r.column }

/-- The relation of a junction: its two keys ordered by the tables they lead to. -/
def throughJunction? (t : Table) : Option ManyToManyRelation :=
  match sortByKey ForeignKey.referencedTable t.foreignKeys with
  | [left, right] => some
      { left := left.referencedTable
        right := right.referencedTable
        junction := t.name
        leftColumn := left.column
        rightColumn := right.column
        leftName := manyToManyName right.referencedTable
        rightName := manyToManyName left.referencedTable }
  | _ => none

/-- One relation per pair of tables, that of the first junction; and for each later one, its
name, the name of the junction that counts and the pair. -/
def distinctPairs (found : List ManyToManyRelation) :
    List ManyToManyRelation → List ManyToManyRelation × List (String × ManyToManyRelation)
  | [] => (found, [])
  | r :: rest =>
    match found.find? (·.pair == r.pair) with
    | some kept =>
      let (all, dropped) := distinctPairs found rest
      (all, (r.junction, kept) :: dropped)
    | none => distinctPairs (found ++ [r]) rest

/-- Order of pairs of names. -/
def pairLe (a b : String × String) : Bool :=
  if a.1 == b.1 then !(b.2 < a.2) else a.1 < b.1

/-- Names without repetition, the first occurrence of each. -/
def distinct (names : List String) : List String :=
  names.foldl (fun acc name => if acc.contains name then acc else acc ++ [name]) []

/-- The table that a name stands for. -/
def lastNamed? (ordered : List Table) (name : String) : Option Table :=
  ordered.reverse.find? (·.name == name)

/-- Sorted names of the junctions. -/
def junctionNames (ordered : List Table) : List String :=
  let known := ordered.map (·.name)
  distinct ((ordered.filter (·.isJunction known)).map (·.name))

/-- The forward relations of all tables that have any; of tables with one name the last that has
any counts. -/
def forwardOf (ordered : List Table) : Assoc String (List ForwardRelation) :=
  let known := ordered.map (·.name)
  let junctions := junctionNames ordered
  .ofPairs <| (ordered.map fun t =>
    (t.name, forwardFrom known t.name (junctions.contains t.name) [] t.foreignKeys)).filter
      (!·.2.isEmpty)

def inverseOf (forward : Assoc String (List ForwardRelation)) (junctions : List String) :
    Assoc String (List InverseRelation) :=
  let sources := forward.filter fun (table, _) => !junctions.contains table
  let targets := sortNames (distinct (sources.flatMap fun (_, rs) => rs.map (·.referencedTable)))
  targets.map fun target => (target, inverseTo sources target)

def junctionRelations (ordered : List Table) : List ManyToManyRelation :=
  (junctionNames ordered).filterMap fun name => (lastNamed? ordered name).bind throughJunction?

def manyToManyOf (ordered : List Table) : List ManyToManyRelation :=
  (distinctPairs [] (junctionRelations ordered)).1.mergeSort fun a b => pairLe a.pair b.pair

/-- The relations between the given tables. -/
def ofTables (tables : List Table) : RelationGraph :=
  let ordered := sortTables tables
  let forward := forwardOf ordered
  let junctions := junctionNames ordered
  { forward := forward
    inverse := inverseOf forward junctions
    manyToMany := manyToManyOf ordered
    junctions := junctions }

/-- The number of foreign keys of a table that goes by the name of a junction and has not two of
them. There is one only if several tables share a name. -/
def unpaired? (tables : List Table) : Option Nat :=
  let ordered := sortTables tables
  ((junctionNames ordered).filterMap (lastNamed? ordered)).findSome? fun t =>
    if t.foreignKeys.length == 2 then none else some t.foreignKeys.length

/-- The warnings of the inference, by table and then in catalog order. -/
def warnings (tables : List Table) : List SchemaWarning :=
  let ordered := sortTables tables
  ordered.flatMap (unknownReferences (ordered.map (·.name)))

/-- What the inference has to say. -/
def notices (tables : List Table) : List Notice :=
  let ordered := sortTables tables
  let g := ofTables tables
  let dropped := (distinctPairs [] (junctionRelations ordered)).2.map fun (junction, kept) =>
    Notice.detail
      s!"Junction '{junction}' duplicates '{kept.junction}' for {shownPair kept}; ignored"
  let count {α : Type} (m : Assoc String (List α)) : Nat :=
    m.foldl (fun n entry => n + entry.2.length) 0
  (warnings tables).map Notice.warning ++ dropped ++ [Notice.detail <|
    s!"Relation graph: {count g.forward} forward, {count g.inverse} inverse, " ++
    s!"{g.manyToMany.length} many-to-many, {g.junctions.length} junction tables"]
where
  shownPair (r : ManyToManyRelation) : String :=
    "(" ++ Text.Literal.encodeText r.left ++ ", " ++ Text.Literal.encodeText r.right ++ ")"

end RelationGraph

end CatalogEntities
