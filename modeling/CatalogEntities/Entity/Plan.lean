import CatalogEntities.Entity.Basic
import CatalogEntities.Graph
import CatalogEntities.Naming.MemberNames

/-!
The names of one entity's members, free of collisions. Enumerations come first, then columns,
then forward, inverse and many-to-many relations; a relation whose names are all in use has none.

Main definition: `Plan.ofTable`.
-/

namespace CatalogEntities

open Catalog Naming Number

/-- A relation that asked for a name: how it is described, the names it asked for in order of
preference, and the one it was given. -/
structure NameClaim where
  label : String
  candidates : List String
  name : Option String
  deriving DecidableEq, Repr

/-- The names of one entity. Names stand under the column, the referencing table or the pair of
tables that they belong to. -/
structure Plan where
  table : String
  className : String
  moduleName : String
  attributes : Assoc String String
  enumerations : Assoc String EnumDefinition
  forward : Assoc String (Option String)
  inverse : Assoc String (Option String)
  manyToMany : Assoc (String × String) (Option String)
  claims : List NameClaim
  deriving Repr

namespace Plan

/-- The types of a table's columns. -/
def columnTypes (t : Table) : Except IntegerFault (List (Column × ColumnType)) :=
  t.columns.mapM fun c => (ColumnType.ofText c.physicalType).map fun type => (c, type)

/-- The enumeration of each enumeration column, all under different names. -/
def enumerationsFrom (entityClass : String) (taken : List String) :
    List (Column × ColumnType) → List (String × EnumDefinition)
  | [] => []
  | (c, type) :: rest =>
    if type.isEnum then
      let name := enumClassName c.name entityClass taken
      (c.name, ⟨name, enumMembers type.enumValues⟩) ::
        enumerationsFrom entityClass (name :: taken) rest
    else enumerationsFrom entityClass taken rest

/-- The attribute of a column: its name made safe, with an underscore behind it if that is in
use, and then with a number from 2 on. -/
def attributeFor (used : MemberNames) (column : String) : String :=
  let own := attributeName column
  let name := if used.has own then own ++ "_" else own
  if used.has name then
    let family (k : Nat) := name ++ natText k
    family (firstFree used.names family 2)
  else name

def attributesFrom (used : MemberNames) : List Column → List (String × String) × MemberNames
  | [] => ([], used)
  | c :: rest =>
    let name := attributeFor used c.name
    let (more, used) := attributesFrom (used.insert name) rest
    ((c.name, name) :: more, used)

/-- Names for relations in order, each the first of its candidates that is free. -/
def claimAll {α : Type} (label : α → String) (candidates : α → List String) (used : MemberNames) :
    List α → List (α × NameClaim) × MemberNames
  | [] => ([], used)
  | r :: rest =>
    let wanted := (candidates r).filter (!·.isEmpty)
    let (name, used) := used.claim wanted
    let (more, used) := claimAll label candidates used rest
    ((r, ⟨label r, wanted, name⟩) :: more, used)

def forwardLabel (r : ForwardRelation) : String := s!"forward relation on '{r.column}'"

def inverseLabel (r : InverseRelation) : String := s!"inverse relation from '{r.referencingTable}'"

def manyToManyLabel (r : ManyToManyRelation) : String :=
  s!"many-to-many relation through '{r.junction}'"

def forwardCandidates (r : ForwardRelation) : List String := r.name :: r.alternate.toList

def inverseCandidates (r : InverseRelation) : List String := [r.name, r.alternate]

def manyToManyCandidates (table : String) (r : ManyToManyRelation) : List String :=
  [r.nameFor table, r.alternateFor table]

/-- The names of a table's entity, given the classes of all entities. -/
def ofTypes (classes : List String) (graph : RelationGraph) (t : Table)
    (types : List (Column × ColumnType)) : Plan :=
  let entityClass := Naming.className t.name
  let enumerations := Assoc.ofPairs (enumerationsFrom entityClass (moduleNames ++ classes) types)
  let used :=
    enumerations.values.foldl (fun used e => used.insert e.name) (MemberNames.ofList moduleNames)
  let (attributes, used) := attributesFrom used t.columns
  let (forward, used) := claimAll forwardLabel forwardCandidates used (graph.forwardFor t.name)
  let (inverse, used) := claimAll inverseLabel inverseCandidates used (graph.inverseFor t.name)
  let (manyToMany, _) :=
    claimAll manyToManyLabel (manyToManyCandidates t.name) used (graph.manyToManyFor t.name)
  { table := t.name
    className := entityClass
    moduleName := Naming.moduleName t.name
    attributes := .ofPairs attributes
    enumerations := enumerations
    forward := .ofPairs (forward.map fun (r, claim) => (r.column, claim.name))
    inverse := .ofPairs (inverse.map fun (r, claim) => (r.referencingTable, claim.name))
    manyToMany := .ofPairs (manyToMany.map fun (r, claim) => (r.pair, claim.name))
    claims := forward.map (·.2) ++ inverse.map (·.2) ++ manyToMany.map (·.2) }

def ofTable (classes : List String) (graph : RelationGraph) (t : Table) :
    Except IntegerFault Plan :=
  (columnTypes t).map (ofTypes classes graph t)

/-- A relation without a name is a warning, one with another name than its first a detail. -/
def claimNotice? (table : String) (claim : NameClaim) : Option Notice :=
  match claim.name with
  | none => some <| .warning <| .of table
      s!"Skipped {claim.label}: name already used ({joined claim.candidates})" .nameCollision
  | some name =>
    if claim.candidates.head? == some name then none
    else some (.detail s!"[{table}] {claim.label} renamed to '{name}'")
where
  joined (names : List String) : String := ", ".intercalate names

def notices (p : Plan) : List Notice := p.claims.filterMap (claimNotice? p.table)

/-- Details on type texts without a meaning, each text once; `seen` holds those before. -/
def typeNotices (seen : List String) : List Column → List Notice × List String
  | [] => ([], seen)
  | c :: rest =>
    match ColumnType.ofText c.physicalType with
    | .error _ => ([], seen)
    | .ok _ =>
      if seen.contains c.physicalType then typeNotices seen rest
      else
        let (more, seen) := typeNotices (c.physicalType :: seen) rest
        ((ColumnType.complaint? c.physicalType).toList.map .detail ++ more, seen)

/-- The plans of sorted tables. -/
def ofTables (graph : RelationGraph) (ordered : List Table) : Except IntegerFault (List Plan) :=
  let classes := ordered.map fun t => Naming.className t.name
  ordered.mapM (ofTable classes graph)

/-- What planning has to say, up to the first table that cannot be planned. -/
def planningNotices (classes : List String) (graph : RelationGraph) (seen : List String) :
    List Table → List Notice
  | [] => []
  | t :: rest =>
    let (noted, seen) := typeNotices seen t.columns
    match ofTable classes graph t with
    | .error _ => noted
    | .ok plan => noted ++ plan.notices ++ planningNotices classes graph seen rest

end Plan

end CatalogEntities
