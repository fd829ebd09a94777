import CatalogEntities.Entity.Plan

/-!
Entities from plans: columns with their attributes, relations paired with their counterparts, and
the imports that both need. A relation pairs with its counterpart only if that has a name.
-/

namespace CatalogEntities

open Catalog Naming

namespace Entity

/-- Plans of all tables by name; of tables with one name the last. -/
abbrev Plans := Assoc String Plan

/-- The attribute of a column of any table, or the name that it would have. -/
def attributeOf (plans : Plans) (table column : String) : String :=
  ((plans.get? table).bind fun plan => plan.attributes.get? column).getD (attributeName column)

def qualified (plans : Plans) (table column : String) : String :=
  Naming.className table ++ "." ++ attributeOf plans table column

/-- The columns of an entity. A column that the plan does not know stops the build; its name is
the error. -/
def columnsOf (plan : Plan) (known : List String) (t : Table) :
    List (Column × ColumnType) → Except String (List EntityColumn)
  | [] => .ok []
  | (c, type) :: rest =>
    match plan.attributes.get? c.name with
    | none => .error c.name
    | some attr => (columnsOf plan known t rest).map fun more =>
      { column := c
        attr := attr
        type := type
        enumeration := plan.enumerations.get? c.name
        foreignKey :=
      (t.foreignKey? c.name).filter fun key => known.contains key.referencedTable } ::
        more

/-- The module of a table's entity. -/
def moduleOf (plans : Plans) (table : String) : String :=
  ((plans.get? table).map (·.moduleName)).getD (Naming.moduleName table)

/-- The forward relation as the entity shows it. Only the first key to a table is paired with the
inverse relation; relations of junctions are for viewing. -/
def forwardRelation (plans : Plans) (graph : RelationGraph) (t : Table) (r : ForwardRelation)
    (name : String) : EntityRelation :=
  let inverse := (graph.inverseFor r.referencedTable).find? fun inv =>
    inv.referencingTable == t.name && inv.column == r.column
  let counterpart :=
    if r.fromJunction || inverse.isNone then none
    else (plans.get? r.referencedTable).bind fun target => (target.inverse.get? t.name).join
  { name := name
    kind := .forward
    targetTable := r.referencedTable
    targetClass := Naming.className r.referencedTable
    targetModule := moduleOf plans r.referencedTable
    many := false
    nullable := ((t.column? r.column).map (·.nullable)).getD true
    foreignKeys := some (qualified plans t.name r.column)
    backPopulates := counterpart
    secondary := none
    remoteSide :=
      if r.isSelfReferential then some (qualified plans r.referencedTable r.referencedColumn)
        else none
    viewOnly := r.fromJunction }

def inverseRelation (plans : Plans) (r : InverseRelation) (name : String) : EntityRelation :=
  { name := name
    kind := .inverse
    targetTable := r.referencingTable
    targetClass := Naming.className r.referencingTable
    targetModule := moduleOf plans r.referencingTable
    many := true
    nullable := false
    foreignKeys := some (qualified plans r.referencingTable r.column)
    backPopulates :=
      (plans.get? r.referencingTable).bind fun source => (source.forward.get? r.column).join
    secondary := none
    remoteSide := none
    viewOnly := false }

def manyToManyRelation (plans : Plans) (table : String) (r : ManyToManyRelation) (name : String) :
    EntityRelation :=
  let other := r.other table
  { name := name
    kind := .manyToMany
    targetTable := other
    targetClass := Naming.className other
    targetModule := moduleOf plans other
    many := true
    nullable := false
    foreignKeys := none
    backPopulates := (plans.get? other).bind fun plan => (plan.manyToMany.get? r.pair).join
    secondary := some r.junction
    remoteSide := none
    viewOnly := false }

/-- Relations that have a name. -/
def named {α : Type} (name : α → Option (Option String)) (build : α → String → EntityRelation)
    (relations : List α) : List EntityRelation :=
  relations.filterMap fun r => (name r).join.map (build r)

/-- Names in order, each once. -/
def nameSet (names : List String) : List String := sortNames (RelationGraph.distinct names)

/-- The imports of a module, plain ones first, in the order in which they are written. -/
def importsFor (columns : List EntityColumn) (relations : List EntityRelation) (hasRelated : Bool) :
    List Import :=
  let typing := nameSet <|
    (if hasRelated then ["TYPE_CHECKING"] else []) ++
    columns.flatMap (fun c =>
      (if c.type.logical == .json || c.type.logical == .untyped then ["Any"] else []) ++
      (if c.column.nullable && !c.column.isPrimary then ["Optional"] else [])) ++
    relations.flatMap fun r => if r.many then ["List"] else if r.nullable then ["Optional"] else []
  let modules := nameSet <| columns.flatMap fun c =>
    c.type.logical.module?.toList ++ (if c.enumeration.isSome then ["enum"] else [])
  let runtime := nameSet <| "Base" :: columns.flatMap fun c =>
    (c.type.transform.map (·.name)).toList ++ (if c.enumeration.isSome then ["enum_values"] else [])
  let orm := nameSet <| ["Mapped", "mapped_column"] ++ relations.map fun _ => "relationship"
  modules.map (fun m => (m, [])) ++
    (if typing.isEmpty then [] else [("typing", typing)]) ++
    [("sqlalchemy", []), ("sqlalchemy.orm", orm), ("entity_generator.runtime", runtime)]

/-- Modules and classes of other entities, sorted, each once. -/
def relatedOf (table : String) (relations : List EntityRelation) : List (String × String) :=
  let pairs := (relations.filter (·.targetTable != table)).map fun r =>
    (r.targetModule, r.targetClass)
  let distinct := pairs.foldl (fun acc p => if acc.contains p then acc else acc ++ [p]) []
  distinct.mergeSort RelationGraph.pairLe

/-- The entity of a table that is planned under its name. -/
def ofPlan (plans : Plans) (graph : RelationGraph) (known : List String) (t : Table)
    (types : List (Column × ColumnType)) (plan : Plan) : Except String Entity :=
  (columnsOf plan known t types).map fun columns =>
    let forward := named (fun r => plan.forward.get? r.column) (forwardRelation plans graph t)
      (graph.forwardFor t.name)
    let inverse := named (fun r => plan.inverse.get? r.referencingTable) (inverseRelation plans)
      (graph.inverseFor t.name)
    let manyToMany := named (fun r => plan.manyToMany.get? r.pair) (manyToManyRelation plans t.name)
      (graph.manyToManyFor t.name)
    let relations := forward ++ inverse ++ manyToMany
    let related := relatedOf t.name relations
    { table := t
      className := plan.className
      moduleName := plan.moduleName
      columns := columns
      enumerations := t.columns.filterMap fun c => plan.enumerations.get? c.name
      forward := forward
      inverse := inverse
      manyToMany := manyToMany
      imports := importsFor columns relations !related.isEmpty
      related := related }

/-- Why entities cannot be built: a column size without a value, or a column that the plan of its
table's name does not know. -/
inductive BuildFault
  | columnType (fault : Number.IntegerFault)
  | unknownColumn (name : String)
  deriving DecidableEq, Repr

/-- The entity of one table among planned ones. -/
def ofTable (plans : Plans) (graph : RelationGraph) (known : List String) (t : Table) :
    Except BuildFault Entity := do
  let types ← (Plan.columnTypes t).mapError .columnType
  match plans.get? t.name with
  | some plan => (ofPlan plans graph known t types plan).mapError .unknownColumn
  | none => .error (.unknownColumn t.name)

/-- One entity per table, sorted by table name. -/
def ofTables (tables : List Table) (graph : RelationGraph) : Except BuildFault (List Entity) := do
  let ordered := sortTables tables
  let plans ← (Plan.ofTables graph ordered).mapError .columnType
  let byName : Plans := Assoc.ofPairs (plans.map fun plan => (plan.table, plan))
  ordered.mapM (ofTable byName graph (ordered.map (·.name)))

def missingKeyMessage : String :=
  "Table has no primary key; every column is used as the mapper identity"

/-- Warnings about a table and its columns. -/
def tableNotices (t : Table) (columns : List Column) : List Notice :=
  (if t.hasPrimaryKey then []
    else [Notice.warning (.of t.name missingKeyMessage .missingPrimaryKey)]) ++
    columns.filterMap fun c =>
      match ColumnType.ofText c.physicalType with
      | .ok type =>
        if type.isUntyped then some <| Notice.warning <| .of t.name
          s!"Column '{c.name}' has unsupported type '{c.physicalType}'; mapped as text" .untypedColumn
        else none
      | .error _ => none

/-- Columns up to and including the first that the plan does not know. -/
def reachedColumns (attributes : Assoc String String) : List Column → List Column
  | [] => []
  | c :: rest => if attributes.has c.name then c :: reachedColumns attributes rest else [c]

/-- Warnings of the building of planned tables, up to the first that fails. -/
def buildingNotices (plans : Plans) : List Table → List Notice
  | [] => []
  | t :: rest =>
    let attributes : Assoc String String := ((plans.get? t.name).map (·.attributes)).getD []
    let reached := reachedColumns attributes t.columns
    let noted := tableNotices t reached
    if t.columns.all fun c => attributes.has c.name then noted ++ buildingNotices plans rest
    else noted

/-- What building entities has to say, whether or not it succeeds. -/
def notices (tables : List Table) (graph : RelationGraph) : List Notice :=
  let ordered := sortTables tables
  let classes := ordered.map fun t => Naming.className t.name
  let planning := Plan.planningNotices classes graph [] ordered
  match Plan.ofTables graph ordered with
  | .error _ => planning
  | .ok plans =>
    planning ++ buildingNotices (.ofPairs (plans.map fun plan => (plan.table, plan))) ordered

end Entity

end CatalogEntities
