import CatalogEntities.Catalog.ColumnType
import CatalogEntities.Catalog.Table
import CatalogEntities.Naming.EnumName

/-!
Entities: everything that is needed to write the module of one table.
-/

namespace CatalogEntities

open Catalog Naming

/-- The enumeration that an enumeration column declares. -/
structure EnumDefinition where
  name : String
  members : List EnumMember
  deriving DecidableEq, Repr

def EnumDefinition.values (e : EnumDefinition) : List String := e.members.map (·.value)

/-- A column with the name of its attribute and what its type means. The foreign key is kept only
if it leads to a table of the run. -/
structure EntityColumn where
  column : Column
  attr : String
  type : ColumnType
  enumeration : Option EnumDefinition
  foreignKey : Option ForeignKey
  deriving DecidableEq, Repr

inductive RelationKind
  | forward
  | inverse
  | manyToMany
  deriving DecidableEq, Repr

/-- A relation of one entity. -/
structure EntityRelation where
  name : String
  kind : RelationKind
  targetTable : String
  targetClass : String
  targetModule : String
  /-- Whether the property is a list. -/
  many : Bool
  nullable : Bool
  foreignKeys : Option String
  backPopulates : Option String
  secondary : Option String
  remoteSide : Option String
  viewOnly : Bool
  deriving DecidableEq, Repr

/-- A module and the names imported from it, none for the module itself. -/
abbrev Import := String × List String

structure Entity where
  table : Table
  className : String
  moduleName : String
  columns : List EntityColumn
  enumerations : List EnumDefinition
  forward : List EntityRelation
  inverse : List EntityRelation
  manyToMany : List EntityRelation
  imports : List Import
  /-- Module and class of the other entities that relations lead to, sorted. -/
  related : List (String × String)
  deriving DecidableEq, Repr

namespace Entity

def relations (e : Entity) : List EntityRelation := e.forward ++ e.inverse ++ e.manyToMany

def relation? (e : Entity) (name : String) : Option EntityRelation :=
  e.relations.find? (·.name == name)

end Entity

end CatalogEntities
