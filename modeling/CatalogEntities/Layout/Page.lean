import CatalogEntities.Entity.Statements
import CatalogEntities.Layout.Modules
import CatalogEntities.Layout.Timestamp

/-!
What the two templates lay out: the page of an entity and the page of the entry module, and their
form as named values.
-/

namespace CatalogEntities.Layout

open Code Text

def headerLines (time : Timestamp) : List String := [
  "AutoGenerated by entity-generator.",
  "Generated on: " ++ time.text,
  "Do not edit by hand; changes are overwritten on the next run."]

def standardModules : List String := ["datetime", "decimal", "enum", "os", "typing"]

/-- Standard library, third party and runtime imports. -/
def importRank (module : String) : Nat :=
  if standardModules.contains module then 0
  else if "entity_generator".toList.isPrefixOf module.toList then 2
  else 1

/-- The database library goes by an alias. -/
def importLine (i : Import) : String :=
  if i.1 == "sqlalchemy" && i.2.isEmpty then "import sqlalchemy as sa"
  else (Statement.ofImport 0 i.1 i.2).render

/-- Import lines by rank, without empty groups. -/
def importGroups (imports : List Import) : List (List String) :=
  ([0, 1, 2].map fun rank =>
    (imports.filter fun i => importRank i.1 == rank).map importLine).filter (!·.isEmpty)

structure ColumnPart where
  commentLines : List String
  statement : String
  deriving DecidableEq, Repr

structure EnumPart where
  name : String
  /-- Members with the text of their values. -/
  members : List (String × String)
  deriving DecidableEq, Repr

/-- The parts of an entity's module. -/
structure EntityPage where
  headerLines : List String
  importGroups : List (List String)
  typeCheckingImports : List String
  enums : List EnumPart
  className : String
  baseClass : String
  tableName : String
  columns : List ColumnPart
  mapperArguments : Option String
  relationSections : List (List String)
  deriving DecidableEq, Repr

/-- The parts of the entry module. -/
structure EntryPage where
  headerLines : List String
  importGroups : List (List String)
  entityImports : List String
  entitiesAssign : String
  dataSourceAssign : String
  allAssign : String
  deriving DecidableEq, Repr

/-- The lines of a comment without blanks around them and without empty ones. -/
def commentLines (comment : String) : List String :=
  (((lines comment.toList).map trim).filter (!·.isEmpty)).map String.ofList

/-- The import of an entity's class from a neighbour module. -/
def siblingImport (module name : String) : String := (Statement.ofImport 1 module [name]).render

def entityPage (e : Entity) (time : Timestamp) : EntityPage :=
  { headerLines := headerLines time
    importGroups := importGroups e.imports
    typeCheckingImports := e.related.map fun (module, name) => siblingImport module name
    enums := e.enumerations.map fun d =>
      ⟨d.name, d.members.map fun m => (m.name, Literal.encodeText m.value)⟩
    className := e.className
    baseClass := "Base"
    tableName := Literal.encodeText e.table.name
    columns := e.columns.map fun c =>
      ⟨commentLines (c.column.comment.getD ""), c.statement.render⟩
    mapperArguments := e.mapperArguments?.map Statement.render
    relationSections := ([e.forward, e.inverse, e.manyToMany].filter (!·.isEmpty)).map fun part =>
      part.map fun r => r.statement.render }

/-- Entities are listed by module, exported names by class. -/
def entryPage (entities : List Entity) (time : Timestamp) : EntryPage :=
  let ordered := Catalog.sortByKey Entity.moduleName entities
  let classes := ordered.map (·.className)
  let url := Expr.apply (.dotted "os.environ.get") [.text "DATABASE_URL"] []
  { headerLines := headerLines time
    importGroups := importGroups [
      ("os", []), ("dotenv", ["load_dotenv"]), ("entity_generator.runtime", ["DataSource"])]
    entityImports := ordered.map fun e => siblingImport e.moduleName e.className
    entitiesAssign := (Statement.assign "entities" (.names classes)).render
    dataSourceAssign := (Statement.assign "data_source"
      (.apply (.name "DataSource") [url, .name "entities"] [])).render
    allAssign := (Statement.assign "__all__"
      (.texts (Catalog.sortNames classes ++ ["data_source", "entities"]))).render }

private def textList (items : List String) : Value := .list (items.map .text)

private def record (fields : List (String × Value)) : Value :=
  .map (fields.map fun (key, v) => (.text key, v))

def EntityPage.names (p : EntityPage) : Names := [
  ("header_lines", textList p.headerLines),
  ("import_groups", .list (p.importGroups.map textList)),
  ("type_checking_imports", textList p.typeCheckingImports),
  ("enums", .list (p.enums.map fun e => record [
    ("name", .text e.name),
    ("members", .list (e.members.map fun (name, value) =>
      record [("name", .text name), ("value", .text value)]))])),
  ("class_name", .text p.className),
  ("base_class", .text p.baseClass),
  ("table_name", .text p.tableName),
  ("columns", .list (p.columns.map fun c => record [
    ("comment_lines", textList c.commentLines), ("statement", .text c.statement)])),
  ("mapper_args", (p.mapperArguments.map Value.text).getD .null),
  ("relation_sections", .list (p.relationSections.map textList))]

def EntryPage.names (p : EntryPage) : Names := [
  ("header_lines", textList p.headerLines),
  ("import_groups", .list (p.importGroups.map textList)),
  ("entity_imports", textList p.entityImports),
  ("entities_assign", .text p.entitiesAssign),
  ("data_source_assign", .text p.dataSourceAssign),
  ("all_assign", .text p.allAssign)]

/-- The text of an entity's module. -/
def EntityPage.source (p : EntityPage) : Except TemplateFault String :=
  Template.fill entityTemplate p.names

/-- The text of the entry module. -/
def EntryPage.source (p : EntryPage) : Except TemplateFault String :=
  Template.fill entryTemplate p.names

end CatalogEntities.Layout
