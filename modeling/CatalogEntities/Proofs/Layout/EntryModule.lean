import CatalogEntities.Layout.Page
import CatalogEntities.Proofs.Catalog
import CatalogEntities.Proofs.Code.Scope
import CatalogEntities.Proofs.Layout.Filling

/-!
The entry module as lines, and its statements in the order in which they run: the imports from
libraries, one import for each entity, and the start.
-/

namespace CatalogEntities.Layout

open Catalog Code

inductive SourceLine
  | blank
  | comment (text : String)
  | code (s : Statement)

namespace SourceLine

def render : SourceLine → String
  | .blank => ""
  | .comment text => "# " ++ text
  | .code s => s.render

def statement? : SourceLine → Option Statement
  | .blank => none
  | .comment _ => none
  | .code s => some s

end SourceLine

def osImport : Statement := .importModule "os"

def dotenvImport : Statement := .importNames 0 "dotenv" ["load_dotenv"]

def runtimeImport : Statement := .importNames 0 "entity_generator.runtime" ["DataSource"]

/-- The imports of entity classes, by module. -/
def entityImports (entities : List Entity) : List Statement :=
  (sortByKey Entity.moduleName entities).map fun e => .importNames 1 e.moduleName [e.className]

def loadStatement : Statement := .expression (.apply (.name "load_dotenv") [] [])

def entitiesStatement (entities : List Entity) : Statement :=
  .assign "entities" (.names ((sortByKey Entity.moduleName entities).map (·.className)))

def dataSourceStatement : Statement :=
  .assign "data_source" (.apply (.name "DataSource")
    [.apply (.dotted "os.environ.get") [.text "DATABASE_URL"] [], .name "entities"] [])

def exportStatement (entities : List Entity) : Statement :=
  .assign "__all__" (.texts
    (sortNames ((sortByKey Entity.moduleName entities).map (·.className)) ++
      ["data_source", "entities"]))

/-- The environment file is loaded, then entities and data source are assigned. -/
def startStatements (entities : List Entity) : List Statement :=
  [loadStatement, entitiesStatement entities, dataSourceStatement, exportStatement entities]

/-- The statements of the entry module. -/
def entryStatements (entities : List Entity) : List Statement :=
  [osImport, dotenvImport, runtimeImport] ++ entityImports entities ++ startStatements entities

/-- The lines of the entry module; without entities there is no group of their imports. -/
def entryLines (entities : List Entity) (time : Timestamp) : List SourceLine :=
  (headerLines time).map SourceLine.comment ++
    [SourceLine.blank, .code osImport, .blank, .code dotenvImport, .blank, .code runtimeImport] ++
    (if entities.isEmpty then [] else SourceLine.blank :: (entityImports entities).map .code) ++
    (startStatements entities).flatMap fun s => [SourceLine.blank, .code s]

theorem entityImports_isEmpty (entities : List Entity) :
    (entityImports entities).isEmpty = entities.isEmpty := by
  rw [entityImports, List.isEmpty_map]
  exact (sortByKey_perm _ entities).isEmpty_eq

theorem entryLines_statements (entities : List Entity) (time : Timestamp) :
    (entryLines entities time).filterMap SourceLine.statement? = entryStatements entities := by
  have himports : (if entities.isEmpty then [] else
      SourceLine.blank :: (entityImports entities).map .code).filterMap SourceLine.statement? =
        entityImports entities := by
    split
    · rename_i hempty
      rw [← entityImports_isEmpty] at hempty
      exact (List.isEmpty_iff.mp hempty).symm
    · rw [List.filterMap_cons, SourceLine.statement?, List.filterMap_map]
      exact List.filterMap_some
  rw [entryLines, List.filterMap_append, List.filterMap_append, himports]
  rfl

theorem entryPage_importGroups (entities : List Entity) (time : Timestamp) :
    (entryPage entities time).importGroups =
      [[osImport.render], [dotenvImport.render], [runtimeImport.render]] := by
  simp only [entryPage]
  decide +kernel

theorem entryPage_entityImports (entities : List Entity) (time : Timestamp) :
    (entryPage entities time).entityImports = (entityImports entities).map Statement.render := by
  rw [entityImports, List.map_map]
  rfl

theorem fill_entityImports (entities : List Entity) (time : Timestamp) :
    Piece.fill (.when ⟨"entity_imports", none⟩ [.text "\n",
      .each "line" ⟨"entity_imports", none⟩ [.text "", .output ⟨"line", none⟩, .text "\n"]])
      (entryPage entities time).names = .ok (layOut ((if entities.isEmpty then [] else
        SourceLine.blank :: (entityImports entities).map .code).map SourceLine.render)) := by
  have hempty : ((entryPage entities time).entityImports.map Value.text).isEmpty =
      entities.isEmpty := by
    rw [entryPage_entityImports, List.isEmpty_map, List.isEmpty_map, entityImports_isEmpty]
  refine (fill_when _ rfl).trans ?_
  rw [hempty]
  split
  · rfl
  · refine (fill_group rfl).trans ?_
    rw [entryPage_entityImports, List.map_cons, List.map_map]
    rfl

theorem layOut_startStatements (entities : List Entity) :
    layOut (((startStatements entities).flatMap fun s => [.blank, .code s]).map SourceLine.render) =
      "\nload_dotenv()\n\n" ++ ((entitiesStatement entities).render ++ ("\n\n" ++
        (dataSourceStatement.render ++
          ("\n\n" ++ ((exportStatement entities).render ++ "\n"))))) := by
  have hload : loadStatement.render = "load_dotenv()" := by decide +kernel
  have hcall : "\nload_dotenv()\n\n" = "\n" ++ "load_dotenv()" ++ "\n" ++ "\n" := rfl
  have hgap : "\n\n" = "\n" ++ "\n" := rfl
  simp only [startStatements, List.flatMap_cons, List.flatMap_nil, List.cons_append,
    List.nil_append,
    List.append_nil, List.map_cons, List.map_nil, SourceLine.render, layOut, hload, hcall, hgap,
    String.empty_append, String.append_empty, String.append_assoc]

/-- The entry module is its lines. -/
theorem entryPage_source (entities : List Entity) (time : Timestamp) :
    (entryPage entities time).source =
      .ok (layOut ((entryLines entities time).map SourceLine.render)) := by
  have hstart : Template.fill [.text "\nload_dotenv()\n\n", .output ⟨"entities_assign", none⟩,
      .text "\n\n", .output ⟨"data_source_assign", none⟩, .text "\n\n",
      .output ⟨"all_assign", none⟩, .text "\n"] (entryPage entities time).names = .ok
        (layOut (((startStatements entities).flatMap fun s =>
          [.blank, .code s]).map SourceLine.render)) := by
    rw [layOut_startStatements]
    exact fill_cons (fill_text _) (fill_cons (fill_output rfl) (fill_cons (fill_text _)
      (fill_cons (fill_output rfl) (fill_cons (fill_text _) (fill_cons (fill_output rfl)
        (fill_singleton (fill_text _)))))))
  refine (fill_cons (fill_eachLine "# " rfl) (fill_cons
    (fill_each ("" :: ·) rfl fun _ => fill_group (List.lookup_cons_self ..))
    (fill_cons (fill_entityImports entities time) hstart))).trans ?_
  rw [entryPage_importGroups, entryLines, List.map_append, List.map_append, List.map_append,
    layOut_append, layOut_append, layOut_append, List.map_map]
  simp only [String.append_assoc]
  rfl

end CatalogEntities.Layout
