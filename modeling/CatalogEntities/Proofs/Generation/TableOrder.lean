import CatalogEntities.Generation.Rendering
import CatalogEntities.Proofs.Catalog

/-!
The order of tables does not matter. Every stage of a run, from the graph over the plans and the
entities to the modules and the warnings, looks at the tables in the order of their names; tables
with distinct names have only one such order.
-/

namespace CatalogEntities

open Catalog Files

variable {tables tables' : List Table}

theorem Catalog.DistinctNames.sortTables_eq (h : DistinctNames tables)
    (hperm : tables.Perm tables') :
    sortTables tables = sortTables tables' :=
  sortByKey_eq_of_perm h hperm

section

variable (hsort : sortTables tables = sortTables tables')
include hsort

theorem RelationGraph.ofTables_congr : ofTables tables = ofTables tables' := by
  simp only [ofTables, hsort]

theorem RelationGraph.unpaired?_congr : unpaired? tables = unpaired? tables' := by
  simp only [unpaired?, hsort]

theorem RelationGraph.notices_congr : notices tables = notices tables' := by
  simp only [notices, warnings, hsort, ofTables_congr hsort]

theorem Entity.ofTables_congr (graph : RelationGraph) :
    ofTables tables graph = ofTables tables' graph := by
  simp only [ofTables, hsort]

theorem Entity.notices_congr (graph : RelationGraph) :
    notices tables graph = notices tables' graph := by
  simp only [notices, hsort]

namespace Generation

theorem notices_congr : notices tables = notices tables' := by
  simp only [notices, RelationGraph.ofTables_congr hsort, RelationGraph.notices_congr hsort,
    Entity.notices_congr hsort]

theorem entities_congr : entities tables = entities tables' := by
  simp only [entities, RelationGraph.unpaired?_congr hsort, RelationGraph.ofTables_congr hsort,
    Entity.ofTables_congr hsort]

theorem render_congr (directory : FilePath) (style : Style) :
    render tables directory style = render tables' directory style := by
  simp only [render, notices_congr hsort, entities_congr hsort]

end Generation

end

namespace Generation

/-- Tables with distinct names give the same modules in the same order, or the same failure, and
the same warnings and log, in whatever order the catalog lists them. -/
theorem render_perm (h : DistinctNames tables) (hperm : tables.Perm tables') (directory : FilePath)
    (style : Style) : render tables directory style = render tables' directory style :=
  render_congr (h.sortTables_eq hperm) directory style

/-- Two tables of one module, the later name first. -/
def sameModule : List Table := [⟨"a_b", [], []⟩, ⟨"a-b", [], []⟩]

theorem sameModule_either_order : DistinctNames sameModule ∧ sameModule.Perm sameModule.reverse ∧
    ∀ directory style,
    render sameModule directory style = render sameModule.reverse directory style := by
  have h : DistinctNames sameModule := by decide
  have hperm : sameModule.Perm sameModule.reverse := (List.reverse_perm sameModule).symm
  exact ⟨h, hperm, render_perm h hperm⟩

end Generation

end CatalogEntities
