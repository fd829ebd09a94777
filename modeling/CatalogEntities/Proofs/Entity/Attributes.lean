import CatalogEntities.Proofs.Entity.Build
import CatalogEntities.Proofs.Naming.InTurn

/-!
The columns of an entity. They are those of its table, in order; each has an attribute of its own,
and refers to what the first key on it refers to, if that is a table of the run.
-/

namespace CatalogEntities

open Catalog Naming Number

namespace Plan

/-- Columns get their attributes in turn. -/
theorem attributesFrom_inTurn (used : MemberNames) (columns : List Column) :
    InTurn attributeStem used.names (attributesFrom used columns).1 := by
  induction columns generalizing used with
  | nil => trivial
  | cons c rest ih =>
    simp only [attributesFrom]
    refine ⟨tries_firstTried _ _, (ih _).congr attributeStem_congr fun name => ?_⟩
    rw [MemberNames.mem_insert, List.mem_cons]

/-- Every column has another attribute. -/
theorem attributesFrom_nodup (used : MemberNames) (columns : List Column) :
    ((attributesFrom used columns).1.map (·.2)).Nodup :=
  (attributesFrom_inTurn used columns).nodup

theorem mem_usedByEnumerations (classes : List String) (graph : RelationGraph) (t : Table)
    (types : List (Column × ColumnType)) {name : String} :
    name ∈ (usedByEnumerations classes t types).names ↔
      name ∈ moduleNames ++ (ofTypes classes graph t types).enumerations.values.map (·.name) := by
  rw [usedByEnumerations, MemberNames.mem_foldl_insert, MemberNames.mem_ofList,
    ofTypes_enumerations, List.mem_append]
  exact or_comm

end Plan

namespace Entity.Built

variable {tables : List Table} {plans : Plans} {t : Table} {types : List (Column × ColumnType)}
  {e : Entity}

theorem columns_kept (h : Built tables plans t types e) : e.columns.map (·.column) = t.columns := by
  obtain ⟨-, -, -, hcolumns, -, -⟩ := h.fields
  rw [(columnsOf_ok hcolumns).1, Plan.columnTypes_columns h.types_ok]

theorem column_names (h : Built tables plans t types e) :
    e.columns.map (·.column.name) = t.columns.map (·.name) := by
  rw [← h.columns_kept, List.map_map]
  rfl

theorem attribute_planned (h : Built tables plans t types e) {c : EntityColumn}
    (hc : c ∈ e.columns) :
    (Plan.inRun tables t types).attributes.get? c.column.name = some c.attr := by
  obtain ⟨-, -, -, hcolumns, -, -⟩ := h.fields
  exact (columnsOf_ok hcolumns).2 c hc

/-- A column keeps the first key on it, unless that leads out of the run. -/
theorem foreignKey_kept (h : Built tables plans t types e) {c : EntityColumn} (hc : c ∈ e.columns) :
    c.foreignKey = (t.foreignKey? c.column.name).filter fun key =>
      (knownNames tables).contains key.referencedTable := by
  obtain ⟨-, -, -, hcolumns, -, -⟩ := h.fields
  obtain ⟨pair, -, -, hcolumn, -, -, hkey⟩ := Outcome.mem_right (columnsOf_made hcolumns) hc
  rwa [hcolumn]

section

variable (h : Built tables plans t types e) (hcols : (t.columns.map (·.name)).Nodup)
include h hcols

theorem column_names_nodup : (e.columns.map (·.column.name)).Nodup := by
  rwa [h.column_names]

/-- The plan's attributes can be read off the columns. -/
theorem attribute_pairs :
    e.columns.map (fun c => (c.column.name, c.attr)) =
      Plan.attributePairs (classNames tables) t types := by
  have hnodup := h.column_names_nodup hcols
  have hkeys : (Plan.attributePairs (classNames tables) t types).map (·.1) =
      e.columns.map (·.column.name) := by
    rw [h.column_names]
    exact Plan.attributesFrom_columns _ _
  have hsub : Assoc.keys (Plan.attributePairs (classNames tables) t types) |>.Sublist
      (e.columns.map (·.column.name)) := by
    rw [← hkeys]
    exact List.Sublist.refl _
  rw [← Assoc.filterMap_get? hsub hnodup, List.filterMap_map, ← List.filterMap_eq_map]
  refine List.filterMap_congr fun c hc => ?_
  have hattr := h.attribute_planned hc
  rw [Plan.inRun, Plan.ofTypes_attributes, Assoc.ofPairs_of_nodup (by rwa [hkeys])] at hattr
  simp only [Function.comp_apply, hattr, Option.map_some]

theorem attributes_nodup : (e.columns.map (·.attr)).Nodup := by
  have hplanned :=
    Plan.attributesFrom_nodup (Plan.usedByEnumerations (classNames tables) t types) t.columns
  rw [← Plan.attributePairs, ← h.attribute_pairs hcols, List.map_map] at hplanned
  exact hplanned

end

end Entity.Built

end CatalogEntities
