import CatalogEntities.Proofs.Entity.Attributes
import CatalogEntities.Proofs.Naming.EnumName

/-!
The enumerations of an entity. Every column whose type is an enumeration has one, with the values of
its type; their classes are named in turn, against the names of the module and the classes of the
run.
-/

namespace CatalogEntities

open Catalog Naming

namespace Plan

theorem enumerationsFrom_inTurn (entityClass : String) (taken : List String)
    (types : List (Column × ColumnType)) :
    InTurn (enumStem entityClass) taken
      ((enumerationsFrom entityClass taken types).map fun p => (p.1, p.2.name)) := by
  induction types generalizing taken with
  | nil => trivial
  | cons head rest ih =>
    obtain ⟨c, type⟩ := head
    simp only [enumerationsFrom]
    split
    · exact ⟨tries_firstTried _ _, ih _⟩
    · exact ih taken

theorem enumerationsFrom_values (entityClass : String) (taken : List String)
    (types : List (Column × ColumnType)) :
    (enumerationsFrom entityClass taken types).map (fun p => (p.1, p.2.values)) =
      (types.filter (·.2.isEnum)).map fun p => (p.1.name, p.2.enumValues) := by
  induction types generalizing taken with
  | nil => rfl
  | cons head rest ih =>
    obtain ⟨c, type⟩ := head
    by_cases henum : type.isEnum
    · have hvalues (name : String) :
          EnumDefinition.values ⟨name, enumMembers type.enumValues⟩ = type.enumValues :=
        (named_iff.mpr rfl).values_eq
      simp only [enumerationsFrom, henum, ↓reduceIte, List.map_cons, ih, hvalues,
        List.filter_cons_of_pos]
    · simp only [enumerationsFrom, henum, Bool.false_eq_true, ↓reduceIte, ih, not_false_eq_true,
        List.filter_cons_of_neg]

theorem enumerationsFrom_members {entityClass : String} {taken : List String}
    {types : List (Column × ColumnType)}
    {p : String × EnumDefinition} (hp : p ∈ enumerationsFrom entityClass taken types) :
    p.2.members = enumMembers p.2.values := by
  induction types generalizing taken with
  | nil => contradiction
  | cons head rest ih =>
    obtain ⟨c, type⟩ := head
    simp only [enumerationsFrom] at hp
    split at hp
    · rcases List.mem_cons.mp hp with rfl | hp
      · exact congrArg enumMembers (named_iff.mpr rfl).values_eq.symm
      · exact ih hp
    · exact ih hp

/-- Each enumeration is named for a column, and has the values of its type. -/
theorem mem_enumerationsFrom_made {entityClass : String} {taken : List String}
    {types : List (Column × ColumnType)}
    {p : String × EnumDefinition} (hp : p ∈ enumerationsFrom entityClass taken types) :
    ∃ c type used, (c, type) ∈ types ∧ p.2.name = enumClassName c.name entityClass used ∧
      p.2.values = type.enumValues := by
  induction types generalizing taken with
  | nil => contradiction
  | cons head rest ih =>
    obtain ⟨c, type⟩ := head
    have hlater {taken : List String} (hp : p ∈ enumerationsFrom entityClass taken rest) :
        ∃ c' type' used, (c', type') ∈ (c, type) :: rest ∧
        p.2.name = enumClassName c'.name entityClass used ∧
          p.2.values = type'.enumValues := by
      obtain ⟨c', type', used, hmem, hmade⟩ := ih hp
      exact ⟨c', type', used, List.mem_cons_of_mem _ hmem, hmade⟩
    simp only [enumerationsFrom] at hp
    split at hp
    · rcases List.mem_cons.mp hp with rfl | hp
      · exact ⟨c, type, taken, List.mem_cons_self, rfl, (named_iff.mpr rfl).values_eq⟩
      · exact hlater hp
    · exact hlater hp

/-- Enumerations stand under the names of the columns that have them, in order. -/
theorem enumerationsFrom_columns (entityClass : String) (taken : List String)
    (types : List (Column × ColumnType)) :
    (enumerationsFrom entityClass taken types).map (·.1) =
      (types.filter (·.2.isEnum)).map (·.1.name) := by
  have h := congrArg (List.map Prod.fst) (enumerationsFrom_values entityClass taken types)
  simpa only [List.map_map, Function.comp_def] using h

section

variable (classes : List String) (graph : RelationGraph) {t : Table}
    {types : List (Column × ColumnType)}
  (hnodup : (types.map (·.1.name)).Nodup)
include hnodup

theorem enumerations_pairs : (ofTypes classes graph t types).enumerations =
    enumerationsFrom (Naming.className t.name) (moduleNames ++ classes) types := by
  rw [ofTypes_enumerations]
  refine Assoc.ofPairs_of_nodup (hnodup.sublist ?_)
  rw [enumerationsFrom_columns]
  exact List.filter_sublist.map _

theorem enumerations_keys :
    (ofTypes classes graph t types).enumerations.keys.Sublist (types.map (·.1.name)) := by
  rw [enumerations_pairs classes graph hnodup, Assoc.keys, enumerationsFrom_columns]
  exact List.filter_sublist.map _

/-- A column has an enumeration exactly if its type is one, and then with the values of that. -/
theorem enumeration_of_type {pair : Column × ColumnType} (hpair : pair ∈ types) :
    ((ofTypes classes graph t types).enumerations.get? pair.1.name).map (·.values) =
      if pair.2.isEnum then some pair.2.enumValues else none := by
  have hkeys : (ofTypes classes graph t types).enumerations.keys.Nodup :=
    hnodup.sublist (enumerations_keys classes graph hnodup)
  have hvalues := enumerationsFrom_values (Naming.className t.name) (moduleNames ++ classes) types
  rw [← enumerations_pairs classes graph hnodup] at hvalues
  split
  · rename_i henum
    have hin : (pair.1.name, pair.2.enumValues) ∈
        (types.filter (·.2.isEnum)).map fun p => (p.1.name, p.2.enumValues) :=
      List.mem_map.mpr ⟨pair, List.mem_filter.mpr ⟨hpair, henum⟩, rfl⟩
    rw [← hvalues] at hin
    obtain ⟨⟨column, d⟩, hd, heq⟩ := List.mem_map.mp hin
    obtain ⟨rfl, hd'⟩ := Prod.mk.inj heq
    rw [(Assoc.get?_eq_some_iff hkeys).mpr hd, Option.map_some, hd']
  · rename_i henum
    rw [Option.map_eq_none_iff, Assoc.get?_eq_none_iff,
      enumerations_pairs classes graph hnodup, Assoc.keys, enumerationsFrom_columns]
    intro hin
    obtain ⟨other, hother, hname⟩ := List.mem_map.mp hin
    obtain ⟨hmem, hotherEnum⟩ := List.mem_filter.mp hother
    rw [List.inj_on_of_nodup_map hnodup hmem hpair hname] at hotherEnum
    exact henum hotherEnum

end

end Plan

namespace Entity.Built

variable {tables : List Table} {plans : Plans} {t : Table} {types : List (Column × ColumnType)}
    {e : Entity}
  (h : Built tables plans t types e)
include h

theorem type_names : types.map (·.1.name) = e.columns.map (·.column.name) := by
  rw [h.column_names, ← Plan.columnTypes_columns h.types_ok, List.map_map]
  rfl

theorem enumeration_planned {c : EntityColumn} (hc : c ∈ e.columns) :
    c.enumeration = (Plan.inRun tables t types).enumerations.get? c.column.name := by
  obtain ⟨-, -, -, hcolumns, -, -⟩ := h.fields
  obtain ⟨pair, -, -, hcolumn, -, henum, -⟩ := Outcome.mem_right (columnsOf_made hcolumns) hc
  rw [henum, hcolumn]

/-- An entity declares the enumerations of its columns, in their order. -/
theorem enumerations_shown : e.enumerations = e.columns.filterMap (·.enumeration) := by
  obtain ⟨-, -, -, -, henums, -⟩ := h.fields
  rw [henums, ← h.columns_kept, List.filterMap_map]
  exact List.filterMap_congr fun c hc => (h.enumeration_planned hc).symm

section

variable (hcols : (t.columns.map (·.name)).Nodup)
include hcols

/-- The plan's enumerations can be read off the columns. -/
theorem enumeration_pairs :
    e.columns.filterMap (fun c => c.enumeration.map fun d => (c.column.name, d)) =
      (Plan.inRun tables t types).enumerations := by
  have hnodup := h.column_names_nodup hcols
  have hkeys : (Plan.inRun tables t types).enumerations.keys.Sublist (types.map (·.1.name)) :=
    Plan.enumerations_keys _ _ (h.type_names ▸ hnodup)
  rw [h.type_names] at hkeys
  rw [← Assoc.filterMap_get? hkeys hnodup, List.filterMap_map]
  refine List.filterMap_congr fun c hc => ?_
  rw [h.enumeration_planned hc]
  rfl

theorem enumerations_planned :
    e.enumerations = (Plan.inRun tables t types).enumerations.values := by
  rw [h.enumerations_shown, ← h.enumeration_pairs hcols, Assoc.values, List.map_filterMap]
  refine List.filterMap_congr fun c _ => ?_
  cases c.enumeration <;> rfl

end

end Entity.Built

end CatalogEntities
