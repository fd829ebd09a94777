import CatalogEntities.Proofs.Catalog.EnumLiteral
import CatalogEntities.Proofs.Entity.Enumerations

/-!
The names of an entity's columns. In a run whose column types can all be read, every column keeps
its place, with an attribute of its own and with an enumeration if its type is one; each name is the
outcome of a search that ends, and no two of them meet.

Main result: `Entity.columns_named`.
-/

namespace CatalogEntities

open Catalog Naming

/-- How the names of an entity's columns came about, beside other entities with the
given classes. -/
structure Entity.ColumnsNamed (classes : List String) (e : Entity) : Prop where
  columns_kept : e.columns.map (·.column) = e.table.columns
  types_read : ∀ c ∈ e.columns, ColumnType.ofText c.column.physicalType = .ok c.type
  enumeration_of_type : ∀ c ∈ e.columns,
    c.enumeration.map (·.values) = if c.type.isEnum then some c.type.enumValues else none
  enumerations_shown : e.enumerations = e.columns.filterMap (·.enumeration)
  enumerations_found : InTurn (enumStem e.className) (moduleNames ++ classes)
    (e.columns.filterMap fun c => c.enumeration.map fun d => (c.column.name, d.name))
  enumerations_nodup : (e.enumerations.map (·.name)).Nodup
  enumerations_apart : ∀ d ∈ e.enumerations, d.name ∉ moduleNames ∧ d.name ∉ classes
  attributes_found : InTurn attributeStem (moduleNames ++ e.enumerations.map (·.name))
    (e.columns.map fun c => (c.column.name, c.attr))
  attributes_nodup : (e.columns.map (·.attr)).Nodup
  attributes_apart : ∀ c ∈ e.columns, c.attr ∉ moduleNames ∧ c.attr ∉ e.enumerations.map (·.name)

namespace Entity

section

variable {classes : List String} {e : Entity}

theorem enumeration_names (hshown : e.enumerations = e.columns.filterMap (·.enumeration)) :
    e.enumerations.map (·.name) =
      (e.columns.filterMap fun c => c.enumeration.map fun d => (c.column.name, d.name)).map
        (·.2) := by
  rw [hshown, List.map_filterMap, List.map_filterMap]
  refine List.filterMap_congr fun c _ => ?_
  cases c.enumeration <;> rfl

/-- What is found in turn is apart from what was taken and from one another. -/
theorem ColumnsNamed.of_found (hkept : e.columns.map (·.column) = e.table.columns)
    (htypes : ∀ c ∈ e.columns, ColumnType.ofText c.column.physicalType = .ok c.type)
    (henums : ∀ c ∈ e.columns,
      c.enumeration.map (·.values) = if c.type.isEnum then some c.type.enumValues else none)
    (hshown : e.enumerations = e.columns.filterMap (·.enumeration))
    (hfound : InTurn (enumStem e.className) (moduleNames ++ classes)
      (e.columns.filterMap fun c => c.enumeration.map fun d => (c.column.name, d.name)))
    (hattrs : InTurn attributeStem (moduleNames ++ e.enumerations.map (·.name))
      (e.columns.map fun c => (c.column.name, c.attr))) : e.ColumnsNamed classes := by
  have hnames := enumeration_names hshown
  refine ⟨hkept, htypes, henums, hshown, hfound, hnames ▸ hfound.nodup, ?_, hattrs, ?_, ?_⟩
  · intro d hd
    have hin : d.name ∈ e.enumerations.map (·.name) := List.mem_map_of_mem hd
    rw [hnames] at hin
    have hfree := hfound.not_mem hin
    exact ⟨fun hm => hfree (List.mem_append_left _ hm),
      fun hm => hfree (List.mem_append_right _ hm)⟩
  · have hnodup := hattrs.nodup
    rw [List.map_map] at hnodup
    exact hnodup
  · intro c hc
    have hfree := hattrs.not_mem (List.mem_map_of_mem (f := Prod.snd) (List.mem_map_of_mem hc))
    exact ⟨fun hm => hfree (List.mem_append_left _ hm),
      fun hm => hfree (List.mem_append_right _ hm)⟩

end

theorem Built.columnsNamed {tables : List Table} {plans : Plans} {t : Table}
    {types : List (Column × ColumnType)} {e : Entity} (h : Built tables plans t types e)
    (hcols : (t.columns.map (·.name)).Nodup) : e.ColumnsNamed (classNames tables) := by
  obtain ⟨htable, hclass, -, hcolumns, -, -⟩ := h.fields
  have hpairs := h.enumeration_pairs hcols
  have hnodup : (types.map (·.1.name)).Nodup := h.type_names ▸ h.column_names_nodup hcols
  have hmade (c : EntityColumn) (hc : c ∈ e.columns) :
      (c.column, c.type) ∈ types ∧
      c.enumeration = (Plan.inRun tables t types).enumerations.get? c.column.name := by
    obtain ⟨pair, hpair, -, hcolumn, htype, -, -⟩ := Outcome.mem_right (columnsOf_made hcolumns) hc
    rw [hcolumn, htype]
    exact ⟨hpair, hcolumn ▸ h.enumeration_planned hc⟩
  refine .of_found (htable ▸ h.columns_kept) ?_ ?_ h.enumerations_shown ?_ ?_
  · intro c hc
    obtain ⟨column, -, hread⟩ :=
      Outcome.mem_right (Outcome.mapM_ok_iff.mp h.types_ok) (hmade c hc).1
    obtain ⟨type, htype, hpair⟩ := Outcome.map_ok_iff.mp hread
    obtain ⟨rfl, rfl⟩ := Prod.mk.inj hpair
    exact htype
  · intro c hc
    obtain ⟨hin, henum⟩ := hmade c hc
    rw [henum]
    exact Plan.enumeration_of_type _ _ hnodup hin
  · have hfound :=
      Plan.enumerationsFrom_inTurn (Naming.className t.name)
        (moduleNames ++ classNames tables) types
    rw [← Plan.enumerations_pairs _ (RelationGraph.ofTables tables) hnodup] at hfound
    rw [Plan.inRun] at hpairs
    rw [← hpairs, List.map_filterMap, ← hclass] at hfound
    simpa only [Option.map_map, Function.comp_def] using hfound
  · have hfound :=
      Plan.attributesFrom_inTurn (Plan.usedByEnumerations (classNames tables) t types) t.columns
    rw [← Plan.attributePairs, ← h.attribute_pairs hcols] at hfound
    refine hfound.congr attributeStem_congr fun name => ?_
    rw [Plan.mem_usedByEnumerations _ (RelationGraph.ofTables tables),
      h.enumerations_planned hcols, Plan.inRun]

theorem types_readable {t : Table} {types : List (Column × ColumnType)}
    (h : Plan.columnTypes t = .ok types) :
    ∀ c ∈ t.columns, (ColumnType.ofText c.physicalType).isOk := by
  intro c hc
  obtain ⟨pair, -, hread⟩ := Outcome.mem_left (Outcome.mapM_ok_iff.mp h) hc
  obtain ⟨type, htype, -⟩ := Outcome.map_ok_iff.mp hread
  rw [htype]
  rfl

/-- A run has entities exactly if all its column types can be read; then the columns of each of them
are named one after the other, beside the classes of all entities. -/
theorem columns_named {tables : List Table} (h : DistinctNames tables)
    (hcols : DistinctColumns tables) :
    ((∃ entities, ofTables tables (RelationGraph.ofTables tables) = .ok entities) ↔
      ∀ t ∈ tables, ∀ c ∈ t.columns, (ColumnType.ofText c.physicalType).isOk) ∧
    ∀ entities, ofTables tables (RelationGraph.ofTables tables) = .ok entities →
      entities.map (·.table) = sortTables tables ∧
        ∀ e ∈ entities, e.ColumnsNamed (entities.map (·.className)) := by
  refine ⟨⟨?_, ofTables_of_readable h⟩, ?_⟩
  · rintro ⟨entities, hb⟩ t ht
    obtain ⟨plans, hall⟩ := ofTables_built h hb
    obtain ⟨e, -, types, hbuilt⟩ := Outcome.mem_left hall (mem_sortTables.mpr ht)
    exact types_readable hbuilt.types_ok
  · intro entities hb
    refine ⟨ofTables_tables h hb, fun e he => ?_⟩
    have hclasses : classNames tables = entities.map (·.className) :=
      Outcome.map_eq (ofTables_named hb) fun t _ e hnamed => hnamed.2.1.symm
    obtain ⟨plans, hall⟩ := ofTables_built h hb
    obtain ⟨t, ht, types, hbuilt⟩ := Outcome.mem_right hall he
    rw [← hclasses]
    exact hbuilt.columnsNamed (hcols t (mem_sortTables.mp ht))

/-- Columns that ask for the class of their table, for each other's classes, and for names
in use. -/
def crowdedStatus : Table :=
  let column (name physicalType : String) : Column :=
  ⟨name, physicalType, true, none, false, false, none, ""⟩
  ⟨"status", [column "status" "enum('new','paid')", column "Status" "enum('a')", column "sa_" "int",
    column "sa" "int", column "StatusStatus" "int"], []⟩

theorem crowdedStatus_named : DistinctNames [crowdedStatus] ∧ DistinctColumns [crowdedStatus] ∧
    ∃ e, ofTables [crowdedStatus] (RelationGraph.ofTables [crowdedStatus]) = .ok [e] ∧
      e.columns.map (·.attr) = ["status", "Status", "sa_", "sa_2", "StatusStatus_"] ∧
      e.enumerations.map (·.name) = ["StatusStatus", "StatusStatus2"] ∧
      e.ColumnsNamed ["Status"] := by
  have h : DistinctNames [crowdedStatus] := by decide
  have hcols : DistinctColumns [crowdedStatus] := by decide
  have hpaid : ColumnType.ofText (enumText "enum" "new" [("", "paid")]) =
      .ok (.enumeration ["new", "paid"]) :=
    ColumnType.ofText_enumText (by decide +kernel) "new" (by simp)
  have ha : ColumnType.ofText (enumText "enum" "a" []) = .ok (.enumeration ["a"]) :=
    ColumnType.ofText_enumText (by decide +kernel) "a" (by simp)
  let number : ColumnType := .ofSpec "int" ⟨.int, "Integer", none, none⟩ none none
  have hnumber : ColumnType.ofText "int" = .ok number := by decide +kernel
  let types :=
    crowdedStatus.columns.zip [.enumeration ["new", "paid"], .enumeration ["a"], number,
      number, number]
  have htypes : Plan.columnTypes crowdedStatus = .ok types :=
    Plan.columnTypes_eq
      (.cons hpaid (.cons ha (.cons hnumber (.cons hnumber (.cons hnumber .nil)))))
  have hnames : (ofPlan [("status", Plan.inRun [crowdedStatus] crowdedStatus types)]
      (RelationGraph.ofTables [crowdedStatus]) ["status"] crowdedStatus types
      (Plan.inRun [crowdedStatus] crowdedStatus types)).toOption.map
        (fun e => (e.className, e.columns.map (·.attr), e.enumerations.map (·.name))) =
      some ("Status", ["status", "Status", "sa_", "sa_2", "StatusStatus_"],
        ["StatusStatus", "StatusStatus2"]) := by
    decide +kernel
  obtain ⟨e, he, hshown⟩ := Option.map_eq_some_iff.mp hnames
  have hb := ofTables_singleton htypes (Outcome.toOption_eq_some_iff.mp he)
  have hnamed := ((columns_named h hcols).2 [e] hb).2 e List.mem_cons_self
  simp only [Prod.mk.injEq] at hshown
  rw [List.map_singleton, hshown.1] at hnamed
  exact ⟨h, hcols, e, hb, hshown.2.1, hshown.2.2, hnamed⟩

/-- A size that is made of a digit, but not of a decimal one. -/
def raisedSize : Table := ⟨"plot", [⟨"area", "varchar(²)", true, none, false, false, none, ""⟩], []⟩

/-- Distinct names alone do not make sure that there are entities. -/
theorem raisedSize_not_built : DistinctNames [raisedSize] ∧ DistinctColumns [raisedSize] ∧
    ofTables [raisedSize] (RelationGraph.ofTables [raisedSize]) =
      .error (.columnType (.malformed "'²'")) := by
  have hshown : (match ofTables [raisedSize] (RelationGraph.ofTables [raisedSize]) with
      | .error (.columnType fault) => some fault
      | _ => none) = some (.malformed "'²'") := by decide +kernel
  refine ⟨by decide, by decide, ?_⟩
  split at hshown
  · rename_i fault hfault
    rw [hfault, Option.some.inj hshown]
  · contradiction

end Entity

end CatalogEntities
