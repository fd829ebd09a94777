import CatalogEntities.Entity.Build
import CatalogEntities.Proofs.Entity.Plan
import CatalogEntities.Proofs.Outcome

/-!
The entities of a run whose tables have distinct names. Each table is built from the plan of its
own name, its relations are the ends that were given a name, and the only thing that can stop a
build is a column type without a meaning.
-/

namespace CatalogEntities

open Catalog Naming

/-- The classes of all entities of a run. -/
def Entity.classNames (tables : List Table) : List String :=
  (sortTables tables).map fun t => Naming.className t.name

/-- The plan of a table whose column types are known. -/
def Plan.inRun (tables : List Table) (t : Table) (types : List (Column × ColumnType)) : Plan :=
  Plan.ofTypes (Entity.classNames tables) (RelationGraph.ofTables tables) t types

theorem Plan.columnTypes_columns {t : Table} {types : List (Column × ColumnType)}
    (h : columnTypes t = .ok types) : types.map (·.1) = t.columns := by
  have hall := Outcome.mapM_ok_iff.mp h
  rw [← List.map_id t.columns]
  refine (Outcome.map_eq hall fun c _ pair hpair => ?_).symm
  obtain ⟨type, -, rfl⟩ := Outcome.map_ok_iff.mp hpair
  rfl

theorem Plan.columnTypes_eq {t : Table} {types : List ColumnType}
    (h : List.Forall₂ (fun c type => ColumnType.ofText c.physicalType = .ok type) t.columns types) :
    columnTypes t = .ok (t.columns.zip types) := by
  rw [columnTypes, Outcome.mapM_ok_iff]
  generalize t.columns = columns at h
  induction h with
  | nil => exact .nil
  | cons hread _ ih => exact .cons (Outcome.map_ok_iff.mpr ⟨_, hread, rfl⟩) ih

theorem Plan.ofTable_ok_iff {classes : List String} {graph : RelationGraph} {t : Table}
    {plan : Plan} :
    ofTable classes graph t = .ok plan ↔
      ∃ types, columnTypes t = .ok types ∧ ofTypes classes graph t types = plan :=
  Outcome.map_ok_iff

namespace Entity

/-- The relation that stands for an end under a name. -/
def shown (plans : Plans) (graph : RelationGraph) (t : Table) :
    RelationEnd → String → EntityRelation
  | .forward r => forwardRelation plans graph t r
  | .inverse r => inverseRelation plans r
  | .manyToMany r => manyToManyRelation plans t.name r

section

variable (plans : Plans) (graph : RelationGraph) (t : Table) (x : RelationEnd) (name : String)

@[simp] theorem shown_name : (shown plans graph t x name).name = name := by cases x <;> rfl

@[simp] theorem shown_kind : (shown plans graph t x name).kind = x.kind := by cases x <;> rfl

@[simp] theorem shown_target : (shown plans graph t x name).targetTable = x.target t.name := by
  cases x <;> rfl

end

/-- What a column of an entity is made of. -/
theorem columnsOf_made {plan : Plan} {known : List String} {t : Table}
    {types : List (Column × ColumnType)} {columns : List EntityColumn}
    (h : columnsOf plan known t types = .ok columns) :
    List.Forall₂ (fun (pair : Column × ColumnType) c =>
      plan.attributes.get? pair.1.name = some c.attr ∧ c.column = pair.1 ∧ c.type = pair.2 ∧
        c.enumeration = plan.enumerations.get? pair.1.name ∧
        c.foreignKey = (t.foreignKey? pair.1.name).filter fun key =>
          known.contains key.referencedTable)
      types columns := by
  induction types generalizing columns with
  | nil =>
    obtain rfl := Except.ok.inj h
    exact .nil
  | cons head rest ih =>
    obtain ⟨c, type⟩ := head
    simp only [columnsOf] at h
    split at h
    · cases h
    · rename_i attr hattr
      obtain ⟨more, hmore, rfl⟩ := Outcome.map_ok_iff.mp h
      exact .cons ⟨hattr, rfl, rfl, rfl, rfl⟩ (ih hmore)

theorem columnsOf_ok {plan : Plan} {known : List String} {t : Table}
    {types : List (Column × ColumnType)} {columns : List EntityColumn}
    (h : columnsOf plan known t types = .ok columns) :
    columns.map (·.column) = types.map (·.1) ∧
      ∀ c ∈ columns, plan.attributes.get? c.column.name = some c.attr := by
  have hmade := columnsOf_made h
  refine ⟨(Outcome.map_eq hmade fun pair _ c hc => hc.2.1.symm).symm, fun c hc => ?_⟩
  obtain ⟨pair, -, hattr, hcolumn, -⟩ := Outcome.mem_right hmade hc
  rwa [hcolumn]

theorem columnsOf_total {plan : Plan} (known : List String) (t : Table)
    {types : List (Column × ColumnType)}
    (h : ∀ c ∈ types.map (·.1), ∃ attr, plan.attributes.get? c.name = some attr) :
    ∃ columns, columnsOf plan known t types = .ok columns := by
  induction types with
  | nil => exact ⟨[], rfl⟩
  | cons head rest ih =>
    obtain ⟨c, type⟩ := head
    obtain ⟨attr, hattr⟩ := h c (by simp)
    obtain ⟨more, hmore⟩ := ih fun c' hc' => h c' (List.mem_cons_of_mem _ hc')
    simp [columnsOf, hattr, hmore, Except.map]

/-- What an entity is made of, whichever plan its names are from. -/
theorem ofPlan_fields {plans : Plans} {graph : RelationGraph} {known : List String} {t : Table}
    {types : List (Column × ColumnType)} {plan : Plan} {e : Entity}
    (h : ofPlan plans graph known t types plan = .ok e) :
    e.table = t ∧ e.className = plan.className ∧ e.moduleName = plan.moduleName ∧
      columnsOf plan known t types = .ok e.columns ∧
      e.enumerations = t.columns.filterMap (fun c => plan.enumerations.get? c.name) ∧
      e.relations = (graph.endsOf t.name).filterMap
        (fun x => (plan.nameOf? x).map (shown plans graph t x)) ∧
      e.related = relatedOf t.name e.relations ∧
      e.imports = importsFor e.columns e.relations !e.related.isEmpty := by
  simp only [ofPlan] at h
  obtain ⟨columns, hcolumns, rfl⟩ := Outcome.map_ok_iff.mp h
  refine ⟨rfl, rfl, rfl, hcolumns, rfl, ?_, rfl, rfl⟩
  simp only [relations, named, RelationGraph.endsOf, List.filterMap_append, List.filterMap_map,
    Function.comp_def, Plan.nameOf?, shown]

/-- `e` is the entity of `t` in a run with the given plans. -/
structure Built (tables : List Table) (plans : Plans) (t : Table)
    (types : List (Column × ColumnType)) (e : Entity) : Prop where
  types_ok : Plan.columnTypes t = .ok types
  planned : plans.get? t.name = some (Plan.inRun tables t types)
  entity_ok : ofPlan plans (RelationGraph.ofTables tables) (knownNames tables) t types
    (Plan.inRun tables t types) = .ok e

namespace Built

variable {tables : List Table} {plans : Plans} {t : Table} {types : List (Column × ColumnType)}
  {e : Entity}

theorem fields (h : Built tables plans t types e) :
    e.table = t ∧ e.className = Naming.className t.name ∧ e.moduleName = Naming.moduleName t.name ∧
      columnsOf (Plan.inRun tables t types) (knownNames tables) t types = .ok e.columns ∧
      e.enumerations = t.columns.filterMap
        (fun c => (Plan.inRun tables t types).enumerations.get? c.name) ∧
      e.relations = ((RelationGraph.ofTables tables).endsOf t.name).filterMap fun x =>
        ((Plan.inRun tables t types).nameOf? x).map
          (shown plans (RelationGraph.ofTables tables) t x) := by
  obtain ⟨htable, hclass, hmodule, hcolumns, henums, hrelations, -⟩ := ofPlan_fields h.entity_ok
  rw [Plan.inRun, Plan.ofTypes_className] at hclass
  rw [Plan.inRun, Plan.ofTypes_moduleName] at hmodule
  exact ⟨htable, hclass, hmodule, hcolumns, henums, hrelations⟩

end Built

/-- `e` is the entity of `t` under names that were planned for `u`, a table of the same name. -/
structure PlannedAs (tables : List Table) (graph : RelationGraph) (plans : Plans) (t u : Table)
    (types planned : List (Column × ColumnType)) (e : Entity) : Prop where
  mem : u ∈ tables
  name_eq : u.name = t.name
  types_ok : Plan.columnTypes t = .ok types
  planned_ok : Plan.columnTypes u = .ok planned
  entity_ok : ofPlan plans graph (knownNames tables) t types
    (Plan.ofTypes (classNames tables) graph u planned) = .ok e

/-- No column of a table is unknown to its own plan. -/
theorem ofPlan_total (tables : List Table) (plans : Plans) (known : List String) {t : Table}
    {types : List (Column × ColumnType)} (htypes : Plan.columnTypes t = .ok types) :
    ∃ e, ofPlan plans (RelationGraph.ofTables tables) known t types (Plan.inRun tables t types) =
      .ok e := by
  have hattrs : ∀ c ∈ types.map (·.1),
      ∃ attr, (Plan.inRun tables t types).attributes.get? c.name = some attr := by
    intro c hc
    rw [Plan.columnTypes_columns htypes] at hc
    have hkey : c.name ∈ (Plan.attributePairs (classNames tables) t types).map (·.1) := by
      rw [Plan.attributePairs, Plan.attributesFrom_columns]
      exact List.mem_map_of_mem hc
    exact Assoc.get?_ofPairs_of_mem hkey
  obtain ⟨columns, hcolumns⟩ := columnsOf_total known t hattrs
  simp only [ofPlan, hcolumns, Except.map, Except.ok.injEq, exists_eq']

/-- What a build returns, also where tables share a name: one of them is then planned for all. -/
theorem ofTables_planned {tables : List Table} {graph : RelationGraph} {entities : List Entity}
    (hb : ofTables tables graph = .ok entities) :
    ∃ plans,
    List.Forall₂ (fun t e => ∃ u types planned, PlannedAs tables graph plans t u types planned e)
      (sortTables tables) entities := by
  obtain ⟨plans, hplans, hentities⟩ := Outcome.bind_ok_iff.mp hb
  rw [Outcome.mapError_ok_iff] at hplans
  refine ⟨.ofPairs (plans.map fun plan => (plan.table, plan)),
    (Outcome.mapM_ok_iff.mp hentities).imp fun t e he => ?_⟩
  obtain ⟨types, htypes, hplanned⟩ := Outcome.bind_ok_iff.mp he
  rw [Outcome.mapError_ok_iff] at htypes
  split at hplanned
  · rename_i plan hplan
    rw [Outcome.mapError_ok_iff] at hplanned
    obtain ⟨plan', hmem, hpair⟩ := List.mem_map.mp (Assoc.mem_of_get?_ofPairs hplan)
    obtain ⟨hname, rfl⟩ := Prod.mk.inj hpair
    obtain ⟨u, hu, huplan⟩ := Outcome.mem_right (Outcome.mapM_ok_iff.mp hplans) hmem
    obtain ⟨planned, hutypes, rfl⟩ := Plan.ofTable_ok_iff.mp huplan
    rw [Plan.ofTypes_table] at hname
    exact ⟨u, types, planned, mem_sortTables.mp hu, hname, htypes, hutypes, hplanned⟩
  · cases hplanned

/-- Entities stand in the order of their tables and are named after them; tables may share
a name. -/
theorem ofTables_named {tables : List Table} {graph : RelationGraph} {entities : List Entity}
    (hb : ofTables tables graph = .ok entities) :
    List.Forall₂ (fun t e => e.table = t ∧ e.className = Naming.className t.name ∧
      e.moduleName = Naming.moduleName t.name) (sortTables tables) entities := by
  obtain ⟨plans, hall⟩ := ofTables_planned hb
  refine hall.imp fun t e ⟨u, types, planned, h⟩ => ?_
  obtain ⟨htable, hclass, hmodule, -⟩ := ofPlan_fields h.entity_ok
  rw [Plan.ofTypes_className, h.name_eq] at hclass
  rw [Plan.ofTypes_moduleName, h.name_eq] at hmodule
  exact ⟨htable, hclass, hmodule⟩

section

variable {tables : List Table} (h : DistinctNames tables)
include h

/-- Every table finds its own plan among the plans of the run. -/
theorem get?_plans {plans : List Plan}
    (hplans : Plan.ofTables (RelationGraph.ofTables tables) (sortTables tables) = .ok plans)
    {t : Table} (ht : t ∈ tables) : ∃ types, Plan.columnTypes t = .ok types ∧
      (Assoc.ofPairs (plans.map fun plan => (plan.table, plan))).get? t.name =
        some (Plan.inRun tables t types) := by
  have hall : List.Forall₂ (fun u plan => ∃ types, Plan.columnTypes u = .ok types ∧
      Plan.inRun tables u types = plan) (sortTables tables) plans :=
    (Outcome.mapM_ok_iff.mp hplans).imp fun u plan hplan => Plan.ofTable_ok_iff.mp hplan
  have hkeys : (plans.map fun plan => (plan.table, plan)).map (·.1) = knownNames tables := by
    rw [List.map_map, knownNames]
    refine (Outcome.map_eq hall fun u _ plan hplan => ?_).symm
    obtain ⟨types, -, rfl⟩ := hplan
    simp only [Function.comp_apply, Plan.inRun, Plan.ofTypes_table]
  have hnodup : ((plans.map fun plan => (plan.table, plan)).map (·.1)).Nodup := by
    rw [hkeys]
    exact h.known
  obtain ⟨plan, hplan, types, htypes, rfl⟩ := Outcome.mem_left hall (mem_sortTables.mpr ht)
  refine ⟨types, htypes, ?_⟩
  refine (Assoc.get?_ofPairs_eq_some_iff hnodup).mpr (List.mem_map.mpr ⟨_, hplan, ?_⟩)
  simp only [Plan.inRun, Plan.ofTypes_table]

/-- What a build returns: for each table in order the entity built from its own plan. -/
theorem ofTables_built {entities : List Entity}
    (hb : ofTables tables (RelationGraph.ofTables tables) = .ok entities) :
    ∃ plans, List.Forall₂ (fun t e => ∃ types, Built tables plans t types e)
      (sortTables tables) entities := by
  obtain ⟨plans, hplans, hentities⟩ := Outcome.bind_ok_iff.mp hb
  rw [Outcome.mapError_ok_iff] at hplans
  refine ⟨.ofPairs (plans.map fun plan => (plan.table, plan)), ?_⟩
  have hall := Outcome.mapM_ok_iff.mp hentities
  rw [List.forall₂_iff_zip] at hall ⊢
  refine ⟨hall.1, fun {t e} hmem => ?_⟩
  have ht : t ∈ tables := mem_sortTables.mp (List.of_mem_zip hmem).1
  obtain ⟨types, htypes, hplan⟩ := get?_plans h hplans ht
  obtain ⟨types', htypes', hplanned⟩ := Outcome.bind_ok_iff.mp (hall.2 hmem)
  rw [Outcome.mapError_ok_iff, htypes, Except.ok.injEq] at htypes'
  subst htypes'
  simp only [hplan, Outcome.mapError_ok_iff] at hplanned
  exact ⟨types, htypes, hplan, hplanned⟩

/-- One entity per table, sorted by table name. -/
theorem ofTables_tables {entities : List Entity}
    (hb : ofTables tables (RelationGraph.ofTables tables) = .ok entities) :
    entities.map (·.table) = sortTables tables := by
  obtain ⟨plans, hall⟩ := ofTables_built h hb
  rw [← List.map_id (sortTables tables)]
  exact (Outcome.map_eq hall fun t _ e ⟨_, hbuilt⟩ => hbuilt.fields.1.symm).symm

/-- A build succeeds unless a column type has no meaning, and then fails with that type's fault. -/
theorem ofTables_total :
    (∃ t ∈ tables, ∃ c ∈ t.columns, ∃ fault, ColumnType.ofText c.physicalType = .error fault ∧
      ofTables tables (RelationGraph.ofTables tables) = .error (.columnType fault)) ∨
    ∃ entities, ofTables tables (RelationGraph.ofTables tables) = .ok entities := by
  cases hplans : Plan.ofTables (RelationGraph.ofTables tables) (sortTables tables) with
  | error fault =>
    left
    obtain ⟨t, ht, hplan⟩ := Outcome.mapM_error hplans
    obtain ⟨c, hc, htype⟩ := Outcome.mapM_error (Outcome.map_error_iff.mp hplan)
    refine ⟨t, mem_sortTables.mp ht, c, hc, fault, Outcome.map_error_iff.mp htype, ?_⟩
    simp only [ofTables, hplans, Except.mapError, bind, Except.bind]
  | ok plans =>
    right
    have hall : ∀ t ∈ sortTables tables, ∃ e,
        ofTable (.ofPairs (plans.map fun plan => (plan.table, plan)))
          (RelationGraph.ofTables tables)
          (knownNames tables) t = .ok e := by
      intro t ht
      obtain ⟨types, htypes, hplan⟩ := get?_plans h hplans (mem_sortTables.mp ht)
      obtain ⟨e, he⟩ := ofPlan_total tables (.ofPairs (plans.map fun plan => (plan.table, plan)))
        (knownNames tables) htypes
      exact ⟨e, by simp only [ofTable, htypes, hplan, he, Except.mapError, bind, Except.bind]⟩
    obtain ⟨entities, hentities⟩ := Outcome.mapM_total hall
    refine ⟨entities, ?_⟩
    simp only [ofTables, hplans, Except.mapError, bind, Except.bind]
    exact hentities

theorem ofTables_of_readable
    (hread : ∀ t ∈ tables, ∀ c ∈ t.columns, (ColumnType.ofText c.physicalType).isOk) :
    ∃ entities, ofTables tables (RelationGraph.ofTables tables) = .ok entities := by
  rcases ofTables_total h with ⟨t, ht, c, hc, fault, hfault, -⟩ | hok
  · have hok := hread t ht c hc
    rw [hfault] at hok
    exact absurd hok Bool.false_ne_true
  · exact hok

omit h in
/-- A run of one table. -/
theorem ofTables_singleton {t : Table} {types : List (Column × ColumnType)} {e : Entity}
    (htypes : Plan.columnTypes t = .ok types)
    (he : ofPlan [(t.name, Plan.inRun [t] t types)] (RelationGraph.ofTables [t]) [t.name] t types
      (Plan.inRun [t] t types) = .ok e) : ofTables [t] (RelationGraph.ofTables [t]) = .ok [e] := by
  have hsorted : sortTables [t] = [t] := List.perm_singleton.mp (sortTables_perm [t])
  have hplan : Plan.ofTables (RelationGraph.ofTables [t]) (sortTables [t]) =
      .ok [Plan.inRun [t] t types] := by
    rw [hsorted]
    refine Outcome.mapM_ok_iff.mpr (.cons (Plan.ofTable_ok_iff.mpr ⟨types, htypes, ?_⟩) .nil)
    rw [Plan.inRun, classNames, hsorted]
  refine Outcome.bind_ok_iff.mpr ⟨_, Outcome.mapError_ok_iff.mpr hplan, ?_⟩
  have hplans : Assoc.ofPairs ([Plan.inRun [t] t types].map fun plan => (plan.table, plan)) =
      [(t.name, Plan.inRun [t] t types)] := rfl
  rw [hsorted, hplans]
  refine Outcome.mapM_ok_iff.mpr (.cons (Outcome.bind_ok_iff.mpr ⟨types, ?_, ?_⟩) .nil)
  · exact Outcome.mapError_ok_iff.mpr htypes
  · simp only [Assoc.get?, List.lookup_cons_self]
    exact Outcome.mapError_ok_iff.mpr he

/-- The entity of a table among those that were built. -/
theorem exists_built {entities : List Entity}
    (hb : ofTables tables (RelationGraph.ofTables tables) = .ok entities) {t : Table}
    (ht : t ∈ tables) : ∃ e ∈ entities, e.table = t := by
  rw [← mem_sortTables, ← ofTables_tables h hb] at ht
  exact List.mem_map.mp ht

end

end Entity

end CatalogEntities
