import CatalogEntities.Proofs.Entity.Collisions
import CatalogEntities.Proofs.Entity.Enumerations
import CatalogEntities.Proofs.Entity.MemberNames

/-!
No relation is lost in silence. Every end of a table is either a relation of its entity, under the
first of its names that was free, or a collision warning about the table; nothing else is either.
-/

namespace CatalogEntities

open Catalog Naming

namespace RelationGraph

theorem candidates_ne_empty {tables : List Table} (h : DistinctNames tables) {t : Table}
    (ht : t ∈ tables) {x : RelationEnd} (hx : x ∈ (ofTables tables).endsOf t.name) :
    ∀ c ∈ x.candidates t.name, c ≠ "" := by
  simp only [endsOf, List.mem_append, List.mem_map] at hx
  rcases hx with (⟨r, hr, rfl⟩ | ⟨r, hr, rfl⟩) | ⟨r, hr, rfl⟩
  · rw [forwardFor_eq h ht] at hr
    simp only [RelationEnd.candidates, Plan.forwardCandidates]
    exact forwardFrom_names_ne_empty hr
  · obtain ⟨u, -, -, f, -, rfl⟩ := (mem_inverseFor h).mp hr
    simp only [RelationEnd.candidates, Plan.inverseCandidates, mirror, List.forall_mem_cons]
    exact ⟨inverseName_ne_empty _, inverseAlternate_ne_empty _ _, List.forall_mem_nil _⟩
  · obtain ⟨-, -, -, u, -, -, hthrough⟩ := mem_manyToMany h (mem_manyToManyFor.mp hr).1
    simp only [RelationEnd.candidates, Plan.manyToManyCandidates, List.forall_mem_cons]
    exact ⟨r.nameFor_ne_empty hthrough t.name, r.alternateFor_ne_empty t.name,
      List.forall_mem_nil _⟩

end RelationGraph

namespace Plan

/-- The ends of a table with the names that its plan has for them. -/
def answers (tables : List Table) (t : Table) (types : List (Column × ColumnType)) :
    List (RelationEnd × Option String) :=
  ((RelationGraph.ofTables tables).endsOf t.name).map fun x => (x, (inRun tables t types).nameOf? x)

/-- The warnings about the ends of a table that were given no name. -/
def refusals (table : String) (given : List (RelationEnd × Option String)) : List SchemaWarning :=
  (given.filter (·.2.isNone)).map fun (x, _) => refusal table x.label (x.candidates table)

/-- In a run every claim is the request of one end, answered with the name that the end has. -/
theorem claims_inRun {tables : List Table} (h : DistinctNames tables) (hkeys : SingleKeys tables)
    {t : Table} (ht : t ∈ tables) (types : List (Column × ColumnType)) :
    (inRun tables t types).claims = ((RelationGraph.ofTables tables).endsOf t.name).map fun x =>
      ⟨x.label, x.candidates t.name, (inRun tables t types).nameOf? x⟩ := by
  have hrequests : (inRun tables t types).claims.map (fun c => (c.label, c.candidates)) =
      ((RelationGraph.ofTables tables).endsOf t.name).map fun x =>
        (x.label, (x.candidates t.name).filter (!·.isEmpty)) := claims_requests _ _ _ _
  have hnames : (inRun tables t types).claims.map (·.name) =
      ((RelationGraph.ofTables tables).endsOf t.name).map (inRun tables t types).nameOf? :=
    claims_names (RelationGraph.endsOf_keys_distinct h hkeys ht)
  have hwanted : ((RelationGraph.ofTables tables).endsOf t.name).map
      (fun x => (x.label, (x.candidates t.name).filter (!·.isEmpty))) =
      ((RelationGraph.ofTables tables).endsOf t.name).map fun x =>
        (x.label, x.candidates t.name) := by
    refine List.map_congr_left fun x hx => ?_
    have hall : (x.candidates t.name).filter (!·.isEmpty) = x.candidates t.name :=
      List.filter_eq_self.mpr fun c hc =>
        by simpa using RelationGraph.candidates_ne_empty h ht hx c hc
    rw [hall]
  have hzip := congrArg₂ List.zip (hrequests.trans hwanted) hnames
  rw [List.zip_map', List.zip_map'] at hzip
  have hclaims := congrArg
    (List.map fun ((label, candidates), name) => NameClaim.mk label candidates name) hzip
  simpa only [List.map_map, Function.comp_def, List.map_id'] using hclaims

theorem collisions_inRun {tables : List Table} (h : DistinctNames tables)
    (hkeys : SingleKeys tables) {t : Table} (ht : t ∈ tables) (types : List (Column × ColumnType)) :
    Notice.collisions (inRun tables t types).notices =
      refusals t.name (answers tables t types) := by
  have htable : (inRun tables t types).table = t.name := by simp only [inRun, ofTypes_table]
  rw [collisions_notices, claims_inRun h hkeys ht, htable]
  simp only [refusals, answers, List.filter_map, List.map_map, Function.comp_def]

end Plan

/-- What came of the ends of an entity's table: each was given the first of its names that was
free, or none, and the relations of the entity are those that were given one. -/
structure Entity.Settled (graph : RelationGraph) (e : Entity)
    (given : List (RelationEnd × Option String)) : Prop where
  ends : given.map (·.1) = graph.endsOf e.table.name
  granted : Granted (moduleNames ++ e.enumerations.map (·.name) ++ e.columns.map (·.attr))
    (given.map fun (x, _) => x.candidates e.table.name) (given.map (·.2))
  shown : e.relations.map (fun r => (r.kind, r.targetTable, r.name)) =
    given.filterMap fun (x, name?) => name?.map fun name => (x.kind, x.target e.table.name, name)

namespace Entity.Built

variable {tables : List Table} {plans : Plans} {t : Table} {types : List (Column × ColumnType)}
  {e : Entity}

/-- The names in use before any relation asks for one can be read off the entity. -/
theorem mem_used_iff (h : Built tables plans t types e) (hcols : (t.columns.map (·.name)).Nodup)
    {name : String} :
    name ∈ (Plan.usedByMembers (classNames tables) t types).names ↔
      name ∈ moduleNames ++ e.enumerations.map (·.name) ++ e.columns.map (·.attr) := by
  have henums := h.enumerations_planned hcols
  have hattrs := congrArg (List.map Prod.snd) (h.attribute_pairs hcols)
  rw [List.map_map] at hattrs
  rw [Plan.mem_usedByMembers _ (RelationGraph.ofTables tables), henums, ← hattrs]
  rfl

theorem settled (h : Built tables plans t types e) (hnames : DistinctNames tables)
    (hcols : (t.columns.map (·.name)).Nodup) (hkeys : SingleKeys tables) (ht : t ∈ tables) :
    Settled (RelationGraph.ofTables tables) e (Plan.answers tables t types) := by
  obtain ⟨htable, -, -, -, -, hrelations⟩ := h.fields
  refine ⟨?_, ?_, ?_⟩
  · simp only [Plan.answers, List.map_map, Function.comp_def, List.map_id', htable]
  · have hgranted := (Plan.claims_granted (classNames tables) (RelationGraph.ofTables tables) t
      types).congr fun c => h.mem_used_iff hcols
    have hclaims := Plan.claims_inRun hnames hkeys ht types
    rw [Plan.inRun] at hclaims
    rw [hclaims] at hgranted
    simpa only [Plan.answers, Plan.inRun, List.map_map, Function.comp_def, htable] using hgranted
  · rw [hrelations, Plan.answers, List.map_filterMap, List.filterMap_map, htable]
    refine List.filterMap_congr fun x _ => ?_
    simp only [Function.comp_apply, Option.map_map, Function.comp_def, shown_kind, shown_target,
      shown_name]

end Entity.Built

namespace Entity

/-- A run either stops at a column type without a meaning, or has one entity for each table, and
every end of the table is settled: it is a relation of the entity under the first of its names
that was free, or one collision warning about the table. There are no other relations and no
other collision warnings. -/
theorem ends_shown_or_refused {tables : List Table} (h : DistinctNames tables)
    (hcols : DistinctColumns tables) (hkeys : SingleKeys tables) :
    (∃ t ∈ tables, ∃ c ∈ t.columns, ∃ fault, ColumnType.ofText c.physicalType = .error fault ∧
      ofTables tables (RelationGraph.ofTables tables) = .error (.columnType fault)) ∨
    ∃ entities, ofTables tables (RelationGraph.ofTables tables) = .ok entities ∧
      entities.map (·.table) = sortTables tables ∧
      ∃ given : Table → List (RelationEnd × Option String),
        (∀ e ∈ entities, Settled (RelationGraph.ofTables tables) e (given e.table)) ∧
        Notice.collisions (Generation.notices tables) =
          (sortTables tables).flatMap fun t => Plan.refusals t.name (given t) := by
  refine (ofTables_total h).imp_right ?_
  rintro ⟨entities, hb⟩
  obtain ⟨plans, hall⟩ := ofTables_built h hb
  obtain ⟨planned, hplanned, -⟩ := Outcome.bind_ok_iff.mp hb
  rw [Outcome.mapError_ok_iff] at hplanned
  -- Tables that were not built have no answers; none of them is left once the run succeeds.
  obtain ⟨given, hgiven⟩ : ∃ given : Table → List (RelationEnd × Option String), ∀ t types,
      Plan.columnTypes t = .ok types → given t = Plan.answers tables t types := by
    refine ⟨fun t => ((Plan.columnTypes t).map (Plan.answers tables t)).toOption.getD [], ?_⟩
    intro t types htypes
    simp only [htypes, Except.map, Except.toOption, Option.getD_some]
  refine ⟨entities, hb, ofTables_tables h hb, given, ?_, ?_⟩
  · intro e he
    obtain ⟨t, ht, types, hbuilt⟩ := Outcome.mem_right hall he
    have ht : t ∈ tables := mem_sortTables.mp ht
    rw [hbuilt.fields.1, hgiven t types hbuilt.types_ok]
    exact hbuilt.settled h (hcols t ht) hkeys ht
  · rw [collisions_run hplanned, List.flatMap_def, List.flatMap_def]
    refine congrArg List.flatten (Outcome.map_eq (Outcome.mapM_ok_iff.mp hplanned) ?_).symm
    intro t ht plan hplan
    obtain ⟨types, htypes, rfl⟩ := Plan.ofTable_ok_iff.mp hplan
    rw [hgiven t types htypes]
    exact (Plan.collisions_inRun h hkeys (mem_sortTables.mp ht) types).symm

/-- A table whose own columns have both names that its relation asks for. -/
def takenNames : List Table :=
  let column (name : String) : Column := ⟨name, "int", true, none, false, false, none, ""⟩
  [⟨"node", ["id", "parent", "fk_node", "fk_node_parent"].map column,
    [⟨"node", "parent", "node", "id", none⟩]⟩]

theorem takenNames_refused : DistinctNames takenNames ∧ DistinctColumns takenNames ∧
    SingleKeys takenNames ∧
    Notice.collisions (Generation.notices takenNames) =
      [Plan.refusal "node" "forward relation on 'parent'" ["fk_node", "fk_node_parent"]] ∧
    ∃ entities, ofTables takenNames (RelationGraph.ofTables takenNames) = .ok entities ∧
      entities.map (·.table) = sortTables takenNames ∧
      ∃ given : Table → List (RelationEnd × Option String),
        (∀ e ∈ entities, Settled (RelationGraph.ofTables takenNames) e (given e.table)) ∧
        Notice.collisions (Generation.notices takenNames) =
          (sortTables takenNames).flatMap fun t => Plan.refusals t.name (given t) := by
  have h : DistinctNames takenNames := by decide
  have hcols : DistinctColumns takenNames := by decide
  have hkeys : SingleKeys takenNames := by decide
  have hread : ∀ t ∈ takenNames, ∀ c ∈ t.columns, (ColumnType.ofText c.physicalType).isOk := by
    decide +kernel
  refine ⟨h, hcols, hkeys, by decide +kernel, (ends_shown_or_refused h hcols hkeys).resolve_left ?_⟩
  rintro ⟨t, ht, c, hc, fault, hfault, -⟩
  have hok := hread t ht c hc
  rw [hfault] at hok
  exact Bool.false_ne_true hok

end Entity

end CatalogEntities
