import CatalogEntities.Proofs.Entity.Build

/-!
Which names the relations of an entity have. They are free of the names of columns and
enumerations, and they repeat one another exactly where two keys share a column whose name was
not dropped: the plan keeps one name for a column, the last that was claimed.
-/

namespace CatalogEntities

open Catalog Naming

namespace RelationGraph

/-- Only forward ends can share a key. -/
theorem endsOf_pairwise_iff {tables : List Table} (h : DistinctNames tables) (table : String)
    (P : RelationEnd → Prop) :
    ((ofTables tables).endsOf table).Pairwise (fun x y => x.SameKey y → P x) ↔
      ((ofTables tables).forwardFor table).Pairwise
        fun a b => a.column = b.column → P (.forward a) := by
  have hinverse : ((ofTables tables).inverseFor table).Pairwise
      fun a b => a.referencingTable ≠ b.referencingTable :=
    List.pairwise_map.mp (inverseFor_referencing_nodup h table)
  have hmany : ((ofTables tables).manyToManyFor table).Pairwise fun a b => a.pair ≠ b.pair :=
    List.pairwise_map.mp (manyToManyFor_pairs_nodup tables table)
  simp only [endsOf, List.pairwise_append, List.pairwise_map, RelationEnd.SameKey]
  constructor
  · intro hends
    exact hends.1.1
  · -- ends of two kinds never share a key, nor do two of another kind than forward
    intro hforward
    refine ⟨⟨hforward, hinverse.imp fun hne he => absurd he hne, ?_⟩,
      hmany.imp fun hne he => absurd he hne, ?_⟩
    · intro x hx y hy hkey
      obtain ⟨a, -, rfl⟩ := List.mem_map.mp hx
      obtain ⟨b, -, rfl⟩ := List.mem_map.mp hy
      exact hkey.elim
    · intro x hx y hy hkey
      obtain ⟨b, -, rfl⟩ := List.mem_map.mp hy
      rcases List.mem_append.mp hx with hx | hx
      · obtain ⟨a, -, rfl⟩ := List.mem_map.mp hx
        exact hkey.elim
      · obtain ⟨a, -, rfl⟩ := List.mem_map.mp hx
        exact hkey.elim

theorem endsOf_keys_distinct {tables : List Table} (h : DistinctNames tables)
    (hkeys : SingleKeys tables) {t : Table} (ht : t ∈ tables) :
    ((ofTables tables).endsOf t.name).Pairwise fun x y => ¬ x.SameKey y :=
  (endsOf_pairwise_iff h t.name fun _ => False).mpr
    (List.pairwise_map.mp (forwardFor_columns_nodup h hkeys ht))

end RelationGraph

namespace Plan

variable {classes : List String} {graph : RelationGraph} {t : Table}
  {types : List (Column × ColumnType)}

/-- Names repeat exactly where two ends share a key that has a name. -/
theorem names_nodup_iff :
    ((graph.endsOf t.name).filterMap (ofTypes classes graph t types).nameOf?).Nodup ↔
    (graph.endsOf t.name).Pairwise
      fun x y => x.SameKey y → (ofTypes classes graph t types).nameOf? x = none := by
  rw [List.nodup_iff_pairwise_ne, List.pairwise_filterMap]
  constructor
  · intro hdistinct
    refine hdistinct.imp fun {x y} hne hkey => ?_
    cases hx : (ofTypes classes graph t types).nameOf? x with
    | none => rfl
    | some name =>
      have hy := hx
      rw [nameOf?_congr _ hkey] at hy
      exact absurd rfl (hne name hx name hy)
  · intro hshared
    refine hshared.imp fun {x y} hnone name hx name' hy he => ?_
    subst he
    have hkey := sameKey_of_nameOf? hx hy
    rw [hnone hkey] at hx
    contradiction

end Plan

namespace Entity.Built

variable {tables : List Table} {plans : Plans} {t : Table} {types : List (Column × ColumnType)}
  {e : Entity}

theorem relation_names (h : Built tables plans t types e) : e.relations.map (·.name) =
    ((RelationGraph.ofTables tables).endsOf t.name).filterMap
      (Plan.inRun tables t types).nameOf? := by
  obtain ⟨-, -, -, -, -, hrelations⟩ := h.fields
  rw [hrelations, List.map_filterMap]
  refine List.filterMap_congr fun x _ => ?_
  simp only [Option.map_map, Function.comp_def, shown_name, Option.map_id']

theorem attributes_used (h : Built tables plans t types e) {name : String}
    (hname : name ∈ e.columns.map (·.attr)) :
    name ∈ (Plan.usedByMembers (classNames tables) t types).names := by
  obtain ⟨-, -, -, hcolumns, -, -⟩ := h.fields
  obtain ⟨c, hc, rfl⟩ := List.mem_map.mp hname
  have hget := (columnsOf_ok hcolumns).2 c hc
  rw [Plan.inRun, Plan.ofTypes_attributes] at hget
  rw [Plan.mem_usedByMembers _ (RelationGraph.ofTables tables)]
  exact List.mem_append_right _
    (List.mem_map_of_mem (f := Prod.snd) (Assoc.mem_of_get?_ofPairs hget))

theorem enumerations_used (h : Built tables plans t types e) {name : String}
    (hname : name ∈ e.enumerations.map (·.name)) :
    name ∈ (Plan.usedByMembers (classNames tables) t types).names := by
  obtain ⟨-, -, -, -, henums, -⟩ := h.fields
  obtain ⟨d, hd, rfl⟩ := List.mem_map.mp hname
  rw [henums] at hd
  obtain ⟨c, -, hget⟩ := List.mem_filterMap.mp hd
  have hvalue : d ∈ (Plan.inRun tables t types).enumerations.values :=
    List.mem_map_of_mem (f := Prod.snd) (Assoc.mem_of_get? hget)
  rw [Plan.mem_usedByMembers _ (RelationGraph.ofTables tables)]
  exact List.mem_append_left _ (List.mem_append_right _ (List.mem_map_of_mem hvalue))

/-- No relation has the name of an attribute or an enumeration of its entity. -/
theorem relation_name_fresh (h : Built tables plans t types e) {r : EntityRelation}
    (hr : r ∈ e.relations) :
    r.name ∉ e.columns.map (·.attr) ∧ r.name ∉ e.enumerations.map (·.name) := by
  have hname : r.name ∈ e.relations.map (·.name) := List.mem_map_of_mem hr
  rw [h.relation_names] at hname
  obtain ⟨x, -, hx⟩ := List.mem_filterMap.mp hname
  have hfree := Plan.nameOf?_not_used hx
  exact ⟨fun hm => hfree (h.attributes_used hm), fun hm => hfree (h.enumerations_used hm)⟩

theorem relation_names_nodup (h : Built tables plans t types e) (hnames : DistinctNames tables)
    (hkeys : SingleKeys tables) (ht : t ∈ tables) : (e.relations.map (·.name)).Nodup := by
  rw [h.relation_names, Plan.inRun, Plan.names_nodup_iff]
  exact (RelationGraph.endsOf_keys_distinct hnames hkeys ht).imp fun hne he => absurd he hne

end Entity.Built

namespace Entity

/-- The relations of an entity never take the name of an attribute or an enumeration. Their own
names are distinct exactly if any two forward relations on one column were both left without a
name; a plan in which two keys share a column and the last one is named emits that name twice. -/
theorem relation_names_nodup_iff {tables : List Table} {entities : List Entity}
    (h : DistinctNames tables)
    (hb : ofTables tables (RelationGraph.ofTables tables) = .ok entities)
    {e : Entity} (he : e ∈ entities) :
    ∃ plan, Plan.ofTable (classNames tables) (RelationGraph.ofTables tables) e.table = .ok plan ∧
      (∀ r ∈ e.relations,
        r.name ∉ e.columns.map (·.attr) ∧ r.name ∉ e.enumerations.map (·.name)) ∧
      ((e.relations.map (·.name)).Nodup ↔
        ((RelationGraph.ofTables tables).forwardFor e.table.name).Pairwise
          fun a b => a.column = b.column → plan.nameOf? (.forward a) = none) := by
  obtain ⟨plans, hall⟩ := ofTables_built h hb
  obtain ⟨t, -, types, hbuilt⟩ := Outcome.mem_right hall he
  obtain ⟨rfl, -⟩ := hbuilt.fields
  refine ⟨Plan.inRun tables e.table types, Plan.ofTable_ok_iff.mpr ⟨types, hbuilt.types_ok, rfl⟩,
    fun r hr => hbuilt.relation_name_fresh hr, ?_⟩
  rw [hbuilt.relation_names, Plan.inRun, Plan.names_nodup_iff,
    RelationGraph.endsOf_pairwise_iff h e.table.name]

/-- One column under two keys, as when two composite keys have a column in common. -/
def sharedParent : List Table :=
  let column (name : String) : Column := ⟨name, "int", true, none, false, false, none, ""⟩
  let key (target : String) : ForeignKey := ⟨"node", "parent", "node", target, none⟩
  [⟨"node", [column "id", column "parent"], [key "id", key "code"]⟩]

theorem sharedParent_member_names : DistinctNames sharedParent ∧ ∃ entities,
    ofTables sharedParent (RelationGraph.ofTables sharedParent) = .ok entities ∧
    ∃ e ∈ entities, ∃ plan,
      Plan.ofTable (classNames sharedParent) (RelationGraph.ofTables sharedParent) e.table =
        .ok plan ∧
      (∀ r ∈ e.relations,
        r.name ∉ e.columns.map (·.attr) ∧ r.name ∉ e.enumerations.map (·.name)) ∧
      ((e.relations.map (·.name)).Nodup ↔
        ((RelationGraph.ofTables sharedParent).forwardFor e.table.name).Pairwise
          fun a b => a.column = b.column → plan.nameOf? (.forward a) = none) := by
  have h : DistinctNames sharedParent := by decide
  obtain ⟨entities, hb⟩ := ofTables_of_readable h (by decide +kernel)
  obtain ⟨e, he, -⟩ := exists_built h hb List.mem_cons_self
  exact ⟨h, entities, hb, e, he, relation_names_nodup_iff h hb he⟩

/-- Tables and columns with distinct names are not enough for distinct relation names. -/
theorem sharedParent_repeats_name : DistinctNames sharedParent ∧
    DistinctColumns sharedParent ∧ ∃ entities,
      ofTables sharedParent (RelationGraph.ofTables sharedParent) = .ok entities ∧
      ∃ e ∈ entities, ¬ (e.relations.map (·.name)).Nodup := by
  have hnames : (ofTables sharedParent (RelationGraph.ofTables sharedParent)).toOption.map
      (·.map fun e => e.relations.map (·.name)) =
        some [["fk_node_parent", "fk_node_parent", "nodes"]] := by decide +kernel
  obtain ⟨entities, hb, hmap⟩ := Option.map_eq_some_iff.mp hnames
  obtain ⟨e, rfl, he⟩ := List.map_eq_singleton_iff.mp hmap
  refine ⟨by decide, by decide, [e], Outcome.toOption_eq_some_iff.mp hb, e, List.mem_cons_self, ?_⟩
  rw [he]
  decide

end Entity

end CatalogEntities
