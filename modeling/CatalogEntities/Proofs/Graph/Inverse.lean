import CatalogEntities.Proofs.Graph.Forward

/-!
Inverse relations of the graph of a run whose tables have distinct names: one for each table that
is no junction and refers to the target, made from its first relation to it.
-/

namespace CatalogEntities.RelationGraph

open Catalog Naming

/-- The inverse of a forward relation, seen from its target. -/
def mirror (r : ForwardRelation) : InverseRelation :=
  { table := r.referencedTable
    referencingTable := r.table
    column := r.column
    forwardName := r.name
    name := inverseName r.table
    alternate := inverseAlternate (inverseName r.table) r.column }

/-- The relations that have an inverse: those of tables that are no junctions. -/
def sources (tables : List Table) : Assoc String (List ForwardRelation) :=
  (forwardOf (sortTables tables)).filter fun (table, _) =>
    !(junctionNames (sortTables tables)).contains table

theorem mem_inverseTo {forward : Assoc String (List ForwardRelation)} {target : String}
    {inv : InverseRelation} : inv ∈ inverseTo forward target ↔
      ∃ table relations r, (table, relations) ∈ forward ∧
        relations.find? (·.referencedTable == target) = some r ∧
        inv = { mirror r with
          table := target
          referencingTable := table
          name := inverseName table
          alternate := inverseAlternate (inverseName table) r.column } := by
  simp only [inverseTo, List.mem_filterMap, Option.map_eq_some_iff, Prod.exists]
  constructor
  · rintro ⟨table, relations, hmem, r, hr, rfl⟩
    exact ⟨table, relations, r, hmem, hr, rfl⟩
  · rintro ⟨table, relations, r, hmem, hr, rfl⟩
    exact ⟨table, relations, hmem, r, hr, rfl⟩

/-- A target that nothing refers to has no entry in the graph, and no inverse relations. -/
theorem inverseFor_eq_inverseTo (tables : List Table) (target : String) :
    (ofTables tables).inverseFor target = inverseTo (sources tables) target := by
  change (Assoc.get? (List.map _ _) target).getD [] = _
  rw [Assoc.get?_map_self]
  split
  · rfl
  · rename_i hout
    symm
    rw [Option.getD_none, List.eq_nil_iff_forall_not_mem]
    intro inv hinv
    obtain ⟨table, relations, r, hmem, hr, -⟩ := mem_inverseTo.mp hinv
    apply hout
    rw [mem_sortNames, mem_distinct, List.mem_flatMap]
    refine ⟨(table, relations), hmem, List.mem_map.mpr ⟨r, List.mem_of_find?_eq_some hr, ?_⟩⟩
    simpa using List.find?_some hr

theorem inverseTo_referencing (forward : Assoc String (List ForwardRelation)) (target : String) :
    ((inverseTo forward target).map (·.referencingTable)).Sublist forward.keys := by
  induction forward with
  | nil => exact List.Sublist.refl _
  | cons entry rest ih =>
    obtain ⟨table, relations⟩ := entry
    simp only [inverseTo, List.filterMap_cons, Assoc.keys, List.map_cons] at ih ⊢
    cases relations.find? (·.referencedTable == target) with
    | none => exact ih.cons table
    | some r => exact ih.cons_cons table

section

variable {tables : List Table} (h : DistinctNames tables)
include h

theorem mem_sources {table : String} {relations : List ForwardRelation} :
    (table, relations) ∈ sources tables ↔ ∃ t ∈ tables, t.name = table ∧
      ¬ t.isJunction (knownNames tables) ∧ (ofTables tables).forwardFor t.name = relations ∧
      relations ≠ [] := by
  simp only [sources, forwardOf_eq h, declarations, List.mem_filter, List.mem_map, mem_sortTables,
    Prod.mk.injEq, Bool.not_eq_true', List.isEmpty_eq_false_iff, List.contains_eq_mem,
    decide_eq_false_iff_not]
  constructor
  · rintro ⟨⟨⟨t, ht, rfl, rfl⟩, hne⟩, hj⟩
    rw [mem_junctionNames h ht] at hj
    exact ⟨t, ht, rfl, hj, forwardFor_eq h ht, hne⟩
  · rintro ⟨t, ht, rfl, hj, rfl, hne⟩
    rw [forwardFor_eq h ht] at hne ⊢
    rw [mem_junctionNames h ht]
    exact ⟨⟨⟨t, ht, rfl, rfl⟩, hne⟩, hj⟩

/-- A table's inverse relations come from the first forward relation of each table to it. -/
theorem mem_inverseFor {target : String} {inv : InverseRelation} :
    inv ∈ (ofTables tables).inverseFor target ↔ ∃ t ∈ tables,
      ¬ t.isJunction (knownNames tables) ∧ ∃ r,
        ((ofTables tables).forwardFor t.name).find? (·.referencedTable == target) = some r ∧
        inv = mirror r := by
  rw [inverseFor_eq_inverseTo, mem_inverseTo]
  constructor
  · rintro ⟨table, relations, r, hmem, hr, rfl⟩
    obtain ⟨t, ht, rfl, hj, rfl, -⟩ := (mem_sources h).mp hmem
    have htable := (mem_forwardFor h ht (List.mem_of_find?_eq_some hr)).1
    have htarget : r.referencedTable = target := by simpa using List.find?_some hr
    exact ⟨t, ht, hj, r, hr, by simp only [mirror, htable, htarget]⟩
  · rintro ⟨t, ht, hj, r, hr, rfl⟩
    have htable := (mem_forwardFor h ht (List.mem_of_find?_eq_some hr)).1
    have htarget : r.referencedTable = target := by simpa using List.find?_some hr
    refine ⟨t.name, _, r, (mem_sources h).mpr ⟨t, ht, rfl, hj, rfl, ?_⟩, hr, ?_⟩
    · exact List.ne_nil_of_mem (List.mem_of_find?_eq_some hr)
    · simp only [mirror, htable, htarget]

/-- No table stands behind two inverse relations of one target. -/
theorem inverseFor_referencing_nodup (target : String) :
    (((ofTables tables).inverseFor target).map (·.referencingTable)).Nodup := by
  rw [inverseFor_eq_inverseTo]
  refine List.Nodup.sublist (inverseTo_referencing _ _) ?_
  rw [sources, forwardOf_eq h]
  exact Assoc.keys_filter_nodup (Assoc.keys_filter_nodup (declarations_nodup h) _) _

end

end CatalogEntities.RelationGraph
