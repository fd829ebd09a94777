import CatalogEntities.Graph
import CatalogEntities.Proofs.Assoc
import CatalogEntities.Proofs.Catalog

/-!
Forward relations of the graph of a run whose tables have distinct names: those under a table's
name are exactly the relations of its keys into the run, in catalog order.
-/

namespace CatalogEntities.RelationGraph

open Catalog Naming

theorem distinct_fold {α : Type} [BEq α] [LawfulBEq α] (xs acc : List α) (hacc : acc.Nodup) :
    (xs.foldl (fun acc x => if acc.contains x then acc else acc ++ [x]) acc).Nodup ∧
    ∀ x, x ∈ xs.foldl (fun acc x => if acc.contains x then acc else acc ++ [x]) acc ↔
      x ∈ acc ∨ x ∈ xs := by
  induction xs generalizing acc with
  | nil => simp [hacc]
  | cons head rest ih =>
    simp only [List.foldl_cons]
    -- the elements kept so far grow by the head, unless it is among them
    by_cases hm : head ∈ acc
    · obtain ⟨hn, hmem⟩ := ih acc hacc
      simp only [List.contains_eq_mem, hm, decide_true, ↓reduceIte] at hn hmem ⊢
      refine ⟨hn, fun x => ?_⟩
      rw [hmem, List.mem_cons]
      constructor
      · rintro (h | h) <;> simp [h]
      · rintro (h | rfl | h) <;> simp [*]
    · have hacc' : (acc ++ [head]).Nodup := by
        rw [List.nodup_append]
        refine ⟨hacc, List.nodup_singleton head, ?_⟩
        intro a ha b hb
        rw [List.mem_singleton.mp hb]
        exact fun he => hm (he ▸ ha)
      obtain ⟨hn, hmem⟩ := ih (acc ++ [head]) hacc'
      simp only [List.contains_eq_mem, hm, decide_false, Bool.false_eq_true, ↓reduceIte]
        at hn hmem ⊢
      refine ⟨hn, fun x => ?_⟩
      rw [hmem, List.mem_append, List.mem_singleton, List.mem_cons, or_assoc]

@[simp] theorem mem_distinct {names : List String} {name : String} :
    name ∈ distinct names ↔ name ∈ names := by
  have h := (distinct_fold names [] List.nodup_nil).2 name
  simpa only [distinct, List.not_mem_nil, false_or] using h

theorem distinct_sublist (names : List String) : (distinct names).Sublist names := by
  suffices h : ∀ acc : List String, ∃ kept : List String, kept.Sublist names ∧
      names.foldl (fun acc name => if acc.contains name then acc else acc ++ [name]) acc =
        acc ++ kept by
    obtain ⟨kept, hkept, heq⟩ := h []
    rwa [distinct, heq, List.nil_append]
  intro acc
  induction names generalizing acc with
  | nil => exact ⟨[], List.Sublist.refl _, by simp⟩
  | cons head rest ih =>
    rw [List.foldl_cons]
    split
    · obtain ⟨kept, hkept, heq⟩ := ih acc
      exact ⟨kept, hkept.cons head, heq⟩
    · obtain ⟨kept, hkept, heq⟩ := ih (acc ++ [head])
      exact ⟨head :: kept, hkept.cons_cons head,
        by rw [heq, List.append_assoc, List.singleton_append]⟩

/-- What a relation keeps of its key. -/
theorem forwardFrom_keys (known : List String) (table : String) (fromJunction : Bool)
    (seen : List String) (keys : List ForeignKey) :
    (forwardFrom known table fromJunction seen keys).map
        (fun r => (r.column, r.referencedTable, r.referencedColumn)) =
      (keys.filter fun key => known.contains key.referencedTable).map
        (fun key => (key.column, key.referencedTable, key.referencedColumn)) := by
  induction keys generalizing seen with
  | nil => rfl
  | cons key rest ih =>
    by_cases hk : key.referencedTable ∈ known
    · simp [forwardFrom, hk, ih]
    · simp [forwardFrom, hk, ih]

theorem forwardFrom_columns (known : List String) (table : String) (fromJunction : Bool)
    (seen : List String) (keys : List ForeignKey) :
    (forwardFrom known table fromJunction seen keys).map (·.column) =
      (keys.filter fun key => known.contains key.referencedTable).map (·.column) := by
  have h := congrArg (List.map (·.1)) (forwardFrom_keys known table fromJunction seen keys)
  simpa only [List.map_map, Function.comp_def] using h

theorem mem_forwardFrom {known : List String} {table : String} {fromJunction : Bool}
    {seen : List String} {keys : List ForeignKey} {r : ForwardRelation}
    (hr : r ∈ forwardFrom known table fromJunction seen keys) :
    r.table = table ∧ r.fromJunction = fromJunction ∧ r.referencedTable ∈ known := by
  induction keys generalizing seen with
  | nil => simp [forwardFrom] at hr
  | cons key rest ih =>
    by_cases hk : key.referencedTable ∈ known
    · simp only [forwardFrom, List.contains_eq_mem, hk, decide_true, ↓reduceIte,
        List.mem_cons] at hr
      rcases hr with rfl | hr
      · exact ⟨rfl, rfl, hk⟩
      · exact ih hr
    · simp only [forwardFrom, List.contains_eq_mem, hk, decide_false, Bool.false_eq_true,
        ↓reduceIte] at hr
      exact ih hr

/-- The relations that a table declares in a run. -/
def declared (tables : List Table) (t : Table) : List ForwardRelation :=
  forwardFrom (knownNames tables) t.name ((junctionNames (sortTables tables)).contains t.name) []
    t.foreignKeys

/-- The same for every table, under its name. -/
def declarations (tables : List Table) : Assoc String (List ForwardRelation) :=
  (sortTables tables).map fun t => (t.name, declared tables t)

theorem keys_declarations (tables : List Table) :
    (declarations tables).keys = knownNames tables := by
  simp [declarations, Assoc.keys, knownNames]

section

variable {tables : List Table} (h : DistinctNames tables)
include h

theorem mem_junctionNames {t : Table} (ht : t ∈ tables) :
    t.name ∈ junctionNames (sortTables tables) ↔ t.isJunction (knownNames tables) := by
  simp only [junctionNames, mem_distinct, List.mem_map, List.mem_filter, mem_sortTables]
  constructor
  · rintro ⟨u, ⟨hu, hj⟩, hname⟩
    rwa [h.eq_of_name hu ht hname] at hj
  · intro hj
    exact ⟨t, ⟨ht, hj⟩, rfl⟩

theorem declarations_nodup : (declarations tables).keys.Nodup := by
  rw [keys_declarations]
  exact h.known

theorem forwardOf_eq :
    forwardOf (sortTables tables) = (declarations tables).filter (!·.2.isEmpty) :=
  Assoc.ofPairs_of_nodup (Assoc.keys_filter_nodup (declarations_nodup h) _)

theorem forwardFor_eq {t : Table} (ht : t ∈ tables) :
    (ofTables tables).forwardFor t.name = declared tables t := by
  have hmem : (t.name, declared tables t) ∈ declarations tables :=
    List.mem_map.mpr ⟨t, mem_sortTables.mpr ht, rfl⟩
  change ((forwardOf (sortTables tables)).get? t.name).getD [] = _
  rw [forwardOf_eq h, Assoc.getD_filter_isEmpty (declarations_nodup h),
    (Assoc.get?_eq_some_iff (declarations_nodup h)).mpr hmem, Option.getD_some]

theorem mem_forwardFor {t : Table} (ht : t ∈ tables) {r : ForwardRelation}
    (hr : r ∈ (ofTables tables).forwardFor t.name) :
    r.table = t.name ∧ (r.fromJunction ↔ t.isJunction (knownNames tables)) ∧
      r.referencedTable ∈ knownNames tables := by
  rw [forwardFor_eq h ht] at hr
  obtain ⟨htable, hjunction, hknown⟩ := mem_forwardFrom hr
  refine ⟨htable, ?_, hknown⟩
  rw [hjunction, List.contains_iff_mem, mem_junctionNames h ht]

/-- With one key on a column there is one forward relation on it. -/
theorem forwardFor_columns_nodup (hkeys : SingleKeys tables) {t : Table} (ht : t ∈ tables) :
    (((ofTables tables).forwardFor t.name).map (·.column)).Nodup := by
  rw [forwardFor_eq h ht, declared, forwardFrom_columns]
  exact (hkeys t ht).sublist (List.filter_sublist.map _)

end

end CatalogEntities.RelationGraph
