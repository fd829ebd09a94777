import CatalogEntities.Proofs.Graph.Forward
import Mathlib.Data.List.Permutation

/-!
Many-to-many relations of the graph: no two join the same pair of tables, and in a run whose
tables have distinct names each joins two different tables of the run.
-/

namespace CatalogEntities

open Catalog Naming

namespace ManyToManyRelation

theorem joins_iff {r : ManyToManyRelation} {table : String} :
    r.joins table ↔ table = r.left ∨ table = r.right := by
  simp [joins]

theorem joins_other (r : ManyToManyRelation) (table : String) : r.joins (r.other table) := by
  unfold other
  split <;> simp [joins_iff]

/-- Between two different tables, the other one of the other one is the first. -/
theorem other_other {r : ManyToManyRelation} {table : String} (hne : r.left ≠ r.right)
    (hr : r.joins table) : r.other (r.other table) = table := by
  rcases joins_iff.mp hr with rfl | rfl
  · simp [other, hne.symm]
  · simp [other, hne.symm]

end ManyToManyRelation

namespace RelationGraph

theorem mem_distinctPairs {found rest : List ManyToManyRelation} {r : ManyToManyRelation}
    (hr : r ∈ (distinctPairs found rest).1) : r ∈ found ∨ r ∈ rest := by
  induction rest generalizing found with
  | nil => exact Or.inl hr
  | cons head rest ih =>
    simp only [distinctPairs] at hr
    split at hr
    · exact (ih hr).imp_right (List.mem_cons_of_mem head)
    · rcases ih hr with hf | hrest
      · rcases List.mem_append.mp hf with hf | hs
        · exact Or.inl hf
        · exact Or.inr (List.mem_singleton.mp hs ▸ List.mem_cons_self)
      · exact Or.inr (List.mem_cons_of_mem head hrest)

theorem distinctPairs_nodup {found : List ManyToManyRelation} (rest : List ManyToManyRelation)
    (hf : (found.map (·.pair)).Nodup) : ((distinctPairs found rest).1.map (·.pair)).Nodup := by
  induction rest generalizing found with
  | nil => exact hf
  | cons head rest ih =>
    simp only [distinctPairs]
    split
    · exact ih hf
    · rename_i hnone
      refine ih ?_
      rw [List.map_append, List.nodup_append]
      refine ⟨hf, by simp, ?_⟩
      intro p hp q hq
      obtain ⟨r, hr, rfl⟩ := List.mem_map.mp hp
      have hq : q = head.pair := by simpa using hq
      rw [hq]
      simpa using List.find?_eq_none.mp hnone r hr

theorem manyToMany_perm (tables : List Table) :
    (ofTables tables).manyToMany.Perm
      (distinctPairs [] (junctionRelations (sortTables tables))).1 :=
  List.mergeSort_perm _ _

theorem manyToMany_pairs_nodup (tables : List Table) :
    ((ofTables tables).manyToMany.map (·.pair)).Nodup :=
  ((manyToMany_perm tables).map _).nodup_iff.mpr (distinctPairs_nodup _ List.nodup_nil)

theorem manyToManyFor_pairs_nodup (tables : List Table) (table : String) :
    (((ofTables tables).manyToManyFor table).map (·.pair)).Nodup :=
  (manyToMany_pairs_nodup tables).sublist (List.filter_sublist.map _)

theorem mem_manyToManyFor {g : RelationGraph} {table : String} {r : ManyToManyRelation} :
    r ∈ g.manyToManyFor table ↔ r ∈ g.manyToMany ∧ r.joins table := by
  simp [manyToManyFor]

/-- A junction's relation joins the two tables of its keys. -/
theorem throughJunction?_of_isJunction {t : Table} {known : List String} {r : ManyToManyRelation}
    (hj : t.isJunction known) (hr : throughJunction? t = some r) :
    r.left ≠ r.right ∧ r.left ∈ known ∧ r.right ∈ known := by
  obtain ⟨a, b, hkeys, hne, ha, hb⟩ := Table.keys_of_isJunction hj
  simp only [throughJunction?] at hr
  split at hr
  · rename_i left right hsorted
    have hperm : [left, right].Perm [a, b] := hsorted ▸ hkeys ▸ sortByKey_perm _ _
    obtain rfl := Option.some.inj hr
    rcases List.perm_pair.mp hperm with he | he
    · obtain ⟨rfl, rfl⟩ : left = a ∧ right = b := by simpa using he
      exact ⟨hne, ha, hb⟩
    · obtain ⟨rfl, rfl⟩ : left = b ∧ right = a := by simpa using he
      exact ⟨hne.symm, hb, ha⟩
  · cases hr

section

variable {tables : List Table} (h : DistinctNames tables)
include h

theorem lastNamed?_sortTables {t : Table} (ht : t ∈ tables) :
    lastNamed? (sortTables tables) t.name = some t := by
  cases hfind : lastNamed? (sortTables tables) t.name with
  | none =>
    have hall := List.find?_eq_none.mp hfind t (by simpa using ht)
    simp at hall
  | some u =>
    have hname : u.name = t.name := by simpa using List.find?_some hfind
    have hu : u ∈ tables := by simpa using List.mem_of_find?_eq_some hfind
    rw [h.eq_of_name hu ht hname]

theorem mem_junctionRelations {r : ManyToManyRelation} :
    r ∈ junctionRelations (sortTables tables) ↔
      ∃ t ∈ tables, t.isJunction (knownNames tables) ∧ throughJunction? t = some r := by
  simp only [junctionRelations, List.mem_filterMap, Option.bind_eq_some_iff]
  constructor
  · rintro ⟨name, hname, u, hu, hr⟩
    have hut : u ∈ tables := by simpa using List.mem_of_find?_eq_some hu
    have hun : u.name = name := by simpa using List.find?_some hu
    subst hun
    exact ⟨u, hut, (mem_junctionNames h hut).mp hname, hr⟩
  · rintro ⟨t, ht, hj, hr⟩
    exact ⟨t.name, (mem_junctionNames h ht).mpr hj, t, lastNamed?_sortTables h ht, hr⟩

/-- Only tables that share a name can leave a junction without its two keys. -/
theorem unpaired?_eq_none : unpaired? tables = none := by
  simp only [unpaired?, List.findSome?_eq_none_iff, List.mem_filterMap]
  rintro t ⟨name, hname, ht⟩
  have hmem : t ∈ tables := by simpa using List.mem_of_find?_eq_some ht
  obtain rfl : t.name = name := by simpa using List.find?_some ht
  obtain ⟨a, b, hkeys, -⟩ := Table.keys_of_isJunction ((mem_junctionNames h hmem).mp hname)
  simp [hkeys]

/-- Every many-to-many relation joins two different tables of the run through a junction. -/
theorem mem_manyToMany {r : ManyToManyRelation} (hr : r ∈ (ofTables tables).manyToMany) :
    r.left ≠ r.right ∧ r.left ∈ knownNames tables ∧ r.right ∈ knownNames tables ∧
      ∃ t ∈ tables, t.isJunction (knownNames tables) ∧ throughJunction? t = some r := by
  have hin := (mem_distinctPairs ((manyToMany_perm tables).mem_iff.mp hr)).resolve_left
    (List.not_mem_nil)
  obtain ⟨t, ht, hj, hthrough⟩ := (mem_junctionRelations h).mp hin
  obtain ⟨hne, hleft, hright⟩ := throughJunction?_of_isJunction hj hthrough
  exact ⟨hne, hleft, hright, t, ht, hj, hthrough⟩

end

end RelationGraph

end CatalogEntities
