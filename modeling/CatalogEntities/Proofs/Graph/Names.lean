import CatalogEntities.Graph
import CatalogEntities.Proofs.Graph.Inverse
import CatalogEntities.Proofs.Graph.ManyToMany

/-!
No relation of the graph asks for an empty name.
-/

namespace CatalogEntities

open Catalog Naming

theorem Naming.attributeName_ne_empty (s : String) : attributeName s ≠ "" := by
  simp only [attributeName]
  split
  · decide
  · rename_i hname
    split
    · simp
    · simpa using hname

theorem Naming.forwardName_ne_empty (table : String) (column : Option String) :
    forwardName table column ≠ "" := by
  unfold forwardName
  exact attributeName_ne_empty _

theorem Naming.inverseName_ne_empty (table : String) : inverseName table ≠ "" := by
  unfold inverseName
  exact attributeName_ne_empty _

theorem Naming.inverseAlternate_ne_empty (name column : String) :
    inverseAlternate name column ≠ "" := by
  unfold inverseAlternate
  exact attributeName_ne_empty _

theorem ManyToManyRelation.alternateFor_ne_empty (r : ManyToManyRelation) (table : String) :
    r.alternateFor table ≠ "" := by
  simp [ManyToManyRelation.alternateFor]

namespace RelationGraph

theorem forwardFrom_names_ne_empty {known : List String} {table : String} {fromJunction : Bool}
    {seen : List String} {keys : List ForeignKey} {r : ForwardRelation}
    (hr : r ∈ forwardFrom known table fromJunction seen keys) :
    ∀ name ∈ r.name :: r.alternate.toList, name ≠ "" := by
  induction keys generalizing seen with
  | nil => simp [forwardFrom] at hr
  | cons key rest ih =>
    by_cases hk : key.referencedTable ∈ known
    · simp only [forwardFrom, List.contains_eq_mem, hk, decide_true, ↓reduceIte,
        List.mem_cons] at hr
      rcases hr with rfl | hr
      · by_cases hseen : key.referencedTable ∈ seen <;> simp [hseen, forwardName_ne_empty]
      · exact ih hr
    · simp only [forwardFrom, List.contains_eq_mem, hk, decide_false, Bool.false_eq_true,
        ↓reduceIte] at hr
      exact ih hr

/-- Each end of a junction's relation is named after the table at the other end. -/
theorem throughJunction?_names {t : Table} {r : ManyToManyRelation}
    (hr : throughJunction? t = some r) :
    r.leftName = manyToManyName r.right ∧ r.rightName = manyToManyName r.left := by
  simp only [throughJunction?] at hr
  split at hr
  · obtain rfl := Option.some.inj hr
    simp only [and_self]
  · cases hr

end RelationGraph

theorem ManyToManyRelation.nameFor_ne_empty {t : Table} {r : ManyToManyRelation}
    (hr : RelationGraph.throughJunction? t = some r) (table : String) : r.nameFor table ≠ "" := by
  obtain ⟨hleft, hright⟩ := RelationGraph.throughJunction?_names hr
  unfold ManyToManyRelation.nameFor
  split
  · rw [hleft]
    exact attributeName_ne_empty _
  · rw [hright]
    exact attributeName_ne_empty _

end CatalogEntities
