import CatalogEntities.Proofs.Graph.Junctions
import CatalogEntities.Proofs.Outcome

/-!
Forward relations are exact. In a run whose tables have distinct names every foreign key has either
one relation or, if it leads out of the run, one warning. Of the relations of a table to one target
only the first may be named without its column.
-/

namespace CatalogEntities

open Catalog Naming

/-- The key leads to a table of the run. -/
def Catalog.ForeignKey.staysIn (tables : List Table) (key : ForeignKey) : Bool :=
  tables.any (·.name == key.referencedTable)

theorem Catalog.ForeignKey.staysIn_eq (tables : List Table) (key : ForeignKey) :
    key.staysIn tables = (knownNames tables).contains key.referencedTable := by
  rw [Bool.eq_iff_iff, List.contains_iff_mem, mem_knownNames]
  simp only [staysIn, List.any_eq_true, beq_iff_eq]

theorem Associates.exists_iff {tables : List Table} {t : Table} (ht : t ∈ tables) :
    (∃ a b, Associates tables t a b) ↔ t.isJunction (knownNames tables) := by
  constructor
  · rintro ⟨a, b, h⟩
    exact h.isJunction
  · exact exists_of_isJunction ht

namespace RelationGraph

/-- The relation belongs to the table and has the two ends of its key. -/
structure FromKey (t : Table) (key : ForeignKey) (r : ForwardRelation) : Prop where
  owner : r.table = t.name
  column : r.column = key.column
  referencedTable : r.referencedTable = key.referencedTable
  referencedColumn : r.referencedColumn = key.referencedColumn

/-- How a relation is named if those before it lead to the given targets: the column is left for the
alternate exactly when none of them leads where the relation does. -/
structure NamedAfter (targets : List String) (r : ForwardRelation) : Prop where
  first : r.referencedTable ∉ targets → r.name = forwardName r.referencedTable none ∧
    r.alternate = some (forwardName r.referencedTable (some r.column))
  later : r.referencedTable ∈ targets → r.name = forwardName r.referencedTable (some r.column) ∧
    r.alternate = none

theorem NamedAfter.congr {targets targets' : List String} {r : ForwardRelation}
    (h : NamedAfter targets r) (hmem : ∀ target, target ∈ targets ↔ target ∈ targets') :
    NamedAfter targets' r :=
  ⟨fun hout => h.first (mt (hmem _).mp hout), fun hin => h.later ((hmem _).mpr hin)⟩

theorem forwardFrom_fromKey (known : List String) (t : Table) (fromJunction : Bool)
    (seen : List String) (keys : List ForeignKey) :
    List.Forall₂ (FromKey t) (keys.filter fun key => known.contains key.referencedTable)
      (forwardFrom known t.name fromJunction seen keys) := by
  induction keys generalizing seen with
  | nil => exact .nil
  | cons key rest ih =>
    by_cases hk : known.contains key.referencedTable
    · rw [List.filter_cons, if_pos hk, forwardFrom, if_pos hk]
      exact .cons ⟨rfl, rfl, rfl, rfl⟩ (ih _)
    · rw [List.filter_cons, if_neg hk, forwardFrom, if_neg hk]
      exact ih seen

/-- The targets that the loop has seen are those of the relations it has made, so a key out of the
run leaves the naming of later ones alone. -/
theorem forwardFrom_named {known : List String} {table : String} {fromJunction : Bool}
    {seen : List String} {keys : List ForeignKey} {before after : List ForwardRelation}
    {r : ForwardRelation}
    (h : forwardFrom known table fromJunction seen keys = before ++ r :: after) :
    NamedAfter (before.map (·.referencedTable) ++ seen) r := by
  induction keys generalizing seen before with
  | nil => cases before <;> cases h
  | cons key rest ih =>
    by_cases hk : known.contains key.referencedTable
    · rw [forwardFrom, if_pos hk] at h
      cases before with
      | nil =>
        obtain ⟨rfl, -⟩ := List.cons.inj h
        constructor
        · intro hnew
          have hfirst : (!seen.contains key.referencedTable) = true := by simpa using hnew
          simp only [hfirst, ↓reduceIte, and_self]
        · intro hold
          have hlater : (!seen.contains key.referencedTable) = false := by simpa using hold
          simp only [hlater, Bool.false_eq_true, ↓reduceIte, and_self]
      | cons b before =>
        obtain ⟨rfl, hrest⟩ := List.cons.inj h
        refine (ih hrest).congr fun target => ?_
        simp only [List.map_cons, List.mem_append, List.mem_cons]
        tauto
    · rw [forwardFrom, if_neg hk] at h
      exact ih h

/-- Only warnings about keys are recorded; all else is for the log. -/
theorem warnings_notices (tables : List Table) :
    Notice.warnings (notices tables) =
      (sortTables tables).flatMap (unknownReferences (knownNames tables)) := by
  simp [Notice.warnings, notices, List.filterMap_map, Function.comp_def, Notice.warning?, warnings,
    knownNames]

theorem forwardFor_outside {tables : List Table} (h : DistinctNames tables) {name : String}
    (hout : ∀ t ∈ tables, t.name ≠ name) : (ofTables tables).forwardFor name = [] := by
  change ((forwardOf (sortTables tables)).get? name).getD [] = _
  rw [forwardOf_eq h, Assoc.getD_filter_isEmpty (declarations_nodup h)]
  cases hget : (declarations tables).get? name with
  | none => rfl
  | some relations =>
    have hkey := List.mem_map_of_mem (f := Prod.fst) (Assoc.mem_of_get? hget)
    change name ∈ (declarations tables).keys at hkey
    rw [keys_declarations, mem_knownNames] at hkey
    obtain ⟨t, ht, hname⟩ := hkey
    exact absurd hname (hout t ht)

/-- The relations are those of the table's keys into the run, in catalog order. -/
structure MadeFromKeys (tables : List Table) (t : Table)
    (relations : List ForwardRelation) : Prop where
  keys : List.Forall₂ (FromKey t) (t.foreignKeys.filter (·.staysIn tables)) relations
  names : ∀ before r after, relations = before ++ r :: after →
    NamedAfter (before.map (·.referencedTable)) r
  junction : ∀ r ∈ relations, r.fromJunction ↔ ∃ a b, Associates tables t a b

theorem forwardFor_madeFromKeys {tables : List Table} (h : DistinctNames tables) {t : Table}
    (ht : t ∈ tables) : MadeFromKeys tables t ((ofTables tables).forwardFor t.name) := by
  have hdeclared := forwardFor_eq h ht
  refine ⟨?keys, fun before r after hsplit => ?names, fun r hr => ?junction⟩
  case keys =>
    rw [hdeclared, declared]
    simpa only [ForeignKey.staysIn_eq] using forwardFrom_fromKey (knownNames tables) t _
      [] t.foreignKeys
  case names =>
    rw [hdeclared] at hsplit
    have hnamed := forwardFrom_named hsplit
    rwa [List.append_nil] at hnamed
  case junction => rw [(mem_forwardFor h ht hr).2.1, Associates.exists_iff ht]

/-- The warning about a key that leads out of the run. -/
def leadsOut (t : Table) (key : ForeignKey) : SchemaWarning :=
  { table := t.name
    message :=
  "Foreign key '" ++ key.column ++ "' references unknown table '" ++ key.referencedTable ++
      "'; relation skipped"
    code := "unknown_reference" }

theorem unknownReferences_eq (tables : List Table) (t : Table) :
    unknownReferences (knownNames tables) t =
      (t.foreignKeys.filter (!·.staysIn tables)).map (leadsOut t) := by
  simp only [unknownReferences, ForeignKey.staysIn_eq]
  rfl

/-- The forward relations of a table are those of its keys into the run: the first to a target is
named without its column and may fall back on the name with it, each later one has the name with
its column and no other. Of every key out of the run the inference warns, by table and then in
catalog order, and of nothing else. -/
theorem forwardFor_exact {tables : List Table} (h : DistinctNames tables) :
    (∀ t ∈ tables, MadeFromKeys tables t ((ofTables tables).forwardFor t.name)) ∧
    (∀ name, (∀ t ∈ tables, t.name ≠ name) → (ofTables tables).forwardFor name = []) ∧
    ∃ ordered : List Table, ordered.Perm tables ∧ ordered.Pairwise (·.name < ·.name) ∧
      Notice.warnings (notices tables) =
        ordered.flatMap fun t => (t.foreignKeys.filter (!·.staysIn tables)).map (leadsOut t) := by
  refine ⟨fun t ht => forwardFor_madeFromKeys h ht, fun name hout => forwardFor_outside h hout,
    sortTables tables, sortTables_perm tables, List.pairwise_map.mp h.known_sorted, ?_⟩
  rw [warnings_notices, funext (unknownReferences_eq tables)]

/-- A table with a key out of the run between two keys to one table, and a key to itself. -/
def billedOrders : List Table :=
  let key (column target : String) : ForeignKey := ⟨"order", column, target, "id", none⟩
  [⟨"order", [], [key "customer_id" "customer", key "shop_id" "shop", key "billing_id" "customer",
    key "parent_id" "order"]⟩, ⟨"customer", [], []⟩]

theorem billedOrders_forward : DistinctNames billedOrders ∧
    ((ofTables billedOrders).forwardFor "order").map (·.column) =
      ["customer_id", "billing_id", "parent_id"] ∧
    (∀ t ∈ billedOrders, MadeFromKeys billedOrders t ((ofTables billedOrders).forwardFor t.name)) ∧
    (∀ name, (∀ t ∈ billedOrders, t.name ≠ name) → (ofTables billedOrders).forwardFor name = []) ∧
    ∃ ordered : List Table, ordered.Perm billedOrders ∧ ordered.Pairwise (·.name < ·.name) ∧
      Notice.warnings (notices billedOrders) =
        ordered.flatMap fun t =>
          (t.foreignKeys.filter (!·.staysIn billedOrders)).map (leadsOut t) := by
  have h : DistinctNames billedOrders := by decide
  have hexact := forwardFor_exact h
  refine ⟨h, ?_, hexact⟩
  have hkeys := (hexact.1 _ List.mem_cons_self).keys
  exact (Outcome.map_eq hkeys fun key _ r hr => hr.column.symm).symm.trans (by decide)

end RelationGraph

end CatalogEntities
