import CatalogEntities.Proofs.Entity.Attributes
import CatalogEntities.Proofs.Entity.Pairing
import CatalogEntities.Proofs.Graph.Junctions

/-!
References resolve inside a run. What the entities of a run say about one another, as text or as a
key, leads to an entity of the same run, and there to the attribute of the column that is meant.
-/

namespace CatalogEntities

open Catalog Naming

/-- Keys stand on columns of their own table, and those into the run lead to columns there. -/
def Catalog.KeysResolve (tables : List Table) : Prop :=
  ∀ t ∈ tables, ∀ key ∈ t.foreignKeys, key.column ∈ t.columns.map (·.name) ∧
    ∀ u ∈ tables, u.name = key.referencedTable → key.referencedColumn ∈ u.columns.map (·.name)

instance (tables : List Table) : Decidable (KeysResolve tables) :=
  inferInstanceAs (Decidable (∀ t ∈ tables, ∀ key ∈ t.foreignKeys, _ ∧ ∀ u ∈ tables, _ → _))

namespace RelationGraph

variable {tables : List Table} (h : DistinctNames tables) {t : Table} (ht : t ∈ tables)
include h ht

/-- Every forward relation is that of a key of its table. -/
theorem exists_key {r : ForwardRelation} (hr : r ∈ (ofTables tables).forwardFor t.name) :
    ∃ key ∈ t.foreignKeys, r.column = key.column ∧ r.referencedTable = key.referencedTable ∧
      r.referencedColumn = key.referencedColumn := by
  rw [forwardFor_eq h ht] at hr
  have hmem :=
    List.mem_map_of_mem (f := fun r => (r.column, r.referencedTable, r.referencedColumn)) hr
  rw [declared, forwardFrom_keys, List.mem_map] at hmem
  obtain ⟨key, hkey, heq⟩ := hmem
  simp only [Prod.mk.injEq] at heq
  obtain ⟨hcolumn, htable, hreferenced⟩ := heq
  exact ⟨key, (List.mem_filter.mp hkey).1, hcolumn.symm, htable.symm, hreferenced.symm⟩

/-- The table at the other end of a relation is a table of the run. -/
theorem target_known {x : RelationEnd} (hx : x ∈ (ofTables tables).endsOf t.name) :
    x.target t.name ∈ knownNames tables := by
  cases x with
  | forward a => exact (mem_forwardFor h ht (forward_mem_endsOf.mp hx)).2.2
  | inverse b =>
    obtain ⟨u, hu, -, r, hr, rfl⟩ := (mem_inverseFor h).mp (inverse_mem_endsOf.mp hx)
    have hname := (mem_forwardFor h hu (List.mem_of_find?_eq_some hr)).1
    exact mem_knownNames.mpr ⟨u, hu, hname.symm⟩
  | manyToMany m =>
    obtain ⟨hmem, -⟩ := mem_manyToManyFor.mp (manyToMany_mem_endsOf.mp hx)
    obtain ⟨-, hleft, hright, -⟩ := mem_manyToMany h hmem
    rcases ManyToManyRelation.joins_iff.mp (m.joins_other t.name) with he | he
    · simpa only [RelationEnd.target, he] using hleft
    · simpa only [RelationEnd.target, he] using hright

end RelationGraph

namespace Entity

/-- The text is `class.attribute` of the one column of that name, whose attribute no other has. -/
def Qualifies (e : Entity) (column : String) (text : Option String) : Prop :=
  ∃ c, e.columns.filter (·.column.name == column) = [c] ∧
  e.columns.filter (·.attr == c.attr) = [c] ∧
    text = some (e.className ++ "." ++ c.attr)

/-- The key is one of the entity's table, and the one column of its name carries it. -/
def Carries (e : Entity) (key : ForeignKey) : Prop :=
  key ∈ e.table.foreignKeys ∧
    ∃ c, e.columns.filter (·.column.name == key.column) = [c] ∧ c.foreignKey = some key

/-- What a relation of `e` to `f` refers to: a key of the one or of the other, or a junction. A key
from a table to itself is told by both its columns. -/
def RefersTo (tables : List Table) (e f : Entity) (r : EntityRelation) : RelationEnd → Prop
  | .forward a => ∃ key, Carries e key ∧ key.referencedTable = f.table.name ∧
      a.column = key.column ∧ a.referencedTable = key.referencedTable ∧
      a.referencedColumn = key.referencedColumn ∧ Qualifies e key.column r.foreignKeys ∧
      (if f.table.name = e.table.name then Qualifies f key.referencedColumn r.remoteSide
        else r.remoteSide = none) ∧ r.secondary = none
  | .inverse b => ∃ key, Carries f key ∧ key.referencedTable = e.table.name ∧
      b.column = key.column ∧ Qualifies f key.column r.foreignKeys ∧ r.remoteSide = none ∧
      r.secondary = none
  | .manyToMany _ => r.foreignKeys = none ∧ r.remoteSide = none ∧ ∃ t a b, Associates tables t a b ∧
      a.referencedTable = e.table.name ∧ b.referencedTable = f.table.name ∧
      r.secondary = some t.name

/-- All that an entity refers to is found among the entities of the run. -/
structure Resolves (tables : List Table) (entities : List Entity) (e : Entity) : Prop where
  relations : ∀ r ∈ e.relations, ∃ f x, entities.filter (·.table.name == r.targetTable) = [f] ∧
    r.targetClass = f.className ∧ r.targetModule = f.moduleName ∧ r.kind = x.kind ∧
    StandsFor tables e r x ∧ RefersTo tables e f r x
  columns : ∀ c ∈ e.columns, ∀ key, c.foreignKey = some key → ∃ f ∈ entities,
    f.table.name = key.referencedTable ∧ key.referencedColumn ∈ f.columns.map (·.column.name)
  related_nodup : e.related.Nodup
  related : ∀ p, p ∈ e.related ↔ ∃ r ∈ e.relations, ∃ f ∈ entities, f.table.name = r.targetTable ∧
    f.table.name ≠ e.table.name ∧ p = (f.moduleName, f.className)

theorem mem_relatedOf {table : String} {relations : List EntityRelation} {p : String × String} :
    p ∈ relatedOf table relations ↔
      ∃ r ∈ relations, r.targetTable ≠ table ∧ (r.targetModule, r.targetClass) = p := by
  unfold relatedOf
  extract_lets pairs distinct
  have hdistinct := (RelationGraph.distinct_fold pairs [] List.nodup_nil).2 p
  rw [(List.mergeSort_perm distinct _).mem_iff, hdistinct]
  simp only [List.not_mem_nil, false_or, pairs, List.mem_map, List.mem_filter,
    bne_iff_ne, and_assoc]

theorem relatedOf_nodup (table : String) (relations : List EntityRelation) :
    (relatedOf table relations).Nodup := by
  unfold relatedOf
  extract_lets pairs distinct
  exact (List.mergeSort_perm distinct _).nodup_iff.mpr
    (RelationGraph.distinct_fold pairs [] List.nodup_nil).1

section

variable (plans : Plans) (graph : RelationGraph) (t : Table) (x : RelationEnd) (name : String)

@[simp] theorem shown_targetClass :
    (shown plans graph t x name).targetClass = Naming.className (x.target t.name) := by
  cases x <;>
    simp only [shown, forwardRelation, inverseRelation, manyToManyRelation, RelationEnd.target]

@[simp] theorem shown_targetModule :
    (shown plans graph t x name).targetModule = moduleOf plans (x.target t.name) := by
  cases x <;>
    simp only [shown, forwardRelation, inverseRelation, manyToManyRelation, RelationEnd.target]

end

namespace Built

variable {tables : List Table} {plans : Plans} {t u : Table}
    {types utypes : List (Column × ColumnType)}
  {e f : Entity}

theorem moduleOf_eq (h : Built tables plans t types e) : moduleOf plans t.name = e.moduleName := by
  obtain ⟨-, -, hmodule, -⟩ := h.fields
  rw [moduleOf, h.planned, hmodule, Option.map_some, Option.getD_some, Plan.inRun,
    Plan.ofTypes_moduleName]

theorem related_eq (h : Built tables plans t types e) :
    e.related = relatedOf t.name e.relations := by
  obtain ⟨-, -, -, -, -, -, hrelated, -⟩ := ofPlan_fields h.entity_ok
  exact hrelated

section

variable (h : Built tables plans t types e) (hcols : (t.columns.map (·.name)).Nodup)
include h hcols

theorem exists_column {column : String} (hcolumn : column ∈ t.columns.map (·.name)) :
    ∃ c ∈ e.columns, c.column.name = column ∧ e.columns.filter (·.column.name == column) = [c] := by
  rw [← h.column_names] at hcolumn
  obtain ⟨c, hc, hname⟩ := List.mem_map.mp hcolumn
  exact ⟨c, hc, hname, filter_eq_singleton (h.column_names_nodup hcols) hc hname⟩

theorem qualifies {column : String} (hcolumn : column ∈ t.columns.map (·.name)) :
    Qualifies e column (some (qualified plans t.name column)) := by
  obtain ⟨c, hc, rfl, honly⟩ := h.exists_column hcols hcolumn
  obtain ⟨-, hclass, -⟩ := h.fields
  refine ⟨c, honly, filter_eq_singleton (h.attributes_nodup hcols) hc rfl, ?_⟩
  rw [qualified, attributeOf, h.planned, Option.bind_some, h.attribute_planned hc, Option.getD_some,
    hclass]

theorem carries (hkeys : (t.foreignKeys.map (·.column)).Nodup) {key : ForeignKey}
    (hkey : key ∈ t.foreignKeys) (hcolumn : key.column ∈ t.columns.map (·.name))
    (hknown : key.referencedTable ∈ knownNames tables) : Carries e key := by
  obtain ⟨c, hc, hname, honly⟩ := h.exists_column hcols hcolumn
  refine ⟨h.fields.1 ▸ hkey, c, honly, ?_⟩
  have hfound : t.foreignKey? key.column = some key := find?_eq_some_of_nodup hkeys hkey rfl
  rw [h.foreignKey_kept hc, hname, hfound, Option.filter_some,
    if_pos (List.contains_iff_mem.mpr hknown)]

end

section

variable (h : DistinctNames tables) (hcols : DistinctColumns tables) (hkeys : SingleKeys tables)
  (hresolve : KeysResolve tables) (ht : t ∈ tables) (hu : u ∈ tables)
  (he : Built tables plans t types e) (hf : Built tables plans u utypes f)
include h hcols hkeys hresolve ht hu he hf

theorem forward_refersTo {a : ForwardRelation}
    (ha : a ∈ (RelationGraph.ofTables tables).forwardFor t.name)
    (htarget : a.referencedTable = u.name) (name : String) :
    RefersTo tables e f (forwardRelation plans (RelationGraph.ofTables tables) t a name)
      (.forward a) := by
  obtain ⟨key, hkey, hcolumn, htable, hreferenced⟩ := RelationGraph.exists_key h ht ha
  obtain ⟨hown, -, hknown⟩ := RelationGraph.mem_forwardFor h ht ha
  obtain ⟨hdeclared, hthere⟩ := hresolve t ht key hkey
  have heT := he.fields.1
  have hfT := hf.fields.1
  refine ⟨key, he.carries (hcols t ht) (hkeys t ht) hkey hdeclared (htable ▸ hknown), ?_,
    hcolumn, htable, hreferenced, ?_, ?_, rfl⟩
  · rw [hfT, ← htable, htarget]
  · rw [← hcolumn] at hdeclared ⊢
    exact he.qualifies (hcols t ht) hdeclared
  · have hself : a.isSelfReferential = decide (u.name = t.name) := by
      simp only [ForwardRelation.isSelfReferential, hown, htarget, beq_eq_decide, eq_comm]
    rw [heT, hfT]
    split
    · rename_i hsame
      simp only [forwardRelation, hself, hsame, decide_true, ↓reduceIte]
      rw [htarget, ← hreferenced]
      exact hf.qualifies (hcols u hu) (hreferenced ▸ hthere u hu (htarget.symm.trans htable))
    · rename_i hother
      simp only [forwardRelation, hself, hother, decide_false, Bool.false_eq_true, ↓reduceIte]

omit ht in
theorem inverse_refersTo {b : InverseRelation}
    (hb : b ∈ (RelationGraph.ofTables tables).inverseFor t.name)
    (htarget : b.referencingTable = u.name) (name : String) :
    RefersTo tables e f (inverseRelation plans b name) (.inverse b) := by
  obtain ⟨v, hv, -, r, hr, rfl⟩ := (RelationGraph.mem_inverseFor h).mp hb
  have hmem := List.mem_of_find?_eq_some hr
  have hreferenced : r.referencedTable = t.name := by simpa using List.find?_some hr
  obtain ⟨hown, -, hknown⟩ := RelationGraph.mem_forwardFor h hv hmem
  obtain rfl : v = u := h.eq_of_name hv hu (hown.symm.trans htarget)
  obtain ⟨key, hkey, hcolumn, htable, -⟩ := RelationGraph.exists_key h hv hmem
  obtain ⟨hdeclared, -⟩ := hresolve v hv key hkey
  refine ⟨key, hf.carries (hcols v hv) (hkeys v hv) hkey hdeclared (htable ▸ hknown), ?_,
    hcolumn, ?_, rfl, rfl⟩
  · rw [he.fields.1, ← htable, hreferenced]
  · rw [← hcolumn] at hdeclared ⊢
    have hqualifies := hf.qualifies (hcols v hv) hdeclared
    rwa [← hown] at hqualifies

omit hcols hkeys hresolve ht hu in
theorem manyToMany_refersTo {m : ManyToManyRelation}
    (hm : m ∈ (RelationGraph.ofTables tables).manyToManyFor t.name)
    (htarget : m.other t.name = u.name) (name : String) :
    RefersTo tables e f (manyToManyRelation plans t.name m name) (.manyToMany m) := by
  obtain ⟨hmem, hjoins⟩ := RelationGraph.mem_manyToManyFor.mp hm
  obtain ⟨j, a, b, hfrom⟩ := RelationGraph.exists_fromSmallest h hmem
  have hjunction : some m.junction = some j.name := congrArg some hfrom.junction
  refine ⟨rfl, rfl, j, ?_⟩
  rw [he.fields.1, hf.fields.1, ← htarget]
  rcases ManyToManyRelation.joins_iff.mp hjoins with hleft | hright
  · refine ⟨a, b, hfrom.associates, hleft ▸ hfrom.left.1.symm, ?_, hjunction⟩
    rw [ManyToManyRelation.other, if_pos (by simpa using hleft), hfrom.right.1]
  · have hne : t.name ≠ m.left := hright ▸ (RelationGraph.mem_manyToMany h hmem).1.symm
    refine ⟨b, a, hfrom.associates.symm, hright ▸ hfrom.right.1.symm, ?_, hjunction⟩
    rw [ManyToManyRelation.other, if_neg (by simpa using hne), hfrom.left.1]

/-- A relation between two entities refers to what its end stands for. -/
theorem refersTo {x : RelationEnd} (hx : x ∈ (RelationGraph.ofTables tables).endsOf t.name)
    (htarget : x.target t.name = u.name) (name : String) :
    RefersTo tables e f (shown plans (RelationGraph.ofTables tables) t x name) x := by
  cases x with
  | forward a =>
    exact he.forward_refersTo h hcols hkeys hresolve ht hu hf
      (RelationGraph.forward_mem_endsOf.mp hx)
      htarget name
  | inverse b =>
    exact he.inverse_refersTo h hcols hkeys hresolve hu hf (RelationGraph.inverse_mem_endsOf.mp hx)
      htarget name
  | manyToMany m =>
    exact he.manyToMany_refersTo h hf (RelationGraph.manyToMany_mem_endsOf.mp hx) htarget name

end

end Built

section

variable {tables : List Table} {entities : List Entity} (h : DistinctNames tables)
  (hb : ofTables tables (RelationGraph.ofTables tables) = .ok entities)
include h hb

/-- The entity of a table is the only one for its name. -/
theorem filter_table {f : Entity} (hf : f ∈ entities) {name : String}
    (hname : f.table.name = name) :
    entities.filter (·.table.name == name) = [f] := by
  have htables := congrArg (List.map (·.name)) (ofTables_tables h hb)
  rw [List.map_map] at htables
  have hnodup : (entities.map (·.table.name)).Nodup := htables ▸ h.known
  exact filter_eq_singleton hnodup hf hname

variable (hresolve : KeysResolve tables)
include hresolve

theorem column_resolves {e : Entity} (he : e ∈ entities) {c : EntityColumn} (hc : c ∈ e.columns)
    {key : ForeignKey} (hkey : c.foreignKey = some key) : ∃ f ∈ entities,
      f.table.name = key.referencedTable ∧
      key.referencedColumn ∈ f.columns.map (·.column.name) := by
  obtain ⟨plans, hall⟩ := ofTables_built h hb
  obtain ⟨t, ht, types, hbuilt⟩ := Outcome.mem_right hall he
  rw [mem_sortTables] at ht
  rw [hbuilt.foreignKey_kept hc, Option.filter_eq_some_iff, List.contains_iff_mem] at hkey
  obtain ⟨hfirst, hknown⟩ := hkey
  obtain ⟨u, hu, hname⟩ := mem_knownNames.mp hknown
  obtain ⟨f, hf, utypes, hfbuilt⟩ := Outcome.mem_left hall (mem_sortTables.mpr hu)
  refine ⟨f, hf, hfbuilt.fields.1 ▸ hname, ?_⟩
  rw [hfbuilt.column_names]
  exact (hresolve t ht key (List.mem_of_find?_eq_some hfirst)).2 u hu hname

variable (hcols : DistinctColumns tables) (hkeys : SingleKeys tables)
include hcols hkeys

theorem relation_resolves {e : Entity} (he : e ∈ entities) {r : EntityRelation}
    (hr : r ∈ e.relations) :
    ∃ f x, entities.filter (·.table.name == r.targetTable) = [f] ∧ r.targetClass = f.className ∧
      r.targetModule = f.moduleName ∧ r.kind = x.kind ∧ StandsFor tables e r x ∧
      RefersTo tables e f r x := by
  obtain ⟨plans, hall⟩ := ofTables_built h hb
  obtain ⟨t, ht, types, hbuilt⟩ := Outcome.mem_right hall he
  rw [mem_sortTables] at ht
  obtain ⟨x, hx, hname, hshown⟩ := hbuilt.exists_end hr
  obtain ⟨u, hu, htarget⟩ := mem_knownNames.mp (RelationGraph.target_known h ht hx)
  obtain ⟨f, hf, utypes, hfbuilt⟩ := Outcome.mem_left hall (mem_sortTables.mpr hu)
  obtain ⟨hftable, hfclass, -⟩ := hfbuilt.fields
  have hstands := hbuilt.standsFor hx hname
  have hrefers := hbuilt.refersTo h hcols hkeys hresolve ht hu hfbuilt hx htarget.symm r.name
  rw [← hshown] at hstands hrefers
  refine ⟨f, x, filter_table h hb hf ?_, ?_, ?_, ?_, hstands, hrefers⟩
  · rw [hftable, hshown, shown_target, htarget]
  · rw [hshown, shown_targetClass, hfclass, htarget]
  · rw [hshown, shown_targetModule, ← htarget, hfbuilt.moduleOf_eq]
  · rw [hshown, shown_kind]

end

/-- In a run whose keys stand on columns of their own tables and lead to columns of the tables they
name, every entity refers to entities of the run only: its relations, its columns and
its imports. -/
theorem references_resolve {tables : List Table} {entities : List Entity} (h : DistinctNames tables)
    (hcols : DistinctColumns tables) (hkeys : SingleKeys tables) (hresolve : KeysResolve tables)
    (hb : ofTables tables (RelationGraph.ofTables tables) = .ok entities) :
    ∀ e ∈ entities, Resolves tables entities e := by
  intro e he
  have hrelations := fun r (hr : r ∈ e.relations) =>
    relation_resolves h hb hresolve hcols hkeys he hr
  obtain ⟨plans, hall⟩ := ofTables_built h hb
  obtain ⟨t, -, types, hbuilt⟩ := Outcome.mem_right hall he
  have htable := hbuilt.fields.1
  have hrelated := hbuilt.related_eq
  rw [← htable] at hrelated
  refine ⟨hrelations, fun c hc key hkey => column_resolves h hb hresolve he hc hkey,
    hrelated ▸ relatedOf_nodup _ _, fun p => ?_⟩
  rw [hrelated, mem_relatedOf]
  refine exists_congr fun r => and_congr_right fun hr => ?_
  obtain ⟨f, x, honly, hclass, hmodule, -⟩ := hrelations r hr
  obtain ⟨hf, hftable⟩ := List.mem_filter.mp (honly ▸ List.mem_singleton_self f)
  have hftable : f.table.name = r.targetTable := eq_of_beq hftable
  constructor
  · rintro ⟨hother, rfl⟩
    exact ⟨f, hf, hftable, hftable ▸ hother, by rw [hmodule, hclass]⟩
  · rintro ⟨g, hg, hgtable, hother, rfl⟩
    have hsame : [g] = [f] := by rw [← filter_table h hb hg hgtable, honly]
    obtain rfl := (List.cons.inj hsame).1
    exact ⟨hgtable ▸ hother, by rw [hmodule, hclass]⟩

/-- A table with a key to itself, on a column that is named like a keyword, and one that leads out
of the run. -/
def renamedColumn : List Table :=
  let column (name : String) : Column := ⟨name, "int", true, none, false, false, none, ""⟩
  [⟨"node", ["id", "class", "shop"].map column,
    [⟨"node", "class", "node", "id", none⟩, ⟨"node", "shop", "shop", "id", none⟩]⟩]

theorem renamedColumn_resolves : DistinctNames renamedColumn ∧ DistinctColumns renamedColumn ∧
    SingleKeys renamedColumn ∧ KeysResolve renamedColumn ∧
    ∃ entities, ofTables renamedColumn (RelationGraph.ofTables renamedColumn) = .ok entities ∧
      (entities.map fun e => e.relations.map fun r => (r.name, r.foreignKeys, r.remoteSide)) =
        [[("fk_node", some "Node.class_", some "Node.id"), ("nodes", some "Node.class_", none)]] ∧
      ∀ e ∈ entities, Resolves renamedColumn entities e := by
  have h : DistinctNames renamedColumn := by decide
  have hcols : DistinctColumns renamedColumn := by decide
  have hkeys : SingleKeys renamedColumn := by decide
  have hresolve : KeysResolve renamedColumn := by decide
  have hshown : (ofTables renamedColumn (RelationGraph.ofTables renamedColumn)).toOption.map
      (·.map fun e => e.relations.map fun r => (r.name, r.foreignKeys, r.remoteSide)) =
        some [[("fk_node", some "Node.class_", some "Node.id"),
          ("nodes", some "Node.class_", none)]] := by
    decide +kernel
  obtain ⟨entities, hb, hmap⟩ := Option.map_eq_some_iff.mp hshown
  rw [Outcome.toOption_eq_some_iff] at hb
  exact ⟨h, hcols, hkeys, hresolve, entities, hb, hmap,
    references_resolve h hcols hkeys hresolve hb⟩

end Entity

end CatalogEntities
