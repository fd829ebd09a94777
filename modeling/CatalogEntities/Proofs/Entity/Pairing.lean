import CatalogEntities.Proofs.Entity.MemberNames
import Mathlib.Data.List.Pairwise

/-!
Relations in pairs. A relation names another one only if that is the other end of what it stands
for, and then the other one names it in turn; two ends that both have a name find each other.
-/

namespace CatalogEntities

open Catalog Naming

def RelationKind.converse : RelationKind → RelationKind
  | .forward => .inverse
  | .inverse => .forward
  | .manyToMany => .manyToMany

namespace RelationEnd

/-- Two ends of one relation, seen from `table` and from `other`: a forward relation and its
mirror, or a many-to-many relation and itself. -/
def Opposite (table other : String) : RelationEnd → RelationEnd → Prop
  | .forward a, .inverse b =>
    a.table = table ∧ a.referencedTable = other ∧ b = RelationGraph.mirror a
  | .inverse a, .forward b =>
    b.table = other ∧ b.referencedTable = table ∧ a = RelationGraph.mirror b
  | .manyToMany a, .manyToMany b => a.joins table ∧ a.other table = other ∧ a = b
  | _, _ => False

end RelationEnd

namespace RelationGraph

@[simp] theorem forward_mem_endsOf {g : RelationGraph} {table : String} {r : ForwardRelation} :
    .forward r ∈ g.endsOf table ↔ r ∈ g.forwardFor table := by
  simp [endsOf]

@[simp] theorem inverse_mem_endsOf {g : RelationGraph} {table : String} {r : InverseRelation} :
    .inverse r ∈ g.endsOf table ↔ r ∈ g.inverseFor table := by
  simp [endsOf]

@[simp] theorem manyToMany_mem_endsOf {g : RelationGraph} {table : String}
    {r : ManyToManyRelation} :
    .manyToMany r ∈ g.endsOf table ↔ r ∈ g.manyToManyFor table := by
  simp [endsOf]

section

variable {tables : List Table} (h : DistinctNames tables) {x y : RelationEnd}
include h

theorem opposite_symm {table other : String} (hopp : x.Opposite table other y)
    (hx : x ∈ (ofTables tables).endsOf table) : y.Opposite other table x := by
  cases x <;> cases y <;> simp only [RelationEnd.Opposite] at hopp ⊢
  · exact hopp
  · exact hopp
  · obtain ⟨hjoins, rfl, rfl⟩ := hopp
    have hmem := (mem_manyToManyFor.mp (manyToMany_mem_endsOf.mp hx)).1
    have hne := (mem_manyToMany h hmem).1
    exact ⟨ManyToManyRelation.joins_other _ _, ManyToManyRelation.other_other hne hjoins, rfl⟩

/-- The mirror of a relation stands in the graph only if its table is no junction. -/
theorem fromJunction_of_mirror {t u : Table} (ht : t ∈ tables) {r : ForwardRelation}
    (hr : r ∈ (ofTables tables).forwardFor t.name)
    (hinv : mirror r ∈ (ofTables tables).inverseFor u.name) : r.fromJunction = false := by
  obtain ⟨htable, hjunction, -⟩ := mem_forwardFor h ht hr
  obtain ⟨v, hv, hvj, f, hf, hmirror⟩ := (mem_inverseFor h).mp hinv
  have hfv := (mem_forwardFor h hv (List.mem_of_find?_eq_some hf)).1
  have hname : t.name = v.name := by
    rw [← htable, ← hfv]
    exact congrArg InverseRelation.referencingTable hmirror
  rw [h.eq_of_name ht hv hname] at hjunction
  rw [← hjunction] at hvj
  simpa using hvj

/-- Where the graph has an inverse of a relation's column, it is the mirror of that relation. -/
theorem eq_mirror_of_found (hkeys : SingleKeys tables) {t : Table} (ht : t ∈ tables)
    {r : ForwardRelation} (hr : r ∈ (ofTables tables).forwardFor t.name) {inv : InverseRelation}
    (hinv : inv ∈ (ofTables tables).inverseFor r.referencedTable)
    (htable : inv.referencingTable = t.name) (hcolumn : inv.column = r.column) :
    inv = mirror r := by
  obtain ⟨u, hu, -, f, hf, rfl⟩ := (mem_inverseFor h).mp hinv
  have hfu := List.mem_of_find?_eq_some hf
  obtain rfl : u = t := h.eq_of_name hu ht ((mem_forwardFor h hu hfu).1.symm.trans htable)
  have hcolumns := forwardFor_columns_nodup h hkeys ht
  rw [List.inj_on_of_nodup_map hcolumns hfu hr hcolumn]

end

end RelationGraph

namespace Entity

/-- Two relations name each other, over the same foreign key or junction. -/
structure Paired (e : Entity) (r : EntityRelation) (f : Entity) (s : EntityRelation) : Prop where
  kind : s.kind = r.kind.converse
  target : r.targetTable = f.table.name
  source : s.targetTable = e.table.name
  names : r.backPopulates = some s.name
  named : s.backPopulates = some r.name
  secondary : s.secondary = r.secondary
  foreignKeys : s.foreignKeys = r.foreignKeys

section

variable (plans : Plans) (graph : RelationGraph) {t u : Table} {x y : RelationEnd}

theorem shown_opposite (hopp : x.Opposite t.name u.name y) (m n : String) :
    (shown plans graph u y n).kind = (shown plans graph t x m).kind.converse ∧
      (shown plans graph t x m).targetTable = u.name ∧
      (shown plans graph u y n).secondary = (shown plans graph t x m).secondary ∧
      (shown plans graph u y n).foreignKeys = (shown plans graph t x m).foreignKeys := by
  cases x <;> cases y <;> simp only [RelationEnd.Opposite] at hopp
  · obtain ⟨htable, hreferenced, rfl⟩ := hopp
    simp only [shown, forwardRelation, inverseRelation, RelationGraph.mirror, RelationKind.converse,
      htable, hreferenced, and_self]
  · obtain ⟨htable, hreferenced, rfl⟩ := hopp
    simp only [shown, forwardRelation, inverseRelation, RelationGraph.mirror, RelationKind.converse,
      htable, and_self]
  · obtain ⟨-, hother, rfl⟩ := hopp
    simp only [shown, manyToManyRelation, RelationKind.converse, hother, and_self]

end

section

variable {tables : List Table} (h : DistinctNames tables) {plans : Plans} {t u : Table}
  {x y : RelationEnd}
include h

/-- What a relation names is the other end of what it stands for. -/
theorem shown_back (ht : t ∈ tables) (hx : x ∈ (RelationGraph.ofTables tables).endsOf t.name)
    (hy : y ∈ (RelationGraph.ofTables tables).endsOf u.name)
    (hopp : x.Opposite t.name u.name y) {q : Plan} (hq : plans.get? u.name = some q)
    (name : String) :
    (shown plans (RelationGraph.ofTables tables) t x name).backPopulates = q.nameOf? y := by
  cases x with
  | forward a =>
    cases y <;> simp only [RelationEnd.Opposite] at hopp
    rename_i b
    obtain ⟨htable, hreferenced, rfl⟩ := hopp
    rw [RelationGraph.forward_mem_endsOf] at hx
    rw [RelationGraph.inverse_mem_endsOf] at hy
    -- the mirror is found by table and column, and no junction is in between
    have hjunction := RelationGraph.fromJunction_of_mirror h ht hx hy
    have hfound : (((RelationGraph.ofTables tables).inverseFor u.name).find? fun inv =>
        inv.referencingTable == t.name && inv.column == a.column).isSome := by
      rw [List.find?_isSome]
      exact ⟨_, hy, by simp [RelationGraph.mirror, htable]⟩
    have hinverse := Option.isNone_eq_false_iff.mpr hfound
    simp only [shown, forwardRelation, hjunction, hreferenced, hinverse, Bool.or_self,
      Bool.false_eq_true, ↓reduceIte, hq, Option.bind_some, Plan.nameOf?,
      RelationGraph.mirror, htable]
  | inverse a =>
    cases y <;> simp only [RelationEnd.Opposite] at hopp
    obtain ⟨htable, -, rfl⟩ := hopp
    simp only [shown, inverseRelation, RelationGraph.mirror, htable, hq, Option.bind_some,
      Plan.nameOf?]
  | manyToMany a =>
    cases y <;> simp only [RelationEnd.Opposite] at hopp
    obtain ⟨-, hother, rfl⟩ := hopp
    simp only [shown, manyToManyRelation, hother, hq, Option.bind_some, Plan.nameOf?]

/-- A relation that names another one stands for an end with an opposite. -/
theorem exists_opposite (hkeys : SingleKeys tables) (ht : t ∈ tables)
    (hx : x ∈ (RelationGraph.ofTables tables).endsOf t.name) {name n : String}
    (hback : (shown plans (RelationGraph.ofTables tables) t x name).backPopulates = some n) :
    ∃ u ∈ tables, ∃ y ∈ (RelationGraph.ofTables tables).endsOf u.name,
    x.Opposite t.name u.name y := by
  cases x with
  | forward a =>
    rw [RelationGraph.forward_mem_endsOf] at hx
    obtain ⟨htable, -, hknown⟩ := RelationGraph.mem_forwardFor h ht hx
    obtain ⟨u, hu, hname⟩ := mem_knownNames.mp hknown
    simp only [shown, forwardRelation] at hback
    split at hback
    · cases hback
    · rename_i hfound
      rw [Bool.or_eq_true, not_or, Bool.not_eq_true, Bool.not_eq_true, Option.isNone_eq_false_iff,
        Option.isSome_iff_exists] at hfound
      -- The counterpart is looked up by table and column, which only the mirror has.
      obtain ⟨-, inv, hinv⟩ := hfound
      have hmem := List.mem_of_find?_eq_some hinv
      have hkey := List.find?_some hinv
      rw [Bool.and_eq_true, beq_iff_eq, beq_iff_eq] at hkey
      obtain rfl := RelationGraph.eq_mirror_of_found h hkeys ht hx hmem hkey.1 hkey.2
      rw [← hname] at hmem
      exact ⟨u, hu, .inverse (RelationGraph.mirror a), RelationGraph.inverse_mem_endsOf.mpr hmem,
        htable, hname.symm, rfl⟩
  | inverse a =>
    rw [RelationGraph.inverse_mem_endsOf] at hx
    obtain ⟨u, hu, -, f, hf, rfl⟩ := (RelationGraph.mem_inverseFor h).mp hx
    have hfu := List.mem_of_find?_eq_some hf
    have htarget : f.referencedTable = t.name := by simpa using List.find?_some hf
    exact ⟨u, hu, .forward f, RelationGraph.forward_mem_endsOf.mpr hfu,
      (RelationGraph.mem_forwardFor h hu hfu).1, htarget, rfl⟩
  | manyToMany a =>
    rw [RelationGraph.manyToMany_mem_endsOf, RelationGraph.mem_manyToManyFor] at hx
    obtain ⟨-, hleft, hright, -⟩ := RelationGraph.mem_manyToMany h hx.1
    have hknown : a.other t.name ∈ knownNames tables := by
      rcases ManyToManyRelation.joins_iff.mp (a.joins_other t.name) with he | he <;> rwa [he]
    obtain ⟨u, hu, hname⟩ := mem_knownNames.mp hknown
    refine ⟨u, hu, .manyToMany a, ?_, hx.2, hname.symm, rfl⟩
    rw [RelationGraph.manyToMany_mem_endsOf, RelationGraph.mem_manyToManyFor, hname]
    exact ⟨hx.1, a.joins_other t.name⟩

end

/-- A relation stands for the end that the plan of its table gave its name to. -/
def StandsFor (tables : List Table) (e : Entity) (r : EntityRelation) (x : RelationEnd) : Prop :=
  r ∈ e.relations ∧ x ∈ (RelationGraph.ofTables tables).endsOf e.table.name ∧
    ∃ plan, Plan.ofTable (classNames tables) (RelationGraph.ofTables tables) e.table = .ok plan ∧
      plan.nameOf? x = some r.name

namespace Built

variable {tables : List Table} {plans : Plans} {t u : Table}
  {types utypes : List (Column × ColumnType)} {e f : Entity} {x y : RelationEnd}

theorem standsFor (h : Built tables plans t types e)
    (hx : x ∈ (RelationGraph.ofTables tables).endsOf t.name) {m : String}
    (hm : (Plan.inRun tables t types).nameOf? x = some m) :
    StandsFor tables e (shown plans (RelationGraph.ofTables tables) t x m) x := by
  obtain ⟨htable, -, -, -, -, hrelations⟩ := h.fields
  refine ⟨?_, htable ▸ hx, Plan.inRun tables t types, ?_, ?_⟩
  · rw [hrelations]
    exact List.mem_filterMap.mpr ⟨x, hx, by rw [hm, Option.map_some]⟩
  · rw [htable]
    exact Plan.ofTable_ok_iff.mpr ⟨types, h.types_ok, rfl⟩
  · rw [hm, shown_name]

theorem exists_end (h : Built tables plans t types e) {r : EntityRelation} (hr : r ∈ e.relations) :
    ∃ x ∈ (RelationGraph.ofTables tables).endsOf t.name,
      (Plan.inRun tables t types).nameOf? x = some r.name ∧
      r = shown plans (RelationGraph.ofTables tables) t x r.name := by
  obtain ⟨-, -, -, -, -, hrelations⟩ := h.fields
  rw [hrelations] at hr
  obtain ⟨x, hx, hname⟩ := List.mem_filterMap.mp hr
  obtain ⟨m, hm, rfl⟩ := Option.map_eq_some_iff.mp hname
  refine ⟨x, hx, ?_, ?_⟩ <;> rw [shown_name]
  exact hm

/-- The end decides what the relation shows. -/
theorem eq_shown (h : Built tables plans t types e) (hnames : DistinctNames tables)
    (hkeys : SingleKeys tables) (ht : t ∈ tables) {r : EntityRelation}
    (hr : StandsFor tables e r x) :
    (Plan.inRun tables t types).nameOf? x = some r.name ∧
      r = shown plans (RelationGraph.ofTables tables) t x r.name := by
  obtain ⟨hmem, hx, plan, hplan, hname⟩ := hr
  obtain ⟨types', htypes', rfl⟩ := Plan.ofTable_ok_iff.mp hplan
  obtain ⟨rfl, -⟩ := h.fields
  obtain rfl := Except.ok.inj (h.types_ok.symm.trans htypes')
  obtain ⟨y, hy, hyname, hshown⟩ := h.exists_end hmem
  -- A second end of the same name would share its key, and no two ends of one table do.
  have hkey := Plan.sameKey_of_nameOf? hname hyname
  have hxy : x = y := by
    by_contra hne
    have hdistinct := RelationGraph.endsOf_keys_distinct hnames hkeys ht
    have : Std.Symm fun x y : RelationEnd => ¬ x.SameKey y := ⟨fun _ _ hn hk => hn hk.symm⟩
    exact hdistinct.forall hx hy hne hkey
  subst hxy
  exact ⟨hname, hshown⟩

section

variable (h : DistinctNames tables) (hkeys : SingleKeys tables) (ht : t ∈ tables) (hu : u ∈ tables)
  (he : Built tables plans t types e) (hf : Built tables plans u utypes f)
include h hkeys ht hu he hf

/-- Two relations that stand for opposite ends name each other. -/
theorem paired {r s : EntityRelation} (hr : StandsFor tables e r x) (hs : StandsFor tables f s y)
    (hopp : x.Opposite t.name u.name y) : Paired e r f s := by
  obtain ⟨hm, hrshown⟩ := he.eq_shown h hkeys ht hr
  obtain ⟨hn, hsshown⟩ := hf.eq_shown h hkeys hu hs
  obtain ⟨-, hx, -⟩ := hr
  obtain ⟨-, hy, -⟩ := hs
  have het := he.fields.1
  have hfu := hf.fields.1
  rw [het] at hx
  rw [hfu] at hy
  have hsymm := RelationGraph.opposite_symm h hopp hx
  obtain ⟨hkind, htarget, hsecondary, hforeign⟩ :=
    shown_opposite plans (RelationGraph.ofTables tables) hopp r.name s.name
  obtain ⟨-, hsource, -, -⟩ :=
    shown_opposite plans (RelationGraph.ofTables tables) hsymm s.name r.name
  have hback := (shown_back h ht hx hy hopp hf.planned r.name).trans hn
  have hforth := (shown_back h hu hy hx hsymm he.planned s.name).trans hm
  rw [← hrshown, ← hsshown] at hkind hsecondary hforeign
  rw [← hrshown] at htarget hback
  rw [← hsshown] at hsource hforth
  exact ⟨hkind, hfu ▸ htarget, het ▸ hsource, hback, hforth, hsecondary, hforeign⟩

end

end Built

/-- Every relation stands for an end of its table. If it names another one, then the entity of its
target has exactly one relation of that name, and the two are a pair; and whenever relations stand
for opposite ends, they are a pair. -/
theorem back_populates_paired {tables : List Table} {entities : List Entity}
    (h : DistinctNames tables) (hkeys : SingleKeys tables)
    (hb : ofTables tables (RelationGraph.ofTables tables) = .ok entities) :
    (∀ e ∈ entities, ∀ r ∈ e.relations, (∃ x, StandsFor tables e r x ∧ r.kind = x.kind) ∧
      ∀ n, r.backPopulates = some n → ∃ f s,
        entities.filter (·.table.name == r.targetTable) = [f] ∧
        f.relations.filter (·.name == n) = [s] ∧ Paired e r f s) ∧
    ∀ e ∈ entities, ∀ f ∈ entities, ∀ r s x y, StandsFor tables e r x → StandsFor tables f s y →
      x.Opposite e.table.name f.table.name y → Paired e r f s := by
  obtain ⟨plans, hall⟩ := ofTables_built h hb
  have hnodup : (entities.map (·.table.name)).Nodup := by
    have htables := congrArg (List.map (·.name)) (ofTables_tables h hb)
    rw [List.map_map] at htables
    exact htables ▸ h.known
  refine ⟨fun e he r hr => ?_, fun e he f hf r s x y hrx hsy hopp => ?_⟩
  · obtain ⟨t, ht, types, hbuilt⟩ := Outcome.mem_right hall he
    rw [mem_sortTables] at ht
    obtain ⟨x, hx, hname, hshown⟩ := hbuilt.exists_end hr
    have hstands : StandsFor tables e r x := by
      rw [hshown]
      exact hbuilt.standsFor hx hname
    refine ⟨⟨x, hstands, by rw [hshown, shown_kind]⟩, fun n hn => ?_⟩
    have hback := hn
    rw [hshown] at hback
    obtain ⟨u, hu, y, hy, hopp⟩ := exists_opposite h hkeys ht hx hback
    obtain ⟨f, hf, utypes, hfbuilt⟩ := Outcome.mem_left hall (mem_sortTables.mpr hu)
    rw [shown_back h ht hx hy hopp hfbuilt.planned] at hback
    have hpaired := hbuilt.paired h hkeys ht hu hfbuilt hstands (hfbuilt.standsFor hy hback) hopp
    refine ⟨f, _, filter_eq_singleton hnodup hf hpaired.target.symm, ?_, hpaired⟩
    refine filter_eq_singleton (hfbuilt.relation_names_nodup h hkeys hu)
      (hfbuilt.standsFor hy hback).1 ?_
    rw [shown_name]
  · obtain ⟨t, ht, types, hbuilt⟩ := Outcome.mem_right hall he
    obtain ⟨u, hu, utypes, hfbuilt⟩ := Outcome.mem_right hall hf
    rw [mem_sortTables] at ht hu
    rw [hbuilt.fields.1, hfbuilt.fields.1] at hopp
    exact hbuilt.paired h hkeys ht hu hfbuilt hrx hsy hopp

/-- A table that refers to itself and has a column named as the inverse relation would be. -/
def renamedInverse : List Table :=
  let column (name : String) : Column := ⟨name, "int", true, none, false, false, none, ""⟩
  [⟨"node", ["id", "parent", "nodes"].map column, [⟨"node", "parent", "node", "id", none⟩]⟩]

theorem renamedInverse_paired : DistinctNames renamedInverse ∧ SingleKeys renamedInverse ∧
    ∃ entities, ofTables renamedInverse (RelationGraph.ofTables renamedInverse) = .ok entities ∧
      (entities.map fun e => e.relations.map fun r => (r.name, r.backPopulates)) =
        [[("fk_node", some "nodes_by_parent"), ("nodes_by_parent", some "fk_node")]] ∧
      (∀ e ∈ entities, ∀ r ∈ e.relations, (∃ x, StandsFor renamedInverse e r x ∧ r.kind = x.kind) ∧
        ∀ n, r.backPopulates = some n → ∃ f s,
          entities.filter (·.table.name == r.targetTable) = [f] ∧
          f.relations.filter (·.name == n) = [s] ∧ Paired e r f s) ∧
      ∀ e ∈ entities, ∀ f ∈ entities, ∀ r s x y, StandsFor renamedInverse e r x →
        StandsFor renamedInverse f s y → x.Opposite e.table.name f.table.name y →
        Paired e r f s := by
  have h : DistinctNames renamedInverse := by decide
  have hkeys : SingleKeys renamedInverse := by decide
  have hshown : (ofTables renamedInverse (RelationGraph.ofTables renamedInverse)).toOption.map
      (·.map fun e => e.relations.map fun r => (r.name, r.backPopulates)) =
        some [[("fk_node", some "nodes_by_parent"), ("nodes_by_parent", some "fk_node")]] := by
    decide +kernel
  obtain ⟨entities, hb, hmap⟩ := Option.map_eq_some_iff.mp hshown
  rw [Outcome.toOption_eq_some_iff] at hb
  exact ⟨h, hkeys, entities, hb, hmap, back_populates_paired h hkeys hb⟩

end Entity

end CatalogEntities
