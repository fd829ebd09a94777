import CatalogEntities.Proofs.Graph.ManyToMany

/-!
Many-to-many relations are exact. In a run whose tables have distinct names there is one for each
pair of tables that some junction associates, that of the junction with the smallest name, and
there are no others.
-/

namespace CatalogEntities

open Catalog Naming

/-- `t` is a table of the run that does nothing but associate two others: both its columns are
primary, and its two keys lead to different tables of the run. -/
structure Associates (tables : List Table) (t : Table) (a b : ForeignKey) : Prop where
  mem : t ∈ tables
  columns : t.columns.length = 2
  primary : ∀ c ∈ t.columns, c.isPrimary
  keys : t.foreignKeys.Perm [a, b]
  distinct : a.referencedTable ≠ b.referencedTable
  first : a.referencedTable ∈ knownNames tables
  second : b.referencedTable ∈ knownNames tables

namespace Associates

variable {tables : List Table} {t : Table} {a b : ForeignKey}

theorem symm (h : Associates tables t a b) : Associates tables t b a :=
  { h with
    keys := h.keys.trans (.swap b a [])
    distinct := h.distinct.symm
    first := h.second
    second := h.first }

theorem isJunction (h : Associates tables t a b) : t.isJunction (knownNames tables) := by
  have hprimary := List.all_eq_true.mpr h.primary
  rcases List.perm_pair.mp h.keys with hkeys | hkeys
  · simp [Table.isJunction, h.columns, hprimary, hkeys, h.distinct, h.first, h.second]
  · simp [Table.isJunction, h.columns, hprimary, hkeys, h.distinct.symm, h.first, h.second]

theorem exists_of_isJunction (ht : t ∈ tables) (hj : t.isJunction (knownNames tables)) :
    ∃ a b, Associates tables t a b := by
  obtain ⟨a, b, hkeys, hne, ha, hb⟩ := Table.keys_of_isJunction hj
  simp only [Table.isJunction, Bool.and_eq_true, beq_iff_eq, List.all_eq_true] at hj
  obtain ⟨⟨hcolumns, hprimary⟩, -⟩ := hj
  exact ⟨a, b, ht, hcolumns, hprimary, hkeys ▸ List.Perm.refl _, hne, ha, hb⟩

/-- A junction's relation has its keys in the order of the tables they lead to. -/
theorem throughJunction?_eq (h : Associates tables t a b)
    (hlt : a.referencedTable < b.referencedTable) :
    RelationGraph.throughJunction? t = some
      { left := a.referencedTable
        right := b.referencedTable
        junction := t.name
        leftColumn := a.column
        rightColumn := b.column
        leftName := manyToManyName b.referencedTable
        rightName := manyToManyName a.referencedTable } := by
  have hsorted : sortByKey ForeignKey.referencedTable t.foreignKeys = [a, b] :=
    sortByKey_eq_of_sorted (by simpa using h.distinct) h.keys (by simpa using Std.le_of_lt hlt)
  simp only [RelationGraph.throughJunction?, hsorted]

theorem exists_ordered (ht : t ∈ tables) (hj : t.isJunction (knownNames tables)) :
    ∃ a b, Associates tables t a b ∧ a.referencedTable < b.referencedTable := by
  obtain ⟨a, b, h⟩ := exists_of_isJunction ht hj
  rcases Std.lt_trichotomy a.referencedTable b.referencedTable with hlt | heq | hgt
  · exact ⟨a, b, h, hlt⟩
  · exact absurd heq h.distinct
  · exact ⟨b, a, h.symm, hgt⟩

end Associates

/-- The relation joins these two tables, whichever of them is the left one. -/
def ManyToManyRelation.between (r : ManyToManyRelation) (x y : String) : Bool :=
  r.pair == (x, y) || r.pair == (y, x)

theorem ManyToManyRelation.between_comm (r : ManyToManyRelation) (x y : String) :
    r.between x y = r.between y x := Bool.or_comm _ _

namespace RelationGraph

theorem throughJunction?_junction {t : Table} {r : ManyToManyRelation}
    (hr : throughJunction? t = some r) :
    r.junction = t.name := by
  simp only [throughJunction?] at hr
  split at hr
  · obtain rfl := Option.some.inj hr
    rfl
  · cases hr

/-- The relations that are kept answer for every pair as all relations do: with the first. -/
theorem find?_distinctPairs (found rest : List ManyToManyRelation) (pair : String × String) :
    (distinctPairs found rest).1.find? (·.pair == pair) =
      (found ++ rest).find? (·.pair == pair) := by
  induction rest generalizing found with
  | nil => simp [distinctPairs]
  | cons head rest ih =>
    simp only [distinctPairs]
    split
    · rename_i kept hkept
      rw [ih, List.find?_append, List.find?_append, List.find?_cons]
      by_cases hpair : head.pair == pair
      · rw [eq_of_beq hpair] at hkept
        simp only [hkept, Option.some_or]
      · simp only [hpair]
    · rw [ih, List.append_assoc, List.singleton_append]

theorem pairLe_iff {a b : String × String} : pairLe a b ↔ a.1 < b.1 ∨ a.1 = b.1 ∧ a.2 ≤ b.2 := by
  unfold pairLe
  by_cases he : a.1 = b.1
  · simp only [he, beq_self_eq_true, ↓reduceIte, Bool.not_eq_true', decide_eq_false_iff_not,
      String.not_lt, String.lt_irrefl, false_or, true_and]
  · simp only [beq_eq_false_iff_ne.mpr he, Bool.false_eq_true, ↓reduceIte, decide_eq_true_eq, he,
      false_and, or_false]

theorem pairLe_sorted {α : Type} (key : α → String × String) (xs : List α) :
    (xs.mergeSort fun a b => pairLe (key a) (key b)).Pairwise
      fun a b => pairLe (key a) (key b) := by
  refine List.pairwise_mergeSort ?_ ?_ xs
  · intro a b c hab hbc
    rw [pairLe_iff] at hab hbc ⊢
    rcases hab with hab | ⟨hab, hab'⟩ <;> rcases hbc with hbc | ⟨hbc, hbc'⟩
    · exact Or.inl (String.lt_trans hab hbc)
    · exact Or.inl (hbc ▸ hab)
    · exact Or.inl (hab ▸ hbc)
    · exact Or.inr ⟨hab.trans hbc, String.le_trans hab' hbc'⟩
  · intro a b
    rw [Bool.or_eq_true, pairLe_iff, pairLe_iff]
    rcases Std.lt_trichotomy (key a).1 (key b).1 with hlt | heq | hgt
    · exact Or.inl (Or.inl hlt)
    · rcases String.le_total (key a).2 (key b).2 with hle | hle
      · exact Or.inl (Or.inr ⟨heq, hle⟩)
      · exact Or.inr (Or.inr ⟨heq.symm, hle⟩)
    · exact Or.inr (Or.inl hgt)

/-- The relations stand in the order of their pairs. -/
theorem manyToMany_sorted (tables : List Table) : (ofTables tables).manyToMany.Pairwise
    fun r s => r.left < s.left ∨ r.left = s.left ∧ r.right < s.right := by
  have hsorted : (ofTables tables).manyToMany.Pairwise fun r s => pairLe r.pair s.pair :=
    pairLe_sorted ManyToManyRelation.pair _
  refine hsorted.imp₂ (fun {r s} hle hne => ?_)
    (List.pairwise_map.mp (manyToMany_pairs_nodup tables))
  rcases pairLe_iff.mp hle with hlt | ⟨heq, hle⟩
  · exact Or.inl hlt
  · refine Or.inr ⟨heq, Std.lt_of_le_of_ne hle fun hright => hne ?_⟩
    exact Prod.ext heq hright

section

variable {tables : List Table} (h : DistinctNames tables)
include h

/-- Junctions are looked at in the order of their names. -/
theorem junctionRelations_sorted :
    (junctionRelations (sortTables tables)).Pairwise fun r s => r.junction < s.junction := by
  have hnames : (junctionNames (sortTables tables)).Pairwise (· < ·) := by
    refine h.known_sorted.sublist (List.Sublist.trans (distinct_sublist _) ?_)
    exact List.filter_sublist.map _
  refine List.pairwise_filterMap.mpr (hnames.imp fun {m n} hlt r hr s hs => ?_)
  obtain ⟨t, ht, hr⟩ := Option.bind_eq_some_iff.mp hr
  obtain ⟨u, hu, hs⟩ := Option.bind_eq_some_iff.mp hs
  have htname : t.name = m := by simpa using List.find?_some ht
  have huname : u.name = n := by simpa using List.find?_some hu
  rwa [throughJunction?_junction hr, throughJunction?_junction hs, htname, huname]

/-- A relation of the graph is that of the junction with the smallest name for its pair. -/
theorem mem_manyToMany_iff {r : ManyToManyRelation} : r ∈ (ofTables tables).manyToMany ↔
    r ∈ junctionRelations (sortTables tables) ∧
      ∀ s ∈ junctionRelations (sortTables tables), s.pair = r.pair → r.junction ≤ s.junction := by
  have hkept : r ∈ (ofTables tables).manyToMany ↔
      (distinctPairs [] (junctionRelations (sortTables tables))).1.find? (·.pair == r.pair) =
        some r := by
    rw [(manyToMany_perm tables).mem_iff]
    have hnodup :
        ((distinctPairs [] (junctionRelations (sortTables tables))).1.map (·.pair)).Nodup :=
      distinctPairs_nodup _ List.nodup_nil
    exact ⟨fun hr => find?_eq_some_of_nodup hnodup hr rfl, List.mem_of_find?_eq_some⟩
  rw [hkept, find?_distinctPairs, List.nil_append,
    find?_eq_some_iff_least (junctionRelations_sorted h)]
  simp

theorem mem_junctionRelations_iff {r : ManyToManyRelation} :
    r ∈ junctionRelations (sortTables tables) ↔ ∃ t a b, Associates tables t a b ∧
      a.referencedTable < b.referencedTable ∧ throughJunction? t = some r := by
  rw [mem_junctionRelations h]
  constructor
  · rintro ⟨t, ht, hj, hr⟩
    obtain ⟨a, b, hassoc, hlt⟩ := Associates.exists_ordered ht hj
    exact ⟨t, a, b, hassoc, hlt, hr⟩
  · rintro ⟨t, a, b, hassoc, -, hr⟩
    exact ⟨t, hassoc.mem, hassoc.isJunction, hr⟩

/-- The relation of the smallest junction of a pair stands for the pair. -/
theorem exists_smallest {t : Table} {a b : ForeignKey} (hassoc : Associates tables t a b)
    (hlt : a.referencedTable < b.referencedTable) :
    ∃ r ∈ (ofTables tables).manyToMany, r.pair = (a.referencedTable, b.referencedTable) := by
  have hsome : ((distinctPairs [] (junctionRelations (sortTables tables))).1.find?
      (·.pair == (a.referencedTable, b.referencedTable))).isSome := by
    rw [find?_distinctPairs, List.nil_append, List.find?_isSome]
    refine ⟨_, (mem_junctionRelations_iff h).mpr
      ⟨t, a, b, hassoc, hlt, hassoc.throughJunction?_eq hlt⟩, ?_⟩
    simp [ManyToManyRelation.pair]
  obtain ⟨r, hr⟩ := Option.isSome_iff_exists.mp hsome
  refine ⟨r, (manyToMany_perm tables).mem_iff.mpr (List.mem_of_find?_eq_some hr), ?_⟩
  simpa using List.find?_some hr

theorem left_lt_right {r : ManyToManyRelation} (hr : r ∈ (ofTables tables).manyToMany) :
    r.left < r.right := by
  obtain ⟨t, a, b, hassoc, hlt, hthrough⟩ :=
    (mem_junctionRelations_iff h).mp ((mem_manyToMany_iff h).mp hr).1
  rw [hassoc.throughJunction?_eq hlt, Option.some.injEq] at hthrough
  subst hthrough
  exact hlt

/-- The left table has the smaller name, so only one order of the two tables is found. -/
theorem exists_between {t : Table} {a b : ForeignKey} (hassoc : Associates tables t a b)
    (hlt : a.referencedTable < b.referencedTable) : ∃ r, (ofTables tables).manyToMany.filter
      (·.between a.referencedTable b.referencedTable) = [r] := by
  obtain ⟨r, hr, hpair⟩ := exists_smallest h hassoc hlt
  refine ⟨r, ?_⟩
  rw [← filter_eq_singleton (manyToMany_pairs_nodup tables) hr hpair]
  refine List.filter_congr fun s hs => ?_
  have hswapped : s.pair ≠ (b.referencedTable, a.referencedTable) := by
    rintro hs'
    obtain ⟨hleft, hright⟩ := Prod.mk.inj hs'
    have hlt' := left_lt_right h hs
    rw [hleft, hright] at hlt'
    exact String.lt_asymm hlt hlt'
  simp [ManyToManyRelation.between, hswapped]

end

/-- `r` is the relation of `t`, whose keys `a` and `b` lead to the left and the right table, and no
junction of the same two tables has a smaller name. -/
structure FromSmallest (tables : List Table) (r : ManyToManyRelation) (t : Table)
    (a b : ForeignKey) : Prop where
  associates : Associates tables t a b
  junction : r.junction = t.name
  left : r.left = a.referencedTable ∧ r.leftColumn = a.column
  right : r.right = b.referencedTable ∧ r.rightColumn = b.column
  least : ∀ u c d, Associates tables u c d → c.referencedTable = r.left →
  d.referencedTable = r.right →
    r.junction ≤ u.name

theorem exists_fromSmallest {tables : List Table} (h : DistinctNames tables)
    {r : ManyToManyRelation}
    (hr : r ∈ (ofTables tables).manyToMany) : ∃ t a b, FromSmallest tables r t a b := by
  obtain ⟨hfound, hleast⟩ := (mem_manyToMany_iff h).mp hr
  obtain ⟨t, a, b, hassoc, hlt, hthrough⟩ := (mem_junctionRelations_iff h).mp hfound
  rw [hassoc.throughJunction?_eq hlt, Option.some.injEq] at hthrough
  subst hthrough
  refine ⟨t, a, b, hassoc, rfl, ⟨rfl, rfl⟩, ⟨rfl, rfl⟩, fun u c d hother hc hd => ?_⟩
  have hlt' : c.referencedTable < d.referencedTable := by rwa [hc, hd]
  have hthrough := hother.throughJunction?_eq hlt'
  have hfound' := (mem_junctionRelations_iff h).mpr ⟨u, c, d, hother, hlt', hthrough⟩
  exact hleast _ hfound' (Prod.ext hc hd)

/-- For each two tables that a junction associates there is exactly one relation, and every relation
is that of the smallest junction of its two tables. They stand in the order of their pairs, and each
of the two tables, and no other, has the relation once. -/
theorem manyToMany_exact {tables : List Table} (h : DistinctNames tables) :
    (∀ t a b, Associates tables t a b → ∃ r, (ofTables tables).manyToMany.filter
      (·.between a.referencedTable b.referencedTable) = [r]) ∧
    (∀ r ∈ (ofTables tables).manyToMany, r.left < r.right ∧ ∃ t a b, FromSmallest tables r t a b) ∧
    (ofTables tables).manyToMany.Pairwise
      (fun r s => r.left < s.left ∨ r.left = s.left ∧ r.right < s.right) ∧
    ∀ table r, ((ofTables tables).manyToManyFor table).count r =
      if r ∈ (ofTables tables).manyToMany ∧ (table = r.left ∨ table = r.right) then 1 else 0 := by
  refine ⟨fun t a b hassoc => ?_, fun r hr => ⟨left_lt_right h hr, exists_fromSmallest h hr⟩,
    manyToMany_sorted tables, fun table r => ?_⟩
  · rcases Std.lt_trichotomy a.referencedTable b.referencedTable with hlt | heq | hgt
    · exact exists_between h hassoc hlt
    · exact absurd heq hassoc.distinct
    · obtain ⟨r, hr⟩ := exists_between h hassoc.symm hgt
      exact ⟨r, by simpa only [ManyToManyRelation.between_comm] using hr⟩
  · have hnodup : ((ofTables tables).manyToManyFor table).Nodup :=
      (manyToManyFor_pairs_nodup tables table).of_map
    simp only [hnodup.count, mem_manyToManyFor, ManyToManyRelation.joins_iff]

/-- A table with two primary columns and a key on each of them. -/
def twoKeys (name one two : String) : Table :=
  let column (name : String) : Column := ⟨name, "int", false, none, true, false, none, ""⟩
  ⟨name, [column "one", column "two"],
    [⟨name, "one", one, "id", none⟩, ⟨name, "two", two, "id", none⟩]⟩

/-- Two junctions of one pair with their keys in either order, a table that associates another one
with itself, and one with a key that leads out of the run. -/
def rivalJunctions : List Table :=
  [twoKeys "wrote" "author" "book", twoKeys "by" "book" "author",
    twoKeys "follows" "author" "author",
    twoKeys "sells" "book" "shop", ⟨"book", [], []⟩, ⟨"author", [], []⟩]

theorem rivalJunctions_one_relation : DistinctNames rivalJunctions ∧
    (∃ r, (ofTables rivalJunctions).manyToMany.filter (·.between "author" "book") = [r] ∧
      r.junction ≤ "by") ∧
    (∀ t a b, Associates rivalJunctions t a b → ∃ r, (ofTables rivalJunctions).manyToMany.filter
      (·.between a.referencedTable b.referencedTable) = [r]) ∧
    (∀ r ∈ (ofTables rivalJunctions).manyToMany,
      r.left < r.right ∧ ∃ t a b, FromSmallest rivalJunctions r t a b) ∧
    (ofTables rivalJunctions).manyToMany.Pairwise
      (fun r s => r.left < s.left ∨ r.left = s.left ∧ r.right < s.right) ∧
    ∀ table r, ((ofTables rivalJunctions).manyToManyFor table).count r =
      if r ∈ (ofTables rivalJunctions).manyToMany ∧ (table = r.left ∨ table = r.right) then 1
      else 0 := by
  have h : DistinctNames rivalJunctions := by decide
  have hby : Associates rivalJunctions (twoKeys "by" "book" "author")
      ⟨"by", "one", "book", "id", none⟩ ⟨"by", "two", "author", "id", none⟩ :=
    ⟨by decide, rfl, by decide, .refl _, by decide, mem_knownNames.mpr (by decide),
      mem_knownNames.mpr (by decide)⟩
  have hexact := manyToMany_exact h
  obtain ⟨r, hr⟩ := hexact.1 _ _ _ hby.symm
  refine ⟨h, ⟨r, hr, ?_⟩, hexact⟩
  obtain ⟨hmem, hbetween⟩ := List.mem_filter.mp (hr ▸ List.mem_singleton_self r)
  obtain ⟨hlt, t, a, b, hfrom⟩ := hexact.2.1 r hmem
  rcases Bool.or_eq_true _ _ ▸ hbetween with hpair | hpair
  · obtain ⟨hleft, hright⟩ := Prod.mk.inj (eq_of_beq hpair)
    exact hfrom.least _ _ _ hby.symm hleft.symm hright.symm
  · obtain ⟨hleft, hright⟩ := Prod.mk.inj (eq_of_beq hpair)
    exact hfrom.least _ _ _ hby hleft.symm hright.symm

end RelationGraph

end CatalogEntities
