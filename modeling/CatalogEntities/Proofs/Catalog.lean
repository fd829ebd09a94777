import CatalogEntities.Catalog.Table
import Mathlib.Data.List.Nodup

/-!
What is asked of the tables of a run, and what sorting does to them: it keeps every table, and
tables with different names come out in one order.
-/

namespace CatalogEntities.Catalog

/-- No two tables share a name. -/
def DistinctNames (tables : List Table) : Prop := (tables.map (·.name)).Nodup

/-- No column of a table stands in two rows of its foreign keys. -/
def SingleKeys (tables : List Table) : Prop :=
  ∀ t ∈ tables, (t.foreignKeys.map (·.column)).Nodup

/-- No two columns of a table share a name. -/
def DistinctColumns (tables : List Table) : Prop :=
  ∀ t ∈ tables, (t.columns.map (·.name)).Nodup

instance (tables : List Table) : Decidable (DistinctNames tables) :=
  inferInstanceAs (Decidable (List.Nodup _))

instance (tables : List Table) : Decidable (DistinctColumns tables) :=
  inferInstanceAs (Decidable (∀ t ∈ tables, List.Nodup _))

instance (tables : List Table) : Decidable (SingleKeys tables) :=
  inferInstanceAs (Decidable (∀ t ∈ tables, List.Nodup _))

theorem sortByKey_perm {α : Type} (key : α → String) (xs : List α) : (sortByKey key xs).Perm xs :=
  List.mergeSort_perm _ _

@[simp] theorem mem_sortByKey {α : Type} {key : α → String} {xs : List α} {x : α} :
    x ∈ sortByKey key xs ↔ x ∈ xs := (sortByKey_perm key xs).mem_iff

@[simp] theorem mem_sortNames {names : List String} {name : String} :
    name ∈ sortNames names ↔ name ∈ names := mem_sortByKey

theorem sortTables_perm (tables : List Table) : (sortTables tables).Perm tables :=
  sortByKey_perm _ _

@[simp] theorem mem_sortTables {tables : List Table} {t : Table} :
    t ∈ sortTables tables ↔ t ∈ tables := mem_sortByKey

theorem sortByKey_pairwise {α : Type} (key : α → String) (xs : List α) :
    (sortByKey key xs).Pairwise fun a b => key a ≤ key b := by
  have hsorted : (sortByKey key xs).Pairwise fun a b => !decide (key b < key a) := by
    refine List.pairwise_mergeSort ?_ ?_ xs
    · intro a b c hab hbc
      simp only [Bool.not_eq_true', decide_eq_false_iff_not, String.not_lt] at hab hbc ⊢
      exact String.le_trans hab hbc
    · intro a b
      simp only [Bool.or_eq_true, Bool.not_eq_true', decide_eq_false_iff_not, String.not_lt]
      exact String.le_total _ _
  refine hsorted.imp fun {a b} hab => ?_
  simpa only [Bool.not_eq_true', decide_eq_false_iff_not, String.not_lt] using hab

/-- Members with different keys have only one order. -/
theorem sortByKey_eq_of_sorted {α : Type} {key : α → String} {xs ys : List α}
    (hkeys : (ys.map key).Nodup) (hperm : xs.Perm ys)
    (hsorted : ys.Pairwise fun a b => key a ≤ key b) : sortByKey key xs = ys := by
  refine ((sortByKey_perm key xs).trans hperm).eq_of_pairwise ?_ (sortByKey_pairwise key xs) hsorted
  intro a b ha hb hab hba
  have ha : a ∈ ys := hperm.mem_iff.mp (mem_sortByKey.mp ha)
  exact List.inj_on_of_nodup_map hkeys ha hb (String.le_antisymm hab hba)

theorem sortByKey_eq_of_perm {α : Type} {key : α → String} {xs ys : List α}
    (hkeys : (xs.map key).Nodup) (hperm : xs.Perm ys) : sortByKey key xs = sortByKey key ys := by
  refine sortByKey_eq_of_sorted ?_ (hperm.trans (sortByKey_perm key ys).symm)
    (sortByKey_pairwise key ys)
  exact ((hperm.trans (sortByKey_perm key ys).symm).map key).nodup_iff.mp hkeys

/-- In order of a key without repetition, the first that satisfies a test is the least. -/
theorem find?_eq_some_iff_least {α : Type} {key : α → String} {p : α → Bool} {xs : List α}
    (hsorted : xs.Pairwise fun a b => key a < key b) {x : α} :
    xs.find? p = some x ↔ x ∈ xs ∧ p x ∧ ∀ y ∈ xs, p y → key x ≤ key y := by
  induction xs with
  | nil => simp
  | cons a rest ih =>
    obtain ⟨hhead, hrest⟩ := List.pairwise_cons.mp hsorted
    -- the head is less than all others, so it is the least if it passes the test
    by_cases ha : p a
    · rw [List.find?_cons_of_pos ha, Option.some.injEq]
      constructor
      · rintro rfl
        refine ⟨List.mem_cons_self, ha, fun y hy _ => ?_⟩
        rcases List.mem_cons.mp hy with rfl | hy
        · exact String.le_refl _
        · exact Std.le_of_lt (hhead y hy)
      · rintro ⟨hx, -, hleast⟩
        rcases List.mem_cons.mp hx with rfl | hx
        · rfl
        · exact absurd (hhead x hx) (String.not_lt.mpr (hleast a List.mem_cons_self ha))
    · have hne : p x → x ≠ a := fun hx he => ha (he ▸ hx)
      rw [List.find?_cons_of_neg ha, ih hrest]
      simp only [List.mem_cons, forall_eq_or_imp, ha, Bool.false_eq_true, false_implies, true_and]
      constructor
      · rintro ⟨hx, hrest⟩
        exact ⟨Or.inr hx, hrest⟩
      · rintro ⟨hx, hp, hleast⟩
        exact ⟨hx.resolve_left (hne hp), hp, hleast⟩

/-- Where no two members share a key, each is the only one with its own. -/
theorem filter_eq_singleton {α κ : Type} [BEq κ] [LawfulBEq κ] {key : α → κ} {xs : List α}
    (hnodup : (xs.map key).Nodup) {x : α} (hx : x ∈ xs) {k : κ} (hk : key x = k) :
    xs.filter (key · == k) = [x] := by
  induction xs with
  | nil => simp at hx
  | cons head rest ih =>
    rw [List.map_cons, List.nodup_cons] at hnodup
    rcases List.mem_cons.mp hx with rfl | hx
    · have hrest : rest.filter (key · == k) = [] := by
        refine List.filter_eq_nil_iff.mpr fun a ha => ?_
        have hne : key a ≠ key x := fun heq => hnodup.1 (heq ▸ List.mem_map_of_mem ha)
        simpa [← hk] using hne
      rw [List.filter_cons_of_pos (by simp [hk]), hrest]
    · have hne : key head ≠ k := fun heq =>
        hnodup.1 (heq.trans hk.symm ▸ List.mem_map_of_mem hx)
      rw [List.filter_cons_of_neg (by simpa using hne), ih hnodup.2 hx]

theorem find?_eq_some_of_nodup {α κ : Type} [BEq κ] [LawfulBEq κ] {key : α → κ} {xs : List α}
    (hnodup : (xs.map key).Nodup) {x : α} (hx : x ∈ xs) {k : κ} (hk : key x = k) :
    xs.find? (key · == k) = some x := by
  rw [← List.head?_filter, filter_eq_singleton hnodup hx hk, List.head?_cons]

/-- The names of the tables of a run, in their order. -/
def knownNames (tables : List Table) : List String := (sortTables tables).map (·.name)

theorem mem_knownNames {tables : List Table} {name : String} :
    name ∈ knownNames tables ↔ ∃ t ∈ tables, t.name = name := by
  simp [knownNames]

theorem map_knownNames_perm {α : Type} (f : String → α) (tables : List Table) :
    ((knownNames tables).map f).Perm (tables.map fun t => f t.name) := by
  rw [knownNames, List.map_map]
  exact (sortTables_perm tables).map _

/-- The two keys of a junction lead to two different tables among the known ones. -/
theorem Table.keys_of_isJunction {t : Table} {known : List String} (h : t.isJunction known) :
    ∃ a b, t.foreignKeys = [a, b] ∧ a.referencedTable ≠ b.referencedTable ∧
      a.referencedTable ∈ known ∧ b.referencedTable ∈ known := by
  simp only [isJunction, Bool.and_eq_true] at h
  obtain ⟨-, hkeys⟩ := h
  split at hkeys
  · rename_i a b heq
    simp only [Bool.and_eq_true, bne_iff_ne, List.contains_iff_mem] at hkeys
    obtain ⟨⟨hne, ha⟩, hb⟩ := hkeys
    exact ⟨a, b, heq, hne, ha, hb⟩
  · cases hkeys

namespace DistinctNames

variable {tables : List Table}

theorem known (h : DistinctNames tables) : (knownNames tables).Nodup :=
  ((sortTables_perm tables).map _).nodup_iff.mpr h

theorem known_sorted (h : DistinctNames tables) : (knownNames tables).Pairwise (· < ·) := by
  have hsorted : (knownNames tables).Pairwise (· ≤ ·) :=
    List.pairwise_map.mpr (sortByKey_pairwise _ tables)
  refine hsorted.imp₂ (fun {a b} hle hne => ?_) h.known
  exact Std.lt_of_le_of_ne hle hne

theorem eq_of_name (h : DistinctNames tables) {t u : Table} (ht : t ∈ tables) (hu : u ∈ tables)
    (hname : t.name = u.name) : t = u :=
  List.inj_on_of_nodup_map h ht hu hname

end DistinctNames

end CatalogEntities.Catalog
