import CatalogEntities.Proofs.Graph.Declared
import CatalogEntities.Proofs.Graph.Inverse

/-!
Inverse relations are exact. In a run whose tables have distinct names a table has one for each
table that is no junction and has a key to it, in the order of the names of those tables, and it has
no others.
-/

namespace CatalogEntities

open Catalog Naming

namespace RelationGraph

/-- The table has a key to the target and is no junction. -/
def refersTo (tables : List Table) (target : String) (t : Table) : Bool :=
  !t.isJunction (knownNames tables) && t.foreignKeys.any (·.referencedTable == target)

/-- The relation of a table's first key to the target leads back to the table. -/
def inverseThrough? (tables : List Table) (target : String) (t : Table) : Option InverseRelation :=
  if t.isJunction (knownNames tables) then none
  else (((ofTables tables).forwardFor t.name).find? (·.referencedTable == target)).map mirror

theorem inverseFor_eq_filterMap {tables : List Table} (h : DistinctNames tables) (target : String) :
    (ofTables tables).inverseFor target =
      (sortTables tables).filterMap (inverseThrough? tables target) := by
  rw [inverseFor_eq_inverseTo, inverseTo, sources, forwardOf_eq h, declarations]
  simp only [List.filterMap_map, List.filterMap_filter]
  refine List.filterMap_congr fun t ht => ?_
  have ht : t ∈ tables := mem_sortTables.mp ht
  have hjunction :
      (junctionNames (sortTables tables)).contains t.name = t.isJunction (knownNames tables) := by
    rw [Bool.eq_iff_iff, List.contains_iff_mem, mem_junctionNames h ht]
  simp only [Function.comp_apply, inverseThrough?, hjunction, forwardFor_eq h ht]
  cases hj : t.isJunction (knownNames tables) with
  | true => simp
  | false =>
    cases hfind : (declared tables t).find? (·.referencedTable == target) with
    | none => simp
    | some r =>
      have hmem : r ∈ declared tables t := List.mem_of_find?_eq_some hfind
      have htable : r.table = t.name := (mem_forwardFrom hmem).1
      have htarget : r.referencedTable = target := by simpa using List.find?_some hfind
      have hne : (declared tables t).isEmpty = false :=
        List.isEmpty_eq_false_iff.mpr (List.ne_nil_of_mem hmem)
      simp [hne, mirror, htable, htarget]

/-- The first relation of a table to a table of the run is that of its first key to it. -/
theorem column_find?_forwardFor {tables : List Table} (h : DistinctNames tables) {t : Table}
    (ht : t ∈ tables) {target : String} (htarget : target ∈ knownNames tables) :
    (((ofTables tables).forwardFor t.name).find? (·.referencedTable == target)).map (·.column) =
      (t.foreignKeys.find? (·.referencedTable == target)).map (·.column) := by
  have hknown (key : ForeignKey) : decide ((knownNames tables).contains key.referencedTable ∧
      key.referencedTable == target) = (key.referencedTable == target) := by
    by_cases hkey : key.referencedTable = target
    · simp [hkey, htarget]
    · simp [hkey]
  have hends := congrArg (List.find? (·.2.1 == target)) (forwardFrom_keys (knownNames tables) t.name
    ((junctionNames (sortTables tables)).contains t.name) [] t.foreignKeys)
  simp only [List.find?_map, List.find?_filter, Function.comp_def, hknown] at hends
  have hcolumns := congrArg (Option.map (·.1)) hends
  rw [forwardFor_eq h ht, declared]
  simpa only [Option.map_map, Function.comp_def] using hcolumns

/-- The inverse relation of the target leads back to the table, and mirrors the table's first
relation to the target, which is that of its first key to it. -/
structure MirrorsFirst (tables : List Table) (target t : Table) (inv : InverseRelation) : Prop where
  owner : inv.table = target.name
  referencing : inv.referencingTable = t.name
  relation :
  ∃ r, ((ofTables tables).forwardFor t.name).find? (·.referencedTable == target.name) = some r ∧
    inv.column = r.column ∧ inv.forwardName = r.name
  key : (t.foreignKeys.find? (·.referencedTable == target.name)).map (·.column) = some inv.column

section

variable {tables : List Table} (h : DistinctNames tables) {target t : Table}
    (htarget : target ∈ tables)
  (ht : t ∈ tables)
include h htarget ht

theorem inverseThrough?_mirrorsFirst (hrefers : refersTo tables target.name t) :
    ∃ inv, inverseThrough? tables target.name t = some inv ∧ MirrorsFirst tables target t inv := by
  simp only [refersTo, Bool.and_eq_true, Bool.not_eq_true', List.any_eq_true] at hrefers
  obtain ⟨hj, hany⟩ := hrefers
  obtain ⟨key, hkey⟩ := Option.isSome_iff_exists.mp (List.find?_isSome.mpr hany)
  have hcolumn := column_find?_forwardFor h ht (mem_knownNames.mpr ⟨target, htarget, rfl⟩)
  rw [hkey, Option.map_some, Option.map_eq_some_iff] at hcolumn
  obtain ⟨r, hr, hcolumn⟩ := hcolumn
  have howner : r.table = t.name := (mem_forwardFor h ht (List.mem_of_find?_eq_some hr)).1
  have hreferenced : r.referencedTable = target.name := by simpa using List.find?_some hr
  refine ⟨mirror r, by rw [inverseThrough?, hj, if_neg Bool.false_ne_true, hr, Option.map_some], ?_⟩
  exact ⟨hreferenced, howner, ⟨r, hr, rfl, rfl⟩, by rw [hkey, Option.map_some, ← hcolumn, mirror]⟩

theorem inverseThrough?_eq_none (hrefers : ¬ refersTo tables target.name t) :
    inverseThrough? tables target.name t = none := by
  unfold inverseThrough?
  split
  · rfl
  · rename_i hj
    have hnone : t.foreignKeys.find? (·.referencedTable == target.name) = none := by
      simpa [refersTo, hj] using hrefers
    have hcolumn := column_find?_forwardFor h ht (mem_knownNames.mpr ⟨target, htarget, rfl⟩)
    rw [hnone, Option.map_none, Option.map_eq_none_iff] at hcolumn
    rw [hcolumn, Option.map_none]

end

/-- A table of the run has one inverse relation for each table that is no junction and has a key to
it, itself included, in the order of the names of these tables. Each mirrors the first relation of
the other table to it. Nothing outside the run has any. -/
theorem inverseFor_exact {tables : List Table} (h : DistinctNames tables) :
    (∀ target ∈ tables, ∃ referring : List Table,
      (∀ t, t ∈ referring ↔ t ∈ tables ∧ (¬ ∃ a b, Associates tables t a b) ∧
        ∃ key ∈ t.foreignKeys, key.referencedTable = target.name) ∧
      referring.Pairwise (·.name < ·.name) ∧
      List.Forall₂ (MirrorsFirst tables target) referring
        ((ofTables tables).inverseFor target.name)) ∧
    ∀ name, (∀ t ∈ tables, t.name ≠ name) → (ofTables tables).inverseFor name = [] := by
  refine ⟨fun target htarget => ⟨(sortTables tables).filter (refersTo tables target.name),
    fun t => ?members, ?order, ?relations⟩, fun name hout => ?outside⟩
  case members =>
    rw [List.mem_filter, mem_sortTables]
    refine and_congr_right fun ht => ?_
    rw [Associates.exists_iff ht]
    simp [refersTo]
  case order => exact (List.pairwise_map.mp h.known_sorted).sublist List.filter_sublist
  case relations =>
    rw [inverseFor_eq_filterMap h]
    exact Outcome.forall₂_filterMap
      (fun t ht => inverseThrough?_eq_none h htarget (mem_sortTables.mp ht))
      (fun t ht => inverseThrough?_mirrorsFirst h htarget (mem_sortTables.mp ht))
  case outside =>
    rw [List.eq_nil_iff_forall_not_mem]
    intro inv hinv
    obtain ⟨t, ht, -, r, hr, rfl⟩ := (mem_inverseFor h).mp hinv
    have hknown := (mem_forwardFor h ht (List.mem_of_find?_eq_some hr)).2.2
    obtain ⟨u, hu, huname⟩ := mem_knownNames.mp hknown
    exact hout u hu (huname.trans (by simpa using List.find?_some hr))

def mentoredAuthor : Table := ⟨"author", [], [⟨"author", "mentor_id", "author", "id", none⟩]⟩

def editedBook : Table :=
  ⟨"book", [],
    [⟨"book", "author_id", "author", "id", none⟩, ⟨"book", "editor_id", "author", "id", none⟩]⟩

/-- Authors with a key to authors, books with two keys to them, and a junction of the two. -/
def editedBooks : List Table := [twoKeys "wrote" "author" "book", editedBook, mentoredAuthor]

theorem editedBooks_inverse : DistinctNames editedBooks ∧
    (∃ inv ∈ (ofTables editedBooks).inverseFor "author",
      inv.referencingTable = "book" ∧ inv.column = "author_id") ∧
    (∀ target ∈ editedBooks, ∃ referring : List Table,
      (∀ t, t ∈ referring ↔ t ∈ editedBooks ∧ (¬ ∃ a b, Associates editedBooks t a b) ∧
        ∃ key ∈ t.foreignKeys, key.referencedTable = target.name) ∧
      referring.Pairwise (·.name < ·.name) ∧
      List.Forall₂ (MirrorsFirst editedBooks target) referring
        ((ofTables editedBooks).inverseFor target.name)) ∧
    ∀ name, (∀ t ∈ editedBooks, t.name ≠ name) → (ofTables editedBooks).inverseFor name = [] := by
  have h : DistinctNames editedBooks := by decide
  have hexact := inverseFor_exact h
  refine ⟨h, ?_, hexact⟩
  obtain ⟨referring, hmem, -, hmirrors⟩ := hexact.1 mentoredAuthor (by decide)
  have hbook : editedBook ∈ referring := by
    refine (hmem _).mpr ⟨by decide, ?_, by decide⟩
    rintro ⟨a, b, hassoc⟩
    exact absurd hassoc.columns (by decide)
  obtain ⟨inv, hinv, hmirror⟩ := Outcome.mem_left hmirrors hbook
  exact ⟨inv, hinv, hmirror.referencing, (Option.some.inj hmirror.key).symm⟩

end RelationGraph

end CatalogEntities
