import CatalogEntities.Proofs.Generation.Modules
import CatalogEntities.Proofs.Layout.EntryModule
import CatalogEntities.Proofs.Naming.Characters
import CatalogEntities.Proofs.Text.Normal
import Mathlib.Data.List.TakeWhile

/-!
The names that the entry module has from libraries, where its start reads them. No class of an
entity is written like one of these names; a module may be. Names are compared in normal form,
though, and that of another module or class may be one of them.
-/

namespace CatalogEntities

open Catalog Code Layout Naming Text

/-- Classes that would be called like a name of the entry module are called otherwise. -/
theorem Naming.className_not_entryName (table : String) : className table ∉ entryNames := by
  unfold className
  extract_lets name
  split
  · intro hmem
    have hsuffix : ∀ entry ∈ entryNames, ¬ "Entity".toList <:+ entry.toList := by decide
    refine hsuffix _ hmem ?_
    rw [String.toList_append]
    exact List.suffix_append _ _
  · rename_i hfree
    rw [Bool.or_eq_true, not_or, List.contains_iff_mem, List.contains_iff_mem] at hfree
    exact hfree.2

theorem Naming.boundName_moduleName (table : String) :
    Statement.boundName (moduleName table) = moduleName table := by
  have hpoint : ∀ c ∈ (moduleName table).toList, (c != '.') = true := by
    intro c hc
    have hword := moduleName_wordChars table c hc
    refine bne_iff_ne.mpr fun he => ?_
    rw [he] at hword
    exact absurd hword (by decide +kernel)
  rw [Statement.boundName, List.takeWhile_eq_self_iff.mpr hpoint, String.ofList_toList]

namespace Layout

/-- The names that the entry module imports from libraries, and what they stand for. -/
def libraryNames : Assoc String Meaning := [
  ("os", .imported 0 "os" none),
  ("load_dotenv", .imported 0 "dotenv" (some "load_dotenv")),
  ("DataSource", .imported 0 "entity_generator.runtime" (some "DataSource"))]

theorem libraryImports_run :
    Scope.run nfkc [] [osImport, dotenvImport, runtimeImport] = libraryNames := by
  decide +kernel

/-- The start reads all of them. -/
theorem startStatements_reads (entities : List Entity) {name : String}
    (h : name ∈ libraryNames.keys) :
    ∃ before s after, startStatements entities = before ++ s :: after ∧
    name ∈ s.reads.map nfkc := by
  have hreads : ∀ name ∈ libraryNames.keys, name ∈ loadStatement.reads.map nfkc ∨
      name ∈ dataSourceStatement.reads.map nfkc := by decide +kernel
  rcases hreads name h with hload | hsource
  · exact ⟨[], loadStatement, _, rfl, hload⟩
  · exact ⟨[loadStatement, entitiesStatement entities], dataSourceStatement, _, rfl, hsource⟩

/-- The start binds none of them. -/
theorem startStatements_not_bound (entities : List Entity) {name : String}
    (h : name ∈ libraryNames.keys) :
    ∀ s ∈ startStatements entities, name ∉ (s.bindingsUnder nfkc).keys := by
  have hbound : (startStatements entities).map (·.bindings.keys) =
      [[], ["entities"], ["data_source"], ["__all__"]] := rfl
  have hapart :
      ∀ keys ∈ [[], ["entities"], ["data_source"], ["__all__"]], ∀ name ∈ libraryNames.keys,
      name ∉ keys.map nfkc := by decide +kernel
  intro s hs
  rw [Statement.keys_bindingsUnder]
  exact hapart _ (hbound ▸ List.mem_map_of_mem hs) name h

end Layout

namespace Generation

variable {tables : List Table} {entities : List Entity}

/-- Each table has an import of its class from its module, and there are no others. -/
theorem mem_entityImports (hb : Generation.entities tables = .ok entities) {s : Statement} :
    s ∈ entityImports entities ↔
      ∃ t ∈ tables, s = .importNames 1 (moduleName t.name) [className t.name] := by
  have hnamed := entities_named hb
  have hmem (e : Entity) : e ∈ sortByKey Entity.moduleName entities ↔ e ∈ entities :=
    (sortByKey_perm Entity.moduleName entities).mem_iff
  simp only [entityImports, List.mem_map, hmem]
  constructor
  · rintro ⟨e, he, rfl⟩
    obtain ⟨t, ht, -, hclass, hmodule⟩ := Outcome.mem_right hnamed he
    exact ⟨t, mem_sortTables.mp ht, by rw [hclass, hmodule]⟩
  · rintro ⟨t, ht, rfl⟩
    obtain ⟨e, he, -, hclass, hmodule⟩ := Outcome.mem_left hnamed (mem_sortTables.mpr ht)
    exact ⟨e, he, by rw [hclass, hmodule]⟩

theorem entityImport_bindings (table : String) :
    Statement.bindingsUnder nfkc (.importNames 1 (moduleName table) [className table]) =
      [(nfkc (moduleName table), .imported 1 (nfkc (moduleName table)) none),
        (nfkc (className table),
          .imported 1 (nfkc (moduleName table)) (some (nfkc (className table))))] := by
  simp only [Statement.bindingsUnder, Statement.bindings, boundName_moduleName, BEq.rfl, ↓reduceIte,
    List.map_cons, List.map_nil, List.singleton_append, Meaning.under, Option.map_none,
    Option.map_some]

/-- An import of an entity binds its module and its class. -/
theorem entityImports_bound_iff (hb : Generation.entities tables = .ok entities) {name : String} :
    (∃ s ∈ entityImports entities, name ∈ (s.bindingsUnder nfkc).keys) ↔
      ∃ t ∈ tables, name = nfkc (moduleName t.name) ∨ name = nfkc (className t.name) := by
  have hkeys (table : String) :
      name ∈ (Statement.bindingsUnder nfkc
        (.importNames 1 (moduleName table) [className table])).keys ↔
        name = nfkc (moduleName table) ∨ name = nfkc (className table) := by
    simp only [entityImport_bindings, Assoc.keys, List.map_cons, List.map_nil, List.mem_cons,
      List.not_mem_nil, or_false]
  constructor
  · rintro ⟨s, hs, hname⟩
    obtain ⟨t, ht, rfl⟩ := (mem_entityImports hb).mp hs
    exact ⟨t, ht, (hkeys t.name).mp hname⟩
  · rintro ⟨t, ht, hname⟩
    exact ⟨_, (mem_entityImports hb).mpr ⟨t, ht, rfl⟩, (hkeys t.name).mpr hname⟩

/-- After the imports, a name that one of them took from a library stands for a neighbour. -/
theorem get?_entityImports (hb : Generation.entities tables = .ok entities) {name : String}
    (h : ∃ s ∈ entityImports entities, name ∈ (s.bindingsUnder nfkc).keys) (scope : Scope) :
    ∃ module imported, (scope.run nfkc (entityImports entities)).get? name =
      some (.imported 1 module imported) := by
  obtain ⟨s, hs, m, hm, hget⟩ := Scope.get?_run_of_bound scope h
  obtain ⟨t, -, rfl⟩ := (mem_entityImports hb).mp hs
  rw [entityImport_bindings, List.mem_pair, Prod.mk.injEq, Prod.mk.injEq] at hm
  rcases hm with ⟨-, rfl⟩ | ⟨-, rfl⟩
  · exact ⟨_, _, hget⟩
  · exact ⟨_, _, hget⟩

/-- A library name keeps its meaning wherever the entry module reads it, exactly if no module and
no class of a table is called like it in normal form. -/
theorem libraryName_kept_iff (hb : Generation.entities tables = .ok entities) {name : String}
    {m : Meaning} (h : (name, m) ∈ libraryNames) :
    Scope.ReadsAs nfkc name m [] (entryStatements entities) ↔
      ∀ t ∈ tables, name ≠ nfkc (moduleName t.name) ∧ name ≠ nfkc (className t.name) := by
  have hkey : name ∈ libraryNames.keys := List.mem_map_of_mem h
  have hlibrary : Assoc.get? libraryNames name = some m :=
    (Assoc.get?_eq_some_iff (by decide)).mpr h
  have hstart := startStatements_not_bound entities hkey
  rw [entryStatements, List.append_assoc, Scope.readsAs_append, libraryImports_run]
  constructor
  · rintro ⟨-, hreads⟩ t ht
    rw [← not_or]
    intro hname
    -- the statement of the start that reads the name finds the neighbour there
    obtain ⟨module, imported, hget⟩ := get?_entityImports hb
      ((entityImports_bound_iff hb).mpr ⟨t, ht, hname⟩) libraryNames
    obtain ⟨before, s, after, hsplit, hread⟩ := startStatements_reads entities hkey
    rw [hsplit] at hstart hreads
    have hbefore : ∀ s ∈ before, name ∉ (s.bindingsUnder nfkc).keys := fun s hs =>
      hstart s (List.mem_append_left _ hs)
    have hthere := ((Scope.readsAs_append.mp (Scope.readsAs_append.mp hreads).2).2).1 hread
    rw [Scope.get?_run_of_not_bound hbefore, hget] at hthere
    obtain rfl := Option.some.inj hthere
    exact absurd h (by simp [libraryNames])
  · intro hfree
    refine ⟨Scope.readsAs_of_not_read
      (by simp [osImport, dotenvImport, runtimeImport, Statement.reads]),
      Scope.readsAs_of_not_bound hlibrary fun s hs hname => ?_⟩
    rcases List.mem_append.mp hs with himport | hs
    · obtain ⟨t, ht, he⟩ := (entityImports_bound_iff hb).mp ⟨s, himport, hname⟩
      exact he.elim (hfree t ht).1 (hfree t ht).2
    · exact hstart s hs hname

/-- Library names are their own normal forms. -/
theorem libraryNames_nfkc {name : String} (h : name ∈ libraryNames.keys) : nfkc name = name := by
  have hascii : ∀ name ∈ libraryNames.keys, name.toList.all isAscii := by decide
  exact nfkc_of_isAscii (hascii name h)

/-- The start of the entry module reads the names it has from libraries as such exactly if no
table's module and no table's class is called like one of them in normal form. No class is written
like one. An import looks for the module of the normal form; if each finds one that belongs to a
table, then no module need be called like a library name as it is written, either. -/
theorem libraryNames_kept_iff (hb : Generation.entities tables = .ok entities) (time : Timestamp) :
    (entryPage entities time).source =
        .ok (layOut ((entryLines entities time).map SourceLine.render)) ∧
      ((∀ b ∈ libraryNames, Scope.ReadsAs nfkc b.1 b.2 []
          ((entryLines entities time).filterMap SourceLine.statement?)) ↔
        ∀ t ∈ tables, nfkc (moduleName t.name) ∉ libraryNames.keys ∧
          nfkc (className t.name) ∉ libraryNames.keys) ∧
      (∀ t ∈ tables, className t.name ∉ libraryNames.keys) ∧
      ((∀ t ∈ tables, ∃ t' ∈ tables, nfkc (moduleName t.name) = moduleName t'.name) →
        ((∀ t ∈ tables, nfkc (moduleName t.name) ∉ libraryNames.keys) ↔
          ∀ t ∈ tables, moduleName t.name ∉ libraryNames.keys)) := by
  refine ⟨entryPage_source entities time, ?_, fun t _ hmem => ?_,
    fun hfound => ⟨fun hfree t ht hmem => ?_, ?_⟩⟩
  · rw [entryLines_statements]
    constructor
    · intro hkept t ht
      constructor
      · intro hmem
        obtain ⟨b, hb', hname⟩ := List.mem_map.mp hmem
        exact ((libraryName_kept_iff hb hb').mp (hkept b hb') t ht).1 hname
      · intro hmem
        obtain ⟨b, hb', hname⟩ := List.mem_map.mp hmem
        exact ((libraryName_kept_iff hb hb').mp (hkept b hb') t ht).2 hname
    · intro hfree b hb'
      have hkey : b.1 ∈ libraryNames.keys := List.mem_map_of_mem hb'
      refine (libraryName_kept_iff hb hb').mpr fun t ht => ⟨fun hname => ?_, fun hname => ?_⟩
      · exact (hfree t ht).1 (hname ▸ hkey)
      · exact (hfree t ht).2 (hname ▸ hkey)
  · have hentry : ∀ name ∈ libraryNames.keys, name ∈ entryNames := by decide
    exact className_not_entryName t.name (hentry _ hmem)
  · exact hfree t ht ((libraryNames_nfkc hmem).symm ▸ hmem)
  · intro hfree t ht hmem
    obtain ⟨t', ht', hname⟩ := hfound t ht
    exact hfree t' ht' (hname ▸ hmem)

/-- A class that is called like a name of a library in normal form only. -/
example : className "Ｄata_source" = "ＤataSource" ∧ nfkc "ＤataSource" = "DataSource" := by
  decide +kernel

private def counted (name : String) : Table :=
  ⟨name, [⟨"id", "int", false, none, true, true, none, "auto_increment"⟩], []⟩

/-- The class of the first would be `DataSource`; the modules of the others are `_os` and
`Load_dotenv`. -/
def guardedNames : List Table := ["data_source", "-os", "Load dotenv"].map counted

theorem guardedNames_kept : ∃ entities, Generation.entities guardedNames = .ok entities ∧
    (∀ t ∈ guardedNames, nfkc (moduleName t.name) ∉ libraryNames.keys ∧
      nfkc (className t.name) ∉ libraryNames.keys) ∧
    ∀ b ∈ libraryNames, Scope.ReadsAs nfkc b.1 b.2 []
      ((entryLines entities default).filterMap SourceLine.statement?) := by
  have hfree : ∀ t ∈ guardedNames, nfkc (moduleName t.name) ∉ libraryNames.keys ∧
      nfkc (className t.name) ∉ libraryNames.keys := by decide +kernel
  have h : DistinctNames guardedNames := by decide
  obtain ⟨entities, hb⟩ := exists_entities h (by decide +kernel)
  exact ⟨entities, hb, hfree, (libraryNames_kept_iff hb default).2.1.mpr hfree⟩

/-- A table whose module is called `os`. -/
def systemTable : List Table := [counted "os"]

/-- Where the entry module looks up the environment, `os` is the module of the table. -/
theorem systemTable_hides_os : ∃ entities, Generation.entities systemTable = .ok entities ∧
    "os" ∈ dataSourceStatement.reads ∧
    ¬ Scope.ReadsAs nfkc "os" (.imported 0 "os" none) [] (entryStatements entities) := by
  have h : DistinctNames systemTable := by decide
  obtain ⟨entities, hb⟩ := exists_entities h (by decide +kernel)
  refine ⟨entities, hb, by decide +kernel, fun hkept => ?_⟩
  have hmodule : "os" = nfkc (moduleName "os") := by decide +kernel
  exact ((libraryName_kept_iff hb (by decide)).mp hkept _ List.mem_cons_self).1 hmodule

end Generation

end CatalogEntities
