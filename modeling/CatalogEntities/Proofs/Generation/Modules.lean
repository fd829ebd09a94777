import CatalogEntities.Proofs.Generation.Rendering

/-!
The places of generated modules. The entry module stands apart from all others; two tables share a
module, or a class, exactly if their names are made into the same one.
-/

namespace CatalogEntities

open Catalog Files Naming

/-- Names with two leading underscores are left to the package. -/
theorem Naming.moduleName_not_dunder (table : String) (rest : List Char) :
    (moduleName table).toList ≠ '_' :: '_' :: rest := by
  intro hname
  unfold moduleName at hname
  extract_lets name at hname
  split at hname
  · rename_i more hsplit
    dsimp only at hname
    cases hbare : more.dropWhile (· == '_') with
    | nil =>
      rw [hbare, List.isEmpty_nil, if_pos rfl] at hname
      have hsecond : some 't' = some '_' := congrArg (·.tail.head?) hname
      exact absurd hsecond (by decide)
    | cons c cs =>
      rw [hbare, List.isEmpty_cons, if_neg Bool.false_ne_true, String.toList_ofList] at hname
      have hc : c ≠ '_' := by
        have hhead := List.head?_dropWhile_not (· == '_') more
        simpa [hbare] using hhead
      exact hc (List.cons.inj hname).1
  · rename_i hother
    exact hother rest hname

theorem Naming.moduleName_ne_entryModule (table : String) :
    moduleName table ≠ Generation.entryModule := by
  intro he
  exact moduleName_not_dunder table _ (congrArg String.toList he)

namespace Generation

theorem sourceFile_inj {a b : String} : sourceFile a = sourceFile b ↔ a = b :=
  String.append_left_inj ".py"

/-- Paths repeat exactly where modules do, and never that of the entry module. -/
theorem paths_nodup_iff (directory : FilePath) (names : List String) :
    (names.map (fun name => (directory.child (sourceFile (moduleName name))).text) ++
      [(directory.child (sourceFile entryModule)).text]).Nodup ↔ (names.map moduleName).Nodup := by
  have hentry : (directory.child (sourceFile entryModule)).text ∉
      names.map fun name => (directory.child (sourceFile (moduleName name))).text := by
    intro hm
    obtain ⟨name, -, he⟩ := List.mem_map.mp hm
    exact moduleName_ne_entryModule name (sourceFile_inj.mp (directory.child_text_inj.mp he))
  have hinj : Function.Injective fun m => (directory.child (sourceFile m)).text := fun a b he =>
    sourceFile_inj.mp (directory.child_text_inj.mp he)
  have hmap := List.nodup_map_iff hinj (l := names.map moduleName)
  rw [List.map_map, Function.comp_def] at hmap
  rw [← List.concat_eq_append, List.nodup_concat, and_iff_right hentry, hmap]

/-- The names that entities carry, in the order of their tables. -/
theorem entities_names {tables : List Table} (h : DistinctNames tables) {entities : List Entity}
    (hb : Generation.entities tables = .ok entities) :
    entities.map (·.moduleName) = (knownNames tables).map moduleName ∧
      entities.map (·.className) = (knownNames tables).map className := by
  rw [entities_ok_iff h] at hb
  obtain ⟨plans, hall⟩ := Entity.ofTables_built h hb
  rw [knownNames, List.map_map, List.map_map]
  constructor
  · refine (Outcome.map_eq hall fun t _ e he => ?_).symm
    obtain ⟨types, hbuilt⟩ := he
    obtain ⟨-, -, hmodule, -⟩ := hbuilt.fields
    rw [hmodule, Function.comp_apply]
  · refine (Outcome.map_eq hall fun t _ e he => ?_).symm
    obtain ⟨types, hbuilt⟩ := he
    obtain ⟨-, hclass, -⟩ := hbuilt.fields
    rw [hclass, Function.comp_apply]

theorem render_paths {tables : List Table} (h : DistinctNames tables) {entities : List Entity}
    (hb : Generation.entities tables = .ok entities) (directory : FilePath) (style : Style) :
    ∃ modules, (render tables directory style).outcome = .ok modules ∧
      modules.map (·.path) = (knownNames tables).map
        (fun name => (directory.child (sourceFile (moduleName name))).text) ++
          [(directory.child (sourceFile entryModule)).text] := by
  obtain ⟨modules, houtcome, hplaces⟩ := render_total hb directory style
  refine ⟨modules, houtcome, ?_⟩
  have hpaths := congrArg (List.map (·.1)) hplaces
  have hnames := congrArg (List.map fun m => (directory.child (sourceFile m)).text)
    (entities_names h hb).1
  rw [List.map_map, List.map_map, Function.comp_def, Function.comp_def] at hnames
  rw [List.map_map, List.map_append, List.map_map, Function.comp_def, Function.comp_def,
    hnames] at hpaths
  exact hpaths

/-- Rendering built entities gives modules with different paths exactly if the names of the tables
are made into different modules, and entities of different classes exactly if they are made into
different classes. The entry module lists one class for each table, repeated or not. -/
theorem module_paths_nodup_iff {tables : List Table} (h : DistinctNames tables)
    {entities : List Entity} (hb : Generation.entities tables = .ok entities) (directory : FilePath)
    (style : Style) :
    ∃ modules, (render tables directory style).outcome = .ok modules ∧
      ((modules.map (·.path)).Nodup ↔ (tables.map fun t => moduleName t.name).Nodup) ∧
      ((entities.map (·.className)).Nodup ↔ (tables.map fun t => className t.name).Nodup) ∧
      ∃ classes, classes.Perm (tables.map fun t => className t.name) ∧
        (Layout.entryPage entities style.time).entitiesAssign =
          (Code.Statement.assign "entities" (.names classes)).render := by
  obtain ⟨modules, houtcome, hpaths⟩ := render_paths h hb directory style
  have hclasses := (entities_names h hb).2
  refine ⟨modules, houtcome, ?_, ?_, ?_⟩
  · rw [hpaths, paths_nodup_iff]
    exact (map_knownNames_perm moduleName tables).nodup_iff
  · rw [hclasses]
    exact (map_knownNames_perm className tables).nodup_iff
  · refine ⟨(sortByKey Entity.moduleName entities).map (·.className), ?_, by rw [Layout.entryPage]⟩
    refine ((sortByKey_perm _ _).map _).trans ?_
    rw [hclasses]
    exact map_knownNames_perm className tables

private def keyed (name : String) : Table :=
  ⟨name, [⟨"id", "int", false, none, true, true, none, "auto_increment"⟩], []⟩

theorem exists_entities {tables : List Table} (h : DistinctNames tables)
    (hread : ∀ t ∈ tables, ∀ c ∈ t.columns, (ColumnType.ofText c.physicalType).isOk) :
    ∃ entities, Generation.entities tables = .ok entities := by
  obtain ⟨entities, hb⟩ := Entity.ofTables_of_readable h hread
  exact ⟨entities, (entities_ok_iff h).mpr hb⟩

/-- A keyword, a leading digit and two words. -/
def distinctModules : List Table := ["class", "2nd", "order_item"].map keyed

theorem distinctModules_paths_nodup : DistinctNames distinctModules ∧ ∃ entities,
    Generation.entities distinctModules = .ok entities ∧
    ∃ modules, (render distinctModules ⟨"", ["out"]⟩ ⟨false, default⟩).outcome = .ok modules ∧
      (modules.map (·.path)).Nodup ∧ (entities.map (·.className)).Nodup := by
  have h : DistinctNames distinctModules := by decide
  obtain ⟨entities, hb⟩ := exists_entities h (by decide +kernel)
  obtain ⟨modules, houtcome, hpaths, hclasses, -⟩ :=
    module_paths_nodup_iff h hb ⟨"", ["out"]⟩ ⟨false, default⟩
  exact ⟨h, entities, hb, modules, houtcome, hpaths.mpr (by decide +kernel),
    hclasses.mpr (by decide +kernel)⟩

/-- A hyphen and an underscore are one character in a module, and none in a class. -/
def twinModules : List Table := ["a-b", "a_b"].map keyed

/-- Distinct table names are not enough for distinct modules or classes. -/
theorem twinModules_repeat_path : DistinctNames twinModules ∧ ∃ entities,
    Generation.entities twinModules = .ok entities ∧ ¬ (entities.map (·.className)).Nodup ∧
    ∃ modules, (render twinModules ⟨"", ["out"]⟩ ⟨false, default⟩).outcome = .ok modules ∧
      ¬ (modules.map (·.path)).Nodup := by
  have h : DistinctNames twinModules := by decide
  obtain ⟨entities, hb⟩ := exists_entities h (by decide +kernel)
  obtain ⟨modules, houtcome, hpaths⟩ := render_paths h hb ⟨"", ["out"]⟩ ⟨false, default⟩
  refine ⟨h, entities, hb, ?_, modules, houtcome, ?_⟩
  · rw [(entities_names h hb).2, (map_knownNames_perm className twinModules).nodup_iff]
    decide +kernel
  · rw [hpaths, paths_nodup_iff, (map_knownNames_perm moduleName twinModules).nodup_iff]
    decide +kernel

end Generation

end CatalogEntities
