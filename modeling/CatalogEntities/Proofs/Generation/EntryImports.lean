import CatalogEntities.Proofs.Generation.Modules
import CatalogEntities.Proofs.Layout.EntryModule
import CatalogEntities.Proofs.Naming.ModuleNames

/-!
The imports of the entry module, one for each table. Which of them can be read depends on the name
of the table: its module has to be an identifier and no keyword, and so has its class.

Main result: `entityImports_valid_iff`.
-/

namespace CatalogEntities.Generation

open Catalog Code Layout Naming

variable {tables : List Table} {entities : List Entity}

theorem entityImport_render (module class_ : String) :
    (Statement.importNames 1 module [class_]).render =
      "from ." ++ module ++ " import " ++ class_ := by
  simp only [Statement.render, List.replicate_succ, List.replicate_zero, Text.joinWith,
    String.intercalate_singleton]
  rfl

/-- The imports in the order in which they stand. -/
theorem entityImports_render (hb : Generation.entities tables = .ok entities) (time : Timestamp) :
    ∃ ordered : List Table, ordered.Perm tables ∧ (entryPage entities time).entityImports =
      ordered.map fun t => "from ." ++ moduleName t.name ++ " import " ++ className t.name := by
  have hnamed := entities_named hb
  have hperm := sortByKey_perm Entity.moduleName entities
  have htables : entities.map (·.table) = sortTables tables :=
    (List.forall₂_eq_eq_eq ▸ List.forall₂_map_left_iff.mpr (hnamed.flip.imp fun _ _ h => h.1))
  refine ⟨(sortByKey Entity.moduleName entities).map (·.table), ?_, ?_⟩
  · have hmapped := hperm.map (·.table)
    rw [htables] at hmapped
    exact hmapped.trans (sortTables_perm tables)
  · rw [entryPage_entityImports, entityImports, List.map_map, List.map_map]
    refine List.map_congr_left fun e he => ?_
    obtain ⟨t, -, ht, hclass, hmodule⟩ := Outcome.mem_right hnamed (hperm.mem_iff.mp he)
    rw [Function.comp_apply, Function.comp_apply, entityImport_render, hclass, hmodule, ht]

/-- Each table has an import, of its class from its module, and which names of tables are made into
valid names. -/
theorem entityImports_valid_iff (hb : Generation.entities tables = .ok entities)
    (time : Timestamp) :
    (∃ ordered : List Table, ordered.Perm tables ∧ (entryPage entities time).entityImports =
      ordered.map fun t => "from ." ++ moduleName t.name ++ " import " ++ className t.name) ∧
    ∀ name : String, (ValidName (moduleName name) ↔ SpellsModule name.toList) ∧
      (ValidName (className name) ↔ SpellsWords name.toList) :=
  ⟨entityImports_render hb time,
    fun name => ⟨validName_moduleName_iff name, validName_className_iff name⟩⟩

private def numberedTable (name : String) : Table :=
  ⟨name, [⟨"id", "int", false, none, true, true, none, "auto_increment"⟩], []⟩

/-- Keywords, a leading digit, leading underscores and punctuation. -/
def guardedModules : List Table :=
  ["class", "2nd", "__init__", "__users", "order-item"].map numberedTable

theorem guardedModules_imports : ∃ entities, Generation.entities guardedModules = .ok entities ∧
    (∃ ordered : List Table, ordered.Perm guardedModules ∧
      (entryPage entities default).entityImports =
      ordered.map fun t => "from ." ++ moduleName t.name ++ " import " ++ className t.name) ∧
    ∀ t ∈ guardedModules, SpellsModule t.name.toList ∧ SpellsWords t.name.toList := by
  have h : DistinctNames guardedModules := by decide
  obtain ⟨entities, hb⟩ := exists_entities h (by decide +kernel)
  obtain ⟨himports, hvalid⟩ := entityImports_valid_iff hb default
  have hnames : ∀ t ∈ guardedModules, ValidName (moduleName t.name) ∧
      ValidName (className t.name) := by decide +kernel
  refine ⟨entities, hb, himports, fun t ht => ?_⟩
  exact ⟨(hvalid t.name).1.mp (hnames t ht).1, (hvalid t.name).2.mp (hnames t ht).2⟩

/-- Without its underscores a name is a keyword again, or begins with a digit; a superscript digit
is kept. -/
theorem bareModules_invalid : moduleName "__class" = "class" ∧ moduleName "__2fa" = "2fa" ∧
    moduleName "m²" = "m²" ∧ ¬ ValidName (moduleName "__class") ∧ ¬ ValidName (moduleName "__2fa") ∧
    ¬ ValidName (moduleName "m²") := by decide +kernel

end CatalogEntities.Generation
