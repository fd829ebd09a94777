import CatalogEntities.Proofs.Generation.Modules
import CatalogEntities.Proofs.Naming.ModuleNames

/-!
Where modules of tables are placed. Whatever a table is called, its module lies directly below the
output directory, and it is never the entry module.

Main result: `render_placed`.
-/

namespace CatalogEntities

open Catalog Files Naming

namespace Naming

theorem moduleName_ne_nil (table : String) : (moduleName table).toList ≠ [] := by
  by_cases hhidden : opensHidden table.toList
  · rcases moduleName_hidden hhidden with ⟨-, hname⟩ | ⟨hne, more, -, hname⟩
    · rw [hname]
      decide
    · rw [hname, String.toList_append, String.toList_ofList]
      exact List.append_ne_nil_of_left_ne_nil hne _
  · rw [moduleName_plain hhidden]
    exact attributeName_ne_nil table

end Naming

namespace Files.FilePath

/-- A name below a path is resolved to that name below the place of the path. -/
theorem resolve_child (base : List String) (p : FilePath) {name : String} (h : name ≠ "..") :
    (p.child name).resolve base = p.resolve base ++ [name] := by
  have hstep : (name == "..") = false := by simpa using h
  rw [resolve, child, List.foldl_append, List.foldl_cons, List.foldl_nil, hstep,
    if_neg Bool.false_ne_true]
  rfl

end Files.FilePath

namespace Generation

/-- A path that is the file of a module directly below a directory, also when it is read again, from
wherever it is resolved. -/
structure PlacedIn (directory : FilePath) (module path : String) : Prop where
  text : path = (directory.child (sourceFile module)).text
  read : FilePath.ofText path = directory.child (sourceFile module)
  resolved :
  ∀ base, (FilePath.ofText path).resolve base = directory.resolve base ++ [sourceFile module]

theorem sourceFile_partName {module : String} (h : ∀ c ∈ module.toList, Text.isWordChar c) :
    FilePath.PartName (sourceFile module) ∧ sourceFile module ≠ ".." := by
  have hlast : (sourceFile module).toList.getLast? = some 'y' := by
    rw [sourceFile, String.toList_append]
    exact List.getLast?_append_of_ne_nil _ (by decide)
  refine ⟨⟨?_, ?_, ?_⟩, ?_⟩
  · intro he
    rw [he] at hlast
    exact absurd hlast (by decide)
  · intro he
    rw [he] at hlast
    exact absurd hlast (by decide)
  · rw [sourceFile, String.toList_append, List.mem_append, not_or]
    refine ⟨fun hslash => ?_, by decide⟩
    exact absurd (h '/' hslash) (by decide +kernel)
  · intro he
    rw [he] at hlast
    exact absurd hlast (by decide)

theorem placedIn_child {directory : FilePath} (hdirectory : directory.Normal) {module : String}
    (h : ∀ c ∈ module.toList, Text.isWordChar c) :
    PlacedIn directory module (directory.child (sourceFile module)).text := by
  obtain ⟨hpart, hstays⟩ := sourceFile_partName h
  have hread := FilePath.ofText_text (hdirectory.child hpart)
  exact ⟨rfl, hread, fun base => by rw [hread, FilePath.resolve_child base directory hstays]⟩

/-- Rendering gives one module for each table, in the order of their names, and the entry module.
The file of a table lies directly below the output directory; it is called after a word of letters,
numerals and underscores that has no two underscores in front, and is not the entry module. -/
theorem render_placed {tables : List Table} {entities : List Entity}
    (hb : Generation.entities tables = .ok entities) (output : String) (style : Style) :
    ∃ (modules : List GeneratedModule) (entry : GeneratedModule),
    (render tables (FilePath.ofText output) style).outcome = .ok (modules ++ [entry]) ∧
      PlacedIn (FilePath.ofText output) entryModule entry.path ∧
      List.Forall₂ (fun (t : Table) (m : GeneratedModule) => m.table = some t.name ∧
        m.path ≠ entry.path ∧
        ∃ name, PlacedIn (FilePath.ofText output) name m.path ∧ name ≠ "" ∧
        (∀ c ∈ name.toList, Text.isWordChar c) ∧
          ¬ ['_', '_'] <+: name.toList) (sortTables tables) modules := by
  obtain ⟨modules, houtcome, hplaces⟩ := render_total hb (FilePath.ofText output) style
  have hdirectory := FilePath.ofText_normal output
  obtain ⟨front, last, rfl, hfront, hlast⟩ := List.map_eq_append_iff.mp hplaces
  obtain ⟨entry, rfl, hentry⟩ := List.map_eq_singleton_iff.mp hlast
  have hentryPath : entry.path = ((FilePath.ofText output).child (sourceFile entryModule)).text :=
    congrArg (·.1) hentry
  have hword : entryModule.toList.all Text.isWordChar := by decide +kernel
  refine ⟨front, entry, houtcome,
    hentryPath ▸ placedIn_child hdirectory (List.all_eq_true.mp hword), ?_⟩
  have hnamed : front.map (·.place) = (sortTables tables).map fun t =>
      (((FilePath.ofText output).child (sourceFile (moduleName t.name))).text, .entity,
        some t.name) := by
    rw [hfront]
    exact (Outcome.map_eq (entities_named hb) fun t _ e ⟨htable, _, hmodule⟩ =>
      by rw [htable, hmodule]).symm
  have hpairs := List.forall₂_eq_eq_eq ▸ hnamed.symm
  rw [List.forall₂_map_left_iff, List.forall₂_map_right_iff] at hpairs
  refine hpairs.imp fun t m hm => ?_
  have hpath : m.path = ((FilePath.ofText output).child (sourceFile (moduleName t.name))).text :=
    (congrArg (·.1) hm).symm
  refine ⟨(congrArg (·.2.2) hm).symm, fun he => ?_, moduleName t.name,
    hpath ▸ placedIn_child hdirectory (moduleName_wordChars t.name), ?_,
    moduleName_wordChars t.name, ?_⟩
  · rw [hpath, hentryPath, FilePath.child_text_inj] at he
    exact moduleName_ne_entryModule t.name (sourceFile_inj.mp he)
  · exact fun hnil => moduleName_ne_nil t.name (String.toList_eq_nil_iff.mpr hnil)
  · rintro ⟨rest, hrest⟩
    exact moduleName_not_dunder t.name rest hrest.symm

private def keyedTable (name : String) : Table :=
  ⟨name, [⟨"id", "int", false, none, true, true, none, "auto_increment"⟩], []⟩

/-- Names that would leave the directory or take the place of the entry module if they were used as
they are. -/
def hostileNames : List Table :=
  ["../../etc/passwd", "", "..", "__init__", "a\\b", "line\nbreak", "dotted.name"].map keyedTable

theorem hostileNames_placed : ∃ entities, Generation.entities hostileNames = .ok entities ∧
    ∃ (modules : List GeneratedModule) (entry : GeneratedModule),
      (render hostileNames (FilePath.ofText "out//./models/") ⟨true, default⟩).outcome =
        .ok (modules ++ [entry]) ∧
      entry.path = "out/models/__init__.py" ∧ modules.length = 7 ∧
      ∀ m ∈ modules, m.path ≠ entry.path ∧
        ∃ name, (FilePath.ofText m.path).resolve [] = ["out", "models", name ++ ".py"] := by
  have h : DistinctNames hostileNames := by decide
  obtain ⟨entities, hb⟩ := exists_entities h (by decide +kernel)
  obtain ⟨modules, entry, houtcome, hentry, hall⟩ :=
    render_placed hb "out//./models/" ⟨true, default⟩
  have hlocation : (FilePath.ofText "out//./models/").resolve [] = ["out", "models"] := by
    decide +kernel
  refine ⟨entities, hb, modules, entry, houtcome, hentry.text.trans (by decide +kernel), ?_,
    fun m hm => ?_⟩
  · rw [← hall.length_eq, (sortTables_perm hostileNames).length_eq]
    rfl
  · obtain ⟨t, -, -, hne, name, hplaced, -⟩ := Outcome.mem_right hall hm
    exact ⟨hne, name, by rw [hplaced.resolved, hlocation]; rfl⟩

end Generation

end CatalogEntities
