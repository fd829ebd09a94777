import CatalogEntities.Generation.Writing
import CatalogEntities.Proofs.Generation.Directory
import CatalogEntities.Proofs.Generation.Rendering
import CatalogEntities.Proofs.Naming.Characters

/-!
Modules are written in order, up to the first whose file cannot be opened. In a directory that can
be used nothing else goes wrong: every module's path is a file of it.
-/

namespace CatalogEntities.Generation

open Catalog Files Log Naming

/-- The name of a module's file: one part of a path, without a NUL character. -/
def FileName (name : String) : Prop := FilePath.PartName name ∧ '\x00' ∉ name.toList

theorem sourceFile_fileName {module : String} (h : ∀ c ∈ module.toList, Text.isWordChar c) :
    FileName (sourceFile module) := by
  have hend (c : Char) (hc : c ∈ (sourceFile module).toList) :
      Text.isWordChar c ∨ c ∈ ".py".toList := by
    rw [sourceFile, String.toList_append, List.mem_append] at hc
    exact hc.imp_left (h c)
  have hne (name : String) (hshort : name.toList.length < 3) : sourceFile module ≠ name := by
    rintro rfl
    have hlong : (sourceFile module).toList.length = module.toList.length + 3 := by
      rw [sourceFile, String.toList_append, List.length_append]
      rfl
    omega
  refine ⟨⟨hne "" (by decide), hne "." (by decide), fun hslash => ?_⟩, fun hnul => ?_⟩
  · exact absurd (hend _ hslash) (by decide +kernel)
  · exact absurd (hend _ hnul) (by decide +kernel)

/-- Every rendered module is a file of the directory that was asked for. -/
theorem render_path {tables : List Table} {p : FilePath} {style : Style}
    {modules : List GeneratedModule} (h : (render tables p style).outcome = .ok modules) :
    ∀ m ∈ modules, ∃ name, FileName name ∧ m.path = (p.child name).text := by
  intro m hm
  cases hb : Generation.entities tables with
  | error failure =>
    simp only [render, hb] at h
    cases h
  | ok entities =>
    obtain ⟨modules', houtcome, hplaces⟩ := render_total hb p style
    obtain rfl := Except.ok.inj (h.symm.trans houtcome)
    have hplace : m.place ∈ modules.map (·.place) := List.mem_map_of_mem hm
    rw [hplaces, List.mem_append] at hplace
    rcases hplace with hentity | hentry
    · obtain ⟨e, he, hplace⟩ := List.mem_map.mp hentity
      obtain ⟨t, -, -, -, hmodule⟩ := Outcome.mem_right (entities_named hb) he
      refine ⟨sourceFile e.moduleName, sourceFile_fileName ?_, (congrArg (·.1) hplace).symm⟩
      rw [hmodule]
      exact moduleName_wordChars t.name
    · have hwords : entryModule.toList.all Text.isWordChar := by decide +kernel
      refine ⟨sourceFile entryModule, sourceFile_fileName (List.all_eq_true.mp hwords), ?_⟩
      exact congrArg (·.1) (List.mem_singleton.mp hentry)

/-- Opens the file of a module and writes its code. -/
def GeneratedModule.writeTo (m : GeneratedModule) (t : Tree) : Except Fault Tree :=
  t.write (.ofText m.path) (Text.Utf8.encode m.code.toList)

/-- The tree with a module's code where the module's path leads. -/
def GeneratedModule.putIn (t : Tree) (m : GeneratedModule) : Tree :=
  t.put (FilePath.resolve t.home (.ofText m.path)) (.file (Text.Utf8.encode m.code.toList))

/-- The tree with the code of modules put in one after the other. -/
def written (t : Tree) (modules : List GeneratedModule) : Tree :=
  modules.foldl GeneratedModule.putIn t

section

variable {t t' : Tree} {p : FilePath} {m : GeneratedModule}

theorem writeTo_ok (h : m.writeTo t = .ok t') : t' = m.putIn t ∧ t.Keeps t' := by
  obtain ⟨-, -, location, hlocate, -, hput⟩ := Tree.write_ok_iff.mp h
  refine ⟨?_, Tree.keeps_write h⟩
  rw [GeneratedModule.putIn, ← Tree.locate_eq hlocate, hput]

/-- In a directory that can be used, only the file of a module may be refused. -/
theorem writeModule_of_usable (h : Usable t p) {name : String} (hname : FileName name)
    (hpath : m.path = (p.child name).text) :
    writeModule t m = match m.writeTo t with
      | .ok t' => (t', .ok (debug ("Generated file: " ++ m.path)))
      | .error fault => (t, .error (.unwritable m.path m.table fault.message)) := by
  have hread : FilePath.ofText m.path = p.child name := by
    rw [hpath, FilePath.ofText_text (h.normal.child hname.1)]
  have hnul : Tree.hasNul (p.child name) = false := by
    rw [Tree.hasNul_child, (Tree.status_directory_iff.mp h.directory).1, Bool.false_or,
      String.contains_char_eq, decide_eq_false hname.2]
  rw [writeModule, GeneratedModule.writeTo, hread, writeFile, FilePath.parent_child,
    Tree.makeDirectories_of_directory h.directory]
  dsimp only
  cases hwrite : t.write (p.child name) (Text.Utf8.encode m.code.toList) with
  | ok t' => simp only [hpath]
  | error fault =>
    have hfault : fault ≠ .embeddedNul := by
      rintro rfl
      exact Tree.write_ne_embeddedNul hnul _ hwrite
    simp only [hpath, writeFailure]

/-- Each module in turn can be opened and written. -/
def AllOpen : Tree → List GeneratedModule → Prop
  | _, [] => True
  | t, m :: rest => m.writeTo t = .ok (m.putIn t) ∧ AllOpen (m.putIn t) rest

/-- Some modules were written in order, all of them or those before the first that cannot be
opened. The outcome is `done` if all are written, and otherwise names that module. -/
def WritesPrefix {α : Type} (before after : Tree) (modules : List GeneratedModule)
    (outcome : Except Failure α) (done : α) : Prop :=
  ∃ k ≤ modules.length, after = written before (modules.take k) ∧
    AllOpen before (modules.take k) ∧
    (k = modules.length ∧ outcome = .ok done ∨
      ∃ m fault, modules[k]? = some m ∧ m.writeTo after = .error fault ∧
        outcome = .error (.unwritable m.path m.table fault.message))

theorem WritesPrefix.map {α β : Type} {before after : Tree} {modules : List GeneratedModule}
    {outcome : Except Failure α} {done : α} (h : WritesPrefix before after modules outcome done)
    (f : α → β) : WritesPrefix before after modules (outcome.map f) (f done) := by
  obtain ⟨k, hk, htree, hopen, hend⟩ := h
  refine ⟨k, hk, htree, hopen, ?_⟩
  rcases hend with ⟨hall, rfl⟩ | ⟨m, fault, hm, hwrite, rfl⟩
  · exact .inl ⟨hall, rfl⟩
  · exact .inr ⟨m, fault, hm, hwrite, rfl⟩

theorem writeAll_writes {modules : List GeneratedModule} (h : Usable t p)
    (hpaths : ∀ m ∈ modules, ∃ name, FileName name ∧ m.path = (p.child name).text) :
    WritesPrefix t (writeAll t modules).tree modules (writeAll t modules).outcome () := by
  induction modules generalizing t with
  | nil => exact ⟨0, Nat.le_refl 0, rfl, trivial, .inl ⟨rfl, rfl⟩⟩
  | cons m rest ih =>
    obtain ⟨name, hname, hpath⟩ := hpaths m List.mem_cons_self
    have hstep := writeModule_of_usable h hname hpath
    cases hwrite : m.writeTo t with
    | error fault =>
      rw [hwrite] at hstep
      have hend : writeAll t (m :: rest) =
          ⟨t, [], .error (.unwritable m.path m.table fault.message)⟩ := by
        rw [writeAll, hstep]
      rw [hend]
      exact ⟨0, Nat.zero_le _, rfl, trivial, .inr ⟨m, fault, rfl, hwrite, rfl⟩⟩
    | ok t' =>
      rw [hwrite] at hstep
      obtain ⟨rfl, hkeeps⟩ := writeTo_ok hwrite
      have hmore : (writeAll t (m :: rest)).tree = (writeAll (m.putIn t) rest).tree ∧
          (writeAll t (m :: rest)).outcome = (writeAll (m.putIn t) rest).outcome := by
        rw [writeAll, hstep]
        exact ⟨rfl, rfl⟩
      -- the directory stays usable, so the rest is written from there
      obtain ⟨k, hk, htree, hopen, hend⟩ := ih (h.keeps hkeeps) fun m' hm' =>
        hpaths m' (List.mem_cons_of_mem _ hm')
      rw [hmore.1, hmore.2]
      exact ⟨k + 1, Nat.succ_le_succ hk, htree, ⟨hwrite, hopen⟩,
        hend.imp_left fun hall => ⟨congrArg (· + 1) hall.1, hall.2⟩⟩

end

end CatalogEntities.Generation
