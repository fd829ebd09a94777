import CatalogEntities.Generation.Rendering
import CatalogEntities.Proofs.Entity.Build
import CatalogEntities.Proofs.Files.Path
import CatalogEntities.Proofs.Layout.Shape

/-!
Rendering cannot fail. Once entities are built there is one module for each of them, in order, and
the entry module after them.
-/

namespace CatalogEntities

open Catalog Files Log Naming

/-- The text of a path below another one is that path's text with the name behind it. -/
theorem Files.FilePath.exists_child_text (p : FilePath) :
    ∃ before, ∀ name, (p.child name).text = before ++ name := by
  by_cases hparts : p.parts = []
  · exact ⟨p.anchor, fun name => by
      rw [child_text, hparts, List.nil_append, Text.joinWith, String.intercalate_singleton]⟩
  · refine ⟨p.anchor ++ ("/".intercalate p.parts ++ "/"), fun name => ?_⟩
    rw [child_text, Text.joinWith,
      String.intercalate_append_of_ne_nil hparts (List.cons_ne_nil _ _),
      String.intercalate_singleton]
    simp only [String.append_assoc]

theorem Files.FilePath.child_text_inj (p : FilePath) {a b : String} :
    (p.child a).text = (p.child b).text ↔ a = b := by
  obtain ⟨before, hbefore⟩ := p.exists_child_text
  rw [hbefore, hbefore]
  exact String.append_right_inj before

namespace Generation

theorem inOrder_ok_iff {α : Type} {xs : List (List Record × Except Failure α)} {ys : List α} :
    (inOrder xs).2 = .ok ys ↔ List.Forall₂ (fun x y => x.2 = .ok y) xs ys := by
  induction xs generalizing ys with
  | nil => cases ys <;> simp [inOrder]
  | cons x rest ih =>
    obtain ⟨noted, outcome⟩ := x
    cases outcome with
    | error failure => cases ys <;> simp [inOrder]
    | ok a =>
      simp only [inOrder, Outcome.map_ok_iff, ih]
      cases ys with
      | nil => simp
      | cons y ys => simp [and_comm, eq_comm]

theorem fillTemplate_total (format : Bool) (name : String) {t : Layout.Template}
    {names : Layout.Names} (file : String) (h : ∃ code, Layout.Template.fill t names = .ok code) :
    ∃ code, (fillTemplate format name t names file).2 = .ok code := by
  obtain ⟨code, hcode⟩ := h
  simp only [fillTemplate, hcode, Except.ok.injEq, exists_eq']

theorem renderEntity_total (style : Style) (directory : FilePath) (e : Entity) : ∃ code,
    (renderEntity style directory e).2 = .ok
      (.of code (directory.child (sourceFile e.moduleName)).text .entity (some e.table.name)) := by
  obtain ⟨code, hcode⟩ := fillTemplate_total style.format Layout.entityTemplateName
    (sourceFile e.moduleName) (Layout.entityPage e style.time).source_total
  exact ⟨code, by simp only [renderEntity, hcode, Except.map]⟩

theorem renderEntry_total (style : Style) (directory : FilePath) (entities : List Entity) : ∃ code,
    (renderEntry style directory entities).2 = .ok
      (.of code (directory.child (sourceFile entryModule)).text .entry none) := by
  obtain ⟨code, hcode⟩ := fillTemplate_total style.format Layout.entryTemplateName
    (sourceFile entryModule) (Layout.entryPage entities style.time).source_total
  exact ⟨code, by simp only [renderEntry, hcode, Except.map]⟩

/-- The place of a module: its path, its kind and its table. -/
def GeneratedModule.place (m : GeneratedModule) : String × ModuleKind × Option String :=
  (m.path, m.kind, m.table)

/-- The modules of built entities, and the entry module behind them. -/
theorem render_total {tables : List Table} {entities : List Entity}
    (hb : Generation.entities tables = .ok entities) (directory : FilePath) (style : Style) :
    ∃ modules, (render tables directory style).outcome = .ok modules ∧
      modules.map (·.place) = entities.map (fun e =>
        ((directory.child (sourceFile e.moduleName)).text, ModuleKind.entity,
          some e.table.name)) ++
          [((directory.child (sourceFile entryModule)).text, ModuleKind.entry, none)] := by
  choose code hcode using renderEntity_total style directory
  obtain ⟨entry, hentry⟩ := renderEntry_total style directory entities
  refine ⟨entities.map (fun e => GeneratedModule.of (code e)
      (directory.child (sourceFile e.moduleName)).text .entity (some e.table.name)) ++
    [GeneratedModule.of entry (directory.child (sourceFile entryModule)).text .entry none], ?_, ?_⟩
  · simp only [render, hb]
    refine inOrder_ok_iff.mpr (List.rel_append ?_ ?_)
    · rw [List.forall₂_map_left_iff, List.forall₂_map_right_iff, List.forall₂_same]
      exact fun e _ => hcode e
    · exact .cons hentry .nil
  · simp only [List.map_append, List.map_map, Function.comp_def, GeneratedModule.place,
      GeneratedModule.of, List.map_cons, List.map_nil]

theorem entities_ok_iff {tables : List Table} (h : DistinctNames tables) {entities : List Entity} :
    Generation.entities tables = .ok entities ↔
      Entity.ofTables tables (RelationGraph.ofTables tables) = .ok entities := by
  simp only [Generation.entities, RelationGraph.unpaired?_eq_none h, Outcome.mapError_ok_iff]

/-- Built entities are named after their tables, which may share a name. -/
theorem entities_named {tables : List Table} {entities : List Entity}
    (hb : Generation.entities tables = .ok entities) :
    List.Forall₂ (fun t e => e.table = t ∧ e.className = className t.name ∧
      e.moduleName = moduleName t.name) (sortTables tables) entities := by
  unfold Generation.entities at hb
  split at hb
  · cases hb
  · exact Entity.ofTables_named (Outcome.mapError_ok_iff.mp hb)

end Generation

end CatalogEntities
