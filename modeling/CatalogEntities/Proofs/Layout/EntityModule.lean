import CatalogEntities.Proofs.Code.Scope
import CatalogEntities.Proofs.Layout.EntityPage

/-!
The module of an entity as lines: imports in groups, the classes that only a type checker imports, a
class for each enumeration, and the class of the entity.

Main result: `Layout.entityPage_source`.
-/

namespace CatalogEntities

open Catalog Code Text

/-- The names that an import binds; the database library goes by an alias. -/
def Import.binds (i : Import) : List String :=
  if i.1 == "sqlalchemy" && i.2.isEmpty then ["sa"]
  else (Statement.ofImport 0 i.1 i.2).bindings.keys

namespace Layout

inductive EntityLine
  | blank
  | comment (mark text : String)
  | importing (i : Import)
  /-- What follows is for type checking only. -/
  | guard (name : String)
  | sibling (module name : String)
  | header (name : String) (bases : List Expr)
  | inner (s : Statement)

namespace EntityLine

def render : EntityLine → String
  | .blank => ""
  | .comment mark text => mark ++ text
  | .importing i => importLine i
  | .guard name => "if " ++ name ++ ":"
  | .sibling module name => "    " ++ siblingImport module name
  | .header name bases => "class " ++ name ++ "(" ++ joinWith ", " (bases.map Expr.render) ++ "):"
  | .inner s => "    " ++ s.render

/-- The names that a line refers to when the module is loaded. -/
def reads : EntityLine → List String
  | .guard name => [name]
  | .header _ bases => bases.flatMap Expr.reads
  | .inner s => s.reads
  | _ => []

def import? : EntityLine → Option Import
  | .importing i => some i
  | _ => none

end EntityLine

/-- Imports by rank, without empty groups. -/
def importsByRank (imports : List Import) : List (List Import) :=
  ([0, 1, 2].map fun rank => imports.filter fun i => importRank i.1 == rank).filter (!·.isEmpty)

def siblingLines (related : List (String × String)) : List EntityLine :=
  if related.isEmpty then []
  else .blank :: .guard "TYPE_CHECKING" :: related.map fun (module, name) => .sibling module name

def enumHeader (d : EnumDefinition) : EntityLine :=
  .header d.name [.name "str", .field (.name "enum") "Enum"]

/-- A class of texts with one assignment for each member. -/
def enumLines (d : EnumDefinition) : List EntityLine :=
  .blank :: .blank :: enumHeader d ::
    d.members.map fun m => .inner (.assign m.name (.text m.value))

def columnLines (c : EntityColumn) : List EntityLine :=
  (commentLines (c.column.comment.getD "")).map (EntityLine.comment "    #: ") ++
    [EntityLine.inner c.statement]

def sectionLines (part : List EntityRelation) : List EntityLine :=
  .blank :: part.map fun r => .inner r.statement

/-- The relations of an entity by kind, without empty parts. -/
def relationSections (e : Entity) : List (List EntityRelation) :=
  [e.forward, e.inverse, e.manyToMany].filter (!·.isEmpty)

def classHeader (e : Entity) : EntityLine := .header e.className [.name "Base"]

def classLines (e : Entity) : List EntityLine :=
  [EntityLine.blank, .blank, classHeader e,
      .inner (.assign "__tablename__" (.text e.table.name))] ++
    (if e.columns.isEmpty then [] else [EntityLine.blank]) ++ e.columns.flatMap columnLines ++
    e.mapperArguments?.toList.flatMap (fun s => [EntityLine.blank, .inner s]) ++
    (relationSections e).flatMap sectionLines

/-- The lines of an entity's module. -/
def entityLines (e : Entity) (time : Timestamp) : List EntityLine :=
  (headerLines time).map (EntityLine.comment "# ") ++
    (importsByRank e.imports).flatMap (fun group => EntityLine.blank :: group.map .importing) ++
    siblingLines e.related ++ e.enumerations.flatMap enumLines ++ classLines e

theorem importGroups_eq (imports : List Import) :
    importGroups imports = (importsByRank imports).map (·.map importLine) := by
  simp only [importGroups, importsByRank, List.filter_map, List.map_map, Function.comp_def,
    List.isEmpty_map]

section

variable (e : Entity) (time : Timestamp)

theorem mapperArguments_ne_empty : (entityPage e time).mapperArguments ≠ some "" := by
  simp only [entityPage, Entity.mapperArguments?]
  split
  · simp
  · simp [Statement.render]

theorem importBlocks_layout :
    ((entityPage e time).importGroups.map (Block.mk 1)).flatMap Block.layout =
    ((importsByRank e.imports).flatMap fun group =>
      .blank :: group.map .importing).map EntityLine.render := by
  simp [entityPage, importGroups_eq, List.flatMap_map, List.map_flatMap, Block.layout,
    EntityLine.render, Function.comp_def]

theorem guardedBlocks_layout : (entityPage e time).guardedBlocks.flatMap Block.layout =
    (siblingLines e.related).map EntityLine.render := by
  simp only [EntityPage.guardedBlocks, entityPage, siblingLines, List.isEmpty_map]
  split
  · rfl
  · simp [Block.layout, EntityLine.render]

theorem enumHeader_render (d : EnumDefinition) :
    (enumHeader d).render = "class " ++ d.name ++ "(str, enum.Enum):" := by
  have hbases : "(str, enum.Enum):" = "(" ++ joinWith ", " ["str", "enum.Enum"] ++ "):" := by
    decide +kernel
  have hnames : ([.name "str", .field (.name "enum") "Enum"] : List Expr).map Expr.render =
      ["str", "enum.Enum"] := by
    decide +kernel
  simp only [enumHeader, EntityLine.render, hnames, hbases, String.append_assoc]

theorem enumBlocks_layout :
    ((entityPage e time).enums.map fun d => ⟨2, d.lines⟩).flatMap Block.layout =
    (e.enumerations.flatMap enumLines).map EntityLine.render := by
  have hmember (m : Naming.EnumMember) :
      (EntityLine.inner (.assign m.name (.text m.value))).render =
      "    " ++ m.name ++ " = " ++ Literal.encodeText m.value := by
    simp only [EntityLine.render, Statement.render, Expr.render, String.append_assoc]
  have hblank : EntityLine.blank.render = "" := rfl
  simp [entityPage, List.flatMap_map, List.map_flatMap, Block.layout, EnumPart.lines, enumLines,
    enumHeader_render, hblank, hmember, Function.comp_def]

theorem classBlock_layout : (entityPage e time).classBlock.layout =
    [EntityLine.blank, .blank, classHeader e,
      .inner (.assign "__tablename__" (.text e.table.name))].map
      EntityLine.render := by
  have hnames : joinWith ", " ["Base"] = "Base" := by decide +kernel
  have htable : "    __tablename__ = " = "    " ++ "__tablename__" ++ " = " := by decide +kernel
  simp only [EntityPage.classBlock, entityPage, Block.layout, List.replicate, List.cons_append,
    List.nil_append,
    classHeader, List.map_cons, List.map_nil, EntityLine.render, Statement.render, Expr.render,
    hnames, htable, String.append_assoc]

theorem columnBlocks_layout : (entityPage e time).columnBlocks.flatMap Block.layout =
    ((if e.columns.isEmpty then [] else [EntityLine.blank]) ++ e.columns.flatMap columnLines).map
      EntityLine.render := by
  simp only [EntityPage.columnBlocks, entityPage, List.isEmpty_map]
  split
  · rename_i hempty
    rw [List.isEmpty_iff.mp hempty]
    rfl
  · simp [Block.layout, ColumnPart.lines, columnLines, List.flatMap_map, List.map_flatMap,
      EntityLine.render, Function.comp_def]

theorem mapperBlocks_layout :
    ((entityPage e time).mapperArguments.toList.map fun text =>
      ⟨1, ["    " ++ text]⟩).flatMap Block.layout =
      (e.mapperArguments?.toList.flatMap fun s =>
        [EntityLine.blank, .inner s]).map EntityLine.render := by
  cases h : e.mapperArguments? <;> simp [entityPage, h, Block.layout, EntityLine.render]

theorem sectionBlocks_layout :
    ((entityPage e time).relationSections.map fun statements =>
      ⟨1, statements.map ("    " ++ ·)⟩).flatMap
      Block.layout = ((relationSections e).flatMap sectionLines).map EntityLine.render := by
  simp [entityPage, relationSections, List.flatMap_map, List.map_flatMap, Block.layout,
    sectionLines, EntityLine.render, Function.comp_def]

/-- The module of an entity is its lines. -/
theorem entityPage_source :
    (entityPage e time).source = .ok (layOut ((entityLines e time).map EntityLine.render)) := by
  rw [EntityPage.source_eq _ (mapperArguments_ne_empty e time)]
  simp only [EntityPage.blocks, List.flatMap_cons, List.flatMap_append, importBlocks_layout,
    guardedBlocks_layout,
    enumBlocks_layout, classBlock_layout, columnBlocks_layout, mapperBlocks_layout,
    sectionBlocks_layout, entityLines, classLines, List.map_append, List.append_assoc]
  simp [Block.layout, entityPage, EntityLine.render, Function.comp_def]

end

/-- What a line of an entity's module is there for. -/
inductive LineOf (e : Entity) : EntityLine → Prop
  | silent {line : EntityLine} : line.reads = [] → line.import? = none → LineOf e line
  | importing {i : Import} : i ∈ e.imports → LineOf e (.importing i)
  | guard : e.related ≠ [] → LineOf e (.guard "TYPE_CHECKING")
  | enumeration {d : EnumDefinition} : d ∈ e.enumerations → LineOf e (enumHeader d)
  | header : LineOf e (classHeader e)
  | column {c : EntityColumn} : c ∈ e.columns → LineOf e (.inner c.statement)
  | identity {s : Statement} : e.mapperArguments? = some s → LineOf e (.inner s)
  | relation {r : EntityRelation} : r ∈ e.relations → LineOf e (.inner r.statement)

theorem mem_importsByRank {imports : List Import} {i : Import} :
    (∃ group ∈ importsByRank imports, i ∈ group) ↔ i ∈ imports := by
  have hrank : importRank i.1 ∈ [0, 1, 2] := by
    unfold importRank
    split
    · decide
    · split <;> decide
  simp only [importsByRank, List.mem_filter, List.mem_map]
  constructor
  · rintro ⟨group, ⟨⟨rank, -, rfl⟩, -⟩, hi⟩
    exact (List.mem_filter.mp hi).1
  · intro hi
    have hin : i ∈ imports.filter fun j => importRank j.1 == importRank i.1 :=
      List.mem_filter.mpr ⟨hi, beq_self_eq_true _⟩
    refine ⟨_, ⟨⟨importRank i.1, hrank, rfl⟩, ?_⟩, hin⟩
    simpa using List.ne_nil_of_mem hin

theorem mem_relationSections {e : Entity} {r : EntityRelation} :
    (∃ part ∈ relationSections e, r ∈ part) ↔ r ∈ e.relations := by
  simp only [relationSections, List.mem_filter, Entity.relations, List.mem_append]
  constructor
  · rintro ⟨part, ⟨hpart, -⟩, hr⟩
    simp only [List.mem_cons, List.not_mem_nil, or_false] at hpart
    rcases hpart with rfl | rfl | rfl
    · exact Or.inl (Or.inl hr)
    · exact Or.inl (Or.inr hr)
    · exact Or.inr hr
  · have hkept {part : List EntityRelation} (hr : r ∈ part) : (!part.isEmpty) = true := by
      simpa using List.ne_nil_of_mem hr
    rintro ((hr | hr) | hr)
    · exact ⟨e.forward, ⟨List.mem_cons_self, hkept hr⟩, hr⟩
    · exact ⟨e.inverse, ⟨List.mem_cons_of_mem _ List.mem_cons_self, hkept hr⟩, hr⟩
    · exact ⟨e.manyToMany,
        ⟨List.mem_cons_of_mem _ (List.mem_cons_of_mem _ List.mem_cons_self), hkept hr⟩, hr⟩

section

variable {e : Entity} {time : Timestamp} {line : EntityLine}

theorem lineOf_siblings (h : line ∈ siblingLines e.related) : LineOf e line := by
  unfold siblingLines at h
  split at h
  · contradiction
  · rename_i hrelated
    simp only [List.mem_cons, List.mem_map] at h
    rcases h with rfl | rfl | ⟨p, -, rfl⟩
    · exact .silent rfl rfl
    · exact .guard fun he => hrelated (List.isEmpty_iff.mpr he)
    · exact .silent rfl rfl

theorem lineOf_enum {d : EnumDefinition} (hd : d ∈ e.enumerations) (h : line ∈ enumLines d) :
    LineOf e line := by
  simp only [enumLines, List.mem_cons, List.mem_map] at h
  rcases h with rfl | rfl | rfl | ⟨m, -, rfl⟩
  · exact .silent rfl rfl
  · exact .silent rfl rfl
  · exact .enumeration hd
  · exact .silent rfl rfl

theorem lineOf_class (h : line ∈ classLines e) : LineOf e line := by
  simp only [classLines, List.mem_append, List.mem_cons, List.not_mem_nil, or_false,
    List.mem_flatMap] at h
  rcases h with ((((rfl | rfl | rfl | rfl) | hgap) | ⟨c, hc, hline⟩) | ⟨s, hs, rfl | rfl⟩) |
    ⟨part, hpart, hline⟩
  · exact .silent rfl rfl
  · exact .silent rfl rfl
  · exact .header
  · exact .silent rfl rfl
  · split at hgap
    · contradiction
    · rw [List.mem_singleton.mp hgap]
      exact .silent rfl rfl
  · simp only [columnLines, List.mem_append, List.mem_map, List.mem_singleton] at hline
    rcases hline with ⟨text, -, rfl⟩ | rfl
    · exact .silent rfl rfl
    · exact .column hc
  · exact .silent rfl rfl
  · exact .identity (Option.mem_toList.mp hs)
  · simp only [sectionLines, List.mem_cons, List.mem_map] at hline
    rcases hline with rfl | ⟨r, hr, rfl⟩
    · exact .silent rfl rfl
    · exact .relation (mem_relationSections.mp ⟨part, hpart, hr⟩)

theorem lineOf_entityLines (h : line ∈ entityLines e time) : LineOf e line := by
  simp only [entityLines, List.mem_append, List.mem_flatMap, List.mem_map, List.mem_cons] at h
  rcases h
    with (((⟨text, -, rfl⟩ | ⟨group, hgroup, rfl | ⟨i, hi, rfl⟩⟩) | hline) | ⟨d, hd, hline⟩) | hline
  · exact .silent rfl rfl
  · exact .silent rfl rfl
  · exact .importing (mem_importsByRank.mp ⟨group, hgroup, hi⟩)
  · exact lineOf_siblings hline
  · exact lineOf_enum hd hline
  · exact lineOf_class hline

theorem importing_mem {i : Import} : .importing i ∈ entityLines e time ↔ i ∈ e.imports := by
  constructor
  · intro h
    cases lineOf_entityLines h with
    | silent hreads himport => cases himport
    | importing hi => exact hi
  · intro hi
    obtain ⟨group, hgroup, hin⟩ := mem_importsByRank.mpr hi
    simp only [entityLines, List.mem_append, List.mem_flatMap]
    exact Or.inl
      (Or.inl (Or.inl (Or.inr ⟨group, hgroup, List.mem_cons_of_mem _ (List.mem_map_of_mem hin)⟩)))

theorem guard_mem (h : e.related ≠ []) : .guard "TYPE_CHECKING" ∈ entityLines e time := by
  have hempty : ¬ e.related.isEmpty := fun he => h (List.isEmpty_iff.mp he)
  simp [entityLines, siblingLines, hempty]

theorem enumHeader_mem {d : EnumDefinition} (hd : d ∈ e.enumerations) :
    enumHeader d ∈ entityLines e time := by
  have hin : enumHeader d ∈ enumLines d := by simp [enumLines]
  simp only [entityLines, List.mem_append, List.mem_flatMap]
  exact Or.inl (Or.inr ⟨d, hd, hin⟩)

theorem enumLines_infix {d : EnumDefinition} (hd : d ∈ e.enumerations) :
    enumLines d <:+: entityLines e time := by
  have hin : enumLines d <:+: e.enumerations.flatMap enumLines :=
    List.infix_of_mem_flatten (List.mem_map_of_mem hd)
  exact List.infix_append_of_infix_left (List.infix_append_of_infix_right hin)

theorem classHeader_mem : classHeader e ∈ entityLines e time := by
  simp [entityLines, classLines]

theorem column_mem {c : EntityColumn} (hc : c ∈ e.columns) :
    .inner c.statement ∈ entityLines e time := by
  have hin : .inner c.statement ∈ columnLines c := by simp [columnLines]
  simp only [entityLines, classLines, List.mem_append, List.mem_flatMap]
  exact Or.inr (Or.inl (Or.inl (Or.inr ⟨c, hc, hin⟩)))

theorem relation_mem {r : EntityRelation} (hr : r ∈ e.relations) :
    .inner r.statement ∈ entityLines e time := by
  obtain ⟨part, hpart, hin⟩ := mem_relationSections.mpr hr
  simp only [entityLines, classLines, List.mem_append, List.mem_flatMap]
  exact Or.inr (Or.inr ⟨part, hpart, List.mem_cons_of_mem _ (List.mem_map_of_mem hin)⟩)

end

end Layout

end CatalogEntities
