import CatalogEntities.Proofs.Catalog.ColumnType
import CatalogEntities.Proofs.Entity.ClassBody
import CatalogEntities.Proofs.Entity.ColumnNames
import CatalogEntities.Proofs.Layout.EntityModule

/-!
The imports of an entity's module against its lines. What a line refers to is imported, unless it
needs no import, and what is imported from the standard library or the runtime is referred to.

Main result: `Entity.imports_exact`.
-/

namespace CatalogEntities

open Catalog Code Naming Layout

/-- The built-in types that attributes are annotated with. -/
def builtinTypes : List String := ["int", "float", "str", "bool", "bytes"]

/-- What the lines of an entity's module refer to is what they import. Built-in types and the
enumerations of the module need no import; the identity of a table without a primary key refers to
attributes. -/
structure Entity.ImportsExact (e : Entity) (lines : List EntityLine) : Prop where
  written : ∀ i, .importing i ∈ lines ↔ i ∈ e.imports
  complete : ∀ line ∈ lines, ∀ n ∈ line.reads, n ∈ builtinTypes ∨ n ∈ e.enumerations.map (·.name) ∨
    (∃ i, .importing i ∈ lines ∧ n ∈ i.binds) ∨
    ∃ s, e.mapperArguments? = some s ∧ line = .inner s ∧ n ∈ e.columns.map (·.attr)
  guarded : (∃ i, .importing i ∈ lines ∧ "TYPE_CHECKING" ∈ i.binds) ↔ e.related ≠ []
  tight : ∀ i, .importing i ∈ lines → importRank i.1 ≠ 1 →
  ∀ n ∈ i.binds, ∃ line ∈ lines, n ∈ line.reads

/-- Enumerations are texts that are stored as they are. -/
theorem Catalog.ColumnType.text_of_isEnum {s : String} {type : ColumnType} (h : ofText s = .ok type)
    (henum : type.isEnum) : type.logical = .text ∧ type.transform = none := by
  rcases ofText_cases h with rfl | ⟨values, rfl⟩ | ⟨keyword, spec, first, second, -, rfl⟩
  · contradiction
  · exact ⟨rfl, rfl⟩
  · contradiction

namespace Import

theorem binds_names (module : String) {names : List String} (h : names ≠ []) :
    binds (module, names) = names := by
  have hempty : names.isEmpty = false := by simpa using h
  simp [binds, Statement.ofImport, hempty, Statement.bindings, Assoc.keys, Function.comp_def]

theorem binds_module {module : String} (h : module ∈ ["datetime", "decimal", "enum"]) :
    binds (module, []) = [module] := by
  revert module
  decide +kernel

end Import

namespace Entity

@[simp] theorem mem_nameSet {names : List String} {n : String} : n ∈ nameSet names ↔ n ∈ names := by
  rw [nameSet, mem_sortNames, RelationGraph.mem_distinct]

theorem nameSet_ne_nil {names : List String} (h : names ≠ []) : nameSet names ≠ [] := by
  obtain ⟨n, hn⟩ := List.exists_mem_of_ne_nil _ h
  exact List.ne_nil_of_mem (mem_nameSet.mpr hn)

theorem nameSet_eq {names sorted : List String} (hperm : (RelationGraph.distinct names).Perm sorted)
    (hsorted : sorted.Pairwise (· < ·)) : nameSet names = sorted := by
  refine sortByKey_eq_of_sorted ?_ hperm (hsorted.imp Std.le_of_lt)
  rw [List.map_id]
  exact hsorted.imp Std.ne_of_lt

/-- An import of names binds just these. -/
theorem mem_binds {module : String} {names : List String} (h : names ≠ []) {n : String} :
    n ∈ Import.binds (module, nameSet names) ↔ n ∈ names := by
  rw [Import.binds_names _ (nameSet_ne_nil h), mem_nameSet]

section

variable (columns : List EntityColumn) (relations : List EntityRelation) (hasRelated : Bool)

def typingNames : List String :=
  (if hasRelated then ["TYPE_CHECKING"] else []) ++
    columns.flatMap (fun c =>
      (if c.type.logical == .json || c.type.logical == .untyped then ["Any"] else []) ++
        c.optionalNames) ++
    relations.flatMap EntityRelation.shapeNames

def libraryModules : List String := columns.flatMap fun c =>
  c.type.logical.module?.toList ++ (if c.enumeration.isSome then ["enum"] else [])

def ormNames : List String := ["Mapped", "mapped_column"] ++ relations.map fun _ => "relationship"

def runtimeNames : List String := "Base" :: columns.flatMap fun c =>
  (c.type.transform.map (·.name)).toList ++ (if c.enumeration.isSome then ["enum_values"] else [])

theorem importsFor_eq : importsFor columns relations hasRelated =
    (nameSet (libraryModules columns)).map (fun m => (m, [])) ++
      (if (nameSet (typingNames columns relations hasRelated)).isEmpty then []
        else [("typing", nameSet (typingNames columns relations hasRelated))]) ++
      [("sqlalchemy", []), ("sqlalchemy.orm", nameSet (ormNames relations)),
        ("entity_generator.runtime", nameSet (runtimeNames columns))] := rfl

variable {columns relations hasRelated}

theorem libraryModules_known {m : String} (h : m ∈ libraryModules columns) :
    m ∈ ["datetime", "decimal", "enum"] := by
  obtain ⟨c, -, hm⟩ := List.mem_flatMap.mp h
  rcases List.mem_append.mp hm with hm | hm
  · rw [Option.mem_toList] at hm
    cases hlogical : c.type.logical <;> simp [hlogical, LogicalType.module?] at hm <;> simp [← hm]
  · split at hm
    · rw [List.mem_singleton.mp hm]
      decide
    · contradiction

/-- Every import by what it is for. -/
theorem mem_importsFor {i : Import} : i ∈ importsFor columns relations hasRelated ↔
    (∃ m ∈ libraryModules columns, i = (m, [])) ∨
      (typingNames columns relations hasRelated ≠ [] ∧
        i = ("typing", nameSet (typingNames columns relations hasRelated))) ∨
      i = ("sqlalchemy", []) ∨ i = ("sqlalchemy.orm", nameSet (ormNames relations)) ∨
      i = ("entity_generator.runtime", nameSet (runtimeNames columns)) := by
  have hempty : (nameSet (typingNames columns relations hasRelated)).isEmpty = true ↔
      typingNames columns relations hasRelated = [] := by
    rw [List.isEmpty_iff, List.eq_nil_iff_forall_not_mem, List.eq_nil_iff_forall_not_mem]
    simp only [mem_nameSet]
  simp only [importsFor_eq, List.mem_append, List.mem_map, mem_nameSet, List.mem_cons,
    List.not_mem_nil, or_false, or_assoc, @eq_comm _ _ i]
  refine or_congr_right (or_congr_left ?_)
  split
  · rename_i htyping
    simp [hempty.mp htyping]
  · rename_i htyping
    simp [mt hempty.mpr htyping]

/-- The names that an import binds, by what it is for. -/
theorem bound_iff {n : String} : (∃ i ∈ importsFor columns relations hasRelated, n ∈ i.binds) ↔
    n ∈ libraryModules columns ∨ n ∈ typingNames columns relations hasRelated ∨ n = "sa" ∨
    n ∈ ormNames relations ∨
      n ∈ runtimeNames columns := by
  have horm : ormNames relations ≠ [] := List.cons_ne_nil _ _
  have hruntime : runtimeNames columns ≠ [] := List.cons_ne_nil _ _
  constructor
  · rintro ⟨i, hi, hn⟩
    rcases mem_importsFor.mp hi with ⟨m, hm, rfl⟩ | ⟨hne, rfl⟩ | rfl | rfl | rfl
    · rw [Import.binds_module (libraryModules_known hm)] at hn
      exact Or.inl (List.mem_singleton.mp hn ▸ hm)
    · exact Or.inr (Or.inl ((mem_binds hne).mp hn))
    · exact Or.inr (Or.inr (Or.inl (List.mem_singleton.mp hn)))
    · exact Or.inr (Or.inr (Or.inr (Or.inl ((mem_binds horm).mp hn))))
    · exact Or.inr (Or.inr (Or.inr (Or.inr ((mem_binds hruntime).mp hn))))
  · rintro (hm | hn | rfl | hn | hn)
    · refine ⟨(n, []), mem_importsFor.mpr (Or.inl ⟨n, hm, rfl⟩), ?_⟩
      rw [Import.binds_module (libraryModules_known hm)]
      exact List.mem_singleton_self n
    · have hne := List.ne_nil_of_mem hn
      exact ⟨_, mem_importsFor.mpr (Or.inr (Or.inl ⟨hne, rfl⟩)), (mem_binds hne).mpr hn⟩
    · exact ⟨_, mem_importsFor.mpr (Or.inr (Or.inr (Or.inl rfl))), List.mem_singleton_self _⟩
    · exact ⟨_, mem_importsFor.mpr (Or.inr (Or.inr (Or.inr (Or.inl rfl)))), (mem_binds horm).mpr hn⟩
    · exact ⟨_, mem_importsFor.mpr (Or.inr (Or.inr (Or.inr (Or.inr rfl)))),
        (mem_binds hruntime).mpr hn⟩

end

section

variable {e : Entity} (himports : e.imports = importsFor e.columns e.relations !e.related.isEmpty)
include himports

/-- A name is bound by an import for one of these reasons. -/
theorem bound_iff_of_imports {n : String} : (∃ i ∈ e.imports, n ∈ i.binds) ↔
    n ∈ libraryModules e.columns ∨
    n ∈ typingNames e.columns e.relations (!e.related.isEmpty) ∨ n = "sa" ∨
      n ∈ ormNames e.relations ∨ n ∈ runtimeNames e.columns := by
  rw [himports, bound_iff]

/-- What a column refers to is imported, unless it needs no import. -/
theorem bound_of_refers (hshown : e.enumerations = e.columns.filterMap (·.enumeration))
    {c : EntityColumn} (hc : c ∈ e.columns) {n : String} (hn : c.Refers n) :
    n ∈ builtinTypes ∨ n ∈ e.enumerations.map (·.name) ∨ ∃ i ∈ e.imports, n ∈ i.binds := by
  have hbound {m : String} (hm : m ∈ libraryModules e.columns ∨
      m ∈ typingNames e.columns e.relations (!e.related.isEmpty) ∨ m = "sa" ∨
      m ∈ ormNames e.relations ∨
        m ∈ runtimeNames e.columns) :
      m ∈ builtinTypes ∨ m ∈ e.enumerations.map (·.name) ∨ ∃ i ∈ e.imports, m ∈ i.binds :=
    Or.inr (Or.inr ((bound_iff_of_imports himports).mpr hm))
  have htyping {m : String}
      (hm : m ∈ (if c.type.logical == .json || c.type.logical == .untyped then ["Any"] else []) ++
        c.optionalNames) :
      m ∈ typingNames e.columns e.relations (!e.related.isEmpty) :=
    List.mem_append_left _ (List.mem_append_right _ (List.mem_flatMap.mpr ⟨c, hc, hm⟩))
  have hruntime {m : String}
      (hm : m ∈ (c.type.transform.map (·.name)).toList ++
        (if c.enumeration.isSome then ["enum_values"] else [])) :
      m ∈ runtimeNames e.columns :=
    List.mem_cons_of_mem _ (List.mem_flatMap.mpr ⟨c, hc, hm⟩)
  cases hn with
  | call => exact hbound (Or.inr (Or.inr (Or.inr (Or.inl (by simp [ormNames])))))
  | hint => exact hbound (Or.inr (Or.inr (Or.inr (Or.inl (by simp [ormNames])))))
  | library => exact hbound (Or.inr (Or.inr (Or.inl rfl)))
  | optional h => exact hbound (Or.inr (Or.inl (htyping (by simp [EntityColumn.optionalNames, h]))))
  | transform h => exact hbound (Or.inr (Or.inr (Or.inr (Or.inr (hruntime (by simp [h]))))))
  | enumeration h =>
    refine Or.inr (Or.inl (List.mem_map_of_mem ?_))
    rw [hshown]
    exact List.mem_filterMap.mpr ⟨c, hc, h⟩
  | enumValues h _ => exact hbound (Or.inr (Or.inr (Or.inr (Or.inr (hruntime (by simp [h]))))))
  | builtin h =>
    left
    unfold EntityColumn.builtinType? at h
    split at h
    · contradiction
    · revert h
      cases c.type.logical <;> intro h <;> cases h <;> decide
  | module _ h => exact hbound (Or.inl (List.mem_flatMap.mpr ⟨c, hc, by simp [h]⟩))
  | unknown _ h => exact hbound (Or.inr (Or.inl (htyping (by simp [h]))))

/-- What a relation refers to is imported. -/
theorem bound_of_relation {r : EntityRelation} (hr : r ∈ e.relations) {n : String}
    (hn : n ∈ r.statement.reads) :
    ∃ i ∈ e.imports, n ∈ i.binds := by
  rw [bound_iff_of_imports himports]
  rw [EntityRelation.statement_reads] at hn
  simp only [List.mem_cons] at hn
  rcases hn with rfl | rfl | hn
  · exact Or.inr (Or.inr (Or.inr (Or.inl (by simpa [ormNames] using List.ne_nil_of_mem hr))))
  · exact Or.inr (Or.inr (Or.inr (Or.inl (by simp [ormNames]))))
  · exact Or.inr (Or.inl (List.mem_append_right _ (List.mem_flatMap.mpr ⟨r, hr, hn⟩)))

theorem guard_bound_iff : (∃ i ∈ e.imports, "TYPE_CHECKING" ∈ i.binds) ↔ e.related ≠ [] := by
  have hlibrary : "TYPE_CHECKING" ∉ libraryModules e.columns := fun h =>
    absurd (libraryModules_known h) (by decide)
  have horm : "TYPE_CHECKING" ∉ ormNames e.relations := by simp [ormNames]
  have hruntime : "TYPE_CHECKING" ∉ runtimeNames e.columns := by
    have htransform (t : Transform) : t.name ≠ "TYPE_CHECKING" := by cases t <;> decide
    simp [runtimeNames, htransform]
  have hcolumns : "TYPE_CHECKING" ∉ e.columns.flatMap (fun c =>
      (if c.type.logical == .json || c.type.logical == .untyped then ["Any"] else []) ++
        c.optionalNames) := by
    intro h
    obtain ⟨c, -, hc⟩ := List.mem_flatMap.mp h
    rcases List.mem_append.mp hc with hc | hc
    · split at hc <;> simp at hc
    · unfold EntityColumn.optionalNames at hc
      split at hc <;> simp at hc
  have hrelations : "TYPE_CHECKING" ∉ e.relations.flatMap EntityRelation.shapeNames := by
    intro h
    obtain ⟨r, -, hr⟩ := List.mem_flatMap.mp h
    unfold EntityRelation.shapeNames at hr
    split at hr
    · simp at hr
    · split at hr <;> simp at hr
  have hsa : "TYPE_CHECKING" ≠ "sa" := by decide
  -- no other import binds the name, so the one for related entities decides
  rw [bound_iff_of_imports himports]
  simp only [hlibrary, hsa, horm, hruntime, typingNames, List.mem_append, hcolumns, hrelations,
    or_false, false_or]
  cases e.related <;> simp

end

section

variable {e : Entity} {time : Timestamp}

theorem read_of_refers {c : EntityColumn} (hc : c ∈ e.columns) {n : String} (hn : c.Refers n)
    (hne : n ≠ "sa") :
    ∃ line ∈ entityLines e time, n ∈ line.reads :=
  ⟨.inner c.statement, column_mem hc, hn.read.resolve_left hne⟩

/-- Enumeration columns need nothing but their enumeration. -/
def PlainEnumerations (e : Entity) : Prop :=
  ∀ c ∈ e.columns, c.enumeration.isSome → c.type.logical = .text ∧ c.type.transform = none

theorem PlainEnumerations.none_of_ne (h : e.PlainEnumerations) {c : EntityColumn}
    (hc : c ∈ e.columns) (htype : c.type.logical ≠ .text) : c.enumeration = none := by
  cases henum : c.enumeration with
  | none => rfl
  | some d => exact absurd (h c hc (by rw [henum]; rfl)).1 htype

variable (hplain : e.PlainEnumerations)
include hplain

theorem library_read (hshown : e.enumerations = e.columns.filterMap (·.enumeration)) {m : String}
    (hm : m ∈ libraryModules e.columns) : ∃ line ∈ entityLines e time, m ∈ line.reads := by
  have hne : m ≠ "sa" := by
    rintro rfl
    exact absurd (libraryModules_known hm) (by decide)
  obtain ⟨c, hc, hm⟩ := List.mem_flatMap.mp hm
  rcases List.mem_append.mp hm with hm | hm
  · rw [Option.mem_toList] at hm
    have htype : c.type.logical ≠ .text := by
      intro htext
      rw [htext] at hm
      contradiction
    exact read_of_refers hc (.module (hplain.none_of_ne hc htype) hm) hne
  · split at hm
    · rename_i henum
      obtain ⟨d, hd⟩ := Option.isSome_iff_exists.mp henum
      rw [List.mem_singleton.mp hm]
      have hin : d ∈ e.enumerations := by
        rw [hshown]
        exact List.mem_filterMap.mpr ⟨c, hc, hd⟩
      exact ⟨enumHeader d, enumHeader_mem hin, by simp [enumHeader, EntityLine.reads]⟩
    · contradiction

theorem typing_read {n : String} (hn : n ∈ typingNames e.columns e.relations (!e.related.isEmpty)) :
    ∃ line ∈ entityLines e time, n ∈ line.reads := by
  rcases List.mem_append.mp hn with hn | hn
  · rcases List.mem_append.mp hn with hn | hn
    · split at hn
      · rename_i hrelated
        rw [List.mem_singleton.mp hn]
        have hne : e.related ≠ [] := by simpa using hrelated
        exact ⟨_, guard_mem hne, List.mem_singleton_self _⟩
      · contradiction
    · -- the annotation of a column: an unknown type, or a value that may be missing
      obtain ⟨c, hc, hn⟩ := List.mem_flatMap.mp hn
      rcases List.mem_append.mp hn with hn | hn
      · split at hn
        · rename_i htype
          rw [List.mem_singleton.mp hn]
          have hne : c.type.logical ≠ .text := by
            intro htext
            rw [htext] at htype
            contradiction
          exact read_of_refers hc (.unknown (hplain.none_of_ne hc hne) htype) (by decide)
        · contradiction
      · unfold EntityColumn.optionalNames at hn
        split at hn
        · rename_i hoptional
          rw [List.mem_singleton.mp hn]
          exact read_of_refers hc (.optional hoptional) (by decide)
        · contradiction
  · obtain ⟨r, hr, hn⟩ := List.mem_flatMap.mp hn
    refine ⟨_, relation_mem hr, ?_⟩
    rw [EntityLine.reads, EntityRelation.statement_reads]
    exact List.mem_cons_of_mem _ (List.mem_cons_of_mem _ hn)

theorem runtime_read {n : String} (hn : n ∈ runtimeNames e.columns) :
    ∃ line ∈ entityLines e time, n ∈ line.reads := by
  rcases List.mem_cons.mp hn with rfl | hn
  · exact ⟨_, classHeader_mem, by simp [classHeader, EntityLine.reads]⟩
  · obtain ⟨c, hc, hn⟩ := List.mem_flatMap.mp hn
    rcases List.mem_append.mp hn with hn | hn
    · rw [Option.mem_toList] at hn
      obtain ⟨t, htransform, rfl⟩ := Option.map_eq_some_iff.mp hn
      exact read_of_refers hc (.transform htransform) (by cases t <;> decide)
    · split at hn
      · rename_i henum
        obtain ⟨d, hd⟩ := Option.isSome_iff_exists.mp henum
        rw [List.mem_singleton.mp hn]
        exact read_of_refers hc (.enumValues hd (hplain c hc henum).2) (by decide)
      · contradiction

end

theorem ColumnsNamed.plainEnumerations {classes : List String} {e : Entity}
    (h : e.ColumnsNamed classes) :
    e.PlainEnumerations := by
  intro c hc henum
  have hvalues := h.enumeration_of_type c hc
  split at hvalues
  · rename_i htype
    exact ColumnType.text_of_isEnum (h.types_read c hc) htype
  · rw [Option.map_eq_none_iff.mp hvalues] at henum
    contradiction

theorem mapperArguments_reads {e : Entity} {s : Statement} (h : e.mapperArguments? = some s)
    {n : String} (hn : n ∈ s.reads) : n ∈ e.columns.map (·.attr) := by
  unfold mapperArguments? at h
  split at h
  · contradiction
  · obtain rfl := Option.some.inj h
    have hreads (ids : List String) : (Expr.names ids).reads = ids := by
      rw [Expr.names, Expr.reads, Expr.readsAll_eq, List.flatMap_map]
      exact List.flatMap_singleton' ids
    simpa [Statement.reads, Expr.reads, Entry.readsAll, Entry.reads, hreads] using hn

/-- Imports that are worked out from the columns and relations fit the lines. -/
theorem ImportsExact.of_imports {e : Entity} (time : Timestamp) (hplain : e.PlainEnumerations)
    (hshown : e.enumerations = e.columns.filterMap (·.enumeration))
    (himports : e.imports = importsFor e.columns e.relations !e.related.isEmpty) :
    e.ImportsExact (entityLines e time) := by
  refine ⟨fun i => importing_mem, ?_, ?_, ?_⟩
  · intro line hline n hn
    simp only [importing_mem]
    -- what a line reads is decided by its kind
    cases lineOf_entityLines hline with
    | silent hreads _ =>
      rw [hreads] at hn
      contradiction
    | importing _ => contradiction
    | guard hrelated =>
      rw [List.mem_singleton.mp hn]
      exact Or.inr (Or.inr (Or.inl ((guard_bound_iff himports).mpr hrelated)))
    | @enumeration d hd =>
      have hname : n = "str" ∨ n = "enum" := by simpa [enumHeader, EntityLine.reads] using hn
      rcases hname with rfl | rfl
      · exact Or.inl (by decide)
      · rw [hshown] at hd
        obtain ⟨c, hc, henum⟩ := List.mem_filterMap.mp hd
        refine Or.inr (Or.inr (Or.inl ((bound_iff_of_imports himports).mpr (Or.inl ?_))))
        exact List.mem_flatMap.mpr ⟨c, hc, by simp [henum]⟩
    | header =>
      have hname : n = "Base" := by simpa [classHeader, EntityLine.reads] using hn
      refine Or.inr (Or.inr (Or.inl ((bound_iff_of_imports himports).mpr ?_)))
      exact Or.inr (Or.inr (Or.inr (Or.inr (hname ▸ List.mem_cons_self))))
    | column hc =>
      rcases bound_of_refers himports hshown hc (EntityColumn.refers_of_read hn)
        with hbuiltin | henum | hbound
      · exact Or.inl hbuiltin
      · exact Or.inr (Or.inl henum)
      · exact Or.inr (Or.inr (Or.inl hbound))
    | identity hs => exact Or.inr (Or.inr (Or.inr ⟨_, hs, rfl, mapperArguments_reads hs hn⟩))
    | relation hr => exact Or.inr (Or.inr (Or.inl (bound_of_relation himports hr hn)))
  · simp only [importing_mem]
    exact guard_bound_iff himports
  · intro i hi hrank n hn
    -- every group of imports has its readers, but for the two that are always there
    rw [importing_mem, himports] at hi
    rcases mem_importsFor.mp hi with ⟨m, hm, rfl⟩ | ⟨hne, rfl⟩ | rfl | rfl | rfl
    · rw [Import.binds_module (libraryModules_known hm)] at hn
      exact library_read hplain hshown (List.mem_singleton.mp hn ▸ hm)
    · exact typing_read hplain ((mem_binds hne).mp hn)
    · exact absurd rfl hrank
    · exact absurd (show importRank "sqlalchemy.orm" = 1 by decide) hrank
    · exact runtime_read hplain ((mem_binds (List.cons_ne_nil _ _)).mp hn)

/-- The module of every entity of a run is made of lines whose imports are exactly those that the
lines need. -/
theorem imports_exact {tables : List Table} {entities : List Entity} (h : DistinctNames tables)
    (hcols : DistinctColumns tables)
    (hb : ofTables tables (RelationGraph.ofTables tables) = .ok entities)
    {e : Entity} (he : e ∈ entities) (time : Timestamp) :
    (entityPage e time).source = .ok (layOut ((entityLines e time).map EntityLine.render)) ∧
      e.ImportsExact (entityLines e time) := by
  obtain ⟨plans, hall⟩ := ofTables_built h hb
  obtain ⟨t, ht, types, hbuilt⟩ := Outcome.mem_right hall he
  have hnamed := hbuilt.columnsNamed (hcols t (mem_sortTables.mp ht))
  obtain ⟨-, -, -, -, -, -, -, himports⟩ := ofPlan_fields hbuilt.entity_ok
  exact ⟨entityPage_source e time,
    .of_imports time hnamed.plainEnumerations hnamed.enumerations_shown himports⟩

/-- A table that refers to itself: a primary key that may be missing, a column of unknown type, a
decimal and an enumeration with defaults, a truth value. -/
def rareColumns : Table :=
  let column (name physicalType : String) (default : Option String) : Column :=
    ⟨name, physicalType, true, default, false, false, none, ""⟩
  ⟨"node", [⟨"id", "int", true, none, true, false, none, ""⟩, column "shape" "polygon" none,
    column "price" "decimal(8,2)" "1.5", column "state" "enum('new','used')" "new",
    column "flag" "tinyint(1)" "1",
    column "parent" "int" none], [⟨"node", "parent", "node", "id", none⟩]⟩

theorem rareColumns_imports : DistinctNames [rareColumns] ∧ DistinctColumns [rareColumns] ∧
    ∃ e, ofTables [rareColumns] (RelationGraph.ofTables [rareColumns]) = .ok [e] ∧
      e.imports = [("decimal", []), ("enum", []), ("typing", ["Any", "List", "Optional"]),
        ("sqlalchemy", []), ("sqlalchemy.orm", ["Mapped", "mapped_column", "relationship"]),
        ("entity_generator.runtime", ["Base", "BooleanTransformer", "enum_values"])] ∧
      ∀ time, (entityPage e time).source =
        .ok (layOut ((entityLines e time).map EntityLine.render)) ∧
        e.ImportsExact (entityLines e time) := by
  have h : DistinctNames [rareColumns] := by decide
  have hcols : DistinctColumns [rareColumns] := by decide
  have hstate : ColumnType.ofText (enumText "enum" "new" [("", "used")]) =
      .ok (.enumeration ["new", "used"]) :=
    ColumnType.ofText_enumText (by decide +kernel) "new" (by simp)
  let number : ColumnType := .ofSpec "int" ⟨.int, "Integer", none, none⟩ none none
  let price : ColumnType := .ofSpec "decimal" ⟨.decimal, "Numeric", none, none⟩ (some 8) (some 2)
  let flag : ColumnType :=
    .ofSpec "tinyint" ⟨.bool, "SmallInteger", none, some .boolean⟩ (some 1) none
  have hnumber : ColumnType.ofText "int" = .ok number := by decide +kernel
  have hshape : ColumnType.ofText "polygon" = .ok .untyped := by decide +kernel
  have hprice : ColumnType.ofText "decimal(8,2)" = .ok price := by decide +kernel
  have hflag : ColumnType.ofText "tinyint(1)" = .ok flag := by decide +kernel
  let types :=
    rareColumns.columns.zip [number, .untyped, price, .enumeration ["new", "used"], flag, number]
  have htypes : Plan.columnTypes rareColumns = .ok types :=
    Plan.columnTypes_eq (.cons hnumber
      (.cons hshape (.cons hprice (.cons hstate (.cons hflag (.cons hnumber .nil))))))
  have hnames : (ofPlan [("node", Plan.inRun [rareColumns] rareColumns types)]
      (RelationGraph.ofTables [rareColumns]) ["node"] rareColumns types
      (Plan.inRun [rareColumns] rareColumns types)).toOption.map (fun e =>
        (libraryModules e.columns,
        RelationGraph.distinct (typingNames e.columns e.relations !e.related.isEmpty),
        RelationGraph.distinct (ormNames e.relations), runtimeNames e.columns)) =
      some (["decimal", "enum"], ["Any", "Optional", "List"],
        ["Mapped", "mapped_column", "relationship"],
        ["Base", "enum_values", "BooleanTransformer"]) := by
    decide +kernel
  obtain ⟨e, he, hshown⟩ := Option.map_eq_some_iff.mp hnames
  have hok := Outcome.toOption_eq_some_iff.mp he
  obtain ⟨-, -, -, -, -, -, -, himports⟩ := ofPlan_fields hok
  have hb := ofTables_singleton htypes hok
  simp only [Prod.mk.injEq] at hshown
  obtain ⟨hlibrary, htyping, horm, hruntime⟩ := hshown
  refine ⟨h, hcols, e, hb, ?_, imports_exact h hcols hb List.mem_cons_self⟩
  have hmodules : nameSet (libraryModules e.columns) = ["decimal", "enum"] :=
    nameSet_eq (by rw [hlibrary]; decide) (by decide)
  have htypes : nameSet (typingNames e.columns e.relations !e.related.isEmpty) =
      ["Any", "List", "Optional"] :=
    nameSet_eq (by rw [htyping]; decide) (by decide)
  have hmapping : nameSet (ormNames e.relations) = ["Mapped", "mapped_column", "relationship"] :=
    nameSet_eq (by rw [horm]) (by decide)
  have hbase : nameSet (runtimeNames e.columns) = ["Base", "BooleanTransformer", "enum_values"] :=
    nameSet_eq (by rw [hruntime]; decide) (by decide)
  rw [himports, importsFor_eq, hmodules, htypes, hmapping, hbase]
  rfl

end Entity

end CatalogEntities
