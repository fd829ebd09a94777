import CatalogEntities.Proofs.Code.Call
import CatalogEntities.Proofs.Code.StoredName
import CatalogEntities.Proofs.Entity.Build
import CatalogEntities.Proofs.Entity.MemberSpelling

/-!
The columns that the statements of a class declare. A statement names its column where the attribute
has another name; where it has the same, the column has the name under which the class stores the
attribute. That is the name itself if it is a normal form and not private.

Main result: `Entity.columns_declared_iff`.
-/

namespace CatalogEntities

open Catalog Code Naming Text

/-! ### Statements -/

/-- The column that a statement in the body of a class declares: the text that its call starts with,
or else the name under which the class keeps the attribute. -/
def Code.Statement.declaredColumn? (className : String) : Statement → Option String
  | .annotated target _ (some value) =>
    match value.positionals.head? with
    | some (.text s) => some s
    | _ => some (storedName className target)
  | _ => none

namespace EntityColumn

theorem typeExpr_ne_text (c : EntityColumn) (s : String) : c.typeExpr ≠ .text s := by
  intro htext
  cases c.typeForm with
  | transform _ hexpr => exact Expr.noConfusion (hexpr.symm.trans htext)
  | enumeration _ _ hexpr => exact Expr.noConfusion (hexpr.symm.trans htext)
  | sized _ _ _ hexpr => exact Expr.noConfusion (hexpr.symm.trans htext)
  | plain _ _ hexpr => exact Expr.noConfusion (hexpr.symm.trans htext)

theorem declaredColumn?_statement (className : String) (c : EntityColumn) :
    c.statement.declaredColumn? className =
    some (if c.attr = c.column.name then storedName className c.attr else c.column.name) := by
  have hhead : c.columnCall.positionals.head? =
      some (if c.attr = c.column.name then c.typeExpr else .text c.column.name) := by
    rw [columnCall, Expr.positionals_apply, nameArgument]
    by_cases hname : c.attr = c.column.name <;> simp [hname]
  rw [statement, Statement.declaredColumn?, hhead]
  by_cases hname : c.attr = c.column.name
  · rw [if_pos hname, if_pos hname]
    split
    · rename_i s htext
      exact absurd (Option.some.inj htext) (c.typeExpr_ne_text s)
    · rfl
  · rw [if_neg hname, if_neg hname]

end EntityColumn

namespace Entity

/-- Every column of a table has a statement, and that declares the column under its name in the
catalog, unless the attribute has the name, too, and the class stores it under another one: because
it is no normal form, or because it is private, so that the class stands in front. -/
theorem columns_declared_iff {tables : List Table} {graph : RelationGraph} {entities : List Entity}
    (hb : ofTables tables graph = .ok entities) {e : Entity} (he : e ∈ entities) :
    e.columns.map (·.column) = e.table.columns ∧ ∀ c ∈ e.columns,
      (c.statement.declaredColumn? e.className = some c.column.name ↔
        ¬ (c.attr = c.column.name ∧
          (nfkc c.column.name ≠ c.column.name ∨ isPrivateName c.column.name))) ∧
      (c.attr = c.column.name → c.statement.declaredColumn? e.className =
        some (if isPrivateName (nfkc c.column.name) then
          "_" ++ nfkc e.className ++ nfkc c.column.name
          else nfkc c.column.name)) := by
  obtain ⟨plans, hall⟩ := ofTables_planned hb
  obtain ⟨t, -, u, types, planned, h⟩ := Outcome.mem_right hall he
  obtain ⟨htable, hclass, -, hcolumns, -⟩ := ofPlan_fields h.entity_ok
  have hplain : Plain e.className := by
    rw [hclass, Plan.ofTypes_className]
    exact className_plain u.name
  refine ⟨?_, fun c hc => ⟨?_, fun hname => ?_⟩⟩
  · rw [(columnsOf_ok hcolumns).1, Plan.columnTypes_columns h.types_ok, htable]
  · rw [EntityColumn.declaredColumn?_statement, Option.some_inj]
    by_cases hname : c.attr = c.column.name
    · obtain ⟨used, hattr⟩ := h.attribute_made hc
      have hword : ∀ d ∈ c.column.name.toList, isWordChar d := by
        rw [← hname, hattr]
        exact Plan.attributeFor_wordChars used c.column.name
      rw [if_pos hname, hname, storedName_eq_self_iff hplain hword]
      simp
    · rw [if_neg hname]
      simp [hname]
  · rw [EntityColumn.declaredColumn?_statement, if_pos hname, hname, storedName_eq hplain]

/-- Columns whose names are no attributes, are taken, or are marked at both ends, and a private one
that no attribute can have. -/
def markedNames : Table :=
  let column (name : String) : Column := ⟨name, "int", true, none, false, false, none, ""⟩
  ⟨"user", [column "first name", column "sa", column "__seen__", column "__age-1"], []⟩

theorem markedNames_declared :
    ∃ e, ofTables [markedNames] (RelationGraph.ofTables [markedNames]) = .ok [e] ∧
    e.columns.map (fun c => (c.column.name, c.attr)) =
      [("first name", "first_name"), ("sa", "sa_"), ("__seen__", "__seen__"),
        ("__age-1", "__age_1")] ∧
    ∀ c ∈ e.columns, c.statement.declaredColumn? e.className = some c.column.name := by
  have hshown : (ofTables [markedNames] (RelationGraph.ofTables [markedNames])).toOption.map
      (·.map fun e => (e.columns.map (fun c => (c.column.name, c.attr)),
        e.columns.all fun c => !(c.attr == c.column.name &&
          (nfkc c.column.name != c.column.name || isPrivateName c.column.name)))) =
      some [([("first name", "first_name"), ("sa", "sa_"), ("__seen__", "__seen__"),
        ("__age-1", "__age_1")], true)] := by
    decide +kernel
  obtain ⟨entities, hb, hmap⟩ := Option.map_eq_some_iff.mp hshown
  obtain ⟨e, rfl, he⟩ := List.map_eq_singleton_iff.mp hmap
  obtain ⟨hnames, hcolumns⟩ := Prod.mk.inj he
  rw [Outcome.toOption_eq_some_iff] at hb
  refine ⟨e, hb, hnames, fun c hc => ((columns_declared_iff hb List.mem_cons_self).2 c hc).1.mpr ?_⟩
  rintro ⟨hname, hstored⟩
  have hcolumn := List.all_eq_true.mp hcolumns c hc
  rcases hstored with hform | hprivate
  · simp [hname, hform] at hcolumn
  · simp [hname, hprivate] at hcolumn

/-- A column with a private name. -/
def secretColumn : Table := ⟨"user", [⟨"__secret", "int", true, none, false, false, none, ""⟩], []⟩

/-- The statement has no name for the column, and the class keeps the attribute under
another one. -/
theorem secretColumn_misnamed : DistinctNames [secretColumn] ∧ DistinctColumns [secretColumn] ∧
    ∃ e, ofTables [secretColumn] (RelationGraph.ofTables [secretColumn]) = .ok [e] ∧
      e.columns.map
        (fun c => (c.column.name, c.statement.render, c.statement.declaredColumn? e.className)) =
        [("__secret", "__secret: Mapped[Optional[int]] = mapped_column(sa.Integer, nullable=True)",
          some "_User__secret")] := by
  have hshown : (ofTables [secretColumn] (RelationGraph.ofTables [secretColumn])).toOption.map
      (·.map fun e => e.columns.map fun c =>
        (c.column.name, c.statement.render, c.statement.declaredColumn? e.className)) =
      some [[("__secret",
        "__secret: Mapped[Optional[int]] = mapped_column(sa.Integer, nullable=True)",
        some "_User__secret")]] := by decide +kernel
  obtain ⟨entities, hb, hmap⟩ := Option.map_eq_some_iff.mp hshown
  obtain ⟨e, rfl, he⟩ := List.map_eq_singleton_iff.mp hmap
  exact ⟨by decide, by decide, e, Outcome.toOption_eq_some_iff.mp hb, he⟩

end Entity

end CatalogEntities
