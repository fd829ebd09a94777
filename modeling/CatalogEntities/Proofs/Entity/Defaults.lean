import CatalogEntities.Entity.Build
import CatalogEntities.Entity.Statements
import CatalogEntities.Proofs.Catalog.ColumnType
import CatalogEntities.Proofs.Catalog.EnumLiteral
import CatalogEntities.Proofs.Code.Call
import CatalogEntities.Proofs.Entity.ClassBody
import CatalogEntities.Proofs.Entity.Enumerations
import CatalogEntities.Proofs.Layout.EntityModule
import CatalogEntities.Proofs.Storage.EnumClass

/-!
Defaults. A column with a default in the catalog is emitted with one default, which the database has
to evaluate if it is an expression there. Any other default is a literal: a member of the column's
enumeration, a number or a text, whose source text is read as what the catalog has.

Main result: `Entity.default_kept`.
-/

namespace CatalogEntities

open Catalog Code Naming Number Text
open Storage (EnumClass)

/-! ### The classes of enumerations -/

namespace Entity

/-- Behind the columns `before` of a class, an attribute of a name stands for one member of an
enumeration, and that member has the value. The module has to get there: every class of an
enumeration is made, and those before the last leave the names alone that the header of the next one
reads. Then the name must not be one of the class itself, and of the enumerations that are called
like it, the last one has it. -/
structure Denotes (e : Entity) (before : List EntityColumn)
    (name member value : String) : Prop where
  made : ∀ d ∈ e.enumerations, (EnumClass.ofBody d.name (Storage.lines d.members)).isSome
  headers : ∀ d ∈ e.enumerations.dropLast, nfkc d.name ∉ ["str", "enum"]
  free : ∀ b ∈ before, storedName e.className b.attr ≠ storedName e.className name
  found : ∃ d c,
  e.enumerations.reverse.find? (nfkc ·.name == storedName e.className name) = some d ∧
    EnumClass.ofBody d.name (Storage.lines d.members) = some c ∧
    c.members.filter (·.1 == storedName e.className member) =
      [(storedName e.className member, value)]

/-- The first member with a value has it in the module, too, if the module has all its classes and
the class of the member has its name alone. -/
theorem denotes_first_iff {e : Entity}
    (hmembers : ∀ d ∈ e.enumerations, d.members = enumMembers d.values)
    {d : EnumDefinition} (hd : d ∈ e.enumerations) (hname : Plain d.name)
    (hunique : ∀ d' ∈ e.enumerations, nfkc d'.name = nfkc d.name → d' = d) {value : String}
    {m : EnumMember}
    (hfirst : d.members.find? (·.value == value) = some m) (before : List EntityColumn) :
    e.Denotes before d.name m.name value ↔
      (∀ d' ∈ e.enumerations, ValidName d'.name ∧ Storage.WritesOut d'.members) ∧
      (∀ d' ∈ e.enumerations.dropLast, nfkc d'.name ∉ ["str", "enum"]) ∧
      ∀ b ∈ before, storedName e.className b.attr ≠ nfkc d.name := by
  have hnamed {d' : EnumDefinition} (hd' : d' ∈ e.enumerations) : Named [] d'.values d'.members :=
    named_iff.mpr (hmembers d' hd')
  have hmade :
      (∀ d' ∈ e.enumerations, (EnumClass.ofBody d'.name (Storage.lines d'.members)).isSome) ↔
      ∀ d' ∈ e.enumerations, ValidName d'.name ∧ Storage.WritesOut d'.members :=
    forall₂_congr fun d' hd' => Storage.ofBody_lines_isSome_iff (hnamed hd')
  have hclass : storedName e.className d.name = nfkc d.name := storedName_of_plain hname _
  constructor
  · intro h
    refine ⟨hmade.mp h.made, h.headers, fun b hb => ?_⟩
    rw [← hclass]
    exact h.free b hb
  · rintro ⟨hwritten, hheaders, hfree⟩
    refine ⟨hmade.mpr hwritten, hheaders, by rwa [hclass], ?_⟩
    obtain ⟨c, hc⟩ := Option.isSome_iff_exists.mp (hmade.mpr hwritten d hd)
    have hmember : storedName e.className m.name = nfkc m.name :=
      storedName_of_plain ((hnamed hd).plain m (List.mem_of_find?_eq_some hfirst)) _
    have hline : (Storage.lines d.members).find? (·.2 == value) = some (m.name, m.value) := by
      have hsame : d.members.find? ((·.2 == value) ∘ fun m => (m.name, m.value)) = some m := hfirst
      rw [Storage.lines, List.find?_map, hsame, Option.map_some]
    have hkept := EnumClass.filter_members (Storage.lines_plain (hnamed hd)) hc hline
    rw [hclass, hmember]
    refine ⟨d, c, ?_, hc, hkept⟩
    have hsome : (e.enumerations.reverse.find? (nfkc ·.name == nfkc d.name)).isSome :=
      List.find?_isSome.mpr ⟨d, List.mem_reverse.mpr hd, beq_self_eq_true _⟩
    obtain ⟨d', hd'⟩ := Option.isSome_iff_exists.mp hsome
    have hkey := List.find?_some hd'
    rw [hd', hunique d' (List.mem_reverse.mp (List.mem_of_find?_eq_some hd')) (eq_of_beq hkey)]

end Entity

/-! ### The keywords of a column's default -/

namespace EntityColumn

def setsDefault (pair : String × Expr) : Bool := pair.1 == "default" || pair.1 == "server_default"

/-- The keywords of a column's call that set its default. -/
def defaultKeywords (c : EntityColumn) : List (String × Expr) :=
  c.columnCall.keywords.filter setsDefault

variable {c : EntityColumn} {raw : String}

theorem defaultKeywords_eq (c : EntityColumn) :
    c.defaultKeywords = c.default?.toList.map Default.keyword := by
  have hkeys : c.keyKeywords.filter setsDefault = [] := by
    have hnames : ∀ n ∈ ["primary_key", "autoincrement", "nullable"],
        ¬ (n == "default" || n == "server_default") := by
      decide
    exact List.filter_eq_nil_iff.mpr fun k hk => hnames k.1 (mem_keyKeywords hk).1
  have hcomment : c.commentKeyword.filter setsDefault = [] := by
    rw [commentKeyword_eq, List.filter_eq_nil_iff]
    intro k hk
    obtain ⟨comment, -, rfl⟩ := List.mem_map.mp hk
    exact Bool.false_ne_true
  have hdefault : (c.default?.toList.map Default.keyword).filter setsDefault =
      c.default?.toList.map Default.keyword := by
    refine List.filter_eq_self.mpr fun pair hpair => ?_
    obtain ⟨d, -, rfl⟩ := List.mem_map.mp hpair
    cases d <;> rfl
  rw [defaultKeywords, columnCall, Expr.keywords_apply, List.filter_append, List.filter_append,
    hkeys, hcomment, hdefault, List.nil_append, List.append_nil]

section

variable (hraw : c.column.defaultText = some raw) (hauto : ¬ c.column.isAutoIncrement)
include hraw hauto

theorem defaultKeywords_expression (hexpression : isExpressionDefault c.column) :
    c.defaultKeywords = [("server_default", .apply (sa "text") [.text raw] [])] := by
  rw [defaultKeywords_eq, default?, hraw]
  simp only [if_neg hauto, if_pos hexpression]
  rfl

theorem defaultKeywords_literal (hliteral : ¬ isExpressionDefault c.column) :
    c.defaultKeywords = [(c.literalDefault raw).keyword] := by
  rw [defaultKeywords_eq, default?, hraw]
  simp only [if_neg hauto, if_neg hliteral]
  rfl

end

/-! ### Literals -/

/-- The attribute of an enumeration column has a member for its default, or none. -/
theorem literalDefault_ne_value {d : EnumDefinition} (henum : c.enumeration = some d) {value : Expr}
    (hvalue : ∀ object name, value ≠ .field object name) :
    (c.literalDefault raw).keyword ≠ ("default", value) := by
  cases c.literalForm raw with
  | member _ _ _ hdefault =>
    rw [hdefault]
    intro heq
    exact hvalue _ _ (Prod.mk.inj heq).2.symm
  | stray _ _ hdefault =>
    rw [hdefault]
    intro heq
    exact absurd (Prod.mk.inj heq).1 (by decide)
  | _ => simp_all

/-- A column keeps the literal `raw` in the keyword `key` with the expression `value`. -/
structure LiteralKept (c : EntityColumn) (raw key : String) (value : Expr) : Prop where
  member : ∀ d, c.enumeration = some d → raw ∈ d.values → key = "default" ∧
    ∃ m, d.members.find? (·.value == raw) = some m ∧ value = .field (.name d.name) m.name
  integer : c.enumeration = none → c.type.logical = .int → ∀ n, integerOfText raw = .ok n →
    key = "default" ∧ value.SpellsInteger n
  decimal : c.enumeration = none → c.type.logical = .decimal → isDecimalText raw →
    key = "default" ∧ ∃ literal, value = .apply (.dotted "decimal.Decimal") [literal] [] ∧
    literal.SpellsText raw
  text : c.enumeration = none → c.type.logical = .text → key = "default" ∧ value.SpellsText raw
  remaining : (∀ d, c.enumeration = some d → raw ∉ d.values) →
    (c.enumeration = none → c.type.logical ≠ .text ∧
      (c.type.logical = .int → ¬ (integerOfText raw).isOk) ∧
      (c.type.logical = .decimal → ¬ isDecimalText raw)) →
    key = "server_default" ∧ value.SpellsText raw

/-- An enumeration decides alone, whatever the type. -/
theorem literalKept_enumeration {d : EnumDefinition} (henum : c.enumeration = some d) :
    c.LiteralKept raw (c.literalDefault raw).keyword.1 (c.literalDefault raw).keyword.2 := by
  have hsome : c.enumeration ≠ none := by simp [henum]
  refine ⟨fun d' henum' hvalue => ?_, fun hnone => absurd hnone hsome,
    fun hnone => absurd hnone hsome, fun hnone => absurd hnone hsome, fun hstray _ => ?_⟩
  · obtain rfl : d = d' := Option.some.inj (henum.symm.trans henum')
    cases c.literalForm raw with
    | @member d' m henum' _ hfirst hdefault =>
      obtain rfl : d = d' := Option.some.inj (henum.symm.trans henum')
      rw [hdefault]
      exact ⟨rfl, m, hfirst, rfl⟩
    | stray henum' hnot _ =>
      obtain rfl := Option.some.inj (henum.symm.trans henum')
      exact absurd hvalue hnot
    | _ => contradiction
  · cases c.literalForm raw with
    | member henum' hvalue => exact absurd hvalue (hstray _ henum')
    | stray _ _ hdefault =>
      rw [hdefault]
      exact ⟨rfl, Expr.spellsText_text raw⟩
    | _ => contradiction

theorem literalKept_plain (henum : c.enumeration = none) (hbool : c.type.logical ≠ .bool)
    (hfloat : c.type.logical ≠ .float) :
    c.LiteralKept raw (c.literalDefault raw).keyword.1 (c.literalDefault raw).keyword.2 := by
  refine ⟨fun d hd => absurd (henum.symm.trans hd) (by simp), fun _ htype n hn => ?_,
    fun _ htype hdecimal => ?_, fun _ htype => ?_, fun _ hremaining => ?_⟩
  · have hdefault : c.literalDefault raw = .value (.int n) := by
      simp only [literalDefault, henum, htype, hn]
    rw [hdefault]
    exact ⟨rfl, Expr.spellsInteger_int hn⟩
  · have hdefault :
        c.literalDefault raw = .value (.apply (.dotted "decimal.Decimal") [.text raw] []) := by
      simp only [literalDefault, henum, htype, if_pos hdecimal]
    rw [hdefault]
    exact ⟨rfl, .text raw, rfl, Expr.spellsText_text raw⟩
  · have hdefault : c.literalDefault raw = .value (.text raw) := by
      simp only [literalDefault, henum, htype]
    rw [hdefault]
    exact ⟨rfl, Expr.spellsText_text raw⟩
  · have hdefault : c.literalDefault raw = .serverText raw := by
      obtain ⟨htext, hint, hdecimal⟩ := hremaining henum
      simp only [literalDefault, henum]
      cases htype : c.type.logical with
      | bool => exact absurd htype hbool
      | float => exact absurd htype hfloat
      | text => exact absurd htype htext
      | int =>
        cases hn : integerOfText raw with
        | ok n => exact absurd (by rw [hn]; rfl) (hint htype)
        | error fault => rfl
      | decimal => exact if_neg (hdecimal htype)
      | _ => rfl
    rw [hdefault]
    exact ⟨rfl, Expr.spellsText_text raw⟩

end EntityColumn

/-! ### Enumerations of a run -/

namespace Entity

namespace PlannedAs

variable {tables : List Table} {graph : RelationGraph} {plans : Plans} {t u : Table}
  {types planned : List (Column × ColumnType)} {e : Entity}
  (h : PlannedAs tables graph plans t u types planned e)
include h

theorem column_made {c : EntityColumn} (hc : c ∈ e.columns) : (c.column, c.type) ∈ types ∧
    c.enumeration =
      (Plan.ofTypes (classNames tables) graph u planned).enumerations.get? c.column.name := by
  obtain ⟨-, -, -, hcolumns, -, -⟩ := ofPlan_fields h.entity_ok
  obtain ⟨pair, hpair, -, hcolumn, htype, henum, -⟩ :=
    Outcome.mem_right (columnsOf_made hcolumns) hc
  rw [hcolumn, htype]
  exact ⟨hpair, henum⟩

theorem type_read {c : EntityColumn} (hc : c ∈ e.columns) :
    ColumnType.ofText c.column.physicalType = .ok c.type := by
  obtain ⟨column, -, hread⟩ :=
    Outcome.mem_right (Outcome.mapM_ok_iff.mp h.types_ok) (h.column_made hc).1
  obtain ⟨type, htype, hpair⟩ := Outcome.map_ok_iff.mp hread
  obtain ⟨rfl, rfl⟩ := Prod.mk.inj hpair
  exact htype

theorem enumeration_from {d : EnumDefinition} (hd : d ∈ e.enumerations) : ∃ column,
    (column, d) ∈ Plan.enumerationsFrom (Naming.className u.name) (moduleNames ++ classNames tables)
      planned := by
  obtain ⟨-, -, -, -, henums, -⟩ := ofPlan_fields h.entity_ok
  rw [henums, Plan.ofTypes_enumerations] at hd
  obtain ⟨column, -, hget⟩ := List.mem_filterMap.mp hd
  exact ⟨column.name, Assoc.mem_of_get?_ofPairs hget⟩

/-- The name of an enumeration is the name of no other one of the entity. -/
theorem enumeration_eq_of_name {d d' : EnumDefinition} (hd : d ∈ e.enumerations)
    (hd' : d' ∈ e.enumerations) (hname : d'.name = d.name) : d' = d := by
  obtain ⟨column, hpair⟩ := h.enumeration_from hd
  obtain ⟨column', hpair'⟩ := h.enumeration_from hd'
  have hnodup :=
    (Plan.enumerationsFrom_inTurn (Naming.className u.name) (moduleNames ++ classNames tables)
      planned).nodup
  rw [List.map_map] at hnodup
  exact congrArg Prod.snd (List.inj_on_of_nodup_map hnodup hpair' hpair hname)

theorem enumeration_members {d : EnumDefinition} (hd : d ∈ e.enumerations) :
    d.members = enumMembers d.values := by
  obtain ⟨column, hpair⟩ := h.enumeration_from hd
  exact Plan.enumerationsFrom_members hpair

theorem enumeration_plain {d : EnumDefinition} (hd : d ∈ e.enumerations) : Plain d.name := by
  obtain ⟨column, hpair⟩ := h.enumeration_from hd
  obtain ⟨c, type, used, -, hname, -⟩ := Plan.mem_enumerationsFrom_made hpair
  rw [show d.name = _ from hname]
  exact enumClassName_plain c.name u.name used

/-- Where no names repeat, a column has the enumeration of its type. -/
theorem enumeration_of_type (hnames : DistinctNames tables) (ht : t ∈ tables)
    (hcols : (t.columns.map (·.name)).Nodup) {c : EntityColumn} (hc : c ∈ e.columns) :
    c.enumeration.map (·.values) = if c.type.isEnum then some c.type.enumValues else none := by
  obtain rfl := hnames.eq_of_name h.mem ht h.name_eq
  obtain rfl : types = planned := Except.ok.inj (h.types_ok.symm.trans h.planned_ok)
  have hnodup : (types.map (·.1.name)).Nodup := by
    rw [← Plan.columnTypes_columns h.types_ok, List.map_map] at hcols
    exact hcols
  obtain ⟨hpair, henum⟩ := h.column_made hc
  rw [henum]
  exact Plan.enumeration_of_type _ _ hnodup hpair

end PlannedAs

/-- A column with a default in the catalog that neither counts up nor holds truth values or
floating-point numbers is emitted with one default. The database evaluates an expression; a literal
is kept, and if it is a literal of an enumeration, then as the member that has it. The module has
the class of that, and no other class is written like it. If none is called like it in normal form,
either, the member stands for the literal exactly if the module makes all classes of enumerations
and no column before has stored an attribute under the name of the class. -/
theorem default_kept {tables : List Table} {graph : RelationGraph} {entities : List Entity}
    (hb : ofTables tables graph = .ok entities) {e : Entity} (he : e ∈ entities) {c : EntityColumn}
    (hc : c ∈ e.columns) {raw : String} (hraw : c.column.defaultText = some raw)
    (hauto : ¬ c.column.isAutoIncrement)
    (htype : c.type.storage ∉ ["tinyint", "float", "double", "real"]) :
    (∃ key value, c.defaultKeywords = [(key, value)] ∧
      (isExpressionDefault c.column → key = "server_default" ∧
        ∃ literal, value = .apply (EntityColumn.sa "text") [literal] [] ∧ literal.SpellsText raw) ∧
      (¬ isExpressionDefault c.column → c.LiteralKept raw key value)) ∧
    (∀ d, c.enumeration = some d → d ∈ e.enumerations ∧
      (∀ d' ∈ e.enumerations, d'.name = d.name → d' = d) ∧
      (∀ time, Layout.enumLines d <:+: Layout.entityLines e time) ∧
      ((∀ d' ∈ e.enumerations, nfkc d'.name = nfkc d.name → d' = d) →
        ∀ m, d.members.find? (·.value == raw) = some m → ∀ before,
          (e.Denotes before d.name m.name raw ↔
            (∀ d' ∈ e.enumerations, ValidName d'.name ∧ Storage.WritesOut d'.members) ∧
            (∀ d' ∈ e.enumerations.dropLast, nfkc d'.name ∉ ["str", "enum"]) ∧
            ∀ b ∈ before, storedName e.className b.attr ≠ nfkc d.name))) ∧
    (DistinctNames tables → DistinctColumns tables →
      c.enumeration.map (·.values) = if c.type.isEnum then some c.type.enumValues else none) := by
  obtain ⟨plans, hall⟩ := ofTables_planned hb
  obtain ⟨t, ht, u, types, planned, h⟩ := Outcome.mem_right hall he
  have ht := mem_sortTables.mp ht
  obtain ⟨hbool, hfloat⟩ := not_or.mp (List.mem_cons.not.mp htype)
  have hread := h.type_read hc
  refine ⟨?_, fun d hd => ?_, fun hnames hcols => h.enumeration_of_type hnames ht (hcols t ht) hc⟩
  · by_cases hexpression : isExpressionDefault c.column
    · refine ⟨_, _, EntityColumn.defaultKeywords_expression hraw hauto hexpression, fun _ => ?_,
        fun hliteral => absurd hexpression hliteral⟩
      exact ⟨rfl, .text raw, rfl, Expr.spellsText_text raw⟩
    · refine ⟨_, _, EntityColumn.defaultKeywords_literal hraw hauto hexpression,
        fun hexpression' => absurd hexpression' hexpression, fun _ => ?_⟩
      cases henum : c.enumeration with
      | some d => exact EntityColumn.literalKept_enumeration henum
      | none =>
        refine EntityColumn.literalKept_plain henum ?_ ?_
        · rwa [ne_eq, ColumnType.logical_eq_bool_iff hread]
        · rwa [ne_eq, ColumnType.logical_eq_float_iff hread]
  · have hshown := h.enumeration_shown hc hd
    exact ⟨hshown, fun d' hd' hname => h.enumeration_eq_of_name hshown hd' hname,
      fun time => Layout.enumLines_infix hshown, fun hunique m hfirst before =>
        denotes_first_iff (fun d' => h.enumeration_members) hshown
          (h.enumeration_plain hshown) hunique hfirst before⟩

/-- A member of an enumeration, a number with blanks around it, a fraction, a text with a quote, an
expression and a date, all as defaults. -/
def stockItem : Table :=
  let column (name physicalType default : String) : Column :=
    ⟨name, physicalType, true, some default, false, false, none, ""⟩
  ⟨"item", [column "state" "enum('new','used')" "used", column "stock" "int" " +07 ",
    column "price" "decimal(8,2)" "1.50", column "note" "varchar(20)" "it's",
    column "seen" "datetime" "now()", column "since" "date" "2020-01-01"], []⟩

theorem stockItem_defaults :
    ∃ e, ofTables [stockItem] (RelationGraph.ofTables [stockItem]) = .ok [e] ∧
    e.columns.map (fun c => c.defaultKeywords.map fun pair => pair.1 ++ "=" ++ pair.2.render) =
      [["default=State.Used"], ["default=7"], ["default=decimal.Decimal('1.50')"],
        ["default=\"it's\""],
        ["server_default=sa.text('now()')"], ["server_default='2020-01-01'"]] ∧
    ∀ c ∈ e.columns, ∃ raw, c.column.defaultText = some raw ∧ ¬ c.column.isAutoIncrement ∧
      c.type.storage ∉ ["tinyint", "float", "double", "real"] ∧
      (∃ key value, c.defaultKeywords = [(key, value)] ∧
        (isExpressionDefault c.column → key = "server_default" ∧
          ∃ literal, value = .apply (EntityColumn.sa "text") [literal] [] ∧
          literal.SpellsText raw) ∧
        (¬ isExpressionDefault c.column → c.LiteralKept raw key value)) ∧
      (∀ d, c.enumeration = some d → d ∈ e.enumerations ∧
        (∀ d' ∈ e.enumerations, d'.name = d.name → d' = d) ∧
        (∀ time, Layout.enumLines d <:+: Layout.entityLines e time) ∧
        ∀ m, d.members.find? (·.value == raw) = some m → ∀ before, before <+: e.columns →
          e.Denotes before d.name m.name raw) ∧
      (DistinctNames [stockItem] → DistinctColumns [stockItem] →
        c.enumeration.map (·.values) = if c.type.isEnum then some c.type.enumValues else none) := by
  have hstate : ColumnType.ofText (enumText "enum" "new" [("", "used")]) =
      .ok (.enumeration ["new", "used"]) :=
    ColumnType.ofText_enumText (by decide +kernel) "new" (by simp)
  let number : ColumnType := .ofSpec "int" ⟨.int, "Integer", none, none⟩ none none
  let price : ColumnType := .ofSpec "decimal" ⟨.decimal, "Numeric", none, none⟩ (some 8) (some 2)
  let note : ColumnType := .ofSpec "varchar" ⟨.text, "String", some 255, none⟩ (some 20) none
  let seen : ColumnType := .ofSpec "datetime" ⟨.datetime, "DateTime", none, none⟩ none none
  let since : ColumnType := .ofSpec "date" ⟨.date, "Date", none, none⟩ none none
  have hnumber : ColumnType.ofText "int" = .ok number := by decide +kernel
  have hprice : ColumnType.ofText "decimal(8,2)" = .ok price := by decide +kernel
  have hnote : ColumnType.ofText "varchar(20)" = .ok note := by decide +kernel
  have hseen : ColumnType.ofText "datetime" = .ok seen := by decide +kernel
  have hsince : ColumnType.ofText "date" = .ok since := by decide +kernel
  let types :=
    stockItem.columns.zip [.enumeration ["new", "used"], number, price, note, seen, since]
  have htypes : Plan.columnTypes stockItem = .ok types :=
    Plan.columnTypes_eq
      (.cons hstate (.cons hnumber (.cons hprice (.cons hnote (.cons hseen (.cons hsince .nil))))))
  have hmade :
      (ofPlan [("item", Plan.inRun [stockItem] stockItem types)]
        (RelationGraph.ofTables [stockItem]) ["item"]
      stockItem types (Plan.inRun [stockItem] stockItem types)).toOption.map (fun e =>
        (e.columns.map (fun c => c.defaultKeywords.map fun pair => pair.1 ++ "=" ++ pair.2.render),
          (e.columns.all fun c => c.column.defaultText.isSome && !c.column.isAutoIncrement &&
            !(["tinyint", "float", "double", "real"].contains c.type.storage) &&
            storedName e.className c.attr != "State"), e.enumerations)) =
      some ([["default=State.Used"], ["default=7"], ["default=decimal.Decimal('1.50')"],
        ["default=\"it's\""],
        ["server_default=sa.text('now()')"], ["server_default='2020-01-01'"]], true,
        [⟨"State", [⟨"New", "new"⟩, ⟨"Used", "used"⟩]⟩]) := by decide +kernel
  obtain ⟨e, he, hshown⟩ := Option.map_eq_some_iff.mp hmade
  obtain ⟨hkeywords, hshown⟩ := Prod.mk.inj hshown
  obtain ⟨hcolumns, henums⟩ := Prod.mk.inj hshown
  have hb := ofTables_singleton htypes (Outcome.toOption_eq_some_iff.mp he)
  refine ⟨e, hb, hkeywords, fun c hc => ?_⟩
  have hchecked {c : EntityColumn} (hc : c ∈ e.columns) :
      ((c.column.defaultText.isSome ∧ c.column.isAutoIncrement = false) ∧
      ["tinyint", "float", "double", "real"].contains c.type.storage = false) ∧
      storedName e.className c.attr ≠ "State" := by
    simpa only [Bool.and_eq_true, Bool.not_eq_true', bne_iff_ne]
      using List.all_eq_true.mp hcolumns c hc
  obtain ⟨⟨⟨hsome, hauto⟩, htype⟩, -⟩ := hchecked hc
  obtain ⟨raw, hraw⟩ := Option.isSome_iff_exists.mp hsome
  have hauto' : ¬ c.column.isAutoIncrement := by simp [hauto]
  have htype' : c.type.storage ∉ ["tinyint", "float", "double", "real"] := by
    rw [← List.contains_iff_mem, htype]
    exact Bool.false_ne_true
  obtain ⟨hdefault, henum, hvalues⟩ := default_kept hb List.mem_cons_self hc hraw hauto' htype'
  refine ⟨raw, hraw, hauto', htype', hdefault, fun d hd => ?_, hvalues⟩
  obtain ⟨hshown, hown, hlines, hdenotes⟩ := henum d hd
  refine ⟨hshown, hown, hlines, fun m hfirst before hbefore => ?_⟩
  rw [henums] at hdenotes hshown
  obtain rfl := List.mem_singleton.mp hshown
  refine (hdenotes (fun d' hd' _ => List.mem_singleton.mp hd') m hfirst before).mpr
    ⟨?_, List.forall_mem_nil _, ?_⟩
  · rw [List.forall_mem_singleton]
    have hforms : [(⟨"New", "new"⟩ : EnumMember), ⟨"Used", "used"⟩].map (nfkc ·.name) =
        ["New", "Used"] := by decide +kernel
    refine ⟨by decide +kernel, by decide, by decide +kernel, ?_, ?_⟩ <;> rw [hforms] <;> decide
  · intro b hb'
    rw [show nfkc "State" = "State" by decide +kernel]
    exact (hchecked (hbefore.subset hb')).2

/-- An enumeration of a letter and the same letter in full width. -/
def fullWidthItem : Table :=
  ⟨"item", [⟨"state", "enum('A','Ａ')", true, some "A", false, false, none, ""⟩], []⟩

/-- The default is a member of a class that cannot be made, so it stands for nothing. -/
theorem fullWidthItem_lost : DistinctNames [fullWidthItem] ∧ DistinctColumns [fullWidthItem] ∧
    ∃ e, ofTables [fullWidthItem] (RelationGraph.ofTables [fullWidthItem]) = .ok [e] ∧
      e.columns.map (fun c => c.defaultKeywords.map fun pair => pair.1 ++ "=" ++ pair.2.render) =
        [["default=State.A"]] ∧
      ∀ before name member value, ¬ e.Denotes before name member value := by
  have hstate :
      ColumnType.ofText (enumText "enum" "A" [("", "Ａ")]) = .ok (.enumeration ["A", "Ａ"]) :=
    ColumnType.ofText_enumText (by decide +kernel) "A" (by simp)
  let types := fullWidthItem.columns.zip [ColumnType.enumeration ["A", "Ａ"]]
  have htypes : Plan.columnTypes fullWidthItem = .ok types :=
    Plan.columnTypes_eq (.cons hstate .nil)
  have hmade : (ofPlan [("item", Plan.inRun [fullWidthItem] fullWidthItem types)]
      (RelationGraph.ofTables [fullWidthItem]) ["item"] fullWidthItem types
      (Plan.inRun [fullWidthItem] fullWidthItem types)).toOption.map (fun e =>
        (e.columns.map (fun c => c.defaultKeywords.map fun pair => pair.1 ++ "=" ++ pair.2.render),
          e.enumerations)) =
      some ([["default=State.A"]], [⟨"State", [⟨"A", "A"⟩, ⟨"Ａ", "Ａ"⟩]⟩]) := by decide +kernel
  obtain ⟨e, he, hshown⟩ := Option.map_eq_some_iff.mp hmade
  obtain ⟨hkeywords, henums⟩ := Prod.mk.inj hshown
  refine ⟨by decide, by decide, e, ofTables_singleton htypes (Outcome.toOption_eq_some_iff.mp
    he), hkeywords,
    fun before name member value h => ?_⟩
  have hnamed : Named [] ["A", "Ａ"] [⟨"A", "A"⟩, ⟨"Ａ", "Ａ"⟩] := named_iff.mpr (by decide +kernel)
  have hbuilt := h.made _ (henums ▸ List.mem_singleton_self _)
  have hdistinct := ((Storage.ofBody_lines_isSome_iff hnamed).mp hbuilt).2.distinct
  exact absurd hdistinct (by decide +kernel)

end Entity

end CatalogEntities
