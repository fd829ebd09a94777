import CatalogEntities.Proofs.Code.Reads
import CatalogEntities.Proofs.Code.StoredName
import CatalogEntities.Proofs.Entity.Attributes
import CatalogEntities.Proofs.Entity.ColumnCall

/-!
What the statements for columns and relations read: names of the module, enumerations of the entity
and built-in types. The members of the class keep clear of the first two as they are written. What a
name means in the class is another matter, since the class stores its members under normal forms:
`ｓａ` is stored as `sa`.

Main result: `Entity.reads_kept_iff`.
-/

namespace CatalogEntities

open Catalog Code Naming

/-- The built-in type of a value. -/
def Catalog.LogicalType.builtin? : LogicalType → Option String
  | .int => some "int"
  | .float => some "float"
  | .text => some "str"
  | .bool => some "bool"
  | .bytes => some "bytes"
  | _ => none

/-- The name that a value type starts with where it is annotated. -/
def Catalog.LogicalType.root (t : LogicalType) : String := t.builtin?.getD (t.module?.getD "Any")

namespace EntityColumn

/-- The name that the annotation of a column is about: its enumeration, or where its value type is
from. -/
def valueName (c : EntityColumn) : String :=
  match c.enumeration with
  | some d => d.name
  | none => c.type.logical.root

/-- The built-in type that a column is annotated with. -/
def builtinType? (c : EntityColumn) : Option String :=
  if c.enumeration.isSome then none else c.type.logical.builtin?

def optionalNames (c : EntityColumn) : List String :=
  if c.column.nullable && !c.column.isPrimary then ["Optional"] else []

/-- The names that the type argument of a column is written with. -/
def typeNames (c : EntityColumn) : List String :=
  match c.type.transform, c.enumeration with
  | some transform, _ => [transform.name]
  | none, some d => ["sa", d.name, "enum_values"]
  | none, none => ["sa"]

def Default.names : Default → List String
  | .value e => e.reads
  | .serverText _ => []
  | .serverExpression _ => ["sa"]

theorem dotted_reads (t : LogicalType) (htype : ¬ (t == .json || t == .untyped)) :
    (Expr.dotted t.name).reads = [t.root] := by
  cases t
  case untyped => exact absurd rfl htype
  case json => exact absurd rfl htype
  all_goals decide +kernel

theorem valueType_reads (c : EntityColumn) : c.valueType.reads = [c.valueName] := by
  unfold valueName
  cases c.valueForm with
  | enumeration henum hvalue => rw [hvalue, henum, Expr.reads_name]
  | unknown henum htype hvalue =>
    have hroot : c.type.logical.root = "Any" := by
      rcases Bool.or_eq_true_iff.mp htype with h | h <;> rw [eq_of_beq h] <;> rfl
    rw [hvalue, henum, Expr.reads_name, hroot]
  | named henum htype hvalue => rw [hvalue, henum, dotted_reads _ htype]

theorem valueHint_reads (c : EntityColumn) :
    c.valueHint.reads = "Mapped" :: (c.optionalNames ++ [c.valueName]) := by
  unfold valueHint optionalNames
  split <;> simp [valueType_reads]

theorem typeExpr_reads (c : EntityColumn) : c.typeExpr.reads = c.typeNames := by
  unfold typeNames
  cases c.typeForm with
  | transform htransform hexpr => simp [hexpr, htransform]
  | enumeration htransform henum hexpr => simp [hexpr, htransform, henum, sa]
  | sized _ htransform henum hexpr =>
    simp [hexpr, htransform, henum, sa, intLiteral, List.flatMap_map]
  | plain htransform henum hexpr => simp [hexpr, htransform, henum, sa]

theorem Default.keyword_reads (d : Default) : d.keyword.2.reads = d.names := by
  cases d <;> simp [keyword, names, sa]

theorem statement_reads (c : EntityColumn) : c.statement.reads =
    "mapped_column" :: (c.typeNames ++ c.foreignKey.toList.map (fun _ => "sa") ++
      c.default?.toList.flatMap Default.names) ++
        "Mapped" :: (c.optionalNames ++ [c.valueName]) := by
  have hname : c.nameArgument.flatMap Expr.reads = [] := by simp [nameArgument_eq, List.flatMap_map]
  have hkey : c.foreignKeyArgument.flatMap Expr.reads = c.foreignKey.toList.map fun _ => "sa" := by
    unfold foreignKeyArgument
    cases c.foreignKey <;> simp [sa]
  have hkeys : (c.keyKeywords.flatMap fun k => k.2.reads) = [] := by
    refine List.flatMap_eq_nil_iff.mpr fun k hk => ?_
    obtain ⟨-, b, hvalue⟩ := mem_keyKeywords hk
    rw [hvalue, Expr.reads_bool]
  have hcomment : (c.commentKeyword.flatMap fun k => k.2.reads) = [] := by
    simp [commentKeyword_eq, List.flatMap_map]
  have hdefault : ((c.default?.toList.map Default.keyword).flatMap fun k => k.2.reads) =
      c.default?.toList.flatMap Default.names := by
    rw [List.flatMap_map]
    exact List.flatMap_congr fun d _ => Default.keyword_reads d
  simp only [statement, columnCall, Statement.reads_annotated, Expr.reads_apply, Expr.reads_name,
    valueHint_reads,
    List.flatMap_append, List.flatMap_cons, hname, hkey, hkeys, hcomment, hdefault, typeExpr_reads,
    List.nil_append, List.append_nil, List.cons_append, List.append_assoc]

theorem mem_literalDefault_names {c : EntityColumn} {raw n : String}
    (h : n ∈ (c.literalDefault raw).names) :
    n = c.valueName := by
  cases c.literalForm raw with
  | member henum _ _ hdefault =>
    simp only [hdefault, Default.names, Expr.reads_field, Expr.reads_name, List.mem_singleton] at h
    simp only [h, valueName, henum]
  | decimal henum htype _ hdefault =>
    have hreads : (Expr.dotted "decimal.Decimal").reads = ["decimal"] := by decide +kernel
    simp only [hdefault, Default.names, Expr.reads_apply, hreads, List.flatMap_cons,
      Expr.reads_text, List.flatMap_nil, List.append_nil, List.mem_singleton] at h
    simp only [h, valueName, henum, htype]
    rfl
  | _ => simp_all [Default.names]

/-- A default is written with the name that the annotation is about, or with the
database library. -/
theorem mem_default_names {c : EntityColumn} {n : String}
    (h : n ∈ c.default?.toList.flatMap Default.names) :
    n = c.valueName ∨ n = "sa" := by
  obtain ⟨d, hd, hn⟩ := List.mem_flatMap.mp h
  rw [Option.mem_toList] at hd
  unfold default? at hd
  split at hd
  · contradiction
  · split at hd
    · contradiction
    · split at hd
      · obtain rfl := Option.some.inj hd
        exact Or.inr (List.mem_singleton.mp hn)
      · obtain rfl := Option.some.inj hd
        exact Or.inl (mem_literalDefault_names hn)

/-- What the statement of a column refers to, and why. -/
inductive Refers (c : EntityColumn) : String → Prop
  | call : Refers c "mapped_column"
  | hint : Refers c "Mapped"
  | library : Refers c "sa"
  | optional : (c.column.nullable && !c.column.isPrimary) = true → Refers c "Optional"
  | transform {t : Transform} : c.type.transform = some t → Refers c t.name
  | enumeration {d : EnumDefinition} : c.enumeration = some d → Refers c d.name
  | enumValues {d : EnumDefinition} : c.enumeration = some d → c.type.transform = none →
    Refers c "enum_values"
  | builtin {n : String} : c.builtinType? = some n → Refers c n
  | module {m : String} : c.enumeration = none → c.type.logical.module? = some m → Refers c m
  | unknown : c.enumeration = none →
    (c.type.logical == .json || c.type.logical == .untyped) = true → Refers c "Any"

theorem refers_valueName (c : EntityColumn) : c.Refers c.valueName := by
  cases henum : c.enumeration with
  | some d =>
    have hname : c.valueName = d.name := by simp only [valueName, henum]
    exact hname ▸ .enumeration henum
  | none =>
    have hname : c.valueName = c.type.logical.root := by simp only [valueName, henum]
    have hbuiltin : c.builtinType? = c.type.logical.builtin? := by simp [builtinType?, henum]
    rw [hname]
    cases htype : c.type.logical
    case json => exact .unknown henum (by rw [htype]; rfl)
    case untyped => exact .unknown henum (by rw [htype]; rfl)
    case decimal => exact .module henum (by rw [htype]; rfl)
    case datetime => exact .module henum (by rw [htype]; rfl)
    case date => exact .module henum (by rw [htype]; rfl)
    case time => exact .module henum (by rw [htype]; rfl)
    all_goals exact .builtin (by rw [hbuiltin, htype]; rfl)

theorem refers_typeNames {c : EntityColumn} {n : String} (h : n ∈ c.typeNames) : c.Refers n := by
  unfold typeNames at h
  cases htransform : c.type.transform with
  | some t =>
    simp only [htransform] at h
    rw [List.mem_singleton.mp h]
    exact .transform htransform
  | none =>
    cases henum : c.enumeration with
    | some d =>
      simp only [htransform, henum, List.mem_cons, List.not_mem_nil, or_false] at h
      rcases h with rfl | rfl | rfl
      · exact .library
      · exact .enumeration henum
      · exact .enumValues henum htransform
    | none =>
      simp only [htransform, henum] at h
      rw [List.mem_singleton.mp h]
      exact .library

theorem refers_of_read {c : EntityColumn} {n : String} (h : n ∈ c.statement.reads) :
    c.Refers n := by
  have hkey : n ∈ c.foreignKey.toList.map (fun _ => "sa") → n = "sa" := by
    intro hn
    obtain ⟨-, -, rfl⟩ := List.mem_map.mp hn
    rfl
  simp only [statement_reads, List.cons_append, List.append_assoc, List.mem_cons, List.mem_append,
    List.not_mem_nil, or_false] at h
  rcases h with rfl | hn | hn | hn | rfl | hn | rfl
  · exact .call
  · exact refers_typeNames hn
  · exact hkey hn ▸ .library
  · rcases mem_default_names hn with rfl | rfl
    · exact c.refers_valueName
    · exact .library
  · exact .hint
  · unfold optionalNames at hn
    split at hn
    · rename_i hoptional
      rw [List.mem_singleton.mp hn]
      exact .optional hoptional
    · contradiction
  · exact c.refers_valueName

/-- All but the database library is there for a reason that shows. -/
theorem Refers.read {c : EntityColumn} {n : String} (h : c.Refers n) :
    n = "sa" ∨ n ∈ c.statement.reads := by
  rw [statement_reads]
  cases h with
  | library => exact Or.inl rfl
  | call => exact Or.inr List.mem_cons_self
  | hint => simp
  | optional hoptional => simp [optionalNames, hoptional]
  | transform htransform => simp [typeNames, htransform]
  | enumeration henum => simp [valueName, henum]
  | enumValues henum htransform => simp [typeNames, henum, htransform]
  | builtin hbuiltin =>
    have hvalue : n = c.valueName := by
      unfold builtinType? at hbuiltin
      unfold valueName
      cases henum : c.enumeration with
      | some d => simp [henum] at hbuiltin
      | none =>
        simp only [henum, Option.isSome_none, Bool.false_eq_true, ↓reduceIte] at hbuiltin
        simp only [LogicalType.root, hbuiltin, Option.getD_some]
    simp [hvalue]
  | module henum hmodule =>
    have hvalue : n = c.valueName := by
      simp only [valueName, henum]
      revert hmodule
      cases c.type.logical <;> intro hmodule <;>
        first | exact (Option.some.inj hmodule).symm | contradiction
    simp [hvalue]
  | unknown henum htype =>
    have hvalue : "Any" = c.valueName := by
      simp only [valueName, henum]
      rcases Bool.or_eq_true_iff.mp htype with h | h <;> rw [eq_of_beq h] <;> rfl
    simp [hvalue]

/-- A column refers to names of the module, to its enumeration, and to a built-in type. -/
theorem Refers.known {c : EntityColumn} {n : String} (h : c.Refers n) :
    n ∈ moduleNames ∨ (∃ d, c.enumeration = some d ∧ n = d.name) ∨ c.builtinType? = some n := by
  cases h with
  | enumeration henum => exact Or.inr (Or.inl ⟨_, henum, rfl⟩)
  | builtin hbuiltin => exact Or.inr (Or.inr hbuiltin)
  | @transform t _ => cases t <;> exact Or.inl (by decide)
  | module _ hmodule =>
    left
    revert hmodule
    cases c.type.logical <;> intro hmodule <;> cases hmodule <;> decide
  | _ => exact Or.inl (by decide)

end EntityColumn

namespace EntityRelation

/-- The names around the target of an annotation. -/
def shapeNames (r : EntityRelation) : List String :=
  if r.many then ["List"] else if r.nullable then ["Optional"] else []

theorem textKeyword_reads (key : String) (text : Option String) :
    ((textKeyword key text).flatMap fun k => k.2.reads) = [] := by
  unfold textKeyword
  split
  · split <;> rfl
  · rfl

theorem statement_reads (r : EntityRelation) :
    r.statement.reads = "relationship" :: "Mapped" :: r.shapeNames := by
  have hview :
      ((if r.viewOnly then [("viewonly", Expr.bool true)] else []).flatMap fun k => k.2.reads) =
        [] := by
    split <;> rfl
  have hhint : r.valueHint.reads = "Mapped" :: r.shapeNames := by
    unfold valueHint shapeNames
    split
    · simp
    · split <;> simp
  simp only [statement, relationCall, Statement.reads_annotated, Expr.reads_apply, Expr.reads_name,
    List.flatMap_append, textKeyword_reads, hview, hhint, List.flatMap_cons, List.flatMap_nil,
    Expr.reads_text, List.append_nil, List.singleton_append]

theorem mem_statement_reads {r : EntityRelation} {n : String} (h : n ∈ r.statement.reads) :
    n ∈ moduleNames := by
  rw [statement_reads] at h
  unfold shapeNames at h
  rcases List.mem_cons.mp h with rfl | h
  · decide
  · rcases List.mem_cons.mp h with rfl | h
    · decide
    · split at h
      · rw [List.mem_singleton.mp h]
        decide
      · split at h
        · rw [List.mem_singleton.mp h]
          decide
        · contradiction

end EntityRelation

namespace Entity

/-- What the statements of a class bind: attributes, and then relations. -/
def memberNames (e : Entity) : List String := e.columns.map (·.attr) ++ e.relations.map (·.name)

/-- The statements for columns and relations, in order. -/
def statements (e : Entity) : List Statement :=
  e.columns.map EntityColumn.statement ++ e.relations.map EntityRelation.statement

theorem statements_bind (e : Entity) :
    List.Forall₂
      (fun s target => s.bindings = [(target, Meaning.assigned)]) e.statements e.memberNames := by
  refine List.rel_append ?_ ?_
  · rw [List.forall₂_map_left_iff, List.forall₂_map_right_iff, List.forall₂_same]
    exact fun c _ => rfl
  · rw [List.forall₂_map_left_iff, List.forall₂_map_right_iff, List.forall₂_same]
    exact fun r _ => rfl

/-- All through the class a name means what it means before it, whatever that is. -/
def Keeps (e : Entity) (name : String) : Prop :=
  ∀ (scope : Scope) before, before <+: e.statements →
    (scope.run (storedName e.className) before).get? (storedName e.className name) =
      scope.get? (storedName e.className name)

theorem keeps_iff (e : Entity) {name : String} :
    e.Keeps name ↔ ∀ m ∈ e.memberNames, storedName e.className m ≠ storedName e.className name := by
  rw [Keeps, Scope.keeps_iff e.statements_bind]
  simp only [List.mem_map, not_exists, not_and, ne_eq]

/-- A column hides the database library if it is called like that in letters of full width. -/
example : storedName "Note" "ｓａ" = storedName "Note" "sa" := by decide +kernel

theorem mem_statements_reads {e : Entity} {s : Statement} (hs : s ∈ e.statements) {n : String}
    (hn : n ∈ s.reads) :
    n ∈ moduleNames ∨ (∃ c ∈ e.columns, ∃ d, c.enumeration = some d ∧ n = d.name) ∨
      ∃ c ∈ e.columns, c.builtinType? = some n := by
  rcases List.mem_append.mp hs with hs | hs
  · obtain ⟨c, hc, rfl⟩ := List.mem_map.mp hs
    rcases (EntityColumn.refers_of_read hn).known with hmodule | henum | hbuiltin
    · exact Or.inl hmodule
    · exact Or.inr (Or.inl ⟨c, hc, henum⟩)
    · exact Or.inr (Or.inr ⟨c, hc, hbuiltin⟩)
  · obtain ⟨r, -, rfl⟩ := List.mem_map.mp hs
    exact Or.inl (EntityRelation.mem_statement_reads hn)

namespace PlannedAs

variable {tables : List Table} {graph : RelationGraph} {plans : Plans} {t u : Table}
  {types planned : List (Column × ColumnType)} {e : Entity}
  (h : PlannedAs tables graph plans t u types planned e)
include h

/-- No member has a name that was taken before the columns asked for one. -/
theorem member_fresh {n : String} (hn : n ∈ e.memberNames) :
    n ∉ (Plan.usedByEnumerations (classNames tables) u planned).names := by
  obtain ⟨-, -, -, hcolumns, -, hrelations, -⟩ := ofPlan_fields h.entity_ok
  rcases List.mem_append.mp hn with hn | hn
  · obtain ⟨c, hc, rfl⟩ := List.mem_map.mp hn
    have hpair := Assoc.mem_of_get?_ofPairs ((columnsOf_ok hcolumns).2 c hc)
    exact (Plan.attributesFrom_inTurn _ _).not_mem (List.mem_map_of_mem (f := Prod.snd) hpair)
  · obtain ⟨r, hr, rfl⟩ := List.mem_map.mp hn
    rw [hrelations] at hr
    obtain ⟨x, -, hx⟩ := List.mem_filterMap.mp hr
    obtain ⟨name, hname, rfl⟩ := Option.map_eq_some_iff.mp hx
    rw [shown_name]
    intro hused
    exact Plan.nameOf?_not_used hname ((Plan.mem_attributesFrom _ _).mpr (Or.inr hused))

theorem enumeration_used {d : EnumDefinition} (hd : d ∈ e.enumerations) :
    d.name ∈ (Plan.usedByEnumerations (classNames tables) u planned).names := by
  obtain ⟨-, -, -, -, henums, -⟩ := ofPlan_fields h.entity_ok
  rw [henums] at hd
  obtain ⟨c, -, hget⟩ := List.mem_filterMap.mp hd
  rw [Plan.mem_usedByEnumerations _ graph]
  refine List.mem_append_right _ (List.mem_map_of_mem ?_)
  exact List.mem_map_of_mem (f := Prod.snd) (Assoc.mem_of_get? hget)

theorem enumeration_shown {c : EntityColumn} (hc : c ∈ e.columns) {d : EnumDefinition}
    (hd : c.enumeration = some d) :
    d ∈ e.enumerations := by
  obtain ⟨-, -, -, hcolumns, henums, -⟩ := ofPlan_fields h.entity_ok
  obtain ⟨pair, hpair, -, -, -, henum, -⟩ := Outcome.mem_right (columnsOf_made hcolumns) hc
  have hcolumn := List.mem_map_of_mem (f := Prod.fst) hpair
  rw [Plan.columnTypes_columns h.types_ok] at hcolumn
  rw [henums]
  exact List.mem_filterMap.mpr ⟨pair.1, hcolumn, henum ▸ hd⟩

theorem reads_known {s : Statement} (hs : s ∈ e.statements) {n : String} (hn : n ∈ s.reads) :
    n ∈ moduleNames ∨ n ∈ e.enumerations.map (·.name) ∨
      ∃ c ∈ e.columns, c.builtinType? = some n := by
  rcases mem_statements_reads hs hn with hmodule | ⟨c, hc, d, hd, rfl⟩ | hbuiltin
  · exact Or.inl hmodule
  · exact Or.inr (Or.inl (List.mem_map_of_mem (h.enumeration_shown hc hd)))
  · exact Or.inr (Or.inr hbuiltin)

theorem not_mem_memberNames {n : String}
    (hn : n ∈ moduleNames ++ e.enumerations.map (·.name)) : n ∉ e.memberNames := by
  intro hmember
  refine h.member_fresh hmember ?_
  rcases List.mem_append.mp hn with hn | hn
  · exact (Plan.mem_usedByEnumerations _ graph _ _).mpr (List.mem_append_left _ hn)
  · obtain ⟨d, hd, rfl⟩ := List.mem_map.mp hn
    exact h.enumeration_used hd

/-- No name that is read is written like a member exactly if no built-in type is. -/
theorem reads_apart_iff :
    (∀ s ∈ e.statements, ∀ n ∈ s.reads, n ∉ e.memberNames) ↔
      ∀ c ∈ e.columns, ∀ n, c.builtinType? = some n → n ∉ e.memberNames := by
  constructor
  · intro hkept c hc n hn
    have hs : c.statement ∈ e.statements := List.mem_append_left _ (List.mem_map_of_mem hc)
    rcases (EntityColumn.Refers.builtin hn).read with rfl | hread
    · exact h.not_mem_memberNames (List.mem_append_left _ (by decide))
    · exact hkept _ hs n hread
  · intro hbuiltin s hs n hn
    rcases h.reads_known hs hn with hmodule | henum | ⟨c, hc, hc'⟩
    · exact h.not_mem_memberNames (List.mem_append_left _ hmodule)
    · exact h.not_mem_memberNames (List.mem_append_right _ henum)
    · exact hbuiltin c hc n hc'

end PlannedAs

/-- The statements of a class read names of the module, enumerations of the entity and built-in
types, and no member is called like one of the first two kinds. So no member is called like a name
that is read exactly if no column is annotated with a built-in type that is also the name of a
member. A name keeps its meaning exactly if no member is stored under the same name; for all names
that are read, this asks besides that none is stored like a member that is written in
another way. -/
theorem reads_kept_iff {tables : List Table} {graph : RelationGraph} {entities : List Entity}
    (hb : ofTables tables graph = .ok entities) {e : Entity} (he : e ∈ entities) :
    (∀ s ∈ e.statements, ∀ n ∈ s.reads, n ∈ moduleNames ∨ n ∈ e.enumerations.map (·.name) ∨
      ∃ c ∈ e.columns, c.builtinType? = some n) ∧
    (∀ n ∈ moduleNames ++ e.enumerations.map (·.name), n ∉ e.memberNames) ∧
    ((∀ s ∈ e.statements, ∀ n ∈ s.reads, n ∉ e.memberNames) ↔
      ∀ c ∈ e.columns, ∀ n, c.builtinType? = some n → n ∉ e.memberNames) ∧
    (∀ n, e.Keeps n ↔ ∀ m ∈ e.memberNames, storedName e.className m ≠ storedName e.className n) ∧
    ((∀ s ∈ e.statements, ∀ n ∈ s.reads, e.Keeps n) ↔
      (∀ c ∈ e.columns, ∀ n, c.builtinType? = some n → n ∉ e.memberNames) ∧
        ∀ s ∈ e.statements, ∀ n ∈ s.reads, ∀ m ∈ e.memberNames, m ≠ n →
          storedName e.className m ≠ storedName e.className n) := by
  obtain ⟨plans, hall⟩ := ofTables_planned hb
  obtain ⟨t, -, u, types, planned, h⟩ := Outcome.mem_right hall he
  have hwritten := h.reads_apart_iff
  refine ⟨fun s hs n => h.reads_known hs, fun n => h.not_mem_memberNames, hwritten,
    fun _ => e.keeps_iff, ?_, ?_⟩
  · intro hkept
    refine ⟨hwritten.mp fun s hs n hn hmember => ?_,
      fun s hs n hn m hm _ => e.keeps_iff.mp (hkept s hs n hn) m hm⟩
    exact e.keeps_iff.mp (hkept s hs n hn) n hmember rfl
  · rintro ⟨hbuiltin, hother⟩ s hs n hn
    refine e.keeps_iff.mpr fun m hm => ?_
    by_cases hname : m = n
    · subst hname
      exact absurd hm (hwritten.mpr hbuiltin s hs m hn)
    · exact hother s hs n hn m hm hname

/-- A column of texts that is named like the type of texts, beside one that is named like
a module. -/
def typeNamed : List Table :=
  let column (name physicalType : String) : Column :=
  ⟨name, physicalType, true, none, false, false, none, ""⟩
  [⟨"note", [column "sa" "int", column "str" "varchar(10)"], []⟩]

theorem typeNamed_reads :
    ∃ entities, ofTables typeNamed (RelationGraph.ofTables typeNamed) = .ok entities ∧
    entities.map memberNames = [["sa_", "str"]] ∧ ∀ e ∈ entities,
      (∀ s ∈ e.statements, ∀ n ∈ s.reads, n ∈ moduleNames ∨ n ∈ e.enumerations.map (·.name) ∨
        ∃ c ∈ e.columns, c.builtinType? = some n) ∧
      (∀ n ∈ moduleNames ++ e.enumerations.map (·.name), n ∉ e.memberNames) ∧
      ((∀ s ∈ e.statements, ∀ n ∈ s.reads, n ∉ e.memberNames) ↔
        ∀ c ∈ e.columns, ∀ n, c.builtinType? = some n → n ∉ e.memberNames) ∧
      (∀ n, e.Keeps n ↔ ∀ m ∈ e.memberNames, storedName e.className m ≠ storedName e.className n) ∧
      ((∀ s ∈ e.statements, ∀ n ∈ s.reads, e.Keeps n) ↔
        (∀ c ∈ e.columns, ∀ n, c.builtinType? = some n → n ∉ e.memberNames) ∧
          ∀ s ∈ e.statements, ∀ n ∈ s.reads, ∀ m ∈ e.memberNames, m ≠ n →
            storedName e.className m ≠ storedName e.className n) := by
  have hnames :
      (ofTables typeNamed (RelationGraph.ofTables typeNamed)).toOption.map (·.map memberNames) =
      some [["sa_", "str"]] := by decide +kernel
  obtain ⟨entities, hb, hmap⟩ := Option.map_eq_some_iff.mp hnames
  rw [Outcome.toOption_eq_some_iff] at hb
  exact ⟨entities, hb, hmap, fun e he => reads_kept_iff hb he⟩

/-- The annotation of a column reads the name of the column itself. -/
theorem typeNamed_hidden : DistinctNames typeNamed ∧ DistinctColumns typeNamed ∧
    ∃ entities, ofTables typeNamed (RelationGraph.ofTables typeNamed) = .ok entities ∧
      ∃ e ∈ entities, ∃ s ∈ e.statements, ∃ n ∈ s.reads, n ∈ e.memberNames := by
  have hshown : (ofTables typeNamed (RelationGraph.ofTables typeNamed)).toOption.map
      (·.map fun e => (e.memberNames, e.statements.map Statement.reads)) =
        some [(["sa_", "str"], [["mapped_column", "sa", "Mapped", "Optional", "int"],
          ["mapped_column", "sa", "Mapped", "Optional", "str"]])] := by decide +kernel
  obtain ⟨entities, hb, hmap⟩ := Option.map_eq_some_iff.mp hshown
  obtain ⟨e, rfl, he⟩ := List.map_eq_singleton_iff.mp hmap
  obtain ⟨hmembers, hreads⟩ := Prod.mk.inj he
  have hin :
      ["mapped_column", "sa", "Mapped", "Optional", "str"] ∈ e.statements.map Statement.reads := by
    rw [hreads]
    decide
  obtain ⟨s, hs, hs'⟩ := List.mem_map.mp hin
  refine ⟨by decide, by decide, [e], Outcome.toOption_eq_some_iff.mp hb, e, List.mem_cons_self,
    s, hs, "str", ?_, ?_⟩
  · rw [hs']
    decide
  · rw [hmembers]
    decide

end Entity

end CatalogEntities
