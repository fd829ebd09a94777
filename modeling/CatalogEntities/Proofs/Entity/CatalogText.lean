import CatalogEntities.Proofs.Code.Literals
import CatalogEntities.Proofs.Entity.Defaults
import CatalogEntities.Proofs.Entity.MemberSpelling
import CatalogEntities.Proofs.Naming.ClassNames

/-!
Texts of the catalog in the module of an entity. Names of tables and columns, targets of foreign
keys, defaults, comments and literals of enumerations may be any text. They are written as literals
that are read back as they were, on the one line of their statement, and comments are written once
more, line by line behind a mark.

Main result: `Entity.catalogText_kept`.
-/

namespace CatalogEntities

open Catalog Code Naming Number Text
open Literal (CodeWord Carries ReadsBack)

/-! ### Statements of columns -/

namespace EntityColumn

/-- Whether a default is written as the text that the catalog has. Numbers, truth values and members
of an enumeration are written as such. -/
def quotesDefault (c : EntityColumn) (raw : String) : Bool :=
  !c.column.isAutoIncrement &&
    (isExpressionDefault c.column ||
      match c.enumeration with
      | some d => !d.values.contains raw
      | none =>
        match c.type.logical with
        | .bool => false
        | .int => !(integerOfText raw).isOk
        | .float => (readFloat? raw).isNone
        | _ => true)

/-- The texts of the catalog that the statement of a column has as literals, in order. -/
def catalogTexts (c : EntityColumn) : List String :=
  (if c.attr = c.column.name then [] else [c.column.name]) ++
    (c.foreignKey.toList.map (fun key => key.referencedTable ++ "." ++ key.referencedColumn) ++
      (c.column.defaultText.toList.filter c.quotesDefault ++
        c.column.comment.toList.filter (!·.isEmpty)))

theorem valueType_literals (c : EntityColumn) : c.valueType.literals = [] := by
  cases c.valueForm with
  | enumeration _ hvalue => rw [hvalue, Expr.literals]
  | unknown _ _ hvalue => rw [hvalue, Expr.literals]
  | named _ _ hvalue => rw [hvalue, Expr.literals_dotted]

theorem valueHint_literals (c : EntityColumn) : c.valueHint.literals = [] := by
  unfold valueHint
  split <;> simp only [Expr.literals, Expr.literalsAll, c.valueType_literals, List.append_nil]

theorem typeExpr_literals (c : EntityColumn) : c.typeExpr.literals = [] := by
  cases c.typeForm with
  | transform _ hexpr => rw [hexpr]; rfl
  | enumeration _ _ hexpr => rw [hexpr]; rfl
  | sized _ _ _ hexpr =>
    rw [hexpr, Expr.literals_apply, List.flatMap_map, List.flatMap_nil, List.append_nil]
    exact List.flatMap_eq_nil_iff.mpr fun n _ => rfl
  | plain _ _ hexpr => rw [hexpr]; rfl

theorem quotesDefault_literal {c : EntityColumn} (hauto : ¬ c.column.isAutoIncrement)
    (hexpression : ¬ isExpressionDefault c.column) (raw : String) :
    c.quotesDefault raw = match c.enumeration with
      | some d => !d.values.contains raw
      | none =>
        match c.type.logical with
        | .bool => false
        | .int => !(integerOfText raw).isOk
        | .float => (readFloat? raw).isNone
        | _ => true := by
  simp only [quotesDefault, hauto, hexpression, Bool.not_false, Bool.true_and, Bool.false_or]

theorem literalDefault_literals {c : EntityColumn} (hauto : ¬ c.column.isAutoIncrement)
    (hexpression : ¬ isExpressionDefault c.column) (raw : String) :
    (c.literalDefault raw).keyword.2.literals = [raw].filter c.quotesDefault := by
  have hquotes := quotesDefault_literal hauto hexpression raw
  have hquoted (h : c.quotesDefault raw = true) : [raw].filter c.quotesDefault = [raw] :=
    List.filter_cons_of_pos h
  have hbare (h : c.quotesDefault raw = false) : [raw].filter c.quotesDefault = [] :=
    List.filter_cons_of_neg (Bool.eq_false_iff.mp h)
  -- a text stands as it is, also in the call for a decimal; other values have no literal
  cases c.literalForm raw with
  | member henum hvalue _ hdefault =>
    rw [hdefault, hbare (by simp [hquotes, henum, hvalue])]
    rfl
  | stray henum hvalue hdefault =>
    rw [hdefault, hquoted (by simp [hquotes, henum, hvalue])]
    rfl
  | truth henum htype hdefault =>
    rw [hdefault, hbare (by rw [hquotes, henum, htype])]
    rfl
  | integer henum htype hn hdefault =>
    rw [hdefault, hbare (by rw [hquotes, henum, htype, hn]; rfl)]
    rfl
  | float henum htype hx hdefault =>
    rw [hdefault, hbare (by rw [hquotes, henum, htype, hx]; rfl)]
    rfl
  | decimal henum htype _ hdefault =>
    rw [hdefault, hquoted (by rw [hquotes, henum, htype]), Default.keyword, Expr.literals_apply,
      Expr.literals_dotted]
    rfl
  | text henum htype hdefault =>
    rw [hdefault, hquoted (by rw [hquotes, henum, htype])]
    rfl
  | other henum htype hinteger hfloat _ hdefault =>
    have hkept : c.quotesDefault raw := by
      rw [hquotes, henum]
      cases hlogical : c.type.logical with
      | bool => exact absurd List.mem_cons_self (hlogical ▸ htype)
      | int => simpa using hinteger hlogical
      | float => simp [hfloat hlogical]
      | _ => rfl
    rw [hdefault, hquoted hkept]
    rfl

theorem default_literals (c : EntityColumn) :
    (c.default?.toList.map Default.keyword).flatMap (fun k => k.2.literals) =
      c.column.defaultText.toList.filter c.quotesDefault := by
  unfold default?
  cases c.column.defaultText with
  | none => rfl
  | some raw =>
    dsimp only [Option.toList_some]
    by_cases hauto : c.column.isAutoIncrement
    · rw [if_pos hauto, List.filter_cons_of_neg (by simp [quotesDefault, hauto])]
      rfl
    · rw [if_neg hauto]
      by_cases hexpression : isExpressionDefault c.column
      · rw [if_pos hexpression,
          List.filter_cons_of_pos (by simp [quotesDefault, hauto, hexpression])]
        rfl
      · rw [if_neg hexpression, ← literalDefault_literals hauto hexpression]
        exact List.append_nil _

theorem columnCall_literals (c : EntityColumn) : c.columnCall.literals = c.catalogTexts := by
  have hname : c.nameArgument.flatMap Expr.literals =
      if c.attr = c.column.name then [] else [c.column.name] := by
    rw [nameArgument_eq, List.flatMap_map]
    exact List.flatMap_singleton' _
  have hkey : c.foreignKeyArgument.flatMap Expr.literals =
      c.foreignKey.toList.map fun key => key.referencedTable ++ "." ++ key.referencedColumn := by
    unfold foreignKeyArgument
    cases c.foreignKey <;> rfl
  have hkeywords : c.keyKeywords.flatMap (fun k => k.2.literals) = [] := by
    refine List.flatMap_eq_nil_iff.mpr fun k hk => ?_
    obtain ⟨-, b, hb⟩ := mem_keyKeywords hk
    rw [hb, Expr.literals]
  have hcomment : c.commentKeyword.flatMap (fun k => k.2.literals) =
      c.column.comment.toList.filter (!·.isEmpty) := by
    rw [commentKeyword_eq, List.flatMap_map]
    exact List.flatMap_singleton' _
  have hfunction : (Expr.name "mapped_column").literals = [] := rfl
  rw [columnCall, Expr.literals_apply, List.flatMap_append, List.flatMap_cons, List.flatMap_append,
    List.flatMap_append,
    hname, typeExpr_literals, hkey, hkeywords, default_literals, hcomment, hfunction, catalogTexts]
  simp only [List.nil_append, List.append_assoc]

/-- The names that a column brings along are code. -/
structure NamedInCode (c : EntityColumn) : Prop where
  attr : CodeWord c.attr
  type : CodeWord c.type.column
  enumeration : ∀ d, c.enumeration = some d → CodeWord d.name ∧ ∀ m ∈ d.members, CodeWord m.name

namespace NamedInCode

variable {c : EntityColumn} (h : c.NamedInCode)
include h

theorem valueType_words : AllCode c.valueType.words := by
  have hnames : ∀ type : LogicalType, AllCode (Expr.dotted type.name).words := by
    intro type
    cases type <;> decide +kernel
  cases c.valueForm with
  | enumeration henum hvalue =>
    exact hvalue ▸ List.forall_mem_singleton.mpr (h.enumeration _ henum).1
  | unknown _ _ hvalue => exact hvalue ▸ (by decide : AllCode ["Any"])
  | named _ _ hvalue => exact hvalue ▸ hnames _

theorem valueHint_words : AllCode c.valueHint.words := by
  unfold valueHint
  split <;> simp only [Expr.words, Expr.wordsAll, List.append_nil, allCode_append]
  · exact ⟨by decide, by decide, h.valueType_words⟩
  · exact ⟨by decide, h.valueType_words⟩

theorem typeExpr_words : AllCode c.typeExpr.words := by
  have hcolumn : AllCode (sa c.type.column).words :=
    allCode_append.mpr ⟨by decide, List.forall_mem_singleton.mpr h.type⟩
  cases c.typeForm with
  | @transform t _ hexpr =>
    rw [hexpr]
    cases t <;> decide
  | enumeration _ henum hexpr =>
    have hname := List.forall_mem_singleton.mpr (h.enumeration _ henum).1
    rw [hexpr, Expr.words_apply]
    exact allCode_append.mpr ⟨by decide, allCode_append.mpr ⟨hname, by decide⟩⟩
  | sized sizes _ _ hexpr =>
    have hsizes : (sizes.map intLiteral).flatMap Expr.words = [] := by
      rw [List.flatMap_map]
      exact List.flatMap_eq_nil_iff.mpr fun n _ => rfl
    rw [hexpr, Expr.words_apply, hsizes]
    exact allCode_append.mpr ⟨hcolumn, List.forall_mem_nil _⟩
  | plain _ _ hexpr => exact hexpr ▸ hcolumn

/-- A default brings along the member that it is, if any. -/
theorem literalDefault_words (raw : String) :
    AllCode ((c.literalDefault raw).keyword.1 :: (c.literalDefault raw).keyword.2.words) := by
  have hplain : AllCode ["default"] := by decide
  have hserver : AllCode ["server_default"] := by decide
  cases c.literalForm raw with
  | member henum _ hfirst hdefault =>
    obtain ⟨hname, hmembers⟩ := h.enumeration _ henum
    have hmember := List.forall_mem_singleton.mpr (hmembers _ (List.mem_of_find?_eq_some hfirst))
    rw [hdefault]
    exact allCode_append.mpr ⟨hplain, List.forall_mem_cons.mpr ⟨hname, hmember⟩⟩
  | decimal _ _ _ hdefault =>
    have hname : AllCode (Expr.dotted "decimal.Decimal").words := by decide +kernel
    have hcall : AllCode (Expr.apply (.dotted "decimal.Decimal") [.text raw] []).words := by
      rw [Expr.words_apply]
      exact allCode_append.mpr ⟨hname, List.forall_mem_nil _⟩
    rw [hdefault]
    exact allCode_append.mpr ⟨hplain, hcall⟩
  | truth _ _ hdefault => exact hdefault ▸ hplain
  | integer _ _ _ hdefault => exact hdefault ▸ hplain
  | float _ _ _ hdefault => exact hdefault ▸ hplain
  | text _ _ hdefault => exact hdefault ▸ hplain
  | stray _ _ hdefault => exact hdefault ▸ hserver
  | other _ _ _ _ _ hdefault => exact hdefault ▸ hserver

theorem default_words :
    AllCode ((c.default?.toList.map Default.keyword).flatMap fun k => k.1 :: k.2.words) := by
  intro w hw
  obtain ⟨k, hk, hw⟩ := List.mem_flatMap.mp hw
  obtain ⟨default, hdefault, rfl⟩ := List.mem_map.mp hk
  have hdefault := Option.mem_toList.mp hdefault
  unfold default? at hdefault
  cases hraw : c.column.defaultText with
  | none => simp [hraw] at hdefault
  | some raw =>
    simp only [hraw] at hdefault
    split at hdefault
    · contradiction
    · split at hdefault
      · obtain rfl := Option.some.inj hdefault
        have hexpression : AllCode ["server_default", "sa", "text"] := by decide
        exact hexpression w hw
      · obtain rfl := Option.some.inj hdefault
        exact h.literalDefault_words raw w hw

theorem columnCall_words : AllCode c.columnCall.words := by
  have hname : AllCode (c.nameArgument.flatMap Expr.words) := by
    rw [nameArgument_eq, List.flatMap_map]
    intro w hw
    obtain ⟨name, -, hw⟩ := List.mem_flatMap.mp hw
    contradiction
  have hkey : AllCode (c.foreignKeyArgument.flatMap Expr.words) := by
    unfold foreignKeyArgument
    cases c.foreignKey with
    | none => exact List.forall_mem_nil _
    | some key =>
      have hcall : AllCode ["sa", "ForeignKey"] := by decide
      exact hcall
  have hkeywords : AllCode (c.keyKeywords.flatMap fun k => k.1 :: k.2.words) := by
    have hnames : AllCode ["primary_key", "autoincrement", "nullable"] := by decide
    intro w hw
    obtain ⟨k, hk, hw⟩ := List.mem_flatMap.mp hw
    obtain ⟨hkey, b, hb⟩ := mem_keyKeywords hk
    rw [hb] at hw
    exact hnames w (List.mem_singleton.mp hw ▸ hkey)
  have hcomment : AllCode (c.commentKeyword.flatMap fun k => k.1 :: k.2.words) := by
    have hcomment : CodeWord "comment" := by decide
    rw [commentKeyword_eq, List.flatMap_map]
    intro w hw
    obtain ⟨_, -, hw⟩ := List.mem_flatMap.mp hw
    exact List.mem_singleton.mp hw ▸ hcomment
  have hfunction : AllCode (Expr.name "mapped_column").words := by decide
  rw [columnCall, Expr.words_apply, List.flatMap_append, List.flatMap_cons, List.flatMap_append,
    List.flatMap_append]
  simp only [allCode_append]
  exact ⟨hfunction, ⟨hname, h.typeExpr_words, hkey⟩, ⟨hkeywords, h.default_words⟩, hcomment⟩

theorem statement_carries : Carries c.statement.render c.catalogTexts := by
  have hwords : AllCode (c.attr :: (c.valueHint.words ++ c.columnCall.words)) :=
    List.forall_mem_cons.mpr ⟨h.attr, allCode_append.mpr ⟨h.valueHint_words, h.columnCall_words⟩⟩
  have hcarries := Statement.carries_annotated hwords
  rwa [valueHint_literals, columnCall_literals, List.nil_append] at hcarries

end NamedInCode

end EntityColumn

/-! ### Lines of the module -/

namespace Layout

/-- The lines of a module as its reader counts them. -/
def physicalLines (code : String) : List (List Char) :=
  splitWhere (fun c => c == '\n' || c == '\r') code.toList

theorem physicalLines_layOut (xs : List String) (rest : String) :
    physicalLines (layOut xs ++ rest) = xs.flatMap physicalLines ++ physicalLines rest := by
  induction xs with
  | nil => rw [layOut, String.empty_append, List.flatMap_nil, List.nil_append]
  | cons line more ih =>
    have htext : (layOut (line :: more) ++ rest).toList =
        line.toList ++ '\n' :: (layOut more ++ rest).toList := by
      simp [layOut]
    rw [physicalLines, htext, splitWhere_separated (by rfl), List.flatMap_cons,
      List.append_assoc, ← ih]
    rfl

theorem physicalLines_single {line : String} (h : '\n' ∉ line.toList ∧ '\r' ∉ line.toList) :
    physicalLines line = [line.toList] := by
  refine splitWhere_of_not fun c hc => ?_
  rw [Bool.or_eq_true, beq_iff_eq, beq_iff_eq, not_or]
  exact ⟨fun he => h.1 (he ▸ hc), fun he => h.2 (he ▸ hc)⟩

theorem not_isLineEnd_of_mem_commentLines {comment line : String}
    (h : line ∈ commentLines comment) :
    ∀ c ∈ line.toList, ¬ isLineEnd c := by
  obtain ⟨cs, hcs, rfl⟩ := List.mem_map.mp h
  obtain ⟨part, hpart, rfl⟩ := List.mem_map.mp (List.mem_filter.mp hcs).1
  intro c hc
  rw [String.toList_ofList, trim, trimStart] at hc
  exact not_isLineEnd_of_mem_lines comment.toList part hpart c
    ((List.dropWhile_sublist _).mem (mem_of_mem_trimEnd hc))

/-- The lines of a column as they stand in the module. -/
def columnText (c : EntityColumn) : List String :=
  (commentLines (c.column.comment.getD "")).map ("    #: " ++ ·) ++ ["    " ++ c.statement.render]

theorem columnLines_render (c : EntityColumn) :
    (columnLines c).map EntityLine.render = columnText c := by
  rw [columnLines, List.map_append, List.map_map]
  rfl

/-- Each line of a column is one line of the module. -/
theorem columnText_single {c : EntityColumn} (h : c.NamedInCode) :
    (columnText c).flatMap physicalLines = (columnText c).map String.toList := by
  have hcomment : ∀ line ∈ commentLines (c.column.comment.getD ""), '\n' ∉ line.toList ∧
      '\r' ∉ line.toList := by
    intro line hline
    have hends := not_isLineEnd_of_mem_commentLines hline
    exact ⟨fun hmem => hends _ hmem (by decide), fun hmem => hends _ hmem (by decide)⟩
  have hsingle : ∀ line ∈ columnText c, physicalLines line = [line.toList] := by
    intro line hline
    refine physicalLines_single ?_
    rcases List.mem_append.mp hline with hline | hline
    · obtain ⟨text, htext, rfl⟩ := List.mem_map.mp hline
      simpa using hcomment text htext
    · obtain rfl := List.mem_singleton.mp hline
      simpa using h.statement_carries.oneLine
  rw [List.map_eq_flatMap]
  exact List.flatMap_congr hsingle

/-- The lines of a module in front of its columns. -/
def linesBefore (e : Entity) (time : Timestamp) : List EntityLine :=
  (headerLines time).map (EntityLine.comment "# ") ++
    ((importsByRank e.imports).flatMap (fun group => EntityLine.blank :: group.map .importing) ++
      (siblingLines e.related ++
      (e.enumerations.flatMap enumLines ++ ([EntityLine.blank, .blank, classHeader e,
        .inner (.assign "__tablename__" (.text e.table.name))] ++
          (if e.columns.isEmpty then [] else [EntityLine.blank])))))

/-- The lines of a module behind its columns. -/
def linesAfter (e : Entity) : List EntityLine :=
  e.mapperArguments?.toList.flatMap (fun s => [EntityLine.blank, .inner s]) ++
    (relationSections e).flatMap sectionLines

theorem entityLines_eq (e : Entity) (time : Timestamp) :
    entityLines e time = linesBefore e time ++ (e.columns.flatMap columnLines ++ linesAfter e) := by
  simp only [entityLines, classLines, linesBefore, linesAfter, List.append_assoc]

/-- The same entity with other comments. -/
def withComments (e : Entity) (comment : EntityColumn → Option String) : Entity :=
  { e with columns :=
  e.columns.map fun c => { c with column := { c.column with comment := comment c } } }

theorem withComments_own (e : Entity) : withComments e (fun c => c.column.comment) = e := by
  have hown :
      e.columns.map (fun c => { c with column := { c.column with comment := c.column.comment } }) =
        e.columns :=
    List.map_id' e.columns
  rw [withComments, hown]

theorem linesBefore_withComments (e : Entity) (comment : EntityColumn → Option String)
    (time : Timestamp) :
    linesBefore (withComments e comment) time = linesBefore e time := by
  simp only [linesBefore, withComments, List.isEmpty_map, classHeader]

theorem linesAfter_withComments (e : Entity) (comment : EntityColumn → Option String) :
    linesAfter (withComments e comment) = linesAfter e := by
  simp only [linesAfter, withComments, Entity.mapperArguments?, List.isEmpty_map, List.map_map,
    relationSections]
  rfl

/-- The lines of a module that carry comments have the mark for that in front, or are statements of
columns; the others do not depend on comments. -/
theorem source_lines {e : Entity} (h : ∀ c ∈ e.columns, c.NamedInCode) (time : Timestamp) :
    ∃ front back, ∀ comment : EntityColumn → Option String, ∃ source,
      (entityPage (withComments e comment) time).source = .ok source ∧
      physicalLines source =
        front ++ ((withComments e comment).columns.flatMap columnText).map
          String.toList ++ back := by
  refine ⟨((linesBefore e time).map EntityLine.render).flatMap physicalLines,
    ((linesAfter e).map EntityLine.render).flatMap physicalLines ++ [[]], fun comment =>
    ⟨_, entityPage_source (withComments e comment) time, ?_⟩⟩
  have hcolumns : ∀ c ∈ (withComments e comment).columns, c.NamedInCode := by
    intro c hc
    obtain ⟨d, hd, rfl⟩ := List.mem_map.mp hc
    exact ⟨(h d hd).attr, (h d hd).type, (h d hd).enumeration⟩
  have hmiddle :
      (((withComments e comment).columns.flatMap columnLines).map EntityLine.render).flatMap
        physicalLines =
      ((withComments e comment).columns.flatMap columnText).map String.toList := by
    rw [List.map_flatMap, List.map_flatMap, List.flatMap_assoc]
    refine List.flatMap_congr fun c hc => ?_
    rw [columnLines_render, columnText_single (hcolumns c hc)]
  have hend : physicalLines "" = [[]] := rfl
  rw [← String.append_empty (s := layOut _), physicalLines_layOut, entityLines_eq, List.map_append,
    List.map_append, List.flatMap_append, List.flatMap_append, hmiddle, linesBefore_withComments,
    linesAfter_withComments, hend]
  simp only [List.append_assoc]

end Layout

/-! ### Entities of a run -/

theorem codeWord_of_wordy {w : String} (h : Wordy w.toList) : CodeWord w := by
  have hmarks : Literal.marks.all fun c => !(!isAscii c || continuesIdentifier c) := by
    decide +kernel
  refine List.all_eq_true.mpr fun c hc => Literal.isCode_of_class hmarks ?_
  rw [Bool.or_eq_true, Bool.not_eq_true']
  refine (h c hc).imp_left fun hstray => ?_
  exact Bool.eq_false_iff.mpr fun hascii => not_isStray_of_isAscii hascii hstray

theorem Catalog.ColumnType.codeWord_column {s : String} {type : ColumnType}
    (h : ofText s = .ok type) :
    CodeWord type.column := by
  rcases ofText_cases h with rfl | ⟨values, rfl⟩ | ⟨keyword, spec, first, second, hspec, rfl⟩
  · decide
  · have henum : CodeWord "Enum" := by decide
    exact henum
  · have htable : ∀ entry ∈ typeTable, CodeWord entry.2.column := by decide +kernel
    obtain ⟨before, after, hsplit, -⟩ := List.lookup_eq_some_iff.mp hspec
    exact htable (keyword, spec) (hsplit ▸ List.mem_append_right before List.mem_cons_self)

namespace Entity

namespace PlannedAs

variable {tables : List Table} {graph : RelationGraph} {plans : Plans} {t u : Table}
  {types planned : List (Column × ColumnType)} {e : Entity}
  (h : PlannedAs tables graph plans t u types planned e)
include h

theorem enumeration_inCode {d : EnumDefinition} (hd : d ∈ e.enumerations) :
    CodeWord d.name ∧ ∀ m ∈ d.members, CodeWord m.name := by
  obtain ⟨column, hpair⟩ := h.enumeration_from hd
  obtain ⟨c, type, used, -, hname, -⟩ := Plan.mem_enumerationsFrom_made hpair
  refine ⟨?_, fun m hm => ?_⟩
  · rw [show d.name = _ from hname]
    exact codeWord_of_wordy (wordy_enumClassName c.name u.name used)
  · have hmembers : Named [] d.values d.members := named_iff.mpr (h.enumeration_members hd)
    exact codeWord_of_wordy (hmembers.wordy m hm)

theorem column_inCode {c : EntityColumn} (hc : c ∈ e.columns) : c.NamedInCode := by
  refine ⟨?_, ColumnType.codeWord_column (h.type_read hc),
    fun d hd => h.enumeration_inCode (h.enumeration_shown hc hd)⟩
  obtain ⟨used, hattr⟩ := h.attribute_made hc
  rw [hattr]
  exact codeWord_of_wordy (wordy_of_isWordChar (Plan.attributeFor_wordChars used c.column.name))

/-- A foreign key of a column is the first that the table has on it. -/
theorem foreignKey_first {c : EntityColumn} (hc : c ∈ e.columns) :
    c.foreignKey = (e.table.foreignKey? c.column.name).filter fun key =>
      (knownNames tables).contains key.referencedTable := by
  obtain ⟨htable, -, -, hcolumns, -⟩ := ofPlan_fields h.entity_ok
  obtain ⟨pair, -, -, hcolumn, -, -, hkey⟩ := Outcome.mem_right (columnsOf_made hcolumns) hc
  rwa [htable, hcolumn]

/-- The values of an enumeration are those that the type of a column lists. -/
theorem enumeration_values {d : EnumDefinition} (hd : d ∈ e.enumerations) :
    ∃ c ∈ u.columns, ∃ type, ColumnType.ofText c.physicalType = .ok type ∧
    d.values = type.enumValues := by
  obtain ⟨column, hpair⟩ := h.enumeration_from hd
  obtain ⟨c, type, used, hmem, -, hvalues⟩ := Plan.mem_enumerationsFrom_made hpair
  obtain ⟨column, hcolumn, hread⟩ := Outcome.mem_right (Outcome.mapM_ok_iff.mp h.planned_ok) hmem
  obtain ⟨type, htype, hpair⟩ := Outcome.map_ok_iff.mp hread
  obtain ⟨rfl, rfl⟩ := Prod.mk.inj hpair
  exact ⟨column, hcolumn, type, htype, hvalues⟩

end PlannedAs

/-- In the module of an entity all texts of the catalog keep their places. The name of the table,
the statement of a column and the value of a member stand on one line each, whose literals are read
as the texts of the catalog that they were made from. Lines of comments have no line ends in them,
so whatever the comments are, they fill lines behind their mark and change no others but the
statements of their columns. -/
theorem catalogText_kept {tables : List Table} {graph : RelationGraph} {entities : List Entity}
    (hb : ofTables tables graph = .ok entities) {e : Entity} (he : e ∈ entities)
    (time : Layout.Timestamp) :
    (e.table ∈ tables ∧ e.columns.map (·.column) = e.table.columns ∧
      ∀ c ∈ e.columns, c.foreignKey = (e.table.foreignKey? c.column.name).filter fun key =>
        (knownNames tables).contains key.referencedTable) ∧
    ReadsBack (Layout.entityPage e time).tableName [e.table.name] ∧
    List.Forall₂ (fun (c : EntityColumn) (part : Layout.ColumnPart) =>
      ReadsBack part.statement c.catalogTexts ∧
      ∀ line ∈ part.commentLines, ∀ ch ∈ line.toList,
      ¬ isLineEnd ch) e.columns (Layout.entityPage e time).columns ∧
    List.Forall₂ (fun (d : EnumDefinition) (part : Layout.EnumPart) =>
      (∃ t ∈ tables, t.name = e.table.name ∧
        ∃ c ∈ t.columns, ∃ type, ColumnType.ofText c.physicalType = .ok type ∧
        d.values = type.enumValues) ∧
      List.Forall₂ (fun (m : EnumMember) (entry : String × String) =>
        ReadsBack entry.2 [m.value]) d.members part.members)
      e.enumerations (Layout.entityPage e time).enums ∧
    ∃ front back, ∀ comment : EntityColumn → Option String, ∃ source,
      (Layout.entityPage (Layout.withComments e comment) time).source = .ok source ∧
      Layout.physicalLines source =
        front ++ ((Layout.withComments e comment).columns.flatMap fun c =>
          (Layout.commentLines (c.column.comment.getD "")).map ("    #: " ++ ·) ++
            ["    " ++ c.statement.render]).map String.toList ++ back := by
  obtain ⟨plans, hall⟩ := ofTables_planned hb
  obtain ⟨t, ht, u, types, planned, h⟩ := Outcome.mem_right hall he
  obtain ⟨htable, -, -, hcolumns, -⟩ := ofPlan_fields h.entity_ok
  refine ⟨⟨htable ▸ mem_sortTables.mp ht, ?_, fun c hc => h.foreignKey_first hc⟩,
    (Carries.literal e.table.name).readsBack, ?_, ?_,
    Layout.source_lines (fun c hc => h.column_inCode hc) time⟩
  · rw [(columnsOf_ok hcolumns).1, Plan.columnTypes_columns h.types_ok, htable]
  · rw [Layout.entityPage, List.forall₂_map_right_iff, List.forall₂_same]
    intro c hc
    exact ⟨(h.column_inCode hc).statement_carries.readsBack, fun line hline =>
      Layout.not_isLineEnd_of_mem_commentLines hline⟩
  · rw [Layout.entityPage, List.forall₂_map_right_iff, List.forall₂_same]
    intro d hd
    refine ⟨⟨u, h.mem, htable ▸ h.name_eq, h.enumeration_values hd⟩, ?_⟩
    rw [List.forall₂_map_right_iff, List.forall₂_same]
    exact fun m _ => (Carries.literal m.value).readsBack

/-- Quotes of both kinds, line ends, a backslash and marks of comments and of blocks, wherever a
catalog has texts. -/
def quotedNames : Table :=
  ⟨"it's \"two\"\nlines", [
    ⟨"a'b", "varchar(20)", true, some "\\'); import os #", false, false,
      some "first\r\n  \"second\" \n'''third", ""⟩,
    ⟨"state", enumText "enum" "o'k" [("", "a\"b\nc")], true, some "a\"b\nc", false,
      false, none, ""⟩],
    [⟨"it's \"two\"\nlines", "a'b", "it's \"two\"\nlines", "a'b", none⟩]⟩

/-- The lines of the columns of that table. -/
def quotedLines : List String := [
  "    #: first", "    #: \"second\"", "    #: '''third",
  "    a_b: Mapped[Optional[str]] = mapped_column(\"a'b\", sa.String(20), " ++
    "sa.ForeignKey('it\\'s \"two\"\\nlines.a\\'b'), nullable=True, " ++
    "default=\"\\\\'); import os #\", " ++
    "comment='first\\r\\n  \"second\" \\n\\'\\'\\'third')",
  "    state: Mapped[Optional[State]] = mapped_column(" ++
    "sa.Enum(State, values_callable=enum_values), nullable=True, default=State.ABC)"]

/-- The texts that the statements of its columns have as literals. -/
def quotedTexts : List (List String) :=
  [["a'b", "it's \"two\"\nlines.a'b", "\\'); import os #", "first\r\n  \"second\" \n'''third"], []]

theorem quotedNames_kept :
    ∃ e source, ofTables [quotedNames] (RelationGraph.ofTables [quotedNames]) = .ok [e] ∧
    (Layout.entityPage e default).source = .ok source ∧
    (∃ front back, Layout.physicalLines source = front ++ quotedLines.map String.toList ++ back) ∧
    ReadsBack (Layout.entityPage e default).tableName [quotedNames.name] ∧
    ∀ part ∈ (Layout.entityPage e default).columns,
    ∃ texts ∈ quotedTexts, ReadsBack part.statement texts := by
  have hstate : ColumnType.ofText (enumText "enum" "o'k" [("", "a\"b\nc")]) =
      .ok (.enumeration ["o'k", "a\"b\nc"]) :=
    ColumnType.ofText_enumText (by decide +kernel) "o'k" (by simp)
  let note : ColumnType := .ofSpec "varchar" ⟨.text, "String", some 255, none⟩ (some 20) none
  have hnote : ColumnType.ofText "varchar(20)" = .ok note := by decide +kernel
  let types := quotedNames.columns.zip [note, .enumeration ["o'k", "a\"b\nc"]]
  have htypes : Plan.columnTypes quotedNames = .ok types :=
    Plan.columnTypes_eq (.cons hnote (.cons hstate .nil))
  have hmade : (ofPlan [(quotedNames.name, Plan.inRun [quotedNames] quotedNames types)]
      (RelationGraph.ofTables [quotedNames]) [quotedNames.name] quotedNames types
      (Plan.inRun [quotedNames] quotedNames types)).toOption.map (fun e =>
        (e.table.name, e.columns.map (·.catalogTexts), e.columns.flatMap Layout.columnText)) =
      some (quotedNames.name, quotedTexts, quotedLines) := by
    decide +kernel
  obtain ⟨e, he, hshown⟩ := Option.map_eq_some_iff.mp hmade
  obtain ⟨hname, hshown⟩ := Prod.mk.inj hshown
  obtain ⟨htexts, hlines⟩ := Prod.mk.inj hshown
  have hb := ofTables_singleton htypes (Outcome.toOption_eq_some_iff.mp he)
  obtain ⟨-, htable, hcolumns, -, front, back, hsource⟩ :=
    catalogText_kept hb (List.mem_singleton_self e) default
  obtain ⟨source, hsource, hphysical⟩ := hsource fun c => c.column.comment
  rw [Layout.withComments_own] at hsource hphysical
  refine ⟨e, source, hb, hsource, ⟨front, back, ?_⟩, hname ▸ htable, fun part hpart => ?_⟩
  · rw [hphysical, ← hlines]
    rfl
  · obtain ⟨c, hc, hread, -⟩ := Outcome.mem_right hcolumns hpart
    exact ⟨c.catalogTexts, htexts ▸ List.mem_map_of_mem hc, hread⟩

end Entity

end CatalogEntities
