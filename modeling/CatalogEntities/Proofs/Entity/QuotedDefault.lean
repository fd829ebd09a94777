import CatalogEntities.Proofs.Catalog.EnumLiteral
import CatalogEntities.Proofs.Entity.Defaults

/-!
Literal defaults between quotes. The row of a column loses the quotes, and the text between them is
taken for an expression if it looks like one; otherwise a column of texts is emitted with the
literal.

Main result: `EntityColumn.quotedDefault_kept_iff`.
-/

namespace CatalogEntities

open Catalog Code Text

/-! ### Texts that look like expressions -/

/-- A word with parentheses behind it that end the text. -/
def SpellsCall (cs : List Char) : Prop :=
  ∃ word arguments, word ≠ [] ∧ (∀ c ∈ word, isWordChar c) ∧
  cs = word ++ '(' :: (arguments ++ [')'])

theorem isFunctionCall_iff (cs : List Char) : isFunctionCall cs ↔ SpellsCall cs := by
  have hparenthesis : ¬ isWordChar '(' := by decide
  constructor
  · intro h
    unfold isFunctionCall at h
    split at h
    · rename_i rest hrest
      simp only [Bool.and_eq_true, Bool.not_eq_true', List.isEmpty_eq_false_iff, beq_iff_eq] at h
      obtain ⟨arguments, hlast⟩ := List.getLast?_eq_some_iff.mp h.2
      refine ⟨cs.takeWhile isWordChar, arguments, h.1, fun c hc => List.mem_takeWhile_imp hc, ?_⟩
      rw [← hlast, ← hrest, List.takeWhile_append_dropWhile]
    · contradiction
  · rintro ⟨word, arguments, hne, hword, rfl⟩
    rw [isFunctionCall, dropWhile_append_cons hword hparenthesis,
      takeWhile_append_cons hword hparenthesis]
    simpa using hne

/-- A text that the database would evaluate if it stood there without quotes: in upper case and
without blanks at its ends it is a known expression, starts like the current time, or is a call. -/
def LooksEvaluated (s : String) : Prop :=
  String.ofList (upper (trim s.toList)) ∈ expressionDefaults ∨
    "CURRENT_TIMESTAMP".toList <+: upper (trim s.toList) ∨ SpellsCall (upper (trim s.toList))

theorem LooksEvaluated.ne_nil {s : String} (h : LooksEvaluated s) : upper (trim s.toList) ≠ [] := by
  intro hnil
  unfold LooksEvaluated at h
  rw [hnil, ← isFunctionCall_iff] at h
  rcases h with hin | hprefix | hcall
  · exact absurd hin (by decide)
  · exact absurd hprefix (by decide)
  · contradiction

theorem isExpressionDefault_iff {c : Column} {s : String} (hdefault : c.defaultText = some s)
    (hextra : c.extra = "") :
    isExpressionDefault c ↔ LooksEvaluated s := by
  have hgenerated : occursIn "DEFAULT_GENERATED".toList (upper "".toList) = false := by decide
  have hlooks : LooksEvaluated s ↔ upper (trim s.toList) ≠ [] ∧ LooksEvaluated s :=
    ⟨fun h => ⟨h.ne_nil, h⟩, And.right⟩
  rw [hlooks, isExpressionDefault, hdefault, hextra, LooksEvaluated]
  simp only [Option.getD_some, hgenerated, Bool.false_or, Bool.and_eq_true, Bool.or_eq_true,
    Bool.not_eq_true', List.isEmpty_eq_false_iff, List.contains_iff_mem, List.isPrefixOf_iff_prefix,
    isFunctionCall_iff, or_assoc, ne_eq]

/-! ### Rows -/

namespace Catalog.Row

variable {row : Row} {record : ColumnRecord}

/-- What the record of a column takes from its row for the default. -/
theorem column_default (h : column row = .ok record) : ∃ raw, text row "column_default" = .ok raw ∧
    record.defaultText = raw.bind normalizeDefault ∧
    record.isAutoIncrement = occursIn "auto_increment".toList (lower record.extra.toList) := by
  obtain ⟨extra, -, h⟩ := Outcome.bind_ok_iff.mp h
  obtain ⟨comment, -, h⟩ := Outcome.bind_ok_iff.mp h
  obtain ⟨name, -, h⟩ := Outcome.bind_ok_iff.mp h
  obtain ⟨physicalType, -, h⟩ := Outcome.bind_ok_iff.mp h
  obtain ⟨nullable, -, h⟩ := Outcome.bind_ok_iff.mp h
  obtain ⟨raw, hraw, h⟩ := Outcome.bind_ok_iff.mp h
  obtain ⟨key, -, h⟩ := Outcome.bind_ok_iff.mp h
  obtain rfl := Except.ok.inj h
  exact ⟨raw, hraw, rfl, rfl⟩

end Catalog.Row

theorem Catalog.ColumnRecord.toColumn?_fields {record : ColumnRecord} {c : Column}
    (h : record.toColumn? = some c) :
    c.defaultText = record.defaultText ∧ c.isAutoIncrement = record.isAutoIncrement ∧
    c.extra = record.extra := by
  obtain ⟨name, -, rfl⟩ := Option.map_eq_some_iff.mp h
  exact ⟨rfl, rfl, rfl⟩

namespace EntityColumn

variable {row : Row} {record : ColumnRecord} {c : EntityColumn} {s : String}

/-- A literal between quotes in the row of a text column is the default of the attribute exactly if
it looks like no expression; one that does is left to the database to evaluate. -/
theorem quotedDefault_kept_iff (hrow : Row.column row = .ok record)
    (hdefault : Row.text row "column_default" = .ok (some (EnumLiteral.quoted s)))
    (hextra : record.extra = "") (hcolumn : record.toColumn? = some c.column)
    (hread : ColumnType.ofText c.column.physicalType = .ok c.type)
    (htype : c.type.storage ∈ ["char", "varchar", "tinytext", "text", "mediumtext", "longtext"])
    (hknown : ¬ c.type.isUntyped) :
    c.column.defaultText = some s ∧
    (c.defaultKeywords = [("default", .text s)] ↔ c.enumeration = none ∧ ¬ LooksEvaluated s) ∧
    (LooksEvaluated s → c.defaultKeywords =
      [("server_default", .apply (sa "text") [.text s] [])]) := by
  obtain ⟨raw, hraw, hrecord, hcounts⟩ := Row.column_default hrow
  obtain ⟨htext, hauto, hextra'⟩ := ColumnRecord.toColumn?_fields hcolumn
  obtain rfl : some (EnumLiteral.quoted s) = raw := Except.ok.inj (hdefault.symm.trans hraw)
  have hs : c.column.defaultText = some s := by
    rw [htext, hrecord, Option.bind_some, Row.normalizeDefault_quoted]
  have hstill : ¬ c.column.isAutoIncrement := by
    rw [hauto, hcounts, hextra]
    decide
  have hlooks : isExpressionDefault c.column ↔ LooksEvaluated s :=
    isExpressionDefault_iff hs (hextra'.trans hextra)
  refine ⟨hs, ?_, fun h => defaultKeywords_expression hs hstill (hlooks.mpr h)⟩
  by_cases hexpression : isExpressionDefault c.column
  · rw [defaultKeywords_expression hs hstill hexpression, ← hlooks]
    simp [hexpression]
  · rw [defaultKeywords_literal hs hstill hexpression, List.singleton_inj, ← hlooks]
    cases henum : c.enumeration with
    | some d =>
      have hne : (c.literalDefault s).keyword ≠ ("default", .text s) :=
        literalDefault_ne_value henum (by simp)
      simp [hne]
    | none =>
      have hlogical : c.type.logical = .text := ColumnType.logical_of_textKeyword hread htype hknown
      simp [literalDefault, henum, hlogical, Default.keyword, hexpression]

/-- The row of a column of texts whose default is a literal. -/
def noteRow (default : String) : Row := [
  ("column_name", .text "note"), ("column_type", .text "varchar(36)"), ("is_nullable", .text "NO"),
  ("column_default", .text (EnumLiteral.quoted default)), ("column_key", .text ""),
  ("extra", .text ""), ("column_comment", .text "")]

def noteColumn (default : String) : EntityColumn where
  column := ⟨"note", "varchar(36)", false, some default, false, false, none, ""⟩
  attr := "note"
  type := .ofSpec "varchar" ⟨.text, "String", some 255, none⟩ (some 36) none
  enumeration := none
  foreignKey := none

/-- A literal with a quote and with parentheses, but no call. -/
theorem noteRow_kept :
    Row.column (noteRow "it's (now)") = .ok (.ofColumn (noteColumn "it's (now)").column) ∧
    Row.text (noteRow "it's (now)") "column_default" = .ok (some "'it''s (now)'") ∧
    (noteColumn "it's (now)").defaultKeywords = [("default", .text "it's (now)")] := by
  have hrow : Row.column (noteRow "it's (now)") =
      .ok (.ofColumn (noteColumn "it's (now)").column) := by decide +kernel
  have hread : ColumnType.ofText (noteColumn "it's (now)").column.physicalType =
      .ok (noteColumn "it's (now)").type := by
    decide +kernel
  have hliteral : ¬ isExpressionDefault (noteColumn "it's (now)").column := by decide +kernel
  rw [isExpressionDefault_iff (s := "it's (now)") rfl rfl] at hliteral
  obtain ⟨-, hkept, -⟩ :=
    quotedDefault_kept_iff (s := "it's (now)") hrow rfl rfl rfl hread (by decide) (by decide)
  exact ⟨hrow, by decide +kernel, hkept.mpr ⟨rfl, hliteral⟩⟩

/-- A literal that looks like a call is left to the database as an expression. -/
theorem noteRow_evaluated :
    Row.column (noteRow "now()") = .ok (.ofColumn (noteColumn "now()").column) ∧
    Row.text (noteRow "now()") "column_default" = .ok (some "'now()'") ∧
    ColumnType.ofText (noteColumn "now()").column.physicalType = .ok (noteColumn "now()").type ∧
    (noteColumn "now()").defaultKeywords =
      [("server_default", .apply (sa "text") [.text "now()"] [])] ∧
    (noteColumn "now()").statement.render =
      "note: Mapped[str] = mapped_column(sa.String(36), server_default=sa.text('now()'))" := by
  have hexpression : isExpressionDefault (noteColumn "now()").column := by decide +kernel
  exact ⟨by decide +kernel, by decide +kernel, by decide +kernel,
    defaultKeywords_expression rfl Bool.false_ne_true hexpression, by decide +kernel⟩

end EntityColumn

end CatalogEntities
