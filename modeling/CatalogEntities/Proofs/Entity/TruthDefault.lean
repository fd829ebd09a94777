import CatalogEntities.Proofs.Entity.Defaults
import CatalogEntities.Storage.Transform

/-!
Defaults of columns that hold truth values. The default of the attribute is read off the spelling of
the catalog default, while a row that the database fills in is loaded through its number; they agree
on zero, and on one if it is spelled without sign and leading zeros.

Main result: `EntityColumn.truthDefault_agrees_iff`.
-/

namespace CatalogEntities

open Catalog Code Number Text

/-- The one number among the spellings of truth. -/
theorem trueTexts_contains_iff {raw : String} {n : Int} (hn : integerOfText raw = .ok n) :
    EntityColumn.trueTexts.contains (String.ofList (lower (trim raw.toList))) ↔
      trim raw.toList = ['1'] := by
  obtain ⟨before, after, hraw, -, -⟩ := exists_trimmed raw.toList
  -- the other spellings have letters
  have hletter {c : Char} (hc : isAsciiLetter c) : c ∉ trim raw.toList := by
    intro hmem
    refine not_mem_of_isAsciiLetter hn hc ?_
    rw [hraw]
    exact List.mem_append_right _ (List.mem_append_left _ hmem)
  have hbits : trim raw.toList ≠ ['b', '\'', '1', '\''] := by
    intro heq
    exact hletter (c := 'b') (by decide) (by simp [heq])
  have htrue : trim raw.toList ≠ ['t', 'r', 'u', 'e'] := by
    intro heq
    exact hletter (c := 't') (by decide) (by simp [heq])
  rw [lower_trim_of_number hn]
  simp [EntityColumn.trueTexts, ← String.toList_inj, hbits, htrue]

theorem loadBool_text {raw : String} {n : Int} (hn : integerOfText raw = .ok n) :
    Storage.loadBool (.text raw) = .ok (.bool (n != 0)) := by
  simp [Storage.loadBool, Storage.unlessNull, Storage.readInteger, Value.toInteger, hn,
    Except.mapError, Except.map]

namespace EntityColumn

variable {c : EntityColumn} {raw : String} {n : Int}

theorem defaultKeywords_truth (henum : c.enumeration = none) (htype : c.type.logical = .bool)
    (hraw : c.column.defaultText = some raw) (hauto : ¬ c.column.isAutoIncrement)
    (hliteral : ¬ isExpressionDefault c.column) (hn : integerOfText raw = .ok n) :
    c.defaultKeywords = [("default", .bool (trim raw.toList == ['1']))] := by
  have htext : trueTexts.contains (String.ofList (lower (trim raw.toList))) =
      (trim raw.toList == ['1']) := by
    rw [Bool.eq_iff_iff, trueTexts_contains_iff hn, beq_iff_eq]
  rw [defaultKeywords_literal hraw hauto hliteral, literalDefault]
  simp only [henum, htype, htext]
  rfl

/-- A default of a column with truth values is loaded as true if its number is not zero, and emitted
as true if it is spelled as a plain one. So the two agree exactly on zero and on that spelling. -/
theorem truthDefault_agrees_iff (hread : ColumnType.ofText c.column.physicalType = .ok c.type)
    (htype : c.type.storage = "tinyint") (hraw : c.column.defaultText = some raw)
    (hauto : ¬ c.column.isAutoIncrement) (hliteral : ¬ isExpressionDefault c.column)
    (hn : integerOfText raw = .ok n) :
    Storage.loadBool (.text raw) = .ok (.bool (n != 0)) ∧
    (c.enumeration = none → c.defaultKeywords = [("default", .bool (trim raw.toList == ['1']))]) ∧
    (c.defaultKeywords = [("default", .bool (n != 0))] ↔
      c.enumeration = none ∧ (n = 0 ∨ trim raw.toList = ['1'])) := by
  have hbool := (ColumnType.logical_eq_bool_iff hread).mpr htype
  refine ⟨loadBool_text hn, fun henum => defaultKeywords_truth henum hbool hraw hauto hliteral hn,
    ?_⟩
  cases henum : c.enumeration with
  | some d =>
    have hne : (c.literalDefault raw).keyword ≠ ("default", .bool (n != 0)) :=
      literalDefault_ne_value henum (by simp)
    rw [defaultKeywords_literal hraw hauto hliteral, List.singleton_inj]
    simp [hne]
  | none =>
    have hone : trim raw.toList = ['1'] → n = 1 := eq_one_of_trim hn
    rw [defaultKeywords_truth henum hbool hraw hauto hliteral hn]
    simp only [List.singleton_inj, Prod.mk.injEq, Expr.bool.injEq, true_and]
    rw [Bool.eq_iff_iff, beq_iff_eq, bne_iff_ne]
    constructor
    · intro hsame
      by_cases hzero : n = 0
      · exact .inl hzero
      · exact .inr (hsame.mpr hzero)
    · rintro (hzero | htrim)
      · refine ⟨fun htrim => ?_, fun hne => absurd hzero hne⟩
        rw [hone htrim]
        decide
      · refine ⟨fun _ => ?_, fun _ => htrim⟩
        rw [hone htrim]
        decide

/-- A column of truth values with a default. -/
def paidFlag (default : String) : EntityColumn where
  column := ⟨"paid", "tinyint(1)", false, some default, false, false, none, ""⟩
  attr := "paid"
  type := .ofSpec "tinyint" ⟨.bool, "SmallInteger", none, some .boolean⟩ (some 1) none
  enumeration := none
  foreignKey := none

theorem paidFlag_agrees :
    ColumnType.ofText (paidFlag " 1\n").column.physicalType = .ok (paidFlag " 1\n").type ∧
    (paidFlag " 1\n").type.storage = "tinyint" ∧ ¬ (paidFlag " 1\n").column.isAutoIncrement ∧
    ¬ isExpressionDefault (paidFlag " 1\n").column ∧ integerOfText " 1\n" = .ok 1 ∧
    Storage.loadBool (.text " 1\n") = .ok (.bool true) ∧
    (paidFlag " 1\n").defaultKeywords = [("default", .bool true)] := by
  have hread : ColumnType.ofText (paidFlag " 1\n").column.physicalType =
      .ok (paidFlag " 1\n").type := by decide +kernel
  have hliteral : ¬ isExpressionDefault (paidFlag " 1\n").column := by decide +kernel
  have hn : integerOfText " 1\n" = .ok 1 := by decide +kernel
  have hspelled : trim " 1\n".toList = ['1'] := by decide +kernel
  have hauto : ¬ (paidFlag " 1\n").column.isAutoIncrement := Bool.false_ne_true
  obtain ⟨hload, -, hagrees⟩ := truthDefault_agrees_iff hread rfl rfl hauto hliteral hn
  exact ⟨hread, rfl, hauto, hliteral, hn, hload, hagrees.mpr ⟨rfl, .inr hspelled⟩⟩

/-- A number above one is loaded as true, but emitted as false. -/
theorem paidFlag_disagrees :
    ColumnType.ofText (paidFlag "2").column.physicalType = .ok (paidFlag "2").type ∧
    (paidFlag "2").type.storage = "tinyint" ∧ ¬ (paidFlag "2").column.isAutoIncrement ∧
    ¬ isExpressionDefault (paidFlag "2").column ∧ integerOfText "2" = .ok 2 ∧
    Storage.loadBool (.text "2") = .ok (.bool true) ∧
    (paidFlag "2").defaultKeywords = [("default", .bool false)] ∧
    (paidFlag "2").statement.render =
      "paid: Mapped[bool] = mapped_column(BooleanTransformer(), default=False)" := by
  have hn : integerOfText "2" = .ok 2 := by decide +kernel
  have hliteral : ¬ isExpressionDefault (paidFlag "2").column := by decide +kernel
  have hspelled : (trim "2".toList == ['1']) = false := by decide +kernel
  have hauto : ¬ (paidFlag "2").column.isAutoIncrement := Bool.false_ne_true
  have hkeywords := defaultKeywords_truth (c := paidFlag "2") rfl rfl rfl hauto hliteral hn
  rw [hspelled] at hkeywords
  exact ⟨by decide +kernel, rfl, hauto, hliteral, hn, loadBool_text hn, hkeywords,
    by decide +kernel⟩

end EntityColumn

end CatalogEntities
