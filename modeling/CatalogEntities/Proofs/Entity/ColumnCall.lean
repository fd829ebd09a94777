import CatalogEntities.Entity.Statements

/-!
The parts of a column's statement, and when each of them has which form. What is said of a statement
as a whole is read off these forms.
-/

namespace CatalogEntities.EntityColumn

open Catalog Code Naming Number

/-! ### Annotation and type -/

/-- What the value of a column is annotated with. -/
inductive ValueForm (c : EntityColumn) : Prop
  | enumeration {d : EnumDefinition} (henum : c.enumeration = some d)
    (hvalue : c.valueType = .name d.name)
  | unknown (henum : c.enumeration = none)
    (htype : (c.type.logical == .json || c.type.logical == .untyped) = true)
      (hvalue : c.valueType = .name "Any")
  | named (henum : c.enumeration = none)
    (htype : ¬ (c.type.logical == .json || c.type.logical == .untyped) = true)
      (hvalue : c.valueType = .dotted c.type.logical.name)

theorem valueForm (c : EntityColumn) : c.ValueForm := by
  cases henum : c.enumeration with
  | some d => exact .enumeration henum (by simp only [valueType, henum])
  | none =>
    by_cases htype : (c.type.logical == .json || c.type.logical == .untyped) = true
    · exact .unknown henum htype
        (by simp only [valueType, henum, ColumnType.isUntyped, Bool.or_comm, htype, ↓reduceIte])
    · refine .named henum htype ?_
      rw [Bool.or_comm] at htype
      simp only [valueType, henum, ColumnType.isUntyped, htype, Bool.false_eq_true, ↓reduceIte]

/-- The type argument of a column. A transform decides alone, and an enumeration before sizes. -/
inductive TypeForm (c : EntityColumn) : Prop
  | transform {t : Transform} (htransform : c.type.transform = some t)
      (hexpr : c.typeExpr = .apply (.name t.name) [] [])
  | enumeration {d : EnumDefinition} (htransform : c.type.transform = none)
    (henum : c.enumeration = some d)
      (hexpr : c.typeExpr = .apply (sa "Enum") [.name d.name]
        [("values_callable", .name "enum_values")])
  | sized (sizes : List Nat) (htransform : c.type.transform = none) (henum : c.enumeration = none)
      (hexpr : c.typeExpr = .apply (sa c.type.column) (sizes.map intLiteral) [])
  | plain (htransform : c.type.transform = none) (henum : c.enumeration = none)
    (hexpr : c.typeExpr = sa c.type.column)

theorem typeForm (c : EntityColumn) : c.TypeForm := by
  cases htransform : c.type.transform with
  | some t => exact .transform htransform (by simp only [typeExpr, htransform])
  | none =>
    cases henum : c.enumeration with
    | some d => exact .enumeration htransform henum (by simp only [typeExpr, htransform, henum])
    | none =>
      cases hlength : c.type.length with
      | some n =>
        exact .sized [n] htransform henum (by simp only [typeExpr, htransform, henum, hlength]; rfl)
      | none =>
        cases hprecision : c.type.precision with
        | some p =>
          exact .sized (p :: c.type.scale.toList) htransform henum
            (by simp only [typeExpr, htransform, henum, hlength, hprecision]; rfl)
        | none =>
          exact .plain htransform henum
            (by simp only [typeExpr, htransform, henum, hlength, hprecision])

/-! ### Default -/

/-- What is made of a literal default. An enumeration decides alone, whatever the type; without one,
values of some types are written as such, and all else is left to the database as a text. -/
inductive LiteralForm (c : EntityColumn) (raw : String) : Prop
  | member {d : EnumDefinition} {m : EnumMember} (henum : c.enumeration = some d)
    (hvalue : raw ∈ d.values)
      (hfirst : d.members.find? (·.value == raw) = some m)
      (hdefault : c.literalDefault raw = .value (.field (.name d.name) m.name))
  | stray {d : EnumDefinition} (henum : c.enumeration = some d) (hvalue : raw ∉ d.values)
      (hdefault : c.literalDefault raw = .serverText raw)
  | truth {b : Bool} (henum : c.enumeration = none) (htype : c.type.logical = .bool)
      (hdefault : c.literalDefault raw = .value (.bool b))
  | integer {n : Int} (henum : c.enumeration = none) (htype : c.type.logical = .int)
    (hn : integerOfText raw = .ok n)
      (hdefault : c.literalDefault raw = .value (.int n))
  | float {x : Binary64} (henum : c.enumeration = none) (htype : c.type.logical = .float)
    (hx : readFloat? raw = some x)
      (hdefault : c.literalDefault raw = .value (.float x))
  | decimal (henum : c.enumeration = none) (htype : c.type.logical = .decimal)
    (hdecimal : isDecimalText raw)
      (hdefault : c.literalDefault raw = .value (.apply (.dotted "decimal.Decimal") [.text raw] []))
  | text (henum : c.enumeration = none) (htype : c.type.logical = .text)
      (hdefault : c.literalDefault raw = .value (.text raw))
  | other (henum : c.enumeration = none) (htype : c.type.logical ∉ [.bool, .text])
      (hinteger : c.type.logical = .int → ¬ (integerOfText raw).isOk)
      (hfloat : c.type.logical = .float → readFloat? raw = none)
      (hdecimal : c.type.logical = .decimal → ¬ isDecimalText raw)
      (hdefault : c.literalDefault raw = .serverText raw)

theorem literalForm (c : EntityColumn) (raw : String) : c.LiteralForm raw := by
  cases henum : c.enumeration with
  | some d =>
    cases hfirst : d.members.find? (·.value == raw) with
    | some m =>
      have hm := List.mem_map_of_mem (f := EnumMember.value) (List.mem_of_find?_eq_some hfirst)
      have hkey := List.find?_some hfirst
      exact .member henum (eq_of_beq hkey ▸ hm) hfirst
        (by simp only [literalDefault, henum, hfirst])
    | none =>
      refine .stray henum (fun hvalue => ?_) (by simp only [literalDefault, henum, hfirst])
      obtain ⟨m, hm, hmraw⟩ := List.mem_map.mp hvalue
      exact List.find?_eq_none.mp hfirst m hm (beq_iff_eq.mpr hmraw)
  | none =>
    cases htype : c.type.logical with
    | bool => exact .truth henum htype (by simp only [literalDefault, henum, htype]; rfl)
    | int =>
      cases hn : integerOfText raw with
      | ok n => exact .integer henum htype hn (by simp only [literalDefault, henum, htype, hn])
      | error fault =>
        refine .other henum ?_ ?_ ?_ ?_ (by simp only [literalDefault, henum, htype, hn]) <;>
          simp [htype, hn, Except.isOk, Except.toBool]
    | float =>
      cases hx : readFloat? raw with
      | some x => exact .float henum htype hx (by simp only [literalDefault, henum, htype, hx])
      | none =>
        refine .other henum ?_ ?_ ?_ ?_ (by simp only [literalDefault, henum, htype, hx]) <;>
          simp [htype, hx]
    | decimal =>
      by_cases hdecimal : isDecimalText raw
      · exact .decimal henum htype hdecimal
          (by simp only [literalDefault, henum, htype, if_pos hdecimal])
      · refine .other henum ?_ ?_ ?_ ?_
          (by simp only [literalDefault, henum, htype, if_neg hdecimal]) <;> simp [htype, hdecimal]
    | text => exact .text henum htype (by simp only [literalDefault, henum, htype])
    | _ => refine .other henum ?_ ?_ ?_ ?_ (by simp only [literalDefault, henum,
      htype]) <;> simp [htype]

/-! ### Names and keywords -/

theorem nameArgument_eq (c : EntityColumn) :
    c.nameArgument = (if c.attr = c.column.name then [] else [c.column.name]).map .text := by
  simp only [nameArgument, beq_iff_eq]
  split <;> rfl

/-- The keywords on the key of a table and on missing values are truth values. -/
theorem mem_keyKeywords {c : EntityColumn} {k : String × Expr} (h : k ∈ c.keyKeywords) :
    k.1 ∈ ["primary_key", "autoincrement", "nullable"] ∧ ∃ b, k.2 = .bool b := by
  unfold keyKeywords at h
  split at h
  · rcases List.mem_cons.mp h with rfl | h
    · exact ⟨List.mem_cons_self, _, rfl⟩
    · obtain rfl := List.mem_singleton.mp h
      exact ⟨List.mem_cons_of_mem _ List.mem_cons_self, _, rfl⟩
  · split at h
    · obtain rfl := List.mem_singleton.mp h
      exact ⟨by decide, _, rfl⟩
    · contradiction

theorem commentKeyword_eq (c : EntityColumn) :
    c.commentKeyword = (c.column.comment.toList.filter (!·.isEmpty)).map fun comment =>
      ("comment", .text comment) := by
  unfold commentKeyword
  cases c.column.comment with
  | none => rfl
  | some comment => cases hempty : comment.isEmpty <;> simp [hempty]

end CatalogEntities.EntityColumn
