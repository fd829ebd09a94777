import CatalogEntities.Code.Expr
import CatalogEntities.Proofs.Number.IntegerText
import CatalogEntities.Proofs.Text.Literal

/-!
The arguments of a call, and constants whose source text is read as the value that they were made
of.
-/

namespace CatalogEntities.Code

open Text Number

def Argument.positional? : Argument → Option Expr
  | .positional value => some value
  | .keyword _ _ => none

def Argument.keyword? : Argument → Option (String × Expr)
  | .positional _ => none
  | .keyword name value => some (name, value)

namespace Expr

def arguments : Expr → List Argument
  | .call _ arguments => arguments
  | _ => []

/-- The positional arguments of a call. -/
def positionals (e : Expr) : List Expr := e.arguments.filterMap Argument.positional?

/-- The keyword arguments of a call. -/
def keywords (e : Expr) : List (String × Expr) := e.arguments.filterMap Argument.keyword?

section

variable (function : Expr) (values : List Expr) (pairs : List (String × Expr))

@[simp] theorem positionals_apply : (apply function values pairs).positionals = values := by
  have hvalues : values.filterMap (Argument.positional? ∘ Argument.positional) = values :=
    List.filterMap_some
  have hpairs : pairs.filterMap (Argument.positional? ∘ fun pair => .keyword pair.1 pair.2) = [] :=
    List.filterMap_eq_nil_iff.mpr fun _ _ => rfl
  rw [positionals, apply, arguments, List.filterMap_append, List.filterMap_map, List.filterMap_map]
  exact (congrArg₂ (· ++ ·) hvalues hpairs).trans (List.append_nil values)

@[simp] theorem keywords_apply : (apply function values pairs).keywords = pairs := by
  have hvalues : values.filterMap (Argument.keyword? ∘ Argument.positional) = [] :=
    List.filterMap_eq_nil_iff.mpr fun _ _ => rfl
  have hpairs : pairs.filterMap (Argument.keyword? ∘ fun pair => .keyword pair.1 pair.2) = pairs :=
    List.filterMap_some
  rw [keywords, apply, arguments, List.filterMap_append, List.filterMap_map, List.filterMap_map]
  exact congrArg₂ (· ++ ·) hvalues hpairs

end

/-- The source text of the expression is a literal of the text `s`. -/
def SpellsText (e : Expr) (s : String) : Prop := Literal.decode? e.render.toList = some s.toList

/-- The source text of the expression is a numeral of the integer `n`. -/
def SpellsInteger (e : Expr) (n : Int) : Prop := sourceInteger? e.render.toList = some n

theorem spellsText_text (s : String) : (Expr.text s).SpellsText s := by
  rw [SpellsText, render, Literal.encodeText, onChars, String.toList_ofList]
  exact Literal.decode?_encode s.toList

/-- Numbers that were read from text are short enough to be read again. -/
theorem spellsInteger_int {s : String} {n : Int} (h : integerOfText s = .ok n) :
    (Expr.int n).SpellsInteger n := by
  rw [SpellsInteger, render]
  exact sourceInteger?_integerText (natText_fits h)

end Expr

end CatalogEntities.Code
