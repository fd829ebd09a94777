import CatalogEntities.Number.Binary64

/-!
Texts that denote a decimal number of any precision: blanks around it and underscores anywhere
are ignored, digits may come from any decimal script, and the exponent has eighteen digits.
-/

namespace CatalogEntities.Number

open Text

/-- The largest exponent of a decimal number. -/
def decimalExponentLimit : Int := 999999999999999999

/-- A character as a decimal number is read. -/
def decimalChar? (c : Char) : Option Char :=
  if c.toNat == 0 then none
  else if isAscii c then some c
  else if isBlank c then some ' '
  else (decimalValue? c).map digitChar

/-- Whether a coefficient and a power of ten fit the exponent range exactly. -/
def fitsDecimal (coefficient : Nat) (exponent : Int) : Bool :=
  let size : Int := (Nat.toDigits 10 coefficient).length
  let top := if coefficient == 0 then exponent else exponent + size - 1
  top ≤ decimalExponentLimit && exponent ≥ -(2 * decimalExponentLimit - 1)

/-- The names of infinity and of undefined numbers, which may carry digits. -/
def isDecimalName (cs : List Char) : Bool :=
  let name := asciiLower cs
  let carried (stem : String) : Bool :=
    stem.toList.isPrefixOf name && (name.drop stem.length).all isAsciiDigit
  name == "inf".toList || name == "infinity".toList || carried "nan" || carried "snan"

def isDecimalText (s : String) : Bool :=
  match ((trim s.toList).filter (· != '_')).mapM decimalChar? with
  | none => false
  | some cs =>
    let (_, body) := takeSign cs
    if isDecimalName body then true
    else match readFraction? body with
      | some (coefficient, _, exponent) => fitsDecimal coefficient exponent
      | none => false

end CatalogEntities.Number
