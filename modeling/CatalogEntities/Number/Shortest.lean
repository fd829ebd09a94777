import CatalogEntities.Number.Binary64

/-!
The fewest decimal digits that read back as a given double. The numbers that round to it fill an
interval around it, ends included when its significand is even; for one digit, two digits and so
on, the value's two neighbours on that decimal grid are tried, and of two hits the nearer wins.
-/

namespace CatalogEntities.Number

/-- A decimal number `digits * 10 ^ exponent`. -/
structure Decimal where
  digits : Nat
  exponent : Int
  deriving DecidableEq, Repr

/-- A value and the ends of its rounding interval over one denominator. -/
structure RoundingInterval where
  low : Nat
  value : Nat
  high : Nat
  den : Nat
  closed : Bool

/-- Below a power of two the neighbour is only half as far. -/
def roundingInterval (m : Nat) (e : Int) : RoundingInterval :=
  let below := if m == Nat.pow 2 52 && e > -1074 then 1 else 2
  let up := upwardPower 2 e
  { low := (4 * m - below) * up
    value := 4 * m * up
    high := (4 * m + 2) * up
    den := 4 * upwardPower 2 (-e)
    closed := m % 2 == 0 }

/-- Whether `n * 10 ^ k` rounds to the value. -/
def RoundingInterval.holds (i : RoundingInterval) (n : Nat) (k : Int) : Bool :=
  let x := n * upwardPower 10 k * i.den
  let unit := upwardPower 10 (-k)
  if i.closed then i.low * unit ≤ x && x ≤ i.high * unit
  else i.low * unit < x && x < i.high * unit

/-- How far `n * 10 ^ k` is from the value, in a unit that depends on `k` alone. -/
def RoundingInterval.distance (i : RoundingInterval) (n : Nat) (k : Int) : Nat :=
  let x := n * upwardPower 10 k * i.den
  let v := i.value * upwardPower 10 (-k)
  if x ≥ v then x - v else v - x

/-- The number on the grid of step `10 ^ k` that reads back, if there is one; a tie goes to the
even digit. -/
def RoundingInterval.onGrid? (i : RoundingInterval) (k : Int) : Option Decimal :=
  let floor := i.value * upwardPower 10 (-k) / (i.den * upwardPower 10 k)
  let lower := i.holds floor k && floor != 0
  let upper := i.holds (floor + 1) k
  let takeUpper :=
    if lower && upper then
      let a := i.distance floor k
      let b := i.distance (floor + 1) k
      b < a || (a == b && floor % 2 == 1)
    else upper
  if takeUpper then some ⟨floor + 1, k⟩
  else if lower then some ⟨floor, k⟩
  else none

/-- The power of ten of the first digit of `num / den`, found from an estimate. -/
def leadingPower (num den : Nat) : Int :=
  let estimate : Int := ((num.log2 : Int) - den.log2) * 30103 / 100000
  let reaches (p : Int) : Bool := den * upwardPower 10 p ≤ num * upwardPower 10 (-p)
  if reaches (estimate + 1) then estimate + 1
  else if reaches estimate then estimate
  else estimate - 1

def stripZeros : Nat → Decimal → Decimal
  | 0, d => d
  | fuel + 1, d =>
    if d.digits != 0 && d.digits % 10 == 0 then stripZeros fuel ⟨d.digits / 10, d.exponent + 1⟩
    else d

/-- Shortest digits of the positive number `m * 2 ^ e`; seventeen always suffice. -/
def shortest (m : Nat) (e : Int) : Decimal :=
  let i := roundingInterval m e
  let top := leadingPower i.value i.den
  let found := (List.range 17).findSome? fun (n : Nat) => i.onGrid? (top - n)
  stripZeros 20 (found.getD ⟨0, 0⟩)

/-- Where positional notation ends: it serves for points from `least` to `most` places after the
first digit. -/
structure FloatLayout where
  least : Int
  most : Int

/-- Literals are positional from 0.0001 up to below 10 ^ 16, always with a point, and have at
least two exponent digits elsewhere. -/
def literalLayout : FloatLayout := ⟨-3, 16⟩

private def zeros (n : Nat) : List Char := List.replicate n '0'

private def exponentText (e : Int) : List Char :=
  let ds := Nat.toDigits 10 e.natAbs
  (if e < 0 then '-' else '+') :: (if ds.length < 2 then '0' :: ds else ds)

/-- Text of a decimal number in a layout. -/
def FloatLayout.write (layout : FloatLayout) (d : Decimal) : List Char :=
  let ds := Nat.toDigits 10 d.digits
  let point : Int := ds.length + d.exponent
  if layout.least ≤ point && point ≤ layout.most then
    if point ≤ 0 then '0' :: '.' :: zeros (-point).toNat ++ ds
    else if point ≥ ds.length then ds ++ zeros (point - ds.length).toNat ++ ['.', '0']
    else ds.take point.toNat ++ '.' :: ds.drop point.toNat
  else
    let head := match ds with
      | [a] => [a]
      | a :: more => a :: '.' :: more
      | [] => []
    head ++ 'e' :: exponentText (point - 1)

/-- A double as a literal shows it. -/
def floatText : Binary64 → String
  | .nan => "nan"
  | .infinite negative => if negative then "-inf" else "inf"
  | .finite negative m e =>
    let body := if m == 0 then "0.0" else String.ofList (literalLayout.write (shortest m e))
    if negative then "-" ++ body else body

end CatalogEntities.Number
