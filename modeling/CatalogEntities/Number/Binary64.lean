import CatalogEntities.Number.Integer
import CatalogEntities.Text.Case

/-!
Double-precision numbers as exact binary fractions, read from decimal text by rounding to the
nearest, ties to the even significand.
-/

namespace CatalogEntities.Number

open Text

/-- `finite` stands for `significand * 2 ^ exponent` with a significand below `2 ^ 53`; it has 53
bits unless the exponent is the least one, -1074. -/
inductive Binary64
  | nan
  | infinite (negative : Bool)
  | finite (negative : Bool) (significand : Nat) (exponent : Int)
  deriving DecidableEq, Repr

/-- The power of a base by an exponent that counts as zero where it is negative. -/
def upwardPower (base : Nat) (e : Int) : Nat := Nat.pow base e.toNat

namespace Binary64

def zero (negative : Bool) : Binary64 := .finite negative 0 (-1074)

/-- `num / den` rounded to the nearest integer, ties to even. -/
def roundQuotient (num den : Nat) : Nat :=
  let q := num / den
  let r := num % den
  if 2 * r > den || (2 * r == den && q % 2 == 1) then q + 1 else q

/-- `num / den` times two to the minus `e`, as a pair to divide. -/
def scaled (num den : Nat) (e : Int) : Nat × Nat :=
  if e ≥ 0 then (num, den * upwardPower 2 e) else (num * upwardPower 2 (-e), den)

/-- The nearest double of a positive fraction. -/
def ofFraction (negative : Bool) (num den : Nat) : Binary64 :=
  if num == 0 then zero negative
  else
    let estimate := (num.log2 : Int) - den.log2 - 53
    let e0 := max (-1074) estimate
    let (n0, d0) := scaled num den e0
    let e := if n0 / d0 ≥ Nat.pow 2 53 then e0 + 1 else e0
    let (n, d) := scaled num den e
    let m := roundQuotient n d
    let (m, e) := if m == Nat.pow 2 53 then (Nat.pow 2 52, e + 1) else (m, e)
    if e > 971 then .infinite negative else .finite negative m e

/-- `digits * 10 ^ e`, where `size` is the number of digits. Far beyond the range the power is
not formed. -/
def ofDecimal (negative : Bool) (digits : Nat) (size : Nat) (e : Int) : Binary64 :=
  if digits == 0 then zero negative
  else if e + size > 400 then .infinite negative
  else if e + size < -400 then zero negative
  else if e ≥ 0 then ofFraction negative (digits * upwardPower 10 e) 1
  else ofFraction negative digits (upwardPower 10 (-e))

/-- The integral part, toward zero. -/
def truncate? : Binary64 → Option Int
  | .finite negative m e =>
    let size : Nat := if e ≥ 0 then m * upwardPower 2 e else m / upwardPower 2 (-e)
    some (if negative then -(size : Int) else size)
  | _ => none

/-- The integer that the number equals, if it is one. -/
def toInteger? : Binary64 → Option Int
  | .finite negative m e =>
    if e < 0 && m % upwardPower 2 (-e) != 0 then none else truncate? (.finite negative m e)
  | _ => none

def isZero : Binary64 → Bool
  | .finite _ m _ => m == 0
  | _ => false

end Binary64

/-- Digits, possibly none, and what follows them. -/
def takeDigits (cs : List Char) : List Nat × List Char :=
  ((cs.takeWhile isAsciiDigit).filterMap digitValue?, cs.dropWhile isAsciiDigit)

/-- An unsigned decimal fraction with an optional exponent, as digits, their number and a power
of ten. -/
def readFraction? (cs : List Char) : Option (Nat × Nat × Int) :=
  let (whole, rest) := takeDigits cs
  let (part, rest) := match rest with
    | '.' :: rest => takeDigits rest
    | rest => ([], rest)
  if whole.isEmpty && part.isEmpty then none
  else
    let digits := whole ++ part
    let mantissa := ofDigits digits
    match rest with
    | [] => some (mantissa, digits.length, -(part.length : Int))
    | c :: rest =>
      if c == 'e' || c == 'E' then
        let (negative, rest) := takeSign rest
        let (power, rest) := takeDigits rest
        if power.isEmpty || !rest.isEmpty then none
        else
          let p : Int := ofDigits power
          some (mantissa, digits.length, (if negative then -p else p) - part.length)
      else none

/-- Single underscores stand between digits only; `previous` is the character before. -/
def dropUnderscores? (previous : Char) : List Char → Option (List Char)
  | [] => if previous == '_' then none else some []
  | c :: rest =>
    if c == '_' then
      if isAsciiDigit previous then dropUnderscores? c rest else none
    else if previous == '_' && !isAsciiDigit c then none
    else (dropUnderscores? c rest).map (c :: ·)

/-- A double as written in text: blanks around it, a sign, a decimal fraction, or the names of
infinity and of the undefined number in any letter case. -/
def readFloat? (s : String) : Option Binary64 :=
  let cs := plain s.toList
  let cs := trimEnd isAsciiBlank (cs.dropWhile isAsciiBlank)
  match dropUnderscores? ' ' cs with
  | none => none
  | some cs =>
    let (negative, body) := takeSign cs
    let name := String.ofList (asciiLower body)
    if name == "inf" || name == "infinity" then some (.infinite negative)
    else if name == "nan" then some .nan
    else (readFraction? body).map fun (digits, size, e) => .ofDecimal negative digits size e

end CatalogEntities.Number
