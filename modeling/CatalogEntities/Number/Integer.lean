import CatalogEntities.Text.Literal

/-!
Integers as text. Reading is liberal: blanks around the number, a sign, single underscores
between digits, digits of any decimal script. Both directions refuse numbers of more than 4300
digits.
-/

namespace CatalogEntities.Number

open Text

/-- The longest number, in digits, that is read from text or written to it. -/
def digitLimit : Nat := 4300

inductive IntegerFault
  | malformed (literal : String)
  | tooManyDigits (count : Nat)
  | tooLongToWrite
  deriving DecidableEq, Repr

/-- The refused literal is cut after 200 characters. -/
def IntegerFault.message : IntegerFault → String
  | .malformed literal =>
    "invalid literal for int() with base 10: " ++ String.ofList (literal.toList.take 200)
  | .tooManyDigits count =>
    s!"Exceeds the limit ({digitLimit} digits) for integer string conversion: value has {count} digits; " ++
      "use sys.set_int_max_str_digits() to increase the limit"
  | .tooLongToWrite =>
    s!"Exceeds the limit ({digitLimit} digits) for integer string conversion; " ++
      "use sys.set_int_max_str_digits() to increase the limit"

/-- Characters beyond ASCII in the form that numbers are read in: blanks as spaces, digits of
any decimal script as ASCII digits, anything else as a question mark. -/
def plainChar (c : Char) : Char :=
  if c.toNat < 127 then c
  else if isBlank c then ' '
  else match decimalValue? c with
    | some d => Char.ofNat ('0'.toNat + d)
    | none => '?'

def plain (cs : List Char) : List Char :=
  if cs.all isAscii then cs else cs.map plainChar

def digitValue? (c : Char) : Option Nat :=
  if isAsciiDigit c then some (c.toNat - '0'.toNat) else none

def digitChar (d : Nat) : Char := Char.ofNat ('0'.toNat + d)

/-- Digits with single underscores between them, and what follows. `due` tells that a digit
has to come next. -/
def digitRun? (due : Bool) : List Char → Option (List Nat × List Char)
  | [] => if due then none else some ([], [])
  | c :: rest =>
    if c == '_' then
      if due then none else digitRun? true rest
    else match digitValue? c with
      | some d => (digitRun? false rest).map fun (ds, after) => (d :: ds, after)
      | none => if due then none else some ([], c :: rest)

def ofDigits (ds : List Nat) : Nat := ds.foldl (fun n d => 10 * n + d) 0

/-- Sign of a number and what follows it. -/
def takeSign : List Char → Bool × List Char
  | '-' :: rest => (true, rest)
  | '+' :: rest => (false, rest)
  | cs => (false, cs)

/-- The integer that a text denotes; `literal` is how a refused text is shown. -/
def readInteger (literal : String) (cs : List Char) : Except IntegerFault Int :=
  let (negative, body) := takeSign ((plain cs).dropWhile isAsciiBlank)
  match digitRun? true body with
  | none => .error (.malformed literal)
  | some (ds, after) =>
    if ds.length > digitLimit then .error (.tooManyDigits ds.length)
    else if after.all isAsciiBlank then
      .ok (if negative then -(ofDigits ds : Int) else (ofDigits ds : Int))
    else .error (.malformed literal)

def integerOfText (s : String) : Except IntegerFault Int :=
  readInteger (Literal.encodeText s) s.toList

/-- Bytes are read like ASCII text. -/
def integerOfBytes (bytes : List UInt8) : Except IntegerFault Int :=
  let literal := String.ofList (Literal.encodeBytes bytes)
  if bytes.all (· < 0x80) then readInteger literal (bytes.map fun b => Char.ofNat b.toNat)
  else .error (.malformed literal)

/-- The decimal digits of a number, without leading zeros. -/
def natText (n : Nat) : String := String.ofList (Nat.toDigits 10 n)

/-- Canonical decimal text of any length. -/
def integerText (n : Int) : String :=
  if n < 0 then "-" ++ natText n.natAbs else natText n.natAbs

/-- Decimal text, refused beyond the digit limit. -/
def writeInteger (n : Int) : Except IntegerFault String :=
  if (natText n.natAbs).length > digitLimit then .error .tooLongToWrite else .ok (integerText n)

end CatalogEntities.Number
