import CatalogEntities.Text.LetterTable
import CatalogEntities.Text.NumeralTable
import CatalogEntities.Text.PrintableTable
import CatalogEntities.Text.IdentifierTable
import CatalogEntities.Text.WidthTable

/-!
Character classes of Unicode 14. ASCII is decided by comparison, all else by table.
-/

namespace CatalogEntities.Text

def isAsciiUpper (c : Char) : Bool := 'A' ≤ c && c ≤ 'Z'

def isAsciiLower (c : Char) : Bool := 'a' ≤ c && c ≤ 'z'

def isAsciiLetter (c : Char) : Bool := isAsciiUpper c || isAsciiLower c

def isAsciiDigit (c : Char) : Bool := '0' ≤ c && c ≤ '9'

def isAscii (c : Char) : Bool := c.toNat < 128

def isLetter (c : Char) : Bool :=
  if isAscii c then isAsciiLetter c else letterTable.has c

/-- Digits in the wide sense: superscripts and circled digits are digits without being decimal. -/
def isDigit (c : Char) : Bool :=
  if isAscii c then isAsciiDigit c else digitTable.has c

/-- The value of a character of a decimal script. -/
def decimalValue? (c : Char) : Option Nat :=
  if isAscii c then
    if isAsciiDigit c then some (c.toNat - '0'.toNat) else none
  else
    (decimalZeros.find? fun first => first ≤ c.toNat && c.toNat ≤ first + 9).map (c.toNat - ·)

def isDecimal (c : Char) : Bool := (decimalValue? c).isSome

/-- Characters with a numeric value of any kind that are no letters. -/
def isNumeral (c : Char) : Bool :=
  if isAscii c then isAsciiDigit c else numeralTable.has c

def isLetterOrNumeral (c : Char) : Bool := isLetter c || isNumeral c

/-- Letters, numerals and the underscore. -/
def isWordChar (c : Char) : Bool := c == '_' || isLetterOrNumeral c

/-- White space, the four separators from U+001C and the next-line control included. -/
def isBlank (c : Char) : Bool :=
  let n := c.toNat
  (9 ≤ n && n ≤ 13) || (28 ≤ n && n ≤ 32) || n == 0x85 || n == 0xa0 || n == 0x1680 ||
    (0x2000 ≤ n && n ≤ 0x200a) || n == 0x2028 || n == 0x2029 || n == 0x202f || n == 0x205f ||
    n == 0x3000

/-- The blanks of ASCII text proper. -/
def isAsciiBlank (c : Char) : Bool :=
  let n := c.toNat
  (9 ≤ n && n ≤ 13) || n == 32

/-- Characters that end a line; a carriage return and a line feed after it end one line. -/
def isLineEnd (c : Char) : Bool :=
  let n := c.toNat
  (10 ≤ n && n ≤ 13) || (28 ≤ n && n ≤ 30) || n == 0x85 || n == 0x2028 || n == 0x2029

/-- Whether a literal shows the character as itself. -/
def isPrintable (c : Char) : Bool :=
  if isAscii c then ' ' ≤ c && c ≤ '~' else !unprintableTable.has c

def startsIdentifier (c : Char) : Bool :=
  c == '_' || (isLetter c && !identifierStartRefused.has c) || identifierStartExtra.has c

def continuesIdentifier (c : Char) : Bool :=
  (isWordChar c && !identifierPartRefused.has c) || identifierPartExtra.has c

/-- A letter or underscore and then letters, numerals and joining characters, by the identifier
classes of the standard. -/
def isIdentifier : List Char → Bool
  | [] => false
  | c :: rest => startsIdentifier c && rest.all continuesIdentifier

/-- Columns that the character takes in a fixed-width display. -/
def charWidth (c : Char) : Nat :=
  if isAscii c then
    if ' ' ≤ c && c ≤ '~' then 1 else 0
  else if wideTable.has c then 2
  else if zeroWidthTable.has c then 0
  else 1

/-- Columns that a text takes; in pure ASCII text every character counts. -/
def displayWidth (cs : List Char) : Nat :=
  if cs.all isAscii then cs.length else cs.foldl (fun width c => width + charWidth c) 0

end CatalogEntities.Text
