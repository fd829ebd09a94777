import CatalogEntities.Text.Span

/-!
Tags of YAML nodes. A plain scalar without a tag gets one by its form: the first kind whose form it
has, else text.

Main definition: `scalarTag`.
-/

namespace CatalogEntities.Yaml

open Text

def standardPrefix : String := "tag:yaml.org,2002:"

/-- A tag of the standard kinds. -/
def standard (kind : String) : String := standardPrefix ++ kind

def nullWords : List String := ["", "~", "null", "Null", "NULL"]

def truthWords : List String :=
  ["yes", "Yes", "YES", "no", "No", "NO", "true", "True", "TRUE", "false", "False", "FALSE",
    "on", "On", "ON", "off", "Off", "OFF"]

def isDigitOrLine (c : Char) : Bool := isAsciiDigit c || c == '_'

def isOctalOrLine (c : Char) : Bool := ('0' ≤ c && c ≤ '7') || c == '_'

def isHexOrLine (c : Char) : Bool :=
  isAsciiDigit c || ('a' ≤ c && c ≤ 'f') || ('A' ≤ c && c ≤ 'F') || c == '_'

def dropSign : List Char → List Char
  | '+' :: rest => rest
  | '-' :: rest => rest
  | cs => cs

/-- Digits with underscores, the first of which is a digit; and what follows. -/
def digits? : List Char → Option (List Char)
  | c :: rest => if isAsciiDigit c then some (rest.dropWhile isDigitOrLine) else none
  | [] => none

/-- An exponent with its sign, or nothing. -/
def isExponent : List Char → Bool
  | [] => true
  | e :: sign :: d :: ds =>
    (e == 'e' || e == 'E') && (sign == '+' || sign == '-') && (d :: ds).all isAsciiDigit
  | _ => false

/-- One or two digits below sixty, and what follows. -/
def sixtieth? : List Char → Option (List Char)
  | a :: b :: rest =>
    if '0' ≤ a && a ≤ '5' && isAsciiDigit b then some rest
    else if isAsciiDigit a then some (b :: rest)
    else none
  | [a] => if isAsciiDigit a then some [] else none
  | [] => none

/-- One or more parts to the base of sixty, each after a colon; and what follows. -/
def sixtieths? : Nat → List Char → Option (List Char)
  | 0, _ => none
  | fuel + 1, ':' :: rest =>
    match sixtieth? rest with
    | some (':' :: more) => (sixtieths? fuel (':' :: more)) <|> some (':' :: more)
    | after => after
  | _, _ => none

/-- The text behind a decimal point: digits with underscores and an exponent. -/
def isFraction (cs : List Char) : Bool := isExponent (cs.dropWhile isDigitOrLine)

def isDecimalForm (cs : List Char) : Bool :=
  match digits? cs with
  | some ('.' :: rest) => isFraction rest
  | some rest =>
    match sixtieths? cs.length rest with
    | some ('.' :: more) => more.all isDigitOrLine
    | _ => false
  | none => false

def isFloatForm (cs : List Char) : Bool :=
  isDecimalForm (dropSign cs) ||
    (match cs with
      | '.' :: c :: rest => isAsciiDigit c && isFraction rest
      | _ => false) ||
    [".inf", ".Inf", ".INF"].any (dropSign cs == ·.toList) ||
    [".nan", ".NaN", ".NAN"].any (cs == ·.toList)

def isIntegerForm (cs : List Char) : Bool :=
  match dropSign cs with
  | ['0'] => true
  | '0' :: 'b' :: rest => !rest.isEmpty && rest.all fun c => c == '0' || c == '1' || c == '_'
  | '0' :: 'x' :: rest => !rest.isEmpty && rest.all isHexOrLine
  | '0' :: rest => rest.all isOctalOrLine
  | cs =>
    match digits? cs with
    | some [] => true
    | some rest => sixtieths? cs.length rest == some []
    | none => false

/-- A point in time, by its numbers as they are written. `hour` is empty for a calendar date;
`zone` is empty, `Z`, or an offset. -/
structure TimeParts where
  year : List Char
  month : List Char
  day : List Char
  hour : List Char
  minute : List Char
  second : List Char
  fraction : List Char
  zone : List Char
  deriving DecidableEq, Repr

/-- At least `least` and at most `most` digits, and what follows. -/
def digitSpan? (least most : Nat) (cs : List Char) : Option (List Char × List Char) :=
  let digits := (cs.take most).takeWhile isAsciiDigit
  if digits.length < least then none else some (digits, cs.drop digits.length)

/-- What follows a given character. -/
def after? (c : Char) : List Char → Option (List Char)
  | d :: rest => if c == d then some rest else none
  | [] => none

def isZone (cs : List Char) : Bool :=
  match cs with
  | [] => true
  | ['Z'] => true
  | sign :: rest =>
    (sign == '+' || sign == '-') &&
      match digitSpan? 1 2 rest with
      | some (_, []) => true
      | some (_, ':' :: minutes) => minutes.length == 2 && minutes.all isAsciiDigit
      | _ => false

def calendarDate? (cs : List Char) : Option TimeParts := do
  let (year, cs) ← digitSpan? 4 4 cs
  let (month, cs) ← digitSpan? 2 2 (← after? '-' cs)
  let (day, cs) ← digitSpan? 2 2 (← after? '-' cs)
  if cs.isEmpty then some ⟨year, month, day, [], [], [], [], []⟩ else none

def isTimeBlank (c : Char) : Bool := c == ' ' || c == '\t'

/-- What follows the mark between date and time. -/
def afterDate? (cs : List Char) : Option (List Char) :=
  match cs with
  | c :: rest =>
    if c == 'T' || c == 't' then some rest
    else if isTimeBlank c then some (rest.dropWhile isTimeBlank)
    else none
  | [] => none

def pointInTime? (cs : List Char) : Option TimeParts := do
  let (year, cs) ← digitSpan? 4 4 cs
  let (month, cs) ← digitSpan? 1 2 (← after? '-' cs)
  let (day, cs) ← digitSpan? 1 2 (← after? '-' cs)
  let (hour, cs) ← digitSpan? 1 2 (← afterDate? cs)
  let (minute, cs) ← digitSpan? 2 2 (← after? ':' cs)
  let (second, cs) ← digitSpan? 2 2 (← after? ':' cs)
  let (fraction, cs) := match cs with
    | '.' :: rest => (rest.takeWhile isAsciiDigit, rest.dropWhile isAsciiDigit)
    | cs => ([], cs)
  let zone := cs.dropWhile isTimeBlank
  if isZone zone && (cs.isEmpty || !zone.isEmpty) then
    some ⟨year, month, day, hour, minute, second, fraction, zone⟩
  else none

def timeParts? (cs : List Char) : Option TimeParts := calendarDate? cs <|> pointInTime? cs

/-- The tag of a plain scalar. -/
def scalarTag (text : String) : String :=
  let cs := text.toList
  if truthWords.contains text then standard "bool"
  else if isFloatForm cs then standard "float"
  else if isIntegerForm cs then standard "int"
  else if text == "<<" then standard "merge"
  else if nullWords.contains text then standard "null"
  else if (timeParts? cs).isSome then standard "timestamp"
  else if text == "=" then standard "value"
  else standard "str"

end CatalogEntities.Yaml
