import CatalogEntities.Value
import CatalogEntities.Yaml.Scalar
import CatalogEntities.Yaml.Tag

/-!
The values of YAML scalars by kind: truth values, numbers (also to the bases two, eight, sixteen and
sixty), bytes, and points in time.
-/

namespace CatalogEntities.Yaml

open Text Number

def dropUnderscores (cs : List Char) : List Char := cs.filter (· != '_')

def isNegative : List Char → Bool
  | '-' :: _ => true
  | _ => false

def truthOf (text : String) : Except Fault Value :=
  let word := onChars lower text
  if ["yes", "true", "on"].contains word then .ok (.bool true)
  else if ["no", "false", "off"].contains word then .ok (.bool false)
  else .error (.noWord word)

/-- Digits to a base, refused with a message if there are none or others among them. -/
def readBase (base : Nat) (cs : List Char) : Except Fault Int :=
  let digits := cs.filterMap Literal.hexValue?
  if cs.isEmpty || digits.length != cs.length || digits.any (base ≤ ·) then
    .error (.noValue (s!"invalid literal for int() with base {base}: " ++
      Literal.encodeText (String.ofList cs)))
  else .ok (digits.foldl (fun n d => base * n + d) 0 : Nat)

def readDecimal (cs : List Char) : Except Fault Int :=
  (integerOfText (String.ofList cs)).mapError fun fault => .noValue fault.message

def colonParts (cs : List Char) : List (List Char) := splitAt ':' cs

/-- An integer; its form tells the base. -/
def integerOf (text : String) : Except Fault Value :=
  let written := dropUnderscores text.toList
  let body := dropSign written
  let unsigned : Except Fault Int :=
    match body with
    | ['0'] => .ok 0
    | '0' :: 'b' :: rest => readBase 2 rest
    | '0' :: 'x' :: rest => readBase 16 rest
    | '0' :: _ => readBase 8 body
    | _ =>
      if body.contains ':' then
        ((colonParts body).mapM readDecimal).map fun parts =>
          parts.foldl (fun n part => 60 * n + part) 0
      else readDecimal body
  unsigned.map fun n => .int (if isNegative written then -n else n)

def negate : Binary64 → Binary64
  | .nan => .nan
  | .infinite negative => .infinite !negative
  | .finite negative m e => .finite (!negative) m e

def readPart (cs : List Char) : Except Fault Binary64 :=
  match readFloat? (String.ofList cs) with
  | some x => .ok x
  | none =>
    .error (.noValue ("could not convert string to float: " ++
      Literal.encodeText (String.ofList cs)))

/-- The sum of two numbers that are not negative, as a double. -/
def addPositive : Binary64 → Binary64 → Binary64
  | .finite _ m e, .finite _ n f =>
    let low := min e f
    let sum := m * upwardPower 2 (e - low) + n * upwardPower 2 (f - low)
    if low ≥ 0 then .ofFraction false (sum * upwardPower 2 low) 1
    else .ofFraction false sum (upwardPower 2 (-low))
  | .nan, _ => .nan
  | _, .nan => .nan
  | _, _ => .infinite false

/-- A number that is not negative, times a natural one, as a double. -/
def scale (k : Nat) : Binary64 → Binary64
  | .finite _ m e =>
    if e ≥ 0 then .ofFraction false (k * m * upwardPower 2 e) 1
    else .ofFraction false (k * m) (upwardPower 2 (-e))
  | x => x

/-- Parts to the base of sixty, the least one first; each step is rounded. -/
def sumSixtieths (total : Binary64) (base : Nat) : List Binary64 → Binary64
  | [] => total
  | part :: rest => sumSixtieths (addPositive total (scale base part)) (60 * base) rest

def floatOf (text : String) : Except Fault Value :=
  let written := lower (dropUnderscores text.toList)
  let body := dropSign written
  let unsigned : Except Fault Binary64 :=
    if body == ".inf".toList then .ok (.infinite false)
    else if body == ".nan".toList then .ok .nan
    else if body.contains ':' then
      ((colonParts body).mapM readPart).map fun parts =>
        sumSixtieths (.zero false) 1 parts.reverse
    else readPart body
  unsigned.map fun x => .float (if isNegative written then negate x else x)

/-! Bytes -/

def base64Value? (c : Char) : Option Nat :=
  if isAsciiUpper c then some (c.toNat - 'A'.toNat)
  else if isAsciiLower c then some (c.toNat - 'a'.toNat + 26)
  else if isAsciiDigit c then some (c.toNat - '0'.toNat + 52)
  else if c == '+' then some 62
  else if c == '/' then some 63
  else none

/-- The bytes of base-64 text. `filled` counts the digits of the current group of four, `left` holds
the bits that are not written yet, `pads` counts equals signs; other characters are passed over. -/
def readBase64 (filled left pads : Nat) : List Char → Option (List UInt8)
  | [] => if filled == 0 then some [] else none
  | c :: rest =>
    if c == '=' then
      if 2 ≤ filled && 4 ≤ filled + pads + 1 then some []
      else readBase64 filled left (if 2 ≤ filled then pads + 1 else pads) rest
    else match base64Value? c with
      | none => readBase64 filled left pads rest
      | some v =>
        match filled with
        | 0 => readBase64 1 v 0 rest
        | 1 => (readBase64 2 (v % 16) 0 rest).map ((left * 4 + v / 16).toUInt8 :: ·)
        | 2 => (readBase64 3 (v % 4) 0 rest).map ((left * 16 + v / 4).toUInt8 :: ·)
        | _ => (readBase64 0 0 0 rest).map ((left * 64 + v).toUInt8 :: ·)

def bytesOf (text : String) : Except Fault Value :=
  if text.toList.all isAscii then
    match readBase64 0 0 0 text.toList with
    | some bytes => .ok (.bytes bytes)
    | none => .error .malformed
  else .error .malformed

/-! Points in time -/

def isLeapYear (year : Nat) : Bool := (year % 4 == 0 && year % 100 != 0) || year % 400 == 0

def monthLength (year month : Nat) : Nat :=
  if month == 2 then if isLeapYear year then 29 else 28
  else if [4, 6, 9, 11].contains month then 30
  else 31

def numberOf (digits : List Char) : Nat := ofDigits (digits.filterMap digitValue?)

def padLeft (width : Nat) (n : Nat) : String :=
  let digits := natText n
  String.ofList (List.replicate (width - digits.length) '0') ++ digits

/-- What is wrong with a date or a time of day. -/
def timeFault? (year month day hour minute second : Nat) : Option String :=
  if year < 1 then some s!"year {year} is out of range"
  else if month < 1 || 12 < month then some "month must be in 1..12"
  else if day < 1 || monthLength year month < day then some "day is out of range for month"
  else if 23 < hour then some "hour must be in 0..23"
  else if 59 < minute then some "minute must be in 0..59"
  else if 59 < second then some "second must be in 0..59"
  else none

/-- The offset of a zone: hours and minutes behind a sign. -/
def zoneText (zone : List Char) : String :=
  match zone with
  | [] => ""
  | 'Z' :: _ => "+00:00"
  | sign :: rest =>
    let hours := numberOf (rest.takeWhile isAsciiDigit)
    let minutes := numberOf ((rest.dropWhile isAsciiDigit).drop 1)
    let total := 60 * hours + minutes
    let shownSign := if total == 0 then "+" else String.singleton sign
    shownSign ++ padLeft 2 (total / 60) ++ ":" ++ padLeft 2 (total % 60)

def fractionText (digits : List Char) : String :=
  let micro := numberOf (digits.take 6 ++ List.replicate (6 - digits.length) '0')
  if micro == 0 then "" else "." ++ padLeft 6 micro

def momentOf (text : String) : Except Fault Value :=
  match timeParts? text.toList with
  | none => .error .malformed
  | some p =>
    let year := numberOf p.year
    let month := numberOf p.month
    let day := numberOf p.day
    let hour := numberOf p.hour
    let minute := numberOf p.minute
    let second := numberOf p.second
    match timeFault? year month day hour minute second with
    | some message => .error (.noValue message)
    | none =>
      let date := padLeft 4 year ++ "-" ++ padLeft 2 month ++ "-" ++ padLeft 2 day
      if p.hour.isEmpty then .ok (.moment true date)
      else
        let time := padLeft 2 hour ++ ":" ++ padLeft 2 minute ++ ":" ++ padLeft 2 second
        .ok (.moment false (date ++ " " ++ time ++ fractionText p.fraction ++ zoneText p.zone))

end CatalogEntities.Yaml
