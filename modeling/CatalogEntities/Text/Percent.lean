import CatalogEntities.Text.Literal
import CatalogEntities.Text.Utf8

/-!
Percent coding of URL components and of the pairs of a query. A character outside the safe ones is
written as the bytes of its UTF-8 form, each as a percent sign and two hexadecimal digits. Reading
is lenient: a percent sign without two digits stands for itself, and bytes that are no UTF-8 become
replacement characters.

Main definitions: `Percent.encode`, `Percent.decode`, `Percent.queryPairs`.
-/

namespace CatalogEntities.Text.Percent

/-- Characters that are never escaped. -/
def isUnreserved (c : Char) : Bool :=
  isAsciiLetter c || isAsciiDigit c || c == '_' || c == '.' || c == '-' || c == '~'

def hexDigit (d : Nat) : Char :=
  if d < 10 then Char.ofNat ('0'.toNat + d) else Char.ofNat ('A'.toNat + d - 10)

def encodeByte (b : UInt8) : List Char := ['%', hexDigit (b.toNat / 16), hexDigit (b.toNat % 16)]

def encodeChar (safe : List Char) (c : Char) : List Char :=
  if isUnreserved c || safe.contains c then [c] else (String.utf8EncodeChar c).flatMap encodeByte

def encode (safe cs : List Char) : List Char := cs.flatMap (encodeChar safe)

/-- The bytes of ASCII text in which escapes stand for bytes. -/
def decodeBytes : List Char → List UInt8
  | '%' :: a :: b :: rest =>
    match Literal.hexValue? a, Literal.hexValue? b with
    | some x, some y => (16 * x + y).toUInt8 :: decodeBytes rest
    | _, _ => '%'.toNat.toUInt8 :: decodeBytes (a :: b :: rest)
  | c :: rest => c.toNat.toUInt8 :: decodeBytes rest
  | [] => []

/-- The maximal runs of ASCII and of other characters. -/
def runs : List Char → List (List Char)
  | [] => []
  | c :: rest =>
    match runs rest with
    | (d :: run) :: more =>
      if isAscii c == isAscii d then (c :: d :: run) :: more else [c] :: (d :: run) :: more
    | more => [c] :: more

def decodeRun (run : List Char) : List Char :=
  if run.all isAscii then Utf8.decodeLossy (decodeBytes run) else run

/-- Escapes are read within runs of ASCII, so that no character is put together across others. -/
def decode (cs : List Char) : List Char := (runs cs).flatMap decodeRun

/-- Keys and values of a query have plus signs for their spaces. -/
def encodeForm (cs : List Char) : List Char :=
  (encode [' '] cs).map fun c => if c == ' ' then '+' else c

def decodeForm (cs : List Char) : List Char :=
  decode (cs.map fun c => if c == '+' then ' ' else c)

/-- The pair of one piece of a query; a piece without an equals sign has a blank value. -/
def queryPair? (keepBlank : Bool) (cs : List Char) : Option (String × String) :=
  let (key, value) := (cut? '=' cs).getD (cs, [])
  if cs.isEmpty || (value.isEmpty && !keepBlank) then none
  else some (String.ofList (decodeForm key), String.ofList (decodeForm value))

/-- The pairs of a query in their order; pairs with blank values may be left out. -/
def queryPairs (keepBlank : Bool) (cs : List Char) : List (String × String) :=
  (splitAt '&' cs).filterMap (queryPair? keepBlank)

def encodePair (key value : String) : String :=
  onChars encodeForm key ++ "=" ++ onChars encodeForm value

end CatalogEntities.Text.Percent
