import CatalogEntities.Text.Span

/-!
String and byte literals of an entity module: how a text is written between quotes on one physical
line, and how such a literal is read.

Main definitions: `Literal.encode` writes, `Literal.decode?` reads.
-/

namespace CatalogEntities.Text.Literal

def hexDigit (d : Nat) : Char :=
  if d < 10 then Char.ofNat ('0'.toNat + d) else Char.ofNat ('a'.toNat + d - 10)

def hexValue? (c : Char) : Option Nat :=
  if isAsciiDigit c then some (c.toNat - '0'.toNat)
  else if 'a' ≤ c && c ≤ 'f' then some (c.toNat - 'a'.toNat + 10)
  else if 'A' ≤ c && c ≤ 'F' then some (c.toNat - 'A'.toNat + 10)
  else none

/-- The last `width` hexadecimal digits of a number, the most significant first. -/
def hexDigits : Nat → Nat → List Char
  | 0, _ => []
  | width + 1, n => hexDigits width (n / 16) ++ [hexDigit (n % 16)]

def readHex? (cs : List Char) : Option Nat :=
  cs.foldlM (fun n c => (hexValue? c).map (16 * n + ·)) 0

/-- Single quotes, unless the text holds single quotes and no double ones. -/
def quoteFor (cs : List Char) : Char :=
  if cs.contains '\'' && !cs.contains '"' then '"' else '\''

/-- A character that is not shown as itself, by its code point. -/
def escapeCode (c : Char) : List Char :=
  if c.toNat < 0x100 then '\\' :: 'x' :: hexDigits 2 c.toNat
  else if c.toNat < 0x10000 then '\\' :: 'u' :: hexDigits 4 c.toNat
  else '\\' :: 'U' :: hexDigits 8 c.toNat

def encodeChar (quote c : Char) : List Char :=
  if c == quote || c == '\\' then ['\\', c]
  else if c == '\t' then ['\\', 't']
  else if c == '\n' then ['\\', 'n']
  else if c == '\r' then ['\\', 'r']
  else if isPrintable c then [c]
  else escapeCode c

def encode (cs : List Char) : List Char :=
  let quote := quoteFor cs
  quote :: cs.flatMap (encodeChar quote) ++ [quote]

def encodeText (s : String) : String := onChars encode s

/-- Byte literals show printable ASCII and escape all else by two hexadecimal digits. -/
def encodeBytes (bytes : List UInt8) : List Char :=
  let cs := bytes.map fun b => Char.ofNat b.toNat
  let quote := quoteFor cs
  let encodeByte (c : Char) : List Char :=
    if isAscii c then encodeChar quote c else '\\' :: 'x' :: hexDigits 2 c.toNat
  'b' :: quote :: cs.flatMap encodeByte ++ [quote]

private def codeChar? (digits : List Char) : Option Char :=
  (readHex? digits).bind fun n => if h : n.isValidChar then some (Char.ofNatAux n h) else none

/-- The characters up to the closing quote, which must end the text. -/
def decodeBody? (quote : Char) : List Char → Option (List Char)
  | [] => none
  | '\\' :: 't' :: rest => (decodeBody? quote rest).map ('\t' :: ·)
  | '\\' :: 'n' :: rest => (decodeBody? quote rest).map ('\n' :: ·)
  | '\\' :: 'r' :: rest => (decodeBody? quote rest).map ('\r' :: ·)
  | '\\' :: 'x' :: a :: b :: rest =>
    (codeChar? [a, b]).bind fun c => (decodeBody? quote rest).map (c :: ·)
  | '\\' :: 'u' :: a :: b :: c :: d :: rest =>
    (codeChar? [a, b, c, d]).bind fun x => (decodeBody? quote rest).map (x :: ·)
  | '\\' :: 'U' :: a :: b :: c :: d :: e :: f :: g :: h :: rest =>
    (codeChar? [a, b, c, d, e, f, g, h]).bind fun x => (decodeBody? quote rest).map (x :: ·)
  | '\\' :: c :: rest =>
    if c == '\\' || c == '\'' || c == '"' then (decodeBody? quote rest).map (c :: ·) else none
  | c :: rest =>
    if c == quote then if rest.isEmpty then some [] else none
    else if c == '\n' || c == '\r' then none
    else (decodeBody? quote rest).map (c :: ·)

/-- The text of a literal between single or double quotes. -/
def decode? : List Char → Option (List Char)
  | quote :: rest => if quote == '\'' || quote == '"' then decodeBody? quote rest else none
  | [] => none

end CatalogEntities.Text.Literal
