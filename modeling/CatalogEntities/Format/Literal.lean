import CatalogEntities.Format.Token

/-!
Literals in normal form: double quotes around strings unless that takes more backslashes, and
numbers in lower case without redundant signs and dots.
-/

namespace CatalogEntities.Format

open Text

/-- Removes the backslash in front of each escaped `quote`. -/
def unescapeQuote (quote : Char) : List Char → List Char
  | [] => []
  | '\\' :: c :: rest =>
    if c == quote then c :: unescapeQuote quote rest else '\\' :: c :: unescapeQuote quote rest
  | c :: rest => c :: unescapeQuote quote rest

/-- Puts a backslash in front of each `quote` that is not escaped. -/
def escapeQuote (quote : Char) : List Char → List Char
  | [] => []
  | '\\' :: c :: rest => '\\' :: c :: escapeQuote quote rest
  | c :: rest =>
    if c == quote then '\\' :: c :: escapeQuote quote rest else c :: escapeQuote quote rest

/-- Whether a `quote` stands in the text without a backslash. -/
def hasBareQuote (quote : Char) : List Char → Bool
  | [] => false
  | '\\' :: _ :: rest => hasBareQuote quote rest
  | c :: rest => c == quote || hasBareQuote quote rest

/-- A literal's body between other quotes: the better of the two forms, with its quote. `raw` tells
that backslashes may not be changed. -/
def preferQuote (raw : Bool) (quote : Char) (body : List Char) : Char × List Char :=
  let other := if quote == '"' then '\'' else '"'
  if raw then
    if hasBareQuote other body || quote == '"' then (quote, body) else (other, body)
  else
    let body := unescapeQuote other body
    let turned := escapeQuote other (unescapeQuote quote body)
    let before := body.count '\\'
    let after := turned.count '\\'
    if after > before || (after == before && quote == '"') then (quote, body) else (other, turned)

/-- Hexadecimal escapes in lower case. -/
def lowerEscapes : List Char → List Char
  | [] => []
  | '\\' :: 'x' :: a :: b :: rest => '\\' :: 'x' :: a.toLower :: b.toLower :: lowerEscapes rest
  | '\\' :: 'u' :: a :: b :: c :: d :: rest =>
    '\\' :: 'u' :: a.toLower :: b.toLower :: c.toLower :: d.toLower :: lowerEscapes rest
  | '\\' :: 'U' :: a :: b :: c :: d :: e :: f :: g :: h :: rest =>
    '\\' :: 'U' :: a.toLower :: b.toLower :: c.toLower :: d.toLower :: e.toLower :: f.toLower ::
      g.toLower :: h.toLower :: lowerEscapes rest
  | '\\' :: c :: rest => '\\' :: c :: lowerEscapes rest
  | c :: rest => c :: lowerEscapes rest

/-- The marks in front of a literal: lower case, except that a raw mark keeps its case; the mark
for text says nothing. -/
def normalMarks (marks : List Char) : List Char :=
  (marks.filter fun c => c != 'u' && c != 'U').map fun c => if c == 'R' then c else c.toLower

def normalString (literal : List Char) : List Char :=
  let isMark (c : Char) : Bool := c != '\'' && c != '"'
  let marks := literal.takeWhile isMark
  let raw := marks.contains 'r' || marks.contains 'R'
  match literal.dropWhile isMark with
  | a :: b :: c :: rest =>
    if a == b && b == c then
      let body := rest.take (rest.length - 3)
      let quote := if hasBareQuote '"' body || body.getLast? == some '\\' then a else '"'
      normalMarks marks ++ [quote, quote, quote] ++ body ++ [quote, quote, quote]
    else
      let body := (b :: c :: rest).dropLast
      let (quote, body) := preferQuote raw a (if raw then body else lowerEscapes body)
      normalMarks marks ++ quote :: body ++ [quote]
  | _ :: _ => normalMarks marks ++ ['"', '"']
  | [] => literal

/-- A mantissa with a digit on both sides of its point. -/
def normalMantissa (cs : List Char) : List Char :=
  match cut? '.' cs with
  | none => cs
  | some (whole, fraction) =>
    (if whole.isEmpty then ['0'] else whole) ++
      '.' :: (if fraction.isEmpty then ['0'] else fraction)

def normalExponent (cs : List Char) : List Char :=
  match cs with
  | '+' :: rest => rest
  | cs => cs

def normalNumber (cs : List Char) : List Char :=
  match cs.map Char.toLower with
  | '0' :: 'x' :: rest => '0' :: 'x' :: rest.map Char.toUpper
  | '0' :: 'o' :: rest => '0' :: 'o' :: rest
  | '0' :: 'b' :: rest => '0' :: 'b' :: rest
  | cs =>
    let tail := if cs.getLast? == some 'j' then ['j'] else []
    let cs := if tail.isEmpty then cs else cs.dropLast
    match cut? 'e' cs with
    | some (mantissa, exponent) => normalMantissa mantissa ++ 'e' :: normalExponent exponent ++ tail
    | none => normalMantissa cs ++ tail

/-- A comment has a space behind its mark, unless that is a mark of its own; blanks at the end
vanish. -/
def normalComment (comment : String) : String :=
  onChars (fun cs =>
    match trimEnd isBlank cs with
    | '#' :: c :: rest =>
      if c == '\u00a0' then '#' :: ' ' :: rest
      else if [' ', '!', ':', '#', '\''].contains c then '#' :: c :: rest
      else '#' :: ' ' :: c :: rest
    | cs => cs) comment

def Token.normal (t : Token) : Token :=
  match t.kind with
  | .string => { t with text := onChars normalString t.text }
  | .number => { t with text := onChars normalNumber t.text }
  | _ => t

end CatalogEntities.Format
