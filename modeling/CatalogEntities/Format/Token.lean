import CatalogEntities.Text.Span

/-!
Source text as logical lines of tokens. A logical line ends with the physical line on which no
bracket is open any more.

Main definition: `SourceLine.read?`.
-/

namespace CatalogEntities.Format

open Text

inductive TokenKind
  | name
  | number
  | string
  | operator
  deriving DecidableEq, Repr

structure Token where
  kind : TokenKind
  text : String
  deriving DecidableEq, Repr

namespace Token

def isOperator (t : Token) (text : String) : Bool := t.kind == .operator && t.text == text

def isWord (t : Token) (text : String) : Bool := t.kind == .name && t.text == text

end Token

/-- Operators and delimiters, the longer ones first. -/
def operators : List String := [
  "**=", "//=", ">>=", "<<=", "==", "!=", "<=", ">=", "+=", "-=", "*=", "/=", "%=", "&=", "|=",
  "^=", "@=", "**", "//", "<<", ">>", "->", ":=", "(", ")", "[", "]", "\x7b", "\x7d", ",", ":", ".",
  ";", "@", "=", "+", "-", "*", "/", "%", "&", "|", "^", "~", "<", ">"]

/-- Marks that may stand in front of a string literal, in lower case. -/
def stringMarks : List String := ["r", "u", "b", "f", "br", "rb", "fr", "rf"]

/-- The characters of a literal up to its closing quote, that included, and what follows. The
text before the function is called is the opening quote. -/
def closeQuote (quote : Char) : List Char → Option (List Char × List Char)
  | [] => none
  | '\\' :: c :: rest => (closeQuote quote rest).map fun (a, b) => ('\\' :: c :: a, b)
  | c :: rest =>
    if c == quote then some ([c], rest)
    else if c == '\n' then none
    else (closeQuote quote rest).map fun (a, b) => (c :: a, b)

/-- The same for a literal between threefold quotes, which may span lines. -/
def closeThreeQuotes (quote : Char) : List Char → Option (List Char × List Char)
  | [] => none
  | '\\' :: c :: rest => (closeThreeQuotes quote rest).map fun (a, b) => ('\\' :: c :: a, b)
  | c :: rest =>
    if c == quote && [quote, quote].isPrefixOf rest then some ([quote, quote, quote], rest.drop 2)
    else (closeThreeQuotes quote rest).map fun (a, b) => (c :: a, b)

/-- A string literal at the start of the text. -/
def stringAt? : List Char → Option (List Char × List Char)
  | [] => none
  | quote :: rest =>
    if quote != '\'' && quote != '"' then none
    else if [quote, quote].isPrefixOf rest then
      (closeThreeQuotes quote (rest.drop 2)).map fun (a, b) => (quote :: quote :: quote :: a, b)
    else (closeQuote quote rest).map fun (a, b) => (quote :: a, b)

/-- Digits with underscores between them. -/
def isDigits (p : Char → Bool) (cs : List Char) : Bool :=
  !cs.isEmpty && (splitAt '_' cs).all fun run => !run.isEmpty && run.all p

def isHexDigit (c : Char) : Bool := (Char.toLower c).isDigit || ('a' ≤ c.toLower && c.toLower ≤ 'f')

/-- A number without a base prefix: digits, perhaps a fraction and an exponent. An integer starts
with zero only if it is zero. -/
def isDecimalNumber (cs : List Char) : Bool :=
  let cs := if cs.getLast? == some 'j' then cs.dropLast else cs
  match cut? 'e' cs with
  | some (mantissa, exponent) =>
    let digits := match exponent with
      | '+' :: rest => rest
      | '-' :: rest => rest
      | rest => rest
    isDigits isAsciiDigit digits && isMantissa mantissa
  | none =>
    isMantissa cs &&
    (cs.contains '.' || cs.head? != some '0' || cs.all fun c => c == '0' || c == '_')
where
  isMantissa (cs : List Char) : Bool :=
    match cut? '.' cs with
    | none => isDigits isAsciiDigit cs
    | some (whole, fraction) =>
      (whole.isEmpty || isDigits isAsciiDigit whole) &&
        (fraction.isEmpty || isDigits isAsciiDigit fraction) && !(whole.isEmpty && fraction.isEmpty)

/-- Whether the text, in lower case, is a number. -/
def isNumber (cs : List Char) : Bool :=
  match cs with
  | '0' :: 'x' :: rest => isDigits isHexDigit rest
  | '0' :: 'o' :: rest => isDigits (fun c => '0' ≤ c && c ≤ '7') rest
  | '0' :: 'b' :: rest => isDigits (fun c => c == '0' || c == '1') rest
  | cs => isDecimalNumber cs

/-- The characters of a number and what follows; a sign belongs to it behind an exponent mark. -/
def numberRun (decimal : Bool) : List Char → List Char × List Char
  | [] => ([], [])
  | c :: rest =>
    if isAsciiDigit c || isAsciiLetter c || c == '_' || c == '.' then
      match rest with
      | sign :: more =>
        if decimal && (c == 'e' || c == 'E') && (sign == '+' || sign == '-') then
          let (run, after) := numberRun decimal more
          (c :: sign :: run, after)
        else
          let (run, after) := numberRun decimal (sign :: more)
          (c :: run, after)
      | [] => ([c], [])
    else ([], c :: rest)

def isBasePrefix (cs : List Char) : Bool :=
  match cs with
  | '0' :: c :: _ => c == 'x' || c == 'X' || c == 'b' || c == 'B' || c == 'o' || c == 'O'
  | _ => false

def numberAt? (cs : List Char) : Option (List Char × List Char) :=
  let (run, rest) := numberRun (!isBasePrefix cs) cs
  if isNumber (run.map Char.toLower) then some (run, rest) else none

/-- A token at the start of a text that starts with no blank. -/
def tokenAt? (cs : List Char) : Option (Token × List Char) :=
  match cs with
  | [] => none
  | c :: rest =>
    if startsIdentifier c then
      let word := cs.takeWhile continuesIdentifier
      let after := cs.dropWhile continuesIdentifier
      let marked := stringMarks.contains (String.ofList (word.map Char.toLower))
      let string := if marked then stringAt? after else none
      match string with
      | some (literal, after) => some (⟨.string, String.ofList (word ++ literal)⟩, after)
      | none => some (⟨.name, String.ofList word⟩, after)
    else if c == '\'' || c == '"' then
      (stringAt? cs).map fun (literal, after) => (⟨.string, String.ofList literal⟩, after)
    else if isAsciiDigit c || (c == '.' && (rest.head?.map isAsciiDigit).getD false) then
      (numberAt? cs).map fun (run, after) => (⟨.number, String.ofList run⟩, after)
    else
      (operators.find? fun op => op.toList.isPrefixOf cs).map fun op =>
        (⟨.operator, op⟩, cs.drop op.length)

/-- A logical line: the column that it starts in, the number of empty lines before it, its tokens
and the comment at its end. A line of its own for a comment has no tokens. -/
structure SourceLine where
  column : Nat
  blankBefore : Nat
  tokens : List Token
  comment : Option String
  deriving DecidableEq, Repr

namespace SourceLine

def isGap (c : Char) : Bool := c == ' ' || c == '\t' || c == '\x0c'

/-- Tokens and comment up to the end of the logical line, and the text after it. Comments between
brackets are refused. -/
def tokensAt? : Nat → Nat → List Char → Option (List Token × Option String × List Char)
  | 0, _, _ => none
  | fuel + 1, depth, cs =>
    match cs.dropWhile isGap with
    | [] => if depth == 0 then some ([], none, []) else none
    | '\n' :: rest => if depth == 0 then some ([], none, rest) else tokensAt? fuel depth rest
    | '\\' :: '\n' :: rest => tokensAt? fuel depth rest
    | '#' :: rest =>
      if depth == 0 then
        let comment := String.ofList ('#' :: rest.takeWhile (· != '\n'))
        some ([], some comment, (rest.dropWhile (· != '\n')).drop 1)
      else none
    | cs => do
      let (token, rest) ← tokenAt? cs
      let opens := token.kind == .operator && ["(", "[", "\x7b"].contains token.text
      let closes := token.kind == .operator && [")", "]", "\x7d"].contains token.text
      if closes && depth == 0 then none
      else
        let depth := if opens then depth + 1 else if closes then depth - 1 else depth
        let (tokens, comment, rest) ← tokensAt? fuel depth rest
        some (token :: tokens, comment, rest)

/-- The column after blanks at the start of a line; tabulators lead to multiples of eight. -/
def indentation (column : Nat) : List Char → Nat × List Char
  | ' ' :: rest => indentation (column + 1) rest
  | '\t' :: rest => indentation ((column / 8 + 1) * 8) rest
  | '\x0c' :: rest => indentation 0 rest
  | rest => (column, rest)

def readFrom? : Nat → Nat → List Char → Option (List SourceLine)
  | 0, _, _ => none
  | fuel + 1, blanks, cs =>
    match indentation 0 cs with
    | (_, []) => some []
    | (_, '\n' :: rest) => readFrom? fuel (blanks + 1) rest
    | (column, cs) => do
      let (tokens, comment, rest) ← tokensAt? (cs.length + 1) 0 cs
      let more ← readFrom? fuel 0 rest
      some (⟨column, blanks, tokens, comment⟩ :: more)

/-- Carriage returns end lines as line feeds do. -/
def plainEnds : List Char → List Char
  | [] => []
  | '\r' :: '\n' :: rest => '\n' :: plainEnds rest
  | '\r' :: rest => '\n' :: plainEnds rest
  | c :: rest => c :: plainEnds rest

/-- The logical lines of a source text, unless it has none by the rules of the language. -/
def read? (cs : List Char) : Option (List SourceLine) :=
  let cs := plainEnds cs
  readFrom? (cs.length + 1) 0 cs

end SourceLine

end CatalogEntities.Format
