import CatalogEntities.Value

/-!
Texts with places to fill in: `%(name)s` for a named text, `%s` and `%d` for the next argument. A
minus sign and a width pad a named text on the right.
-/

namespace CatalogEntities.Log

open Text

/-- A place for a named text: what stands between the parentheses, the width it is padded to and
what follows the place. -/
def place? (cs : List Char) : Option (String × Nat × List Char) := do
  let (name, rest) ← cut? ')' cs
  let rest := match rest with
    | '-' :: more => more
    | more => more
  let width := Number.ofDigits ((rest.takeWhile isAsciiDigit).filterMap Number.digitValue?)
  match rest.dropWhile isAsciiDigit with
  | 's' :: after | 'd' :: after => some (String.ofList name, width, after)
  | _ => none

def padRight (width : Nat) (s : String) : List Char :=
  s.toList ++ List.replicate (width - s.length) ' '

/-- A pattern with the named texts in their places. -/
def fillNamedFrom (lookup : String → String) : Nat → List Char → List Char
  | 0, _ => []
  | _, [] => []
  | fuel + 1, '%' :: '(' :: rest =>
    match place? rest with
    | some (name, width, after) => padRight width (lookup name) ++ fillNamedFrom lookup fuel after
    | none => '%' :: '(' :: fillNamedFrom lookup fuel rest
  | fuel + 1, '%' :: '%' :: rest => '%' :: fillNamedFrom lookup fuel rest
  | fuel + 1, c :: rest => c :: fillNamedFrom lookup fuel rest

def fillNamed (pattern : String) (lookup : String → String) : String :=
  onChars (fillNamedFrom lookup (pattern.length + 1)) pattern

/-- A message with its arguments in their places. -/
def fillArguments : List Char → List Value → List Char
  | '%' :: 's' :: rest, v :: more => v.display.toList ++ fillArguments rest more
  | '%' :: 'r' :: rest, v :: more => v.literal.toList ++ fillArguments rest more
  | '%' :: 'd' :: rest, v :: more =>
    (Number.integerText (v.toInteger.toOption.getD 0)).toList ++ fillArguments rest more
  | '%' :: '%' :: rest, more => '%' :: fillArguments rest more
  | c :: rest, more => c :: fillArguments rest more
  | [], _ => []

/-- A message; without arguments it is taken as it stands. -/
def messageOf (message : String) (arguments : List Value) : String :=
  if arguments.isEmpty then message else onChars (fillArguments · arguments) message

end CatalogEntities.Log
