import CatalogEntities.Text.Case
import CatalogEntities.Text.Span

/-!
Word forms of names: snake case, Pascal case and the plural.
-/

namespace CatalogEntities.Naming

open Text

/-- An underscore before each capitalised word that follows another character on its line. -/
def breakWords : List Char → List Char
  | c :: u :: l :: rest =>
    if c != '\n' && isAsciiUpper u && isAsciiLower l then
      c :: '_' :: u :: l :: rest.takeWhile isAsciiLower ++ breakWords (rest.dropWhile isAsciiLower)
    else
      c :: breakWords (u :: l :: rest)
  | cs => cs
termination_by cs => cs.length
decreasing_by
  · have := (List.dropWhile_sublist isAsciiLower (l := rest)).length_le
    simp only [List.length_cons]
    omega
  · simp

/-- Two underscores before a capital become one. -/
def mergeBreaks : List Char → List Char
  | '_' :: '_' :: u :: rest =>
    if isAsciiUpper u then '_' :: u :: mergeBreaks rest else '_' :: mergeBreaks ('_' :: u :: rest)
  | c :: rest => c :: mergeBreaks rest
  | [] => []

/-- An underscore between a lower-case letter or digit and a capital. -/
def breakHumps : List Char → List Char
  | a :: u :: rest =>
    if (isAsciiLower a || isAsciiDigit a) && isAsciiUpper u then a :: '_' :: u :: breakHumps rest
    else a :: breakHumps (u :: rest)
  | cs => cs

def snakeChars (cs : List Char) : List Char := lower (breakHumps (mergeBreaks (breakWords cs)))

/-- Words separated by underscores, in lower case. -/
def snakeCase (s : String) : String := onChars snakeChars s

/-- The first character in upper case; it may become several. -/
def capitalise : List Char → List Char
  | [] => []
  | c :: rest => upperChar c ++ rest

def pascalChars (cs : List Char) : List Char :=
  (pieces (!isLetterOrNumeral ·) cs).flatMap capitalise

/-- Words joined, each with its first character in upper case and the others as they are. -/
def pascalCase (s : String) : String := onChars pascalChars s

def endsInS (cs : List Char) : Bool := (lower cs).getLast? == some 's'

def pluralChars (cs : List Char) : List Char := if endsInS cs then cs else cs ++ ['s']

/-- The name with a final s, unless it has one in either letter case. -/
def plural (s : String) : String := onChars pluralChars s

end CatalogEntities.Naming
