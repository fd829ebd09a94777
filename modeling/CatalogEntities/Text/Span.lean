import CatalogEntities.Text.CharClass

/-!
Cutting, joining and replacing on characters. Strings enter and leave through `onChars`.
-/

namespace CatalogEntities.Text

def onChars (f : List Char → List Char) (s : String) : String := String.ofList (f s.toList)

def trimStart (p : Char → Bool) (cs : List Char) : List Char := cs.dropWhile p

def trimEnd (p : Char → Bool) (cs : List Char) : List Char := (cs.reverse.dropWhile p).reverse

/-- The text without the blanks at its two ends. -/
def trim (cs : List Char) : List Char := trimEnd isBlank (trimStart isBlank cs)

/-- The pieces between the characters that satisfy `p`; one more piece than separators. -/
def splitWhere (p : Char → Bool) : List Char → List (List Char)
  | [] => [[]]
  | c :: rest =>
    match splitWhere p rest with
    | [] => [[c]]
    | piece :: pieces => if p c then [] :: piece :: pieces else (c :: piece) :: pieces

/-- The pieces between separators. -/
def splitAt (sep : Char) (cs : List Char) : List (List Char) := splitWhere (· == sep) cs

/-- Maximal runs of characters that do not satisfy `p`. -/
def pieces (p : Char → Bool) (cs : List Char) : List (List Char) :=
  (splitWhere p cs).filter (!·.isEmpty)

/-- The text before and after the first separator. -/
def cut? (sep : Char) : List Char → Option (List Char × List Char)
  | [] => none
  | c :: rest => if c == sep then some ([], rest) else (cut? sep rest).map fun (a, b) => (c :: a, b)

/-- The text before and after the last separator. -/
def cutLast? (sep : Char) : List Char → Option (List Char × List Char)
  | [] => none
  | c :: rest =>
    match cutLast? sep rest with
    | some (a, b) => some (c :: a, b)
    | none => if c == sep then some ([], rest) else none

/-- Whether `part` occurs in the text. -/
def occursIn (part : List Char) : List Char → Bool
  | [] => part.isEmpty
  | c :: rest => part.isPrefixOf (c :: rest) || occursIn part rest

/-- The lines of a text, each without its end; no line follows a final line end. -/
def lines : List Char → List (List Char)
  | [] => []
  | '\r' :: '\n' :: rest => [] :: lines rest
  | c :: rest =>
    if isLineEnd c then
      [] :: lines rest
    else
      match lines rest with
      | [] => [[c]]
      | line :: more => (c :: line) :: more

/-- Pieces joined by a separator. -/
def joinWith (sep : String) (pieces : List String) : String := sep.intercalate pieces

end CatalogEntities.Text
