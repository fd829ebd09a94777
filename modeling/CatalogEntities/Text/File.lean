import CatalogEntities.Text.Utf8

/-!
The bytes of text files as text: UTF-8 in which every line end is a line feed.
-/

namespace CatalogEntities.Text

/-- Carriage returns, alone or before a line feed, as line feeds. -/
def lineFeeds : List Char → List Char
  | '\r' :: '\n' :: rest => '\n' :: lineFeeds rest
  | '\r' :: rest => '\n' :: lineFeeds rest
  | c :: rest => c :: lineFeeds rest
  | [] => []

/-- A file that is read as a whole. -/
def readWhole (bytes : List UInt8) : Except Utf8.Fault (List Char) :=
  (Utf8.decode bytes).map lineFeeds

/-- A file that is read piece by piece. A character that breaks off at the end is only found when
nothing follows any more, so its position counts from its own first byte. -/
def readStream (bytes : List UInt8) : Except Utf8.Fault (List Char) :=
  (readWhole bytes).mapError fun fault =>
    if fault.reason == .unexpectedEnd then { fault with position := 0 } else fault

end CatalogEntities.Text
