import CatalogEntities.Format.Line

/-!
Source text in normal form: statements at their depths, the empty lines between them, and each
statement laid out within the width. Text that is no module of statements has no normal form.

Main definition: `normalForm?`.
-/

namespace CatalogEntities.Format

open Text

/-- A statement or comment of its own line, with the empty lines that stood before it. -/
structure Entry where
  line : Line
  blankBefore : Nat
  opensBlock : Bool

namespace Entry

def depth (e : Entry) : Nat := e.line.depth

def isClass (e : Entry) : Bool := e.line.startsWith ["class"]

def isImport (e : Entry) : Bool := e.line.isImport

def isComment (e : Entry) : Bool := e.line.isComment

end Entry

/-! ## Depths -/

/-- Columns of the open blocks, the innermost first, and comments whose depth is still open. -/
structure Blocks where
  columns : List Nat := [0]
  expectsBlock : Bool := false
  comments : List SourceLine := []

def commentEntry (depth : Nat) (source : SourceLine) : Entry :=
  { line := .ofItems depth [] (source.comment.map normalComment)
    blankBefore := source.blankBefore
    opensBlock := false }

/-- Comments before a statement in column `column`: each belongs to the innermost block that it is
not left of, but to none further inside than those that are still open behind the comment before. -/
def placeComments (column : Nat) : List Nat → List SourceLine → List Entry
  | _, [] => []
  | columns, c :: rest =>
    let open_ := columns.dropWhile fun k => column < k && c.column < k
    commentEntry (open_.length - 1) c :: placeComments column open_ rest

def entriesOf (depth : Nat) (source : SourceLine) (head : Option (List Item))
    (inner : List (List Item)) :
    List Entry :=
  let comment := source.comment.map normalComment
  let count := head.toList.length + inner.length
  let all := head.toList.map (·, depth, inner.isEmpty) ++
    inner.map (·, (if head.isSome then depth + 1 else depth), false)
  all.zipIdx.map fun ((items, depth, opens), i) =>
    { line := .ofItems depth items (if i + 1 == count then comment else none)
      blankBefore := if i == 0 then source.blankBefore else 0
      opensBlock := opens || (head.isSome && i == 0) }

/-- The entries of logical lines. -/
def entries? (b : Blocks) : List SourceLine → Option (List Entry)
  | [] => if b.expectsBlock then none else some (placeComments 0 b.columns b.comments)
  | source :: rest => do
    if source.tokens.isEmpty then
      entries? { b with comments := b.comments ++ [source] } rest
    else
      let (head, inner) ← statements? source.tokens
      let current := b.columns.headD 0
      let expectsBlock := head.isSome && inner.isEmpty
      if b.expectsBlock then
        if source.column ≤ current then none
        else
          let columns := source.column :: b.columns
          let more ← entries? { columns, expectsBlock } rest
          some (b.comments.map (commentEntry (columns.length - 1)) ++
            entriesOf (columns.length - 1) source head inner ++ more)
      else
        let columns := b.columns.dropWhile (source.column < ·)
        if columns.head? != some source.column then none
        else
          let more ← entries? { columns, expectsBlock } rest
          some (placeComments source.column b.columns b.comments ++
            entriesOf (columns.length - 1) source head inner ++ more)

/-! ## Empty lines -/

/-- Entries with the empty lines before them, the last one first; the depths of the classes that
later entries may close; and the comment that leads what follows, by its place. -/
structure Spacing where
  placed : List (Nat × Entry) := []
  classes : List Nat := []
  leading : Option Nat := none

namespace Spacing

/-- Empty lines after the classes that end before an entry, and the classes that do not end. -/
def closeClasses (e : Entry) (before : Nat) : List Nat → Nat × List Nat
  | [] => (before, [])
  | depth :: rest =>
    if e.depth ≤ depth then
      let dependent := 0 < depth && e.opensBlock && !e.line.startsWith ["if", "class"]
      closeClasses e (if 0 < e.depth || dependent then 1 else 2) rest
    else (before, depth :: rest)

/-- The entry at a place and the one before it. -/
def leadingPair? (s : Spacing) : Option ((Nat × Entry) × (Nat × Entry)) := do
  let place ← s.leading
  let own ← s.placed.reverse[place]?
  let above ← if place == 0 then none else s.placed.reverse[place - 1]?
  return (own, above)

/-- Gives the leading comment at least so many empty lines before it. -/
def raiseLeading (s : Spacing) (count : Nat) : Spacing :=
  match s.leading with
  | none => s
  | some place =>
    { s with placed := (s.placed.reverse.zipIdx.map fun ((before, e), i) =>
        if i == place then (max before count, e) else (before, e)).reverse }

/-- Empty lines before a class: two at the top, one inside. A comment right above it takes them,
unless it already has more distance to what is above it. -/
def beforeClass (s : Spacing) (previous : Entry) (e : Entry) (before : Nat) : Spacing × Nat :=
  let wanted := if 0 < e.depth then 1 else 2
  if previous.depth < e.depth && previous.isClass then (s, if 0 < e.blankBefore then 1 else 0)
  else if previous.isComment && previous.depth == e.depth && before == 0 then
    match s.leadingPair? with
    | some (own, above) =>
      if !above.2.opensBlock && own.1 ≤ 1 then (s.raiseLeading wanted, 0) else (s, 0)
    | none => (s, 0)
  else (s, wanted)

/-- Places an entry behind those before it. -/
def place (s : Spacing) (e : Entry) : Spacing :=
  let allowed := min e.blankBefore (if e.depth == 0 then 2 else 1)
  let (before, classes) := closeClasses e allowed s.classes
  let (s, before) : Spacing × Nat :=
    match s.placed.head? with
    | none => (s, 0)
    | some (_, previous) =>
      if e.isClass then s.beforeClass previous e before
      else if previous.isImport && !e.isImport && previous.depth == e.depth then
        (s, if e.isComment then max before 1 else 1)
      else (s, before)
  let leads := s.placed.isEmpty || s.leading.isNone || 0 < before
  { placed := (before, e) :: s.placed
    classes := if e.isClass then e.depth :: classes else classes
    leading := if !e.isComment then none else if leads then some s.placed.length else s.leading }

end Spacing

/-- Entries with the number of empty lines before each. -/
def spacedEntries (entries : List Entry) : List (Nat × Entry) :=
  (entries.foldl Spacing.place {}).placed.reverse

/-! ## The whole text -/

def itemSize : List Item → Nat := fun items => (Item.textAll items).length

def Entry.text (e : Entry) : String :=
  "".intercalate ((e.line.layout (itemSize e.line.items + 2) false).map fun l => l.text ++ "\n")

/-- A text without statements and comments is empty, or one line end. -/
def emptyForm (source : String) : String :=
  let cs := source.toList
  if !(cs.contains '\n' || cs.contains '\r') then ""
  else if (cs.dropWhile fun c => c != '\n' && c != '\r').head? == some '\r' then "\r\n"
  else "\n"

/-- The normal form of a module's source text. -/
def normalForm? (source : String) : Option String := do
  let lines ← SourceLine.read? (trimStart isBlank source.toList)
  let entries ← entries? {} lines
  if entries.isEmpty then some (emptyForm source)
  else some ("".intercalate ((spacedEntries entries).map fun (before, e) =>
    String.ofList (List.replicate before '\n') ++ e.text))

end CatalogEntities.Format
