import CatalogEntities.Format.Statement

/-!
Lines of formatted code, and the splitting of lines that are too long: first at the contents of
the last brackets, then behind each delimiter of highest priority.

Main definition: `Line.layout`.
-/

namespace CatalogEntities.Format

open Text

/-- The widest line, in columns. -/
def lineLimit : Nat := 120

/-- A line at a depth of indentation. A line inside brackets may be split at its delimiters; one
to be exploded is split there whatever its width. -/
structure Line where
  depth : Nat
  items : List Item
  comment : Option String
  inBrackets : Bool
  exploded : Bool

namespace Line

def ofItems (depth : Nat) (items : List Item) (comment : Option String) : Line :=
  { depth, items, comment, inBrackets := false, exploded := false }

def indent (depth : Nat) : String := String.ofList (List.replicate (4 * depth) ' ')

/-- The code of the line, without its comment. -/
def code (l : Line) : String :=
  match l.items with
  | [] => ""
  | first :: rest => first.unspaced.text ++ Item.textAll rest

def text (l : Line) : String :=
  let tail := match l.comment with
    | some comment => if l.items.isEmpty then comment else "  " ++ comment
    | none => ""
  indent l.depth ++ l.code ++ tail

def width (l : Line) : Nat := displayWidth l.text.toList

def fits (l : Line) : Bool := l.width ≤ lineLimit

def isComment (l : Line) : Bool := l.items.isEmpty

def startsWith (l : Line) (words : List String) : Bool :=
  match l.items with
  | .token _ t :: _ => t.kind == .name && words.contains t.text
  | _ => false

def isImport (l : Line) : Bool := l.startsWith ["import", "from"]

/-- Whether a trailing comma in the line asks for splitting. A comma behind imported names always
does. -/
def asksToSplit (l : Line) : Bool :=
  anyAsksToSplit l.items || optionalAsks l.items
where
  optionalAsks (items : List Item) : Bool :=
    match items.reverse with
    | .close :: rest =>
      let inner := (rest.takeWhile fun item => match item with | .open _ => false | _ => true)
      (inner.head?.map Item.isComma).getD false && (l.isImport || 2 ≤ commaCount inner)
    | _ => false

end Line

/-! ## Delimiters -/

def commaPriority : Nat := 18

def dotPriority : Nat := 1

/-- The priority with which a line may be split in front of a token. -/
def priorityBefore (previous : Option Item) (t : Token) : Nat :=
  let afterOperand := match previous with
    | some (.token _ p) =>
      p.kind != .operator && !(Naming.keywords.contains p.text && p.kind == .name &&
        !constantWords.contains p.text)
    | some (.group _ _ _) => true
    | _ => false
  if !afterOperand then 0
  else match t.kind with
    | .string => 12
    | .name =>
      if t.text == "if" || t.text == "else" then 16
      else if t.text == "and" || t.text == "or" then 14
      else if t.text == "in" || t.text == "is" || t.text == "not" then 10
      else 0
    | .number => 0
    | .operator =>
      match t.text with
      | "." => dotPriority
      | "<" | ">" | "<=" | ">=" | "==" | "!=" => 10
      | "|" => 9
      | "^" => 8
      | "&" => 7
      | "<<" | ">>" => 6
      | "+" | "-" => 5
      | "*" | "/" | "//" | "%" | "@" => 4
      | "**" => 2
      | _ => 0

/-- The items of a line, each with the priority of a split behind it; only what stands in no
optional parentheses counts. -/
def delimiters (depth : Nat) : List Item → List (Item × Nat)
  | [] => []
  | item :: rest =>
    let after := match item with
      | .open _ => depth + 1
      | .close => depth - 1
      | _ => depth
    let own := if depth == 0 && item.isComma then commaPriority else 0
    let next := match rest with
      | .token _ t :: _ => if after == 0 && depth == 0 then priorityBefore (some item) t else 0
      | _ => 0
    (item, max own next) :: delimiters after rest

def itemDelimiters (items : List Item) : List (Item × Nat) := delimiters 0 items

/-- The highest priority among delimiters. -/
def topPriority (delimited : List (Item × Nat)) : Nat :=
  delimited.foldl (fun top pair => max top pair.2) 0

/-- The highest priority, a comma at the end aside. -/
def innerPriority (items : List Item) : Nat := topPriority (itemDelimiters items).dropLast

/-- Items cut behind each delimiter of a priority. -/
def cutBehind (priority : Nat) : List (Item × Nat) → List (List Item)
  | [] => []
  | (item, p) :: rest =>
    match cutBehind priority rest with
    | [] => [[item]]
    | piece :: pieces =>
      if p == priority then [item] :: piece :: pieces else (item :: piece) :: pieces

/-- One line per element, the last one with a comma of its own if commas divide them. A single
attribute is not taken from its object. -/
def Line.splitDelimiters? (l : Line) : Option (List Line) :=
  let delimited := itemDelimiters l.items
  let priority := innerPriority l.items
  if priority == 0 then none
  else if priority == dotPriority && (delimited.filter (·.2 == dotPriority)).length == 1 then none
  else
    let pieces := cutBehind priority delimited
    let finish (piece : List Item) : List Item :=
      if priority == commaPriority && !(piece.getLast?.map Item.isComma).getD false then
        piece ++ [.token false ⟨.operator, ","⟩]
      else piece
    let line (items : List Item) (comment : Option String) : Line :=
      { depth := l.depth, items := items, comment := comment, inBrackets := l.inBrackets,
        exploded := false }
    match pieces.reverse with
    | [] => none
    | last :: before => some (before.reverse.map (line · none) ++ [line (finish last) l.comment])

/-! ## Brackets -/

/-- A line cut at a pair of brackets, with the place of the closing one among the items. -/
structure BracketCut where
  head : List Item
  body : List Item
  tail : List Item
  place : Nat
  isOptional : Bool
  /-- Whether the brackets belong to a display or an import, whose elements never share a line. -/
  isDisplay : Bool

/-- The items in front of optional parentheses that close here, the space in front of them, and
the items between them. The items are given in reverse order. -/
def takeOptional (inner : List Item) : List Item → Option (List Item × Bool × List Item)
  | [] => none
  | .open space :: rest => some (rest.reverse, space, inner)
  | item :: rest => takeOptional (item :: inner) rest

/-- The last brackets with something between them, those at omitted places aside. The items are
given in reverse order; `tail` holds those behind. -/
def lastBrackets? (omitted : List Nat) (tail : List Item) : List Item → Option BracketCut
  | [] => none
  | item :: rest =>
    let place := rest.length
    match item with
    | .group space kind body =>
      if body.isEmpty || omitted.contains place then lastBrackets? omitted (item :: tail) rest
      else some
        { head := rest.reverse ++ [.token space ⟨.operator, kind.opening⟩]
          body := body
          tail := .token false ⟨.operator, kind.closing⟩ :: tail
          place := place
          isOptional := false
          isDisplay := match kind with
            | .parentheses | .list | .braces => true
            | _ => false }
    | .close =>
      if omitted.contains place then lastBrackets? omitted (item :: tail) rest
      else (takeOptional [] rest).map fun (head, space, inner) =>
        { head := head ++ [.open space]
          body := inner
          tail := .close :: tail
          place := place
          isOptional := true
          isDisplay := true }
    | _ => lastBrackets? omitted (item :: tail) rest

/-- Optional parentheses at the end of a head and at the start of a tail made visible. -/
def showOpening (items : List Item) : List Item :=
  match items.reverse with
  | .open space :: rest => (Item.token space ⟨.operator, "("⟩ :: rest).reverse
  | _ => items

def showClosing (items : List Item) : List Item :=
  match items with
  | .close :: rest => .token false ⟨.operator, ")"⟩ :: rest
  | items => items

def unspacedHead (items : List Item) : List Item :=
  match items with
  | item :: rest => item.unspaced :: rest
  | [] => []

namespace BracketCut

/-- The line in front of the brackets; optional parentheses are not counted in its width. -/
def headLine (c : BracketCut) (l : Line) : Line := .ofItems l.depth c.head none

/-- The comment of the whole line stands behind a single token in optional parentheses, else at
the end. -/
def holdsComment (c : BracketCut) : Bool :=
  c.isOptional && c.tail.length == 1 &&
    match c.body with
    | [.token _ _] => true
    | _ => false

/-- The line between the brackets. Imported names get a comma at their end. -/
def bodyLine (c : BracketCut) (l : Line) : Line :=
  let ended := (c.body.getLast?.map Item.isComma).getD false
  let items := if l.isImport && !ended then c.body ++ [.token false ⟨.operator, ","⟩] else c.body
  let trailing := (items.getLast?.map Item.isComma).getD false
  { depth := l.depth + 1
    items := unspacedHead items
    comment := if c.holdsComment then l.comment else none
    inBrackets := true
    exploded := innerPriority items == commaPriority && (trailing || c.isDisplay) }

def lines (c : BracketCut) (l : Line) : List Line :=
  let tail : Line :=
    { depth := l.depth, items := unspacedHead (showClosing c.tail)
      comment := if c.holdsComment then none else l.comment
      inBrackets := l.inBrackets, exploded := false }
  let head : Line :=
    { depth := l.depth, items := showOpening c.head, comment := none, inBrackets := l.inBrackets
      exploded := false }
  [head, c.bodyLine l, tail].filter (!·.items.isEmpty)

end BracketCut

/-- Whether a line has brackets or operators to be split at. -/
def canBeSplit (items : List Item) : Bool :=
  match items with
  | [] => false
  | [.token _ _] => false
  | _ => true

def isOpeningItem (item : Item) : Bool :=
  match item with
  | .group _ _ _ => true
  | _ => false

/-- Whether a body reads well without the optional parentheses around it: it has no delimiter, or
a single one and brackets at an end that take the split. -/
def mayOmitParentheses (c : BracketCut) (l : Line) : Bool :=
  let delimited := itemDelimiters c.body
  let top := topPriority delimited
  let count := (delimited.filter (·.2 == top)).length
  if top == 0 then true
  else if 1 < count then false
  else if top == dotPriority then true
  else
    let column := 4 * (l.depth + 1)
    let length (items : List Item) : Nat := (Item.textAll items).length
    let opening := match c.body with
      | .group _ kind body :: rest =>
        body.isEmpty && column + kind.opening.length + kind.closing.length + length rest ≤ lineLimit
      | _ => false
    let closing := match c.body.reverse with
      | .group _ kind body :: before =>
        kind != .subscript && !body.isEmpty &&
          (before.any isOpeningItem || column + length before.reverse + 1 ≤ lineLimit)
      | _ => false
    opening || closing

/-- Whether a split inside optional parentheses is better than one at them. At the parentheses is
better only behind an equals sign whose left side holds brackets and leaves no room for
the other. -/
def prefersInner (inner outer : BracketCut) (l : Line) : Bool :=
  let left := outer.head.dropLast
  let equals (items : List Item) : Nat := (items.filter Item.isEqual).length
  let hasBrackets := left.any fun item => match item with
    | .token _ _ => false
    | _ => true
  if !(left.getLast?.map Item.isEqual).getD false then true
  else if !hasBrackets then true
  else if !((outer.headLine l).width ≤ lineLimit - 1) then true
  else if 1 < equals outer.head && equals inner.head < equals outer.head then false
  else
    let behindEqual := inner.head.reverse.takeWhile (!·.isEqual)
    let closed := behindEqual.any fun item => match item with
      | .group _ _ _ => true
      | .close => true
      | _ => false
    closed || (0 < equals inner.head && (inner.headLine l).fits)

/-- Where nothing inside can be split, optional parentheses help only if something can be split in
them later or they hold it all. -/
def parenthesesHelp (l : Line) (c : BracketCut) : Bool :=
  1 < (l.items.filter Item.isEqual).length || canBeSplit c.body || (c.bodyLine l).fits

/-- The lines of a cut, or of a cut further inside if that is better. `forced` keeps optional
parentheses. Also tells whether optional parentheses are shown. -/
def settle : Nat → Bool → List Nat → Line → BracketCut → Option (List Line × Bool)
  | 0, _, _, _, _ => none
  | fuel + 1, forced, omitted, l, c =>
    let own : Option (List Line × Bool) := some (c.lines l, c.isOptional)
    if forced || !c.isOptional || l.isImport || !mayOmitParentheses c l then own
    else
      let omitted := c.place :: omitted
      match lastBrackets? omitted [] l.items.reverse with
      | some inner =>
        if prefersInner inner c l then
          match settle fuel forced omitted l inner with
          | some result => some result
          | none => if parenthesesHelp l c then own else none
        else own
      | none => if parenthesesHelp l c then own else none

def splitBrackets? (forced : Bool) (omitted : List Nat) (l : Line) : Option (List Line × Bool) :=
  (lastBrackets? omitted [] l.items.reverse).bind (settle (l.items.length + 1) forced omitted l)

/-- Sets of places to be left alone, growing from the right while what they close fits on a line.
The items are given in reverse order. -/
def omissions (length : Nat) (omitted : List Nat) (closing : Option Nat) :
    List Item → List (List Nat)
  | [] => []
  | item :: rest =>
    let place := rest.length
    let size := item.text.length
    let grown := match closing with
      | some c => c :: omitted
      | none => omitted
    match item with
    | .group _ kind body =>
      if lineLimit < length + 1 then []
      else if body.isEmpty then omissionsIf (length + size) omitted closing rest
      else
        let found := if closing.isSome then [grown] else []
        if kind.asksToSplit body then found
        else found ++ omissionsIf (length + size) grown (some place) rest
    | .close =>
      if closing.isSome then grown :: omissions length grown closing rest
      else omissions length omitted closing rest
    | _ => omissionsIf (length + size) omitted closing rest
termination_by items => (items.length, 0)
where
  omissionsIf (length : Nat) (omitted : List Nat) (closing : Option Nat) (rest : List Item) :
      List (List Nat) :=
    if lineLimit < length then [] else omissions length omitted closing rest
  termination_by (rest.length, 1)

/-- The first way to leave brackets alone under which the first line fits, or else the split at
the last brackets. -/
def splitAtBrackets? (forced : Bool) (l : Line) : Option (List Line × Bool) :=
  let size := match l.comment with
    | some comment => comment.length + 2
    | none => 0
  let candidates :=
    (if l.asksToSplit then [] else [[]]) ++ omissions (4 * l.depth + size) [] none l.items.reverse
  attempt candidates
where
  attempt : List (List Nat) → Option (List Line × Bool)
    | [] => splitBrackets? forced [] l
    | omitted :: more =>
      match splitBrackets? forced omitted l with
      | none => none
      | some (lines, shown) =>
        if (lines.head?.map Line.fits).getD false then some (lines, shown) else attempt more

namespace Line

/-- A line as it is written: itself if it fits, else the lines that it is split into. -/
def layout : Nat → Bool → Line → List Line
  | 0, _, l => [l]
  | fuel + 1, forced, l =>
    if l.isComment || (!l.exploded && !l.asksToSplit && l.fits) then [l]
    else
      let changed (lines : List Line) : Bool := lines.all (·.text != l.text)
      let laid (forced : Bool) (lines : List Line) : List Line := lines.flatMap (layout fuel forced)
      match (if l.inBrackets then l.splitDelimiters?.filter changed else none) with
      | some lines => laid forced lines
      | none =>
        match splitAtBrackets? forced l with
        | none => [l]
        | some (lines, shown) =>
          if !changed lines then [l]
          else
            let result := laid forced lines
            let hasOptional := l.items.any fun item => match item with
              | .open _ => true
              | _ => false
            if forced || !hasOptional || shown || (result.head?.map Line.fits).getD false then
              result
            else
              match splitAtBrackets? true l with
              | none => [l]
              | some (lines, _) =>
                let second := laid true lines
                if changed lines && second.all Line.fits then second else result

end Line

end CatalogEntities.Format
