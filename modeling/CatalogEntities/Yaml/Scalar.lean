import CatalogEntities.Yaml.Cursor

/-!
The four notations of YAML scalars: plain, between single quotes, between double quotes, and as a
block of lines. Line ends within a scalar are folded: one becomes a space, of several the first is
dropped.
-/

namespace CatalogEntities.Yaml

open Text

/-- The characters of a scalar and the cursor after it. -/
abbrev Scanned := List Char × Cursor

/-- The line end between two parts of a scalar, folded with the line ends after it. -/
def fold (first : Char) (more : List Char) : List Char :=
  if first != '\n' then first :: more else if more.isEmpty then [' '] else more

/-! Plain scalars -/

def isFlowMark (c : Char) : Bool := c == ',' || c == '[' || c == ']' || c == '\x7b' || c == '\x7d'

/-- The part of a plain scalar up to a space, a line end, or a mark that ends it. -/
def plainRun (inFlow : Bool) : List Char → List Char
  | [] => []
  | c :: rest =>
    let ends := isSpace c || isBreak c ||
      (c == ':' && (Cursor.endsWord rest.head? || (inFlow && rest.head?.any isFlowMark))) ||
      (inFlow && (c == '?' || isFlowMark c))
    if ends then [] else c :: plainRun inFlow rest

/-- Spaces and line ends; nothing if a mark between documents follows one of the line ends. -/
def plainBreaks : Nat → Cursor → Option (List Char) × Cursor
  | 0, c => (some [], c)
  | fuel + 1, c =>
    if c.peek == some ' ' then plainBreaks fuel c.next
    else match c.lineEnd? with
      | none => (some [], c)
      | some (end_, after) =>
        if after.atSeparator then (none, after)
        else
          let (more, c) := plainBreaks fuel after
          (more.map (end_ :: ·), c)

/-- What joins two parts of a plain scalar, and whether there was a line end in it. -/
def plainGap (c : Cursor) : List Char × Bool × Cursor :=
  let (spaces, c) := c.run (· == ' ')
  match c.lineEnd? with
  | none => (spaces, false, c)
  | some (end_, after) =>
    if after.atSeparator then ([], true, after)
    else
      match plainBreaks after.rest.length after with
      | (none, c) => ([], true, c)
      | (some more, c) => (fold end_ more, true, c)

/-- A plain scalar of lines at or beyond `indent`; tells whether it ended with a line end. -/
def plain (inFlow : Bool) (indent : Nat) : Nat → (gap : List Char) → (broken : Bool) → Cursor →
    List Char × Bool × Cursor
  | 0, _, broken, c => ([], broken, c)
  | fuel + 1, gap, broken, c =>
    let part := if c.peek == some '#' then [] else plainRun inFlow c.rest
    if part.isEmpty then ([], broken, c)
    else
      let (nextGap, nextBroken, after) := plainGap (c.skip part.length)
      if nextGap.isEmpty || after.peek == some '#' || (!inFlow && after.column < indent) then
        (gap ++ part, nextBroken, after)
      else
        let (more, ended, last) := plain inFlow indent fuel nextGap nextBroken after
        (gap ++ part ++ more, ended, last)

/-! Quoted scalars -/

/-- The character that an escape of one letter stands for. -/
def escape? (c : Char) : Option Char :=
  match c with
  | '0' => some (Char.ofNat 0)
  | 'a' => some (Char.ofNat 7)
  | 'b' => some (Char.ofNat 8)
  | 't' => some '\t'
  | '\t' => some '\t'
  | 'n' => some '\n'
  | 'v' => some (Char.ofNat 0xb)
  | 'f' => some (Char.ofNat 0xc)
  | 'r' => some '\r'
  | 'e' => some (Char.ofNat 0x1b)
  | ' ' => some ' '
  | '"' => some '"'
  | '\\' => some '\\'
  | '/' => some '/'
  | 'N' => some (Char.ofNat 0x85)
  | '_' => some (Char.ofNat 0xa0)
  | 'L' => some (Char.ofNat 0x2028)
  | 'P' => some (Char.ofNat 0x2029)
  | _ => none

/-- The number of hexadecimal digits after an escape letter. -/
def escapeLength? (c : Char) : Option Nat :=
  match c with
  | 'x' => some 2
  | 'u' => some 4
  | 'U' => some 8
  | _ => none

/-- The character of a code; surrogates are replaced. -/
def codeChar (code : Nat) : Except Fault Char :=
  if code < 0x110000 then .ok (if code.isValidChar then Char.ofNat code else Char.ofNat 0xfffd)
  else .error (.noValue "chr() arg not in range(0x110000)")

def readCode (length : Nat) (c : Cursor) : Except Fault (Char × Cursor) :=
  let digits := c.rest.take length
  match digits.length == length, Literal.readHex? digits with
  | true, some code => (codeChar code).map fun ch => (ch, c.skip length)
  | _, _ => .error .malformed

/-- Line ends with the spaces around them; a mark between documents may not follow one. -/
def quotedBreaks : Nat → Cursor → Except Fault Scanned
  | 0, c => .ok ([], c)
  | fuel + 1, c =>
    if c.atSeparator then .error .malformed
    else
      let c := c.skipRun isSpace
      match c.lineEnd? with
      | none => .ok ([], c)
      | some (end_, after) => (quotedBreaks fuel after).map fun (more, c) => (end_ :: more, c)

/-- Spaces within quotes; they vanish around line ends, which are folded. -/
def quotedGap (c : Cursor) : Except Fault Scanned :=
  let (spaces, c) := c.run isSpace
  match c.peek, c.lineEnd? with
  | none, _ => .error .malformed
  | _, none => .ok (spaces, c)
  | _, some (end_, after) =>
    (quotedBreaks after.rest.length after).map fun (more, c) => (fold end_ more, c)

/-- An escape; the cursor is after the backslash. -/
def readEscape (c : Cursor) : Except Fault Scanned :=
  match c.peek with
  | none => .error .malformed
  | some ch =>
    match escape? ch, escapeLength? ch, c.lineEnd? with
    | some x, _, _ => .ok ([x], c.next)
    | none, some length, _ => (readCode length c.next).map fun (x, c) => ([x], c)
    | none, none, some (_, after) => quotedBreaks after.rest.length after
    | none, none, none => .error .malformed

/-- A scalar up to its closing quote; within single quotes a doubled one stands for one. -/
def quoted (double : Bool) : Nat → Cursor → Except Fault Scanned
  | 0, _ => .error .malformed
  | fuel + 1, c =>
    let continued (part : List Char) (c : Cursor) : Except Fault Scanned :=
      (quoted double fuel c).map fun (more, last) => (part ++ more, last)
    match c.peek with
    | none => .error .malformed
    | some ch =>
      if isSpace ch || isBreak ch then
        match quotedGap c with
        | .error fault => .error fault
        | .ok (gap, after) => continued gap after
      else if double && ch == '\\' then
        match readEscape c.next with
        | .error fault => .error fault
        | .ok (part, after) => continued part after
      else if !double && ch == '\'' && c.second == some '\'' then continued ['\''] (c.skip 2)
      else if ch == (if double then '"' else '\'') then .ok ([], c.next)
      else continued [ch] c.next

/-! Block scalars -/

/-- What becomes of the line ends at the end of a block: one stays, all stay, or none. -/
inductive Chomping
  | clip
  | keep
  | strip
  deriving DecidableEq, Repr

def chomping? (c : Option Char) : Option Chomping :=
  match c with
  | some '+' => some .keep
  | some '-' => some .strip
  | _ => none

def indentDigit? (c : Option Char) : Option Nat :=
  match c with
  | some ch => if isAsciiDigit ch then some (ch.toNat - '0'.toNat) else none
  | none => none

/-- Chomping and indentation of a block, in either order. -/
def blockHeader (c : Cursor) : Except Fault (Chomping × Option Nat × Cursor) :=
  let (chomping, indent, c) : Chomping × Option Nat × Cursor :=
    match chomping? c.peek with
    | some chomping =>
      match indentDigit? c.second with
      | some d => (chomping, some d, c.skip 2)
      | none => (chomping, none, c.next)
    | none =>
      match indentDigit? c.peek with
      | some d =>
        match chomping? c.second with
        | some chomping => (chomping, some d, c.skip 2)
        | none => (.clip, some d, c.next)
      | none => (.clip, none, c)
  if indent == some 0 || !(c.peek.all fun ch => ch == ' ' || isBreak ch) then .error .malformed
  else c.finishLine.map fun c => (chomping, indent, c)

/-- The line ends before the first line of a block, and the deepest column of spaces in them. -/
def blockStart : Nat → (deepest : Nat) → Cursor → List Char × Nat × Cursor
  | 0, deepest, c => ([], deepest, c)
  | fuel + 1, deepest, c =>
    if c.peek == some ' ' then blockStart fuel (max deepest c.next.column) c.next
    else match c.lineEnd? with
      | none => ([], deepest, c)
      | some (end_, after) =>
        let (more, deepest, c) := blockStart fuel deepest after
        (end_ :: more, deepest, c)

/-- Empty lines of a block. -/
def blockBreaks (indent : Nat) : Nat → Cursor → Scanned
  | 0, c => ([], c)
  | fuel + 1, c =>
    let c := c.skipIndent indent
    match c.lineEnd? with
    | none => ([], c)
    | some (end_, after) =>
      let (more, c) := blockBreaks indent fuel after
      (end_ :: more, c)

/-- The lines of a block at its indentation. `breaks` are the line ends that are still to be
written. Between two lines that do not begin with a space, a folded block has a space in the place
of a single line end. -/
def blockLines (folded : Bool) (chomping : Chomping) (indent : Nat) :
    Nat → (breaks : List Char) → Cursor → Scanned
  | 0, _, c => ([], c)
  | fuel + 1, breaks, c =>
    let (line, c') := c.run fun ch => !isBreak ch
    let (ended, after) := match c'.lineEnd? with
      | some (end_, after) => ([end_], after)
      | none => ([], c')
    let (nextBreaks, after) := blockBreaks indent after.rest.length after
    let startsPlain (c : Cursor) : Bool := c.peek.all fun ch => !isSpace ch
    if after.column == indent && after.peek.isSome then
      let joint :=
        if folded && ended == ['\n'] && startsPlain c && startsPlain after then
          if nextBreaks.isEmpty then [' '] else []
        else ended
      let (more, last) := blockLines folded chomping indent fuel nextBreaks after
      (breaks ++ line ++ joint ++ more, last)
    else
      let tail := match chomping with
        | .clip => ended
        | .keep => ended ++ nextBreaks
        | .strip => []
      (breaks ++ line ++ tail, after)

/-- A block scalar below the given indentation; the cursor is after its mark. -/
def block (folded : Bool) (least : Nat) (c : Cursor) : Except Fault Scanned :=
  (blockHeader c).map fun (chomping, given, c) =>
    let (breaks, indent, c) : List Char × Nat × Cursor :=
      match given with
      | none =>
        let (breaks, deepest, c) := blockStart c.rest.length 0 c
        (breaks, max least deepest, c)
      | some d =>
        let indent := least + d - 1
        let (breaks, c) := blockBreaks indent c.rest.length c
        (breaks, indent, c)
    if c.column == indent && c.peek.isSome then
      blockLines folded chomping indent (c.rest.length + 1) breaks c
    else (if chomping == .keep then breaks else [], c)

end CatalogEntities.Yaml
