import CatalogEntities.Text.Literal

/-!
Reading a YAML text from left to right. Texts come from files, where every line end is a line feed;
three further characters end lines in YAML.
-/

namespace CatalogEntities.Yaml

open Text

/-- Why a document cannot be had: it is not well formed, or a scalar of it has no value. -/
inductive Fault
  | malformed
  | noValue (message : String)
  | noWord (word : String)
  deriving DecidableEq, Repr

def isBreak (c : Char) : Bool :=
  c == '\n' || c == Char.ofNat 0x85 || c == Char.ofNat 0x2028 || c == Char.ofNat 0x2029

def isSpace (c : Char) : Bool := c == ' ' || c == '\t'

def byteOrderMark : Char := Char.ofNat 0xfeff

/-- Characters that may stand in a document. -/
def isAllowed (c : Char) : Bool :=
  c == '\t' || c == '\n' || (' ' ≤ c && c ≤ '~') || c.toNat == 0x85 ||
    (0xa0 ≤ c.toNat && c.toNat ≤ 0xfffd) || 0x10000 ≤ c.toNat

/-- What is left to read, and where it begins. -/
structure Cursor where
  rest : List Char
  index : Nat
  line : Nat
  column : Nat
  deriving DecidableEq, Repr

namespace Cursor

def ofText (cs : List Char) : Cursor := ⟨cs, 0, 0, 0⟩

def peek (c : Cursor) : Option Char := c.rest.head?

/-- The character after the next one. -/
def second (c : Cursor) : Option Char := c.rest.tail.head?

/-- One character further; a byte order mark has no width. -/
def next (c : Cursor) : Cursor :=
  match c.rest with
  | [] => c
  | ch :: rest =>
    if isBreak ch then ⟨rest, c.index + 1, c.line + 1, 0⟩
    else if ch == byteOrderMark then ⟨rest, c.index + 1, c.line, c.column⟩
    else ⟨rest, c.index + 1, c.line, c.column + 1⟩

def skip (c : Cursor) : Nat → Cursor
  | 0 => c
  | n + 1 => skip c.next n

/-- The longest run of characters that satisfy `p`, and the cursor after it. -/
def run (c : Cursor) (p : Char → Bool) : List Char × Cursor :=
  let taken := c.rest.takeWhile p
  (taken, c.skip taken.length)

def skipRun (c : Cursor) (p : Char → Bool) : Cursor := (c.run p).2

def skipSpaces (c : Cursor) : Cursor := c.skipRun (· == ' ')

/-- Spaces up to a column. -/
def skipIndent (c : Cursor) (column : Nat) : Cursor :=
  c.skip (min (c.rest.takeWhile (· == ' ')).length (column - c.column))

/-- The line end at the cursor, if there is one: a line feed, unless it is one of the two Unicode
separators. -/
def lineEnd? (c : Cursor) : Option (Char × Cursor) :=
  match c.peek with
  | some ch =>
    if isBreak ch then some (if ch.toNat == 0x85 then '\n' else ch, c.next) else none
  | none => none

/-- Whether a line or the text ends here. -/
def atLineEnd (c : Cursor) : Bool := c.peek.all isBreak

def endsWord (c : Option Char) : Bool := c.all fun ch => isSpace ch || isBreak ch

/-- Whether the line begins with one of the two marks between documents. -/
def atMark (c : Cursor) (mark : Char) : Bool :=
  match c.rest with
  | a :: b :: d :: rest => a == mark && b == mark && d == mark && endsWord rest.head?
  | _ => false

def atSeparator (c : Cursor) : Bool := c.atMark '-' || c.atMark '.'

/-- The rest of a line on which nothing but a comment may stand. -/
def finishLine (c : Cursor) : Except Fault Cursor :=
  let c := c.skipSpaces
  let c := if c.peek == some '#' then c.skipRun fun ch => !isBreak ch else c
  if c.atLineEnd then .ok c.next else .error .malformed

end Cursor

end CatalogEntities.Yaml
