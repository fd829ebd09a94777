import CatalogEntities.Log.Pattern
import CatalogEntities.Log.Record

/-!
Log records as lines of a terminal. Lines are coloured by level, and messages of note by their mark,
if colours are wanted and the stream is a terminal.
-/

namespace CatalogEntities.Log

open Text

/-- `pattern` lays out a line; records below `threshold` are not shown. -/
structure Console where
  threshold : Level
  pattern : String
  colored : Bool
  deriving DecidableEq, Repr

/-- Level and message. -/
def standardPattern : String := "%(levelname)s: %(message)s"

/-- What stands in the place of the position of an error. -/
def traceLine : String := "<traceback>"

inductive Paint
  | plain
  | debug
  | warning
  | error
  | critical
  | success
  | progress
  | highlight
  | section
  deriving DecidableEq, Repr

/-- The escape sequences that turn a paint on. -/
def Paint.codes : Paint → String
  | .plain => ""
  | .debug => "\x1b[36m"
  | .warning => "\x1b[33m"
  | .error => "\x1b[31m"
  | .critical => "\x1b[35m"
  | .success => "\x1b[92m\x1b[1m"
  | .progress => "\x1b[94m"
  | .highlight => "\x1b[96m"
  | .section => "\x1b[1m\x1b[96m"

def resetCode : String := "\x1b[0m"

def Paint.apply (p : Paint) (line : String) : String :=
  if p == .plain then line else p.codes ++ line ++ resetCode

/-- Rules of at least twenty equals signs belong to headings. -/
def isRule (message : String) : Bool :=
  (List.replicate 20 '=').isPrefixOf (trim message.toList)

/-- The paint of a record. From warnings on the level decides, below it the mark. -/
def paintOf (level : Level) (message : String) : Paint :=
  match level with
  | .warning => .warning
  | .error => .error
  | .critical => .critical
  | level =>
    match message.toList with
    | '✓' :: _ => .success
    | '→' :: _ => .progress
    | '•' :: _ => .highlight
    | _ => if isRule message then .section else if level == .debug then .debug else .plain

namespace Console

def of (threshold : Level) (useColors terminal : Bool) : Console :=
  ⟨threshold, standardPattern, useColors && terminal⟩

/-- The line of a record from a named logger. -/
def line (c : Console) (logger : String) (r : Record) : String :=
  let laid := fillNamed c.pattern fun name =>
    if name == "levelname" then r.level.name
    else if name == "levelno" then Number.natText r.level.rank
    else if name == "message" then r.message
    else if name == "name" then logger
    else ""
  let traced := if r.traced then laid ++ "\n" ++ traceLine else laid
  if c.colored then (paintOf r.level r.message).apply traced else traced

def shows (c : Console) (r : Record) : Bool := c.threshold.rank ≤ r.level.rank

/-- The text of the records that are shown, each on a line of its own. -/
def text (c : Console) (records : List Record) : String :=
  String.join ((records.filter c.shows).map fun r => c.line "" r ++ "\n")

end Console

end CatalogEntities.Log
