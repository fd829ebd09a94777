import CatalogEntities.Assoc
import CatalogEntities.Text.Span

/-!
Environment files: a key and a value on each line, `export` in front and comments behind being
allowed. Quoted values may run over several lines and have escapes. References to other variables
are replaced in all values.

Main definitions: `EnvironmentFile.parse`, `EnvironmentFile.resolve`.
-/

namespace CatalogEntities.EnvironmentFile

open Text

/-- What one statement says. -/
inductive Statement
  | nothing
  | binding (key : String) (value : Option String)
  | unreadable
  deriving DecidableEq, Repr

def isInlineBlank (c : Char) : Bool := isBlank c && c != '\n'

def dropInline (cs : List Char) : List Char := cs.dropWhile isInlineBlank

def restOfLine (cs : List Char) : List Char := (cs.dropWhile (· != '\n')).drop 1

/-- The word in front of a key, if blanks follow it. -/
def dropExport (cs : List Char) : List Char :=
  match cs with
  | 'e' :: 'x' :: 'p' :: 'o' :: 'r' :: 't' :: c :: rest =>
    if isInlineBlank c then dropInline rest else cs
  | cs => cs

/-- A key and what follows it; a fault is the text where it was found. The key is between single
quotes or reaches up to a blank, an equals sign or a hash; a comment has none. -/
def readKey (cs : List Char) : Except (List Char) (Option (List Char) × List Char) :=
  match cs with
  | '#' :: _ => .ok (none, cs)
  | '\'' :: rest =>
    match rest.takeWhile (· != '\''), rest.dropWhile (· != '\'') with
    | c :: key, '\'' :: after => .ok (some (c :: key), after)
    | _, _ => .error cs
  | cs =>
    let isKeyChar (c : Char) : Bool := c != '=' && c != '#' && !isBlank c
    if (cs.takeWhile isKeyChar).isEmpty then .error cs
    else .ok (some (cs.takeWhile isKeyChar), cs.dropWhile isKeyChar)

/-- The text up to a quote that no backslash precedes. -/
def untilQuote? (quote : Char) (escaped : Bool) : List Char → Option (List Char × List Char)
  | [] => none
  | c :: rest =>
    if c == quote && !escaped then some ([], rest)
    else (untilQuote? quote (c == '\\') rest).map fun (body, after) => (c :: body, after)

/-- The text up to the last quote that a backslash precedes. -/
def untilLastQuote? (quote : Char) : List Char → Option (List Char × List Char)
  | [] => none
  | c :: rest =>
    match untilLastQuote? quote rest with
    | some (body, after) => some (c :: body, after)
    | none =>
      match c == '\\', rest with
      | true, d :: after => if d == quote then some ([c], after) else none
      | _, _ => none

/-- A quoted text, after its opening quote. If every later quote has a backslash before it, the last
one closes. -/
def quotedBody? (quote : Char) (cs : List Char) : Option (List Char × List Char) :=
  untilQuote? quote false cs <|> untilLastQuote? quote cs

/-- The characters that escapes within double quotes stand for. -/
def escape? (quote c : Char) : Option Char :=
  if c == '\\' || c == '\'' then some c
  else if quote == '\'' then none
  else match c with
    | '"' => some '"'
    | 'a' => some (Char.ofNat 7)
    | 'b' => some (Char.ofNat 8)
    | 'f' => some (Char.ofNat 0xc)
    | 'n' => some '\n'
    | 'r' => some '\r'
    | 't' => some '\t'
    | 'v' => some (Char.ofNat 0xb)
    | _ => none

def unescape (quote : Char) : List Char → List Char
  | '\\' :: c :: rest =>
    match escape? quote c with
    | some x => x :: unescape quote rest
    | none => '\\' :: unescape quote (c :: rest)
  | c :: rest => c :: unescape quote rest
  | [] => []

/-- A value without quotes, up to a blank before a hash. `gap` are the blanks before the rest. -/
def dropComment (gap : List Char) : List Char → List Char
  | [] => gap.reverse
  | c :: rest =>
    if isBlank c then dropComment (c :: gap) rest
    else if c == '#' && !gap.isEmpty then []
    else gap.reverse ++ c :: dropComment [] rest

def readValue (cs : List Char) : Except (List Char) (List Char × List Char) :=
  match cs with
  | [] => .ok ([], [])
  | c :: rest =>
    if c == '\'' || c == '"' then
      match quotedBody? c rest with
      | some (body, after) => .ok (unescape c body, after)
      | none => .error cs
    else
      .ok (trimEnd isBlank (dropComment [] (cs.takeWhile (· != '\n'))), cs.dropWhile (· != '\n'))

/-- The end of a statement: blanks and a comment up to the end of the line. -/
def finish (cs : List Char) : Except (List Char) (List Char) :=
  let afterBlanks := dropInline cs
  let afterComment :=
    match afterBlanks with
    | '#' :: rest => rest.dropWhile (· != '\n')
    | _ => cs
  match dropInline afterComment with
  | [] => .ok []
  | '\n' :: rest => .ok rest
  | _ => .error afterComment

/-- A statement that begins at a character which is not blank. -/
def statement (cs : List Char) : Except (List Char) (Statement × List Char) := do
  let (key, cs) ← readKey (dropExport cs)
  let cs := dropInline cs
  let (value, cs) ←
    match cs with
    | '=' :: rest => (readValue (dropInline rest)).map fun (value, cs) => (some value, cs)
    | cs => .ok (none, cs)
  let cs ← finish cs
  match key with
  | none => return (.nothing, cs)
  | some key => return (.binding (String.ofList key) (value.map String.ofList), cs)

/-- The statements of a text with the lines at which they begin; blank lines before a statement
belong to it. An unreadable one ends with its line. -/
def statementsFrom (line : Nat) : Nat → List Char → List (Nat × Statement)
  | 0, _ => []
  | fuel + 1, cs =>
    let body := cs.dropWhile isBlank
    if body.isEmpty then []
    else
      let (found, rest) :=
        match statement body with
        | .ok (found, rest) => (found, rest)
        | .error rest => (.unreadable, restOfLine rest)
      let taken := cs.take (cs.length - rest.length)
      (line, found) :: statementsFrom (line + taken.count '\n') fuel rest

/-- The statements of a file. A byte order mark does not count. -/
def parse (cs : List Char) : List (Nat × Statement) :=
  let cs := match cs with
    | c :: rest => if c.toNat == 0xfeff then rest else c :: rest
    | [] => []
  statementsFrom 1 (cs.length + 1) cs

/-- The lines of the statements that cannot be read. -/
def unreadableLines (statements : List (Nat × Statement)) : List Nat :=
  statements.filterMap fun (line, s) => if s == .unreadable then some line else none

def bindings (statements : List (Nat × Statement)) : List (String × Option String) :=
  statements.filterMap fun (_, s) =>
    match s with
    | .binding key value => some (key, value)
    | _ => none

/-- A reference to a variable, after its dollar sign and brace: name, default and what follows. -/
def reference? (cs : List Char) : Option (String × String × List Char) :=
  let isNameChar (c : Char) : Bool := c != '\x7d' && c != ':'
  let name := String.ofList (cs.takeWhile isNameChar)
  match cs.dropWhile isNameChar with
  | '\x7d' :: after => some (name, "", after)
  | ':' :: '-' :: rest =>
    match cut? '\x7d' rest with
    | some (otherwise, after) => some (name, String.ofList otherwise, after)
    | none => none
  | _ => none

/-- The variables that a text refers to. -/
def referencedNames : List Char → List String
  | '$' :: '\x7b' :: rest => ((reference? rest).map (·.1)).toList ++ referencedNames rest
  | _ :: rest => referencedNames rest
  | [] => []

/-- Replaces references; a variable that is known without a value is empty. -/
def substitute (known : Assoc String (Option String)) : Nat → List Char → List Char
  | 0, _ => []
  | _, [] => []
  | fuel + 1, '$' :: '\x7b' :: rest =>
    match reference? rest with
    | some (name, otherwise, after) =>
      let value := match known.get? name with
        | some value => value.getD ""
        | none => otherwise
      value.toList ++ substitute known fuel after
    | none => '$' :: substitute known fuel ('\x7b' :: rest)
  | fuel + 1, c :: rest => c :: substitute known fuel rest

/-- The values of bindings in their order. References see the environment and, before it, the
bindings above. -/
def resolve (environment : Assoc String String) (pairs : List (String × Option String)) :
    Assoc String (Option String) :=
  pairs.foldl (fun values (key, value) =>
    let known := Assoc.update (environment.map fun (k, v) => (k, some v)) values
    values.put key (value.map fun s => onChars (substitute known (s.length + 1)) s)) []

end CatalogEntities.EnvironmentFile
