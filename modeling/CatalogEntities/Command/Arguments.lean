import CatalogEntities.Command.Usage
import CatalogEntities.Text.Literal

/-!
The command line. Switches may be abbreviated as long as they stay distinct, values may be joined to
their switch, and one-letter switches may be written together. What follows the subcommand belongs
to it and takes precedence.

Main definition: `parse`.
-/

namespace CatalogEntities.Command

open Text

/-- What the command line says; what it does not say is left open. -/
structure Arguments where
  pull : Bool := false
  databaseUrl : Option String := none
  outputDirectory : Option String := none
  config : Option String := none
  includedTables : Option (List String) := none
  excludedTables : Option (List String) := none
  formatCode : Option Bool := none
  verbose : Bool := false
  noColor : Bool := false
  deriving DecidableEq, Repr, Inhabited

/-- The arguments of the program with those of its subcommand over them. -/
def Arguments.over (outer inner : Arguments) : Arguments :=
  { pull := true
    databaseUrl := inner.databaseUrl <|> outer.databaseUrl
    outputDirectory := inner.outputDirectory <|> outer.outputDirectory
    config := inner.config <|> outer.config
    includedTables := inner.includedTables <|> outer.includedTables
    excludedTables := inner.excludedTables <|> outer.excludedTables
    formatCode := inner.formatCode <|> outer.formatCode
    verbose := inner.verbose || outer.verbose
    noColor := inner.noColor || outer.noColor }

inductive Switch
  | help
  | version
  | connection
  | outputDirectory
  | config
  | includeTable
  | excludeTable
  | noFormat
  | verbose
  | noColor
  deriving DecidableEq, Repr

namespace Switch

/-- The ways to write a switch. -/
def names : Switch → List String
  | .help => ["-h", "--help"]
  | .version => ["-V", "--version"]
  | .connection => ["-c", "--connection"]
  | .outputDirectory => ["-o", "--output-dir"]
  | .config => ["--config"]
  | .includeTable => ["--include-table"]
  | .excludeTable => ["--exclude-table"]
  | .noFormat => ["--no-format"]
  | .verbose => ["-v", "--verbose"]
  | .noColor => ["--no-color"]

def takesValue : Switch → Bool
  | .connection => true
  | .outputDirectory => true
  | .config => true
  | .includeTable => true
  | .excludeTable => true
  | _ => false

def common : List Switch :=
  [.connection, .outputDirectory, .config, .includeTable, .excludeTable, .noFormat,
    .verbose, .noColor]

def shown (s : Switch) : String := "/".intercalate s.names

end Switch

def Place.switches : Place → List Switch
  | .program => .help :: .version :: Switch.common
  | .pull => .help :: Switch.common

/-- All ways to write the switches of a place. -/
def Place.spellings (p : Place) : List (String × Switch) :=
  p.switches.flatMap fun s => s.names.map fun name => (name, s)

/-- Why nothing is run: a text was asked for, or the command line cannot be understood. -/
inductive Stop
  | shown (text : String)
  | refused (place : Place) (message : String)
  deriving DecidableEq, Repr

/-- One argument at its place on the command line. -/
inductive Word
  | switch (s : Switch) (name : String) (joined : Option String)
  | unknown (text : String)
  | plain (text : String)
  | separator
  deriving DecidableEq, Repr

def Word.text : Word → String
  | .switch _ name _ => name
  | .unknown text => text
  | .plain text => text
  | .separator => "--"

/-- Numbers with a minus sign are no switches. -/
def isNegativeNumber (cs : List Char) : Bool :=
  match cs with
  | '-' :: rest =>
    match rest.dropWhile isDecimal with
    | [] => !rest.isEmpty
    | '.' :: fraction => !fraction.isEmpty && fraction.all isDecimal
    | _ => false
  | _ => false

/-- Name and joined value of a text with an equals sign. -/
def splitValue (text : String) : String × Option String :=
  match cut? '=' text.toList with
  | some (name, value) => (String.ofList name, some (String.ofList value))
  | none => (text, none)

/-- The switches that a text abbreviates, or that its first letter is, with the values joined to
them. -/
def candidates (p : Place) (text : String) : List Word :=
  match text.toList with
  | '-' :: '-' :: _ =>
    let (name, joined) := splitValue text
    p.spellings.filterMap fun (spelling, s) =>
      if name.toList.isPrefixOf spelling.toList then some (.switch s spelling joined) else none
  | a :: b :: rest =>
    p.spellings.filterMap fun (spelling, s) =>
      if spelling.toList == [a, b] then
        some (.switch s spelling (some (String.ofList rest)))
      else none
  | _ => []

/-- The reading of one argument before any separator. -/
def wordOf (p : Place) (text : String) : Except Stop Word :=
  let known (name : String) (joined : Option String) : Option Word :=
    (p.spellings.lookup name).map fun s => .switch s name joined
  let (name, joined) := splitValue text
  if text.toList.head? != some '-' then .ok (.plain text)
  else match known text none with
    | some word => .ok word
    | none =>
      if text.length == 1 then .ok (.plain text)
      else match (if joined.isSome then known name joined else none) with
        | some word => .ok word
        | none =>
          match candidates p text with
          | [word] => .ok word
          | [] =>
            if isNegativeNumber text.toList || text.toList.contains ' ' then .ok (.plain text)
            else .ok (.unknown text)
          | words =>
            .error (.refused p (s!"ambiguous option: {text} could match " ++
              ", ".intercalate (words.map (·.text))))

/-- The words of a command line with the arguments they come from; behind a separator all
are plain. -/
def wordsOf (p : Place) : List String → Except Stop (List (String × Word))
  | [] => .ok []
  | "--" :: rest => .ok (("--", .separator) :: rest.map fun text => (text, .plain text))
  | text :: rest => do
    let word ← wordOf p text
    let more ← wordsOf p rest
    return (text, word) :: more

def complain {α : Type} (p : Place) (s : Switch) (message : String) : Except Stop α :=
  .error (.refused p (s!"argument {s.shown}: " ++ message))

/-- What a switch does, with its value if it takes one. -/
def apply (p : Place) (a : Arguments) (s : Switch) (value : String) : Except Stop Arguments :=
  match s with
  | .help => .error (.shown p.help)
  | .version => .error (.shown versionText)
  | .connection => .ok { a with databaseUrl := some value }
  | .outputDirectory => .ok { a with outputDirectory := some value }
  | .config => .ok { a with config := some value }
  | .includeTable => .ok { a with includedTables := some (a.includedTables.getD [] ++ [value]) }
  | .excludeTable => .ok { a with excludedTables := some (a.excludedTables.getD [] ++ [value]) }
  | .noFormat => .ok { a with formatCode := some false }
  | .verbose => .ok { a with verbose := true }
  | .noColor => .ok { a with noColor := true }

def applyAll (p : Place) (a : Arguments) : List (Switch × String) → Except Stop Arguments
  | [] => .ok a
  | (s, value) :: rest => do
    let a ← apply p a s value
    applyAll p a rest

/-- The switches of one word with their values, and the words after them. `joined` is what is
written behind the switch; behind a letter that takes no value it is further letters. -/
def expand (p : Place) (s : Switch) (name : String) (joined : Option String)
    (rest : List (String × Word)) :
    Nat → Except Stop (List (Switch × String) × List (String × Word))
  | 0 => .ok ([], rest)
  | fuel + 1 =>
    match joined, s.takesValue with
    | some value, true => .ok ([(s, value)], rest)
    | none, true =>
      match rest with
      | (_, .plain value) :: rest => .ok ([(s, value)], rest)
      | _ => complain p s "expected one argument"
    | none, false => .ok ([(s, "")], rest)
    | some value, false =>
      match name.toList, value.toList with
      | '-' :: second :: _, c :: cs =>
        let next := String.ofList ['-', c]
        match second != '-', p.spellings.lookup next with
        | true, some t =>
          let further := if cs.isEmpty then none else some (String.ofList cs)
          (expand p t next further rest fuel).map fun (more, rest) => ((s, "") :: more, rest)
        | _, _ => complain p s ("ignored explicit argument " ++ Literal.encodeText value)
      | _, _ => complain p s ("ignored explicit argument " ++ Literal.encodeText value)

def isSwitchWord (w : String × Word) : Bool :=
  match w.2 with
  | .switch _ _ _ => true
  | .unknown _ => true
  | _ => false

/-- Reads words; the rest that begins with a subcommand is given to `subcommand`. What cannot be
placed is collected. -/
def consume (p : Place)
    (subcommand : Arguments → List String → Except Stop (Arguments × List String)) :
    Nat → Arguments → List (String × Word) → Except Stop (Arguments × List String)
  | 0, a, _ => .ok (a, [])
  | _, a, [] => .ok (a, [])
  | fuel + 1, a, (text, word) :: rest =>
    match word with
    | .unknown _ => (consume p subcommand fuel a rest).map fun (a, extra) => (a, text :: extra)
    | .switch s name joined => do
      let (found, rest) ← expand p s name joined rest (text.length + 1)
      let a ← applyAll p a found
      consume p subcommand fuel a rest
    | .plain _ | .separator =>
      if p == .program && (word != .separator || !rest.isEmpty) then
        subcommand a (text :: rest.map (·.1))
      else
        let skipped := text :: (rest.takeWhile fun w => !isSwitchWord w).map (·.1)
        (consume p subcommand fuel a (rest.dropWhile fun w => !isSwitchWord w)).map
          fun (a, extra) => (a, skipped ++ extra)

def noSubcommand (a : Arguments) (rest : List String) : Except Stop (Arguments × List String) :=
  .ok (a, rest)

/-- The arguments behind the subcommand's name. -/
def runSubcommand (outer : Arguments) : List String → Except Stop (Arguments × List String)
  | [] => .ok (outer, [])
  | name :: rest =>
    if name != pullName then
      .error (.refused .program (s!"argument command: invalid choice: {Literal.encodeText name} " ++
        s!"(choose from {Literal.encodeText pullName})"))
    else do
      let words ← wordsOf .pull rest
      let (inner, extra) ← consume .pull noSubcommand (words.length + 1) {} words
      return (outer.over inner, extra)

/-- Reads a command line. -/
def parse (texts : List String) : Except Stop Arguments := do
  let words ← wordsOf .program texts
  let (a, extra) ← consume .program runSubcommand (words.length + 1) {} words
  if extra.isEmpty then return a
  else .error (.refused .program ("unrecognized arguments: " ++ " ".intercalate extra))

end CatalogEntities.Command
