import CatalogEntities.Command.Arguments
import CatalogEntities.Generation.Session
import CatalogEntities.Log.Console
import CatalogEntities.Settings.DatabaseUrl
import CatalogEntities.Settings.Load

/-!
The program: it reads its command line and its settings, generates, and tells what happened on the
error stream.

Main definition: `execute`.
-/

namespace CatalogEntities.Command

open Connection Files Log

/-- What surrounds a program: the file tree, the environment, the database, the time, and whether
the error stream is a terminal. -/
structure World where
  tree : Tree
  environment : Assoc String String
  database : Database
  time : Layout.Timestamp
  terminal : Bool

/-- What a program leaves behind. -/
structure Exit where
  code : Nat
  output : String
  errors : String
  events : List EngineEvent
  tree : Tree

/-- Whether a failure is one that the tool foresees. -/
def isForeseen (failure : Failure) : Bool := failure.report?.isSome

/-- The last record of a program that fails. Failures that are not foreseen always show
their place. -/
def failureRecord (verbose : Bool) (failure : Failure) : Record :=
  if isForeseen failure then ⟨.error, failure.text, verbose⟩
  else ⟨.error, "An unexpected error occurred during generation: " ++ failure.text, true⟩

/-- The values of settings that a command line gives. -/
def given (a : Arguments) : Assoc String Value :=
  let text (v : Option String) : Value := (v.map Value.text).getD .null
  let texts (v : Option (List String)) : Value :=
    (v.map fun names => Value.list (names.map .text)).getD .null
  [("database_url", text a.databaseUrl), ("output_dir", text a.outputDirectory),
    ("include_tables", texts a.includedTables), ("exclude_tables", texts a.excludedTables),
    ("format_code", (a.formatCode.map Value.bool).getD .null)]

/-- The subcommand takes the connection string from the environment file or the environment, unless
one is given; it has to find one. -/
def completed (w : World) (a : Arguments) : List Record × Except Failure Arguments :=
  if !a.pull || a.databaseUrl.isSome then ([], .ok a)
  else match EnvironmentFile.databaseUrl w.tree w.environment EnvironmentFile.defaultPath with
    | .error failure => ([], .error failure)
    | .ok (noted, url) =>
      if (url.getD "").isEmpty then (noted, .error .databaseUrlUnset)
      else (noted, .ok { a with databaseUrl := url })

def successRecords (settings : Settings) (modules : List Generation.GeneratedModule) :
    List Record :=
  heading "COMPLETION" ++
    [success s!"Generated {modules.length - 1} entities in {settings.outputDirectory}"]

/-- What running a command line does: events, log, the tree after it and the outcome. -/
structure Course where
  events : List EngineEvent
  records : List Record
  tree : Tree
  outcome : Except Failure Unit

/-- The settings and the run on them. -/
def runWith (w : World) (a : Arguments) : Course :=
  let started := [progress "Loading configuration..."]
  let (loaded, outcome) := Settings.load w.tree a.config (given a)
  match outcome with
  | .error failure => ⟨[], started ++ loaded, w.tree, .error failure⟩
  | .ok settings =>
    let ready := started ++ loaded ++ [success "Configuration loaded and validated successfully."]
    let session := Generation.runSession w.database settings w.time w.tree
    match session.outcome with
    | .error failure => ⟨session.events, ready ++ session.records, session.tree, .error failure⟩
    | .ok modules =>
      ⟨session.events, ready ++ session.records ++ successRecords settings modules,
        session.tree, .ok ()⟩

def course (w : World) (a : Arguments) : Course :=
  let (noted, outcome) := completed w a
  match outcome with
  | .error failure => ⟨[], noted, w.tree, .error failure⟩
  | .ok a =>
    let c := runWith w a
    { c with records := noted ++ c.records }

def verboseRecords (a : Arguments) : List Record :=
  if a.verbose then [debug "Verbose mode enabled. DEBUG level logging activated."] else []

/-- Runs arguments and prints the log. -/
def runArguments (w : World) (a : Arguments) : Exit :=
  let console := Console.of (if a.verbose then .debug else .info) (!a.noColor) w.terminal
  let c := course w a
  let last := match c.outcome with
    | .ok () => []
    | .error failure => [failureRecord a.verbose failure]
  { code := if last.isEmpty then 0 else 1
    output := ""
    errors := console.text (verboseRecords a ++ c.records ++ last)
    events := c.events
    tree := c.tree }

/-- Runs a command line. -/
def execute (w : World) (texts : List String) : Exit :=
  match parse texts with
  | .ok a => runArguments w a
  | .error (.shown text) => ⟨0, text, "", [], w.tree⟩
  | .error (.refused place message) =>
    ⟨2, "", place.usage ++ place.name ++ ": error: " ++ message ++ "\n", [], w.tree⟩

end CatalogEntities.Command
