import CatalogEntities.Connection.Reader
import CatalogEntities.Generation.Run
import CatalogEntities.Settings.Basic

/-!
A run on the database that settings name. The output directory is checked before there is a
connection, and the reader is open for the time of the run only.

Main definition: `runSession`.
-/

namespace CatalogEntities.Generation

open Connection Files Log

/-- What a session leaves behind. -/
structure SessionResult where
  tree : Tree
  events : List EngineEvent
  records : List Record
  outcome : Except Failure (List GeneratedModule)

def requestOf (settings : Settings) (generatedAt : Layout.Timestamp) : Request :=
  { directory := settings.outputDirectory
    included := settings.includedTables.getD []
    excluded := settings.excludedTables.getD []
    style := ⟨settings.formatCode, generatedAt⟩ }

/-- Opens a reader, runs the generator on its catalog and closes it, whatever the outcome. -/
def runReader (reader : Reader) (db : Database) (request : Request) (t : Tree) : SessionResult :=
  let opened := reader.connect db
  match opened.outcome with
  | .error failure => ⟨t, opened.events, opened.records, .error failure⟩
  | .ok () =>
    let result := run (opened.reader.source db) request t
    let closed := opened.reader.close
    { tree := result.tree
      events := opened.events ++ opened.reader.questionEvents result.asked ++ closed.events
      records := opened.records ++ result.records ++ closed.records
      outcome := result.outcome }

def runSession (db : Database) (settings : Settings) (generatedAt : Layout.Timestamp) (t : Tree) :
    SessionResult :=
  let started := heading "Entity Generation"
  let prepared := prepareDirectory t settings.outputDirectory
  let noted := started ++ prepared.records
  match prepared.outcome with
  | .error failure => ⟨prepared.tree, [], noted, .error failure⟩
  | .ok _ =>
    match Reader.of settings.databaseUrl with
    | .error failure => ⟨prepared.tree, [], noted, .error failure⟩
    | .ok reader =>
      let result := runReader reader db (requestOf settings generatedAt) prepared.tree
      { result with records := noted ++ result.records }

end CatalogEntities.Generation
