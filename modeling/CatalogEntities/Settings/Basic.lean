import CatalogEntities.Connection.Target
import CatalogEntities.Findings
import CatalogEntities.Log.Record

/-!
The settings of a run, and their validation from a document of any shape.

Main definitions: `Settings`, `Settings.validate`.
-/

namespace CatalogEntities

open Text Number

structure Settings where
  databaseUrl : String
  outputDirectory : String
  includedTables : Option (List String)
  excludedTables : Option (List String)
  formatCode : Bool
  deriving DecidableEq, Repr

namespace Settings

/-- Where modules are written to unless a directory is given. -/
def defaultDirectory : String := "src/entities"

/-- The names under which settings are given, in the order in which they are checked. -/
def fieldNames : List String :=
  ["database_url", "output_dir", "include_tables", "exclude_tables", "format_code"]

/-- What is wrong with a field: the place within it (empty for the field itself) and the message. -/
structure Complaint where
  place : String
  message : String
  deriving DecidableEq, Repr

def complain {α : Type} (message : String) : Except Complaint α := .error ⟨"", message⟩

def undecodableText : String :=
  "Input should be a valid string, unable to parse raw data as a unicode string"

/-- A text that is not empty; bytes count as the text they encode. -/
def readText (v : Value) : Except Complaint String := do
  let s ← match v with
    | .text s => .ok s
    | .bytes b =>
      match Utf8.decode b with
      | .ok cs => .ok (String.ofList cs)
      | .error _ => complain undecodableText
    | _ => complain "Input should be a valid string"
  if s.isEmpty then complain "String should have at least 1 character" else return s

/-- A connection string that can be parsed; it is kept as it was written. -/
def readUrl (v : Value) : Except Complaint String := do
  let s ← readText v
  match Connection.Target.parse s with
  | .ok _ => return s
  | .error (.portOutOfRange port) => .error ⟨" -> port", (Failure.portOutOfRange port).message⟩
  | .error failure => complain ("Value error, " ++ failure.message)

/-- The name at a position of a table list, without the blanks around it. -/
def readName (index : Nat) (v : Value) : Except Complaint String :=
  match v with
  | .text s =>
    let name := trim s.toList
    if name.isEmpty then
      complain s!"Value error, Item at index {index} cannot be empty or just whitespace."
    else .ok (String.ofList name)
  | v => complain (s!"Value error, Item at index {index} must be a string, found: " ++ v.kind)

def readNames (index : Nat) : List Value → Except Complaint (List String)
  | [] => .ok []
  | v :: rest => do
    let name ← readName index v
    let names ← readNames (index + 1) rest
    return name :: names

/-- A list of table names; null stands for no list. -/
def readTables : Value → Except Complaint (Option (List String))
  | .null => .ok none
  | .list items => (readNames 0 items).map some
  | _ => complain "Value error, include_tables/exclude_tables must be a list."

def trueWords : List String := ["1", "t", "y", "on", "yes", "true"]

def falseWords : List String := ["0", "f", "n", "no", "off", "false"]

def notBoolean : String := "Input should be a valid boolean"

def unclearBoolean : String := "Input should be a valid boolean, unable to interpret input"

def readWord (s : String) : Except Complaint Bool :=
  let word := onChars asciiLower s
  if trueWords.contains word then .ok true
  else if falseWords.contains word then .ok false
  else complain unclearBoolean

/-- Two to the 63rd, where the signed numbers of 64 bits end. -/
def wordBound : Int := 9223372036854775808

/-- Numbers in the range of 64 bits, which begins at `least`, are compared with zero and one; others
are no truth value at all. -/
def readNumber (least n : Int) : Except Complaint Bool :=
  if n == 0 then .ok false
  else if n == 1 then .ok true
  else if least ≤ n && n < wordBound then complain unclearBoolean
  else complain notBoolean

/-- A truth value; the numbers zero and one and certain words count as one. -/
def readFlag : Value → Except Complaint Bool
  | .bool b => .ok b
  | .text s => readWord s
  | .bytes b =>
    match Utf8.decode b with
    | .ok cs => readWord (String.ofList cs)
    | .error _ => complain unclearBoolean
  | .int n => readNumber (-wordBound) n
  | .float x =>
    match x.toInteger? with
    | some n => readNumber (-wordBound + 1) n
    | none => complain notBoolean
  | _ => complain notBoolean

/-- A field of a document; a missing field has its default. -/
def field {α : Type} (document : List (Value × Value)) (name : String)
    (read : Value → Except Complaint α) (default : Except Complaint α) : Except Complaint α :=
  match Value.field? document name with
  | some v => read v
  | none => default

/-- The complaint about a field, under the field's name. -/
def complaintUnder? {α : Type} (name : String) : Except Complaint α → Option (String × String)
  | .error complaint => some (name ++ complaint.place, complaint.message)
  | .ok _ => none

/-- The settings that a document's fields give; every field that fails is named. -/
def ofFields (document : List (Value × Value)) : Except Failure Settings :=
  let databaseUrl := field document "database_url" readUrl (complain "Field required")
  let outputDirectory := field document "output_dir" readText (.ok defaultDirectory)
  let includedTables := field document "include_tables" readTables (.ok none)
  let excludedTables := field document "exclude_tables" readTables (.ok none)
  let formatCode := field document "format_code" readFlag (.ok true)
  match databaseUrl, outputDirectory, includedTables, excludedTables, formatCode with
  | .ok databaseUrl, .ok outputDirectory, .ok includedTables, .ok excludedTables, .ok formatCode =>
    .ok { databaseUrl, outputDirectory, includedTables, excludedTables, formatCode }
  | _, _, _, _, _ =>
    .error (.invalidSettings ([complaintUnder? "database_url" databaseUrl,
      complaintUnder? "output_dir" outputDirectory, complaintUnder? "include_tables" includedTables,
      complaintUnder? "exclude_tables" excludedTables,
      complaintUnder? "format_code" formatCode].filterMap id))

def validatedRecord : Log.Record :=
  Log.debug "Configuration dictionary parsed and validated successfully against schema."

/-- The settings of a document; fields that are no settings are ignored. -/
def validate : Value → Except Failure Settings
  | .map document => ofFields document
  | _ => .error (.invalidSettings [("Model Level",
      "Input should be a valid dictionary or instance of ToolConfigSchema")])

end Settings

end CatalogEntities
