import CatalogEntities.Connection.Url
import CatalogEntities.Failure
import CatalogEntities.Number.DecimalText

/-!
The handle that a generated package has on its database. It is made with an address and the
entities; an engine is there between `connect` and `close`, and sessions only then.
-/

namespace CatalogEntities.Storage

open Connection Number Text

structure DataSource where
  address : Value
  entityCount : Nat
  engine : Option Url

namespace DataSource

/-- A data source that is not connected yet. -/
def of (address : Value) (entityCount : Nat) : DataSource := ⟨address, entityCount, none⟩

def isConnected (d : DataSource) : Bool := d.engine.isSome

def urlFailure : Url.Fault → Failure
  | .unparsable => .unparsableUrl
  | .emptyPort => .emptyPort
  | .port fault => .ofIntegerFault fault

/-- The address with the driver that serves it. -/
def driverText : Value → Except Failure String
  | .text s => (Url.toDriverText s).mapError urlFailure
  | v => .error (.urlTextExpected v.literal)

def sqliteDrivers : List String := ["sqlite", "sqlite+pysqlite"]

/-- A file database has no user, no password, no host and no port. -/
def isFileUrl (u : Url) : Bool :=
  (u.user.getD "").isEmpty && (u.password.getD "").isEmpty && (u.host.getD "").isEmpty &&
    (u.port.getD 0) == 0

/-- What an engine reads the text of an option as. -/
inductive OptionKind
  | integer
  | number
  | flag
  deriving DecidableEq, Repr

/-- The options that an engine reads from the query of its URL, in the order in which it does. -/
def engineOptions (driver : String) : List (String × OptionKind) :=
  if driver == Url.mysqlDriver then
    [("compress", .flag), ("connect_timeout", .integer), ("read_timeout", .integer),
      ("write_timeout", .integer), ("client_flag", .integer), ("local_infile", .flag),
      ("use_unicode", .flag), ("ssl_check_hostname", .flag)]
  else
    [("uri", .flag), ("timeout", .number), ("detect_types", .integer), ("check_same_thread", .flag),
      ("cached_statements", .integer)]

/-- Whether the text of an option can be read. -/
def checkOption (kind : OptionKind) (s : String) : Except Failure Unit :=
  match kind with
  | .integer => ((integerOfText s).map fun _ => ()).mapError .ofIntegerFault
  | .number =>
    if (readFloat? s).isSome then .ok ()
    else .error (.unreadableSetting ("could not convert string to float: " ++ Literal.encodeText s))
  | .flag =>
    let word := onChars (fun cs => lower (trim cs)) s
    if flagWords.contains word then .ok ()
    else .error (.unreadableSetting ("String is not true/false: " ++ Literal.encodeText word))
where
  flagWords : List String :=
    ["true", "yes", "on", "y", "t", "1", "false", "no", "off", "n", "f", "0"]

/-- Whether the options of a URL can be read; several values count as a flag only. -/
def checkOptions (u : Url) : Except Failure Unit :=
  (engineOptions u.driver).forM fun (name, kind) =>
    match u.query.get? name, kind with
    | some [s], kind => checkOption kind s
    | none, _ | some _, .flag => .ok ()
    | some _, .integer | some _, .number => .error (.integer (.wrongKind "tuple"))

/-- Whether there is an engine for the URL. -/
def checkDialect (u : Url) : Except Failure Unit :=
  if u.driver == Url.mysqlDriver then checkOptions u
  else if sqliteDrivers.contains u.driver then
    if isFileUrl u then checkOptions u else .error (.noFileUrl (u.render true))
  else .error (.unknownDialect (u.driver.map fun c => if c == '+' then '.' else c))

/-- The engine's URL for an address. -/
def engineUrl (address : Value) : Except Failure Url := do
  let text ← driverText address
  let url ← (Url.parse text).mapError urlFailure
  checkDialect url
  return url

/-- Connects, unless there is a connection; a failure leaves the data source as it was. -/
def connect (d : DataSource) : Except Failure DataSource :=
  if d.isConnected then .ok d
  else if !d.address.truth then .error .noDatabaseUrl
  else (engineUrl d.address).map fun url => { d with engine := some url }

/-- A session needs a connection. -/
def checkSession (d : DataSource) : Except Failure Unit :=
  if d.isConnected then .ok () else .error .notConnected

def close (d : DataSource) : DataSource := { d with engine := none }

end DataSource

end CatalogEntities.Storage
