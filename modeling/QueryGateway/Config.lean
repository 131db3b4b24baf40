import QueryGateway.Error
import QueryGateway.Json.Value
import QueryGateway.Text.Utf8
import QueryGateway.Text.Visible
import QueryGateway.Toml.Table

/-!
# Configuration

The settings of the gateway. Each has a default, and a TOML text may set any of them;
what it says beyond that is passed over. `Config.load` finds the text: in the file that
is asked for, else in the file that the environment names, else in `dbq.toml`. Two
variables of the environment set one setting each, against the text. What comes out
of all this has to be valid.
-/

namespace QueryGateway

open Text

/-- Where the gateway listens, and which pages of a browser may ask it. -/
structure ServerConfig where
  bind : String := "127.0.0.1:8000"
  corsOrigins : List String := ["*"]
  deriving DecidableEq, Repr

/-- Where the catalog is kept. -/
structure CatalogConfig where
  sqlitePath : String := "data/dbq-catalog.sqlite"
  deriving DecidableEq, Repr

/-- How many seconds a remote database may take to connect, and for a statement. -/
structure RemoteLimits where
  connectSeconds : Nat := 10
  statementSeconds : Nat := 30
  deriving DecidableEq, Repr

/-- How long a remote database may take to connect. -/
def RemoteLimits.connect (l : RemoteLimits) : Duration := .ofSeconds l.connectSeconds

/-- How long a remote database may take for a statement. -/
def RemoteLimits.statement (l : RemoteLimits) : Duration := .ofSeconds l.statementSeconds

/-- What is logged. -/
structure LoggingConfig where
  filter : String := "info"
  deriving DecidableEq, Repr

/-- The settings of the gateway. -/
structure Config where
  server : ServerConfig := {}
  catalog : CatalogConfig := {}
  remote : RemoteLimits := {}
  logging : LoggingConfig := {}
  deriving DecidableEq, Repr

/-! ## Settings in TOML -/

namespace Toml

/-- A value where data of some kind is asked for. -/
abbrev Read (α : Type) := Span → Value → Except Fault α

/-- How messages name an integer: with its width, if 64 bits are too few for it. -/
def integerName (n : Int) : String :=
  let width :=
    if Text.minInt64 ≤ n && n ≤ Text.maxWord64 then ""
    else if -(Nat.pow 2 127) ≤ n && n < Nat.pow 2 127 then " as i128"
    else " as u128"
  "integer `" ++ toString n ++ "`" ++ width

/-- An integer is no larger than any number of 128 bits. -/
def isHuge (n : Int) : Bool := n < -(Nat.pow 2 127) || n ≥ Nat.pow 2 128

/-- Refuses a value of another kind than the expected one. -/
def wrongKind {α : Type} (expected : String) : Read α := fun span v =>
  let wrong (found : String) : Except Fault α := refuse (.wrongType found expected) span
  match v with
  | .scalar (.string s) => wrong ("string " ++ visible s)
  | .scalar (.integer n) => if isHuge n then refuse .hugeInteger span else wrong (integerName n)
  | .scalar (.float (some shown)) => wrong ("floating point `" ++ shown ++ "`")
  | .scalar (.float none) => refuse .hugeFloat span
  | .scalar (.boolean b) => wrong ("boolean `" ++ (if b then "true" else "false") ++ "`")
  | .scalar .moment => wrong "map"
  | .list _ | .tables _ => wrong "sequence"
  | .table _ _ => wrong "map"

/-- Reads a text. -/
def readText : Read String := fun span v =>
  match v with
  | .scalar (.string s) => .ok s
  | v => wrongKind "a string" span v

/-- Reads a number of seconds: an integer of 64 bits without a sign. -/
def readSeconds : Read Nat := fun span v =>
  match v with
  | .scalar (.integer n) =>
    if 0 ≤ n && n ≤ Text.maxWord64 then .ok n.toNat
    else if Text.minInt64 ≤ n && n < 0 then refuse (.wrongValue (integerName n) "u64") span
    else wrongKind "u64" span v
  | v => wrongKind "u64" span v

/-- Reads a list of texts. -/
def readTexts : Read (List String) := fun span v =>
  match v with
  | .list items | .tables items => items.mapM fun (s, x) => readText s x
  | v => wrongKind "a sequence" span v

/-- The members of a record: by name, or a list of values in the order of its fields. A
time has no member of any name. -/
def readRecord (name : String) (fields : List String) : Read Members := fun span v =>
  match v with
  | .table _ members => .ok members
  | .list items | .tables items => .ok (fields.zip items)
  | .scalar .moment => .ok []
  | v => wrongKind ("struct " ++ name) span v

/-- Reads a member; one that is not there has its default. -/
def readMember {α : Type} (members : Members) (name : String) (read : Read α) (default : α) :
    Except Fault α :=
  match members.lookup name with
  | some (span, v) => read span v
  | none => .ok default

end Toml

open Toml

/-- Reads the settings of the catalog. -/
def CatalogConfig.read : Read CatalogConfig := fun span v => do
  let members ← readRecord "CatalogConfig" ["sqlite_path"] span v
  let sqlitePath ← readMember members "sqlite_path" readText ({} : CatalogConfig).sqlitePath
  .ok ⟨sqlitePath⟩

/-- Reads the settings of the log. -/
def LoggingConfig.read : Read LoggingConfig := fun span v => do
  let members ← readRecord "LoggingConfig" ["filter"] span v
  let filter ← readMember members "filter" readText ({} : LoggingConfig).filter
  .ok ⟨filter⟩

/-- Reads the settings of the server. -/
def ServerConfig.read : Read ServerConfig := fun span v => do
  let members ← readRecord "ServerConfig" ["bind", "cors_origins"] span v
  let bind ← readMember members "bind" readText ({} : ServerConfig).bind
  let origins ← readMember members "cors_origins" readTexts ({} : ServerConfig).corsOrigins
  .ok ⟨bind, origins⟩

/-- Reads the limits of remote databases. -/
def RemoteLimits.read : Read RemoteLimits := fun span v => do
  let members ← readRecord "UpstreamLimits" ["connect_timeout_secs", "statement_timeout_secs"] span v
  let limits : RemoteLimits := {}
  let connect ← readMember members "connect_timeout_secs" readSeconds limits.connectSeconds
  let statement ← readMember members "statement_timeout_secs" readSeconds limits.statementSeconds
  .ok ⟨connect, statement⟩

namespace Config

/-- Reads all settings. Sections are read in the order of their names. -/
def ofMembers (members : Members) : Except Fault Config := do
  let catalog ← readMember members "catalog" CatalogConfig.read {}
  let logging ← readMember members "logging" LoggingConfig.read {}
  let server ← readMember members "server" ServerConfig.read {}
  let remote ← readMember members "upstream" RemoteLimits.read {}
  .ok ⟨server, catalog, remote, logging⟩

/-- The settings of a TOML text. -/
def ofToml (text : List Char) : Except Fault Config := do
  ofMembers (← Toml.parse text)

/-! ## The environment -/

/-- Variables by their names. -/
abbrev Variables := String → Option String

/-- The value of a variable, if it is more than white space. -/
def setting? (vars : Variables) (name : String) : Option String :=
  (vars name).filter fun v => !(trim v).isEmpty

/-- Settings where two variables win over what was there. -/
def override (c : Config) (vars : Variables) : Config :=
  { c with
    server := { c.server with bind := (setting? vars "DBQ_BIND").getD c.server.bind }
    catalog := ⟨(setting? vars "DBQ_SQLITE_PATH").getD c.catalog.sqlitePath⟩ }

/-! ## Validity -/

/-- What is wrong with settings. -/
inductive Invalid
  | noSqlitePath
  | noStatementTime
  | noConnectTime
  deriving DecidableEq, Repr

/-- The message of what is wrong. -/
def Invalid.message : Invalid → String
  | noSqlitePath => "catalog.sqlite_path is empty"
  | noStatementTime => "upstream.statement_timeout_secs must be positive"
  | noConnectTime => "upstream.connect_timeout_secs must be positive"

/-- The first thing that is wrong with settings. -/
def invalid? (c : Config) : Option Invalid :=
  if (trim c.catalog.sqlitePath).isEmpty then some .noSqlitePath
  else if c.remote.statementSeconds == 0 then some .noStatementTime
  else if c.remote.connectSeconds == 0 then some .noConnectTime
  else none

/-! ## Files -/

/-- What is at a path. -/
inductive File
  | absent
  | directory
  /-- A file that the process may not read. -/
  | denied
  | bytes (content : List Nat)
  deriving DecidableEq, Repr

/-- Why a file cannot be read as text. -/
inductive ReadFault
  | absent
  | directory
  | denied
  | notText
  deriving DecidableEq, Repr

/-- The message of a file that cannot be read. -/
def ReadFault.message : ReadFault → String
  | absent => "No such file or directory (os error 2)"
  | directory => "Is a directory (os error 21)"
  | denied => "Permission denied (os error 13)"
  | notText => "stream did not contain valid UTF-8"

/-- The text of a file. -/
def File.text : File → Except ReadFault (List Char)
  | absent => .error .absent
  | directory => .error .directory
  | denied => .error .denied
  | bytes content =>
    match decodeUtf8 content with
    | .ok cs => .ok cs
    | .error _ => .error .notText

/-- Why there are no settings. -/
inductive LoadError
  | unreadable (path : String) (fault : ReadFault)
  | malformed (path : String) (text : List Char) (fault : Fault)
  | invalid (what : Invalid)
  deriving DecidableEq, Repr

/-- The message of settings that there are not. -/
def LoadError.message : LoadError → String
  | unreadable path fault => "failed to read config file " ++ path ++ ": " ++ fault.message
  | malformed path text fault => "invalid config file " ++ path ++ ": " ++ fault.message text
  | invalid what => "invalid config: " ++ what.message

/-- Settings that are valid. -/
def validate (c : Config) : Except LoadError Config :=
  match c.invalid? with
  | some what => .error (.invalid what)
  | none => .ok c

/-- The settings of the file at a path. -/
def ofFile (files : String → File) (path : String) : Except LoadError Config :=
  match (files path).text with
  | .error fault => .error (.unreadable path fault)
  | .ok text =>
    match ofToml text with
    | .error fault => .error (.malformed path text fault)
    | .ok c => .ok c

/-- The path that is read if none is asked for. -/
def defaultPath (vars : Variables) : String := (vars "DBQ_CONFIG").getD "dbq.toml"

/-- The settings of a process. A path that is asked for has to be there; without one,
a path where nothing is leaves the defaults. -/
def load (asked : Option String) (vars : Variables) (files : String → File) :
    Except LoadError Config := do
  let c ←
    match asked with
    | some path => ofFile files path
    | none =>
      let path := defaultPath vars
      if files path == .absent then .ok {} else ofFile files path
  validate (c.override vars)

/-! ## Settings in JSON -/

/-- Settings as JSON. -/
def json (c : Config) : Json.Value :=
  .ofMembers [
    ("server", .ofMembers [("bind", .string c.server.bind),
      ("cors_origins", .array (c.server.corsOrigins.map .string))]),
    ("catalog", .ofMembers [("sqlite_path", .string c.catalog.sqlitePath)]),
    ("upstream", .ofMembers [("connect_timeout_secs", .int c.remote.connectSeconds),
      ("statement_timeout_secs", .int c.remote.statementSeconds)]),
    ("logging", .ofMembers [("filter", .string c.logging.filter)])]

end Config

end QueryGateway
