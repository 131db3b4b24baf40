import QueryGateway.Guard

/-!
# Errors

The failures of the catalog and of remote databases, and the failures that an
operation of the gateway shows. Every one is a cause with its data, and one function
gives its message.
-/

namespace QueryGateway

open Text

/-! ## Durations -/

/-- A span of time: seconds, and nanoseconds below a second. -/
structure Duration where
  seconds : Nat
  nanos : Nat
  deriving DecidableEq, Repr

namespace Duration

/-- A span of seconds and any number of nanoseconds. -/
def ofParts (seconds nanos : Nat) : Duration :=
  ⟨seconds + nanos / 1000000000, nanos % 1000000000⟩

/-- A span of whole seconds. -/
def ofSeconds (seconds : Nat) : Duration := ⟨seconds, 0⟩

/-- A whole number with a fraction of so many digits, without the zeros at its
end. -/
def decimalText (whole fraction digits : Nat) : String :=
  let ds := ((padded digits fraction).toList.reverse.dropWhile (· == '0')).reverse
  toString whole ++ (if ds.isEmpty then "" else "." ++ String.ofList ds)

/-- A span in the largest unit of which it holds at least one. -/
def text (d : Duration) : String :=
  if d.seconds > 0 then decimalText d.seconds d.nanos 9 ++ "s"
  else if d.nanos ≥ 1000000 then decimalText (d.nanos / 1000000) (d.nanos % 1000000) 6 ++ "ms"
  else if d.nanos ≥ 1000 then decimalText (d.nanos / 1000) (d.nanos % 1000) 3 ++ "µs"
  else toString d.nanos ++ "ns"

end Duration

/-! ## The catalog -/

/-- What goes wrong with the storage of the catalog. -/
inductive StorageFault
  /-- Two tables of a connection have one schema and name. -/
  | duplicateTable
  /-- The largest id is in use. -/
  | idsExhausted
  | closed
  /-- A stored time that is none. -/
  | badMoment (column text : String)
  /-- A stored list of columns that is none. -/
  | badColumns (message : String)
  | cannotOpen
  | notADatabase
  | stated (message : String)
  deriving DecidableEq, Repr

/-- The message of a storage fault. -/
def StorageFault.message : StorageFault → String
  | duplicateTable =>
    "error returned from database: (code: 2067) UNIQUE constraint failed: " ++
      "table_metadata.connection_id, table_metadata.schema_name, table_metadata.table_name"
  | idsExhausted => "error returned from database: (code: 13) database or disk is full"
  | closed => "attempted to acquire a connection on a closed pool"
  | badMoment column text =>
    "error occurred while decoding column \"" ++ column ++ "\": invalid datetime: " ++ text
  | badColumns message =>
    "error occurred while decoding column \"columns_json\": " ++ message
  | cannotOpen => "error returned from database: (code: 14) unable to open database file"
  | notADatabase => "error returned from database: (code: 26) file is not a database"
  | stated message => message

/-- What goes wrong with the record of the schema versions of a catalog. -/
inductive MigrationFault
  /-- A version was applied with another content. -/
  | modified (version : Nat)
  /-- A version was applied that is not known. -/
  | missing (version : Nat)
  /-- A version was applied in part. -/
  | dirty (version : Nat)
  deriving DecidableEq, Repr

/-- The message of a migration fault. -/
def MigrationFault.message : MigrationFault → String
  | modified v => "migration " ++ toString v ++ " was previously applied but has been modified"
  | missing v =>
    "migration " ++ toString v ++ " was previously applied but is missing in the resolved migrations"
  | dirty v =>
    "migration " ++ toString v ++ " is partially applied; fix and remove row from `_sqlx_migrations` table"

/-- A failure of the catalog. -/
inductive CatalogError
  | notFound (id : Int)
  /-- A change could not be made, and nothing was changed. -/
  | writeFailed (fault : StorageFault)
  | readFailed (fault : StorageFault)
  | migration (fault : MigrationFault)
  /-- The directory of the storage could not be made. -/
  | io (message : String)
  deriving DecidableEq, Repr

/-- The message of a failure of the catalog. -/
def CatalogError.message : CatalogError → String
  | notFound _ => "Connection not found"
  | writeFailed f => "catalog write failed: " ++ f.message
  | readFailed f => "catalog read failed: " ++ f.message
  | migration f => "catalog migration failed: " ++ f.message
  | io message => "catalog storage error: " ++ message

/-! ## Remote databases -/

/-- A failure of a remote database. -/
inductive RemoteError
  | unsupportedUrl (why : String)
  | connectionFailed (why : String)
  | timeout (after : Duration)
  | queryFailed (why : String)
  deriving DecidableEq, Repr

/-- The message of a failure of a remote database. -/
def RemoteError.message : RemoteError → String
  | unsupportedUrl why => "unsupported connection url: " ++ why
  | connectionFailed why => why
  | timeout after => "timed out after " ++ after.text
  | queryFailed why => why

/-! ## The gateway -/

/-- A failure of an operation of the gateway. -/
inductive GatewayError
  /-- The request itself is wrong. -/
  | validation (why : String)
  | notFound (what : String)
  | connectionFailure (why : String)
  | timeout (after : Duration)
  | queryFailed (why : String)
  | catalogWrite (why : String)
  | internal (why : String)
  deriving DecidableEq, Repr

namespace GatewayError

/-- The code of a failure, by which programs tell it from others. -/
def code : GatewayError → String
  | validation _ => "validation_error"
  | notFound _ => "not_found"
  | connectionFailure _ => "connection_failure"
  | timeout _ => "timeout"
  | queryFailed _ => "query_failed"
  | catalogWrite _ => "catalog_write_failure"
  | internal _ => "internal_error"

/-- The message of a failure. -/
def message : GatewayError → String
  | validation why => why
  | notFound what => what
  | connectionFailure why => "failed to connect to upstream database: " ++ why
  | timeout after => "upstream query timed out after " ++ toString after.seconds ++ "s"
  | queryFailed why => "query failed: " ++ why
  | catalogWrite why => why
  | internal why => "internal error: " ++ why

/-- A refusal of the guard is a wrong request. -/
def ofGuard (e : GuardError) : GatewayError := validation e.message

/-- How a failure of the catalog is shown. -/
def ofCatalog (e : CatalogError) : GatewayError :=
  match e with
  | .notFound _ => notFound e.message
  | .writeFailed _ => catalogWrite e.message
  | .readFailed _ => internal e.message
  | .migration _ => internal e.message
  | .io _ => internal e.message

/-- How a failure of a remote database is shown. -/
def ofRemote (e : RemoteError) : GatewayError :=
  match e with
  | .unsupportedUrl _ => validation e.message
  | .connectionFailed why => connectionFailure why
  | .timeout after => timeout after
  | .queryFailed why => queryFailed why

end GatewayError

end QueryGateway
