import QueryGateway.Postgres.Cell
import QueryGateway.Postgres.Introspection
import QueryGateway.Postgres.Options

/-!
# Sessions

A session with a database server: opening it, preparing a statement and sending one
in the simple protocol. The server is a script, which says what it answers; the
session keeps a record of what the server was told, and what of it was accepted. A
statement is sent only after the server has prepared the same text, because the simple
protocol would run several statements.
-/

namespace QueryGateway.Postgres

open Text

/-! ## Types -/

/-- The types of columns by their numbers. -/
def typeNames : List (Nat × String) :=
  [(16, "BOOL"), (17, "BYTEA"), (18, "\"CHAR\""), (19, "NAME"), (20, "INT8"), (21, "INT2"),
   (23, "INT4"), (25, "TEXT"), (26, "OID"), (114, "JSON"), (199, "JSON[]"), (600, "POINT"),
   (601, "LSEG"), (602, "PATH"), (603, "BOX"), (604, "POLYGON"), (628, "LINE"), (629, "LINE[]"),
   (650, "CIDR"), (651, "CIDR[]"), (700, "FLOAT4"), (701, "FLOAT8"), (705, "UNKNOWN"),
   (718, "CIRCLE"), (719, "CIRCLE[]"), (774, "MACADDR8"), (775, "MACADDR8[]"), (790, "MONEY"),
   (791, "MONEY[]"), (829, "MACADDR"), (869, "INET"), (1000, "BOOL[]"), (1001, "BYTEA[]"),
   (1002, "\"CHAR\"[]"), (1003, "NAME[]"), (1005, "INT2[]"), (1007, "INT4[]"), (1009, "TEXT[]"),
   (1014, "CHAR[]"), (1015, "VARCHAR[]"), (1016, "INT8[]"), (1017, "POINT[]"), (1018, "LSEG[]"),
   (1019, "PATH[]"), (1020, "BOX[]"), (1021, "FLOAT4[]"), (1022, "FLOAT8[]"), (1027, "POLYGON[]"),
   (1028, "OID[]"), (1040, "MACADDR[]"), (1041, "INET[]"), (1042, "CHAR"), (1043, "VARCHAR"),
   (1082, "DATE"), (1083, "TIME"), (1114, "TIMESTAMP"), (1115, "TIMESTAMP[]"), (1182, "DATE[]"),
   (1183, "TIME[]"), (1184, "TIMESTAMPTZ"), (1185, "TIMESTAMPTZ[]"), (1186, "INTERVAL"),
   (1187, "INTERVAL[]"), (1231, "NUMERIC[]"), (1266, "TIMETZ"), (1270, "TIMETZ[]"), (1560, "BIT"),
   (1561, "BIT[]"), (1562, "VARBIT"), (1563, "VARBIT[]"), (1700, "NUMERIC"), (2249, "RECORD"),
   (2278, "VOID"), (2287, "RECORD[]"), (2950, "UUID"), (2951, "UUID[]"), (3802, "JSONB"),
   (3807, "JSONB[]"), (3904, "INT4RANGE"), (3905, "INT4RANGE[]"), (3906, "NUMRANGE"),
   (3907, "NUMRANGE[]"), (3908, "TSRANGE"), (3909, "TSRANGE[]"), (3910, "TSTZRANGE"),
   (3911, "TSTZRANGE[]"), (3912, "DATERANGE"), (3913, "DATERANGE[]"), (3926, "INT8RANGE"),
   (3927, "INT8RANGE[]"), (4072, "JSONPATH"), (4073, "JSONPATH[]")]

/-- The name of a type. -/
def typeName (oid : Nat) : String := (typeNames.lookup oid).getD "?"

/-! ## Servers -/

/-- A column of a result: its name, the number of its type, and whether its values
are announced in the binary format. -/
structure ScriptColumn where
  name : String
  oid : Nat
  binary : Bool
  deriving DecidableEq, Repr

/-- Where a server fails. -/
inductive FailurePoint
  /-- It refuses the session. -/
  | startup
  /-- It closes the connection at the start. -/
  | hangup
  /-- It refuses to prepare a statement. -/
  | prepare
  /-- It refuses to run a statement. -/
  | query
  /-- It closes the connection when it gets a statement. -/
  | drop
  deriving DecidableEq, Repr

/-- A failure with the server's code and message. -/
structure ServerFailure where
  point : FailurePoint
  code : String
  message : String
  deriving DecidableEq, Repr

/-- What a server answers. A cell is its bytes, or absent. -/
structure Script where
  columns : List ScriptColumn
  rows : List (List (Option (List Nat)))
  failure : Option ServerFailure
  /-- It takes connections and never answers. -/
  hangs : Bool
  deriving DecidableEq, Repr

/-- What is found where a URL leads to. -/
inductive Reach
  | noRoute
  | refused
  | server (script : Script)
  deriving DecidableEq, Repr

/-! ## What a server is told -/

/-- A message to a server. -/
inductive Message
  | start (parameters : List (String × String))
  /-- A statement to prepare. -/
  | prepare (sql : String)
  /-- A statement to run, in the simple protocol. -/
  | send (sql : String)
  deriving DecidableEq, Repr

/-- A message to a server, and whether the server accepted it. -/
structure Told where
  message : Message
  accepted : Bool
  deriving DecidableEq, Repr

/-- What a server was told, one message after the other. -/
abbrev Exchange := List Told

namespace Exchange

/-- The parameters that sessions were started with. -/
def startup (e : Exchange) : List (String × String) :=
  e.flatMap fun t =>
    match t.message with
    | .start parameters => parameters
    | _ => []

/-- The statements that the server was to prepare. -/
def prepared (e : Exchange) : List String :=
  e.filterMap fun t =>
    match t.message with
    | .prepare sql => some sql
    | _ => none

/-- The statements sent in the simple protocol. -/
def simple (e : Exchange) : List String :=
  e.filterMap fun t =>
    match t.message with
    | .send sql => some sql
    | _ => none

end Exchange

/-! ## Failures -/

/-- A failure of the connection itself. -/
def broken (why : String) : RemoteError :=
  .connectionFailed ("error communicating with database: " ++ why)

/-- A server closed the connection. -/
def endOfStream : RemoteError := broken "expected to read 5 bytes, got 0 bytes at EOF"

/-- The code of a statement that was cancelled because it took too long. -/
def queryCanceled : String := "57014"

/-- How the failure of a statement is shown. -/
def statementError (limits : Limits) (f : ServerFailure) : RemoteError :=
  if f.code == queryCanceled then .timeout (.ofSeconds limits.statement) else .queryFailed f.message

/-- The failure of a script at a point. -/
def Script.failsAt (s : Script) (p : FailurePoint) : Option ServerFailure :=
  s.failure.filter (·.point == p)

/-! ## Steps -/

/-- Opens a session. -/
def openSession (limits : Limits) (url : String) (reach : Reach) :
    Except RemoteError (Options × Script) := do
  let o ← connectOptions limits url
  match reach with
  | .noRoute => throw (broken "Network is unreachable (os error 101)")
  | .refused => throw (broken "Connection refused (os error 111)")
  | .server script =>
    if script.hangs then throw (.timeout (.ofSeconds limits.connect))
    else
      match script.failsAt .hangup, script.failsAt .startup with
      | some _, _ => throw endOfStream
      | none, some f => throw (.connectionFailed ("error returned from database: " ++ f.message))
      | none, none => return (o, script)

/-- Prepares a statement. -/
def Script.prepare (limits : Limits) (s : Script) : Except RemoteError (List ScriptColumn) :=
  match s.failsAt .prepare with
  | some f => .error (statementError limits f)
  | none => .ok s.columns

/-- Sends a statement in the simple protocol. -/
def Script.send (limits : Limits) (s : Script) : Except RemoteError (List (List (Option (List Nat)))) :=
  match s.failsAt .query, s.failsAt .drop with
  | some f, _ => .error (statementError limits f)
  | none, some _ => .error endOfStream
  | none, none => .ok s.rows

/-- The value of a cell. Values in the binary format and values that are no text are
null. -/
def decodeCell (c : ScriptColumn) : Option (List Nat) → Json.Value
  | none => .null
  | some bytes =>
    if c.binary then .null
    else
      match decodeUtf8 bytes with
      | .ok cs => cellValue (upper (typeName c.oid)) (String.ofList cs)
      | .error _ => .null

/-- The values of a row. -/
def decodeRow (columns : List ScriptColumn) (row : List (Option (List Nat))) : List Json.Value :=
  (columns.zip row).map fun (c, cell) => decodeCell c cell

/-- The description of a column. -/
def describe (c : ScriptColumn) : QueryColumn := ⟨c.name, some (typeName c.oid)⟩

/-! ## Calls -/

/-- Runs a statement: the result, and what the server was told. -/
def execute (limits : Limits) (reach : Reach) (url sql : String) :
    Except RemoteError ResultSet × Exchange :=
  match openSession limits url reach with
  | .error e => (.error e, [])
  | .ok (o, script) =>
    let told : Exchange := [⟨.start o.startup, true⟩]
    match script.prepare limits with
    | .error e => (.error e, told ++ [⟨.prepare sql, false⟩])
    | .ok columns =>
      let told := told ++ [⟨.prepare sql, true⟩]
      match script.send limits with
      | .error e => (.error e, told ++ [⟨.send sql, false⟩])
      | .ok rows =>
        (.ok ⟨columns.map describe, rows.map (decodeRow columns)⟩, told ++ [⟨.send sql, true⟩])

/-- The cell of a row under a name. -/
def cellNamed (columns : List ScriptColumn) (name : String) (row : List (Option (List Nat))) :
    Except RemoteError (Option (List Nat)) :=
  match (columns.zip row).find? fun (c, _) => c.name == name with
  | some (_, cell) => .ok cell
  | none => .error (.queryFailed ("no column found for name: " ++ name))

/-- A decoding failure of a column. -/
def undecodable {α : Type} (name why : String) : Except RemoteError α :=
  .error (.queryFailed ("error occurred while decoding column \"" ++ name ++ "\": " ++ why))

/-- The text of a cell under a name, absent for null. -/
def textNamed (columns : List ScriptColumn) (name : String) (row : List (Option (List Nat))) :
    Except RemoteError (Option String) := do
  match ← cellNamed columns name row with
  | none => return none
  | some bytes =>
    match decodeUtf8 bytes with
    | .ok cs => return some (String.ofList cs)
    | .error f => undecodable name f.message

/-- The text of a cell under a name, which must not be null. -/
def requiredText (columns : List ScriptColumn) (name : String) (row : List (Option (List Nat))) :
    Except RemoteError String := do
  match ← textNamed columns name row with
  | some s => return s
  | none => undecodable name "unexpected null; try decoding as an `Option`"

/-- A row of the list of tables and columns. -/
def introspectionRow (columns : List ScriptColumn) (row : List (Option (List Nat))) :
    Except RemoteError IntrospectionRow := do
  let schema ← requiredText columns "table_schema" row
  let table ← requiredText columns "table_name" row
  let kind ← requiredText columns "table_type" row
  let column ← textNamed columns "column_name" row
  let dataType ← textNamed columns "data_type" row
  return ⟨schema, table, kind, column, dataType⟩

/-- Lists the tables of a database, and what the server was told. -/
def introspect (limits : Limits) (reach : Reach) (url : String) :
    Except RemoteError (List TableInfo) × Exchange :=
  match openSession limits url reach with
  | .error e => (.error e, [])
  | .ok (o, script) =>
    let prepared := script.prepare limits
    let told : Exchange := [⟨.start o.startup, true⟩, ⟨.prepare introspectionSql, prepared.isOk⟩]
    let tables : Except RemoteError (List TableInfo) := do
      let columns ← prepared
      let rows ← script.rows.mapM (introspectionRow columns)
      return groupRows rows
    (tables, told)

end QueryGateway.Postgres
