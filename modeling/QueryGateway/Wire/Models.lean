import QueryGateway.Guard
import QueryGateway.Model
import QueryGateway.Wire.Reading

/-!
# Documents

The shapes of the records that go over the wire and of the requests that clients
send, and how the data of a shape are the record.
-/

namespace QueryGateway.Wire

/-- A field that may be left out and is not written if it is null. -/
def shyField (key : String) (shape : Shape) (rest : Fields) : Fields :=
  .cons key ⟨true, true⟩ shape rest

/-- A field that may be left out, and is written as null then. -/
def laxField (key : String) (shape : Shape) (rest : Fields) : Fields :=
  .cons key ⟨true, false⟩ shape rest

/-! ## Records -/

/-- The shape of a column of a table. -/
def columnInfo : Shape :=
  .record "ColumnInfo" (field "name" .text (field "dataType" .text .nil))

/-- The shape of a list of columns, as the catalog keeps it. -/
def columnList : Shape := .list columnInfo

/-- The shape of a table. -/
def tableInfo : Shape :=
  .record "TableInfo" (field "schema" .text (field "name" .text (field "isView" .bool
    (field "columns" columnList .nil))))

/-- The shape of a connection. -/
def connection : Shape :=
  .record "Connection" (field "id" .int (field "name" (.optional .text) (field "connectionUrl" .text
    (field "createdAt" .moment (field "lastSynced" (.optional .moment) .nil)))))

/-- The shape of a connection with its tables. -/
def connectionMetadata : Shape :=
  .record "ConnectionMetadata" (field "connection" connection (field "tables" (.list tableInfo) .nil))

/-- The shape of a guarded query. -/
def guardedQuery : Shape :=
  .record "GuardedQuery" (field "patchedSql" .text (field "limitAdded" .bool .nil))

/-- The shape of a column of a result. -/
def queryColumn : Shape :=
  .record "QueryColumn" (field "name" .text (shyField "type" (.optional .text) .nil))

/-- The shape of a result. -/
def queryResult : Shape :=
  .record "QueryResult" (field "columns" (.list queryColumn) (field "rows" (.list (.list .any))
    (field "limitAdded" .bool (shyField "message" (.optional .text) .nil))))

/-! ## Requests -/

/-- The shape of a request to sync a database. -/
def syncRequest : Shape :=
  .record "SyncRequest" (field "connectionUrl" .text (laxField "name" (.optional .text) .nil))

/-- The shape of a request to rename a connection. -/
def renameRequest : Shape :=
  .record "RenameRequest" (laxField "name" (.optional .text) .nil)

/-- The shape of a request to run a query. -/
def queryRequest : Shape :=
  .record "QueryRequest" (field "connectionId" .int (field "sql" .text .nil))

/-! ## Data of records -/

/-- The data of a column of a table. -/
def columnInfoData (c : ColumnInfo) : columnInfo.Data := (c.name, c.dataType, ())

/-- The column of a table from its data. -/
def columnInfoOf : columnInfo.Data → ColumnInfo
  | (name, dataType, ()) => ⟨name, dataType⟩

/-- The data of a table. -/
def tableInfoData (t : TableInfo) : tableInfo.Data :=
  (t.schema, t.name, t.isView, t.columns.map columnInfoData, ())

/-- The table from its data. -/
def tableInfoOf : tableInfo.Data → TableInfo
  | (schema, name, isView, columns, ()) => ⟨schema, name, isView, columns.map columnInfoOf⟩

/-- The data of a connection. -/
def connectionData (c : Connection) : connection.Data :=
  (c.id, c.name, c.connectionUrl, c.createdAt, c.lastSynced, ())

/-- The data of a connection with its tables. -/
def connectionMetadataData (m : ConnectionMetadata) : connectionMetadata.Data :=
  (connectionData m.connection, m.tables.map tableInfoData, ())

/-- The data of a guarded query. -/
def guardedQueryData (q : GuardedQuery) : guardedQuery.Data := (q.patchedSql, q.limitAdded, ())

/-- The data of a column of a result. -/
def queryColumnData (c : QueryColumn) : queryColumn.Data := (c.name, c.type, ())

/-- The column of a result from its data. -/
def queryColumnOf : queryColumn.Data → QueryColumn
  | (name, type, ()) => ⟨name, type⟩

/-- The data of a result. -/
def queryResultData (r : QueryResult) : queryResult.Data :=
  (r.columns.map queryColumnData, r.rows, r.limitAdded, r.message, ())

/-! ## Documents of records -/

/-- A table as JSON. -/
def tableInfoJson (t : TableInfo) : Json.Value := tableInfo.write (tableInfoData t)

/-- A connection as JSON. -/
def connectionJson (c : Connection) : Json.Value := connection.write (connectionData c)

/-- A connection with its tables as JSON. -/
def connectionMetadataJson (m : ConnectionMetadata) : Json.Value :=
  connectionMetadata.write (connectionMetadataData m)

/-- A guarded query as JSON. -/
def guardedQueryJson (q : GuardedQuery) : Json.Value := guardedQuery.write (guardedQueryData q)

/-- A result as JSON. -/
def queryResultJson (r : QueryResult) : Json.Value := queryResult.write (queryResultData r)

/-- The text of a list of columns. -/
def columnsText (columns : List ColumnInfo) : String :=
  (columnList.write (columns.map columnInfoData)).text

/-- The columns that a text lists. -/
def parseColumns (text : String) : Except String (List ColumnInfo) :=
  match columnList.parse text with
  | .ok ds => .ok (ds.map columnInfoOf)
  | .error f => .error (f.message text.toList)

/-! ## Names of shapes -/

/-- The shape of the record with a name. -/
def shapeNamed? : String → Option Shape
  | "ColumnInfo" => some columnInfo
  | "TableInfo" => some tableInfo
  | "Connection" => some connection
  | "ConnectionMetadata" => some connectionMetadata
  | "GuardedQuery" => some guardedQuery
  | "QueryColumn" => some queryColumn
  | "QueryResult" => some queryResult
  | "SyncRequest" => some syncRequest
  | "RenameRequest" => some renameRequest
  | "QueryRequest" => some queryRequest
  | _ => none

end QueryGateway.Wire
