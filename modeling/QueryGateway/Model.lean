import QueryGateway.Json.Value
import QueryGateway.Moment

/-!
# Records

What the gateway keeps and answers: registered connections, the tables and columns
of their databases, and the results of queries.
-/

namespace QueryGateway

/-- A registered database. `lastSynced` is absent until the first sync that
succeeds. -/
structure Connection where
  id : Int
  name : Option String
  connectionUrl : String
  createdAt : Moment
  lastSynced : Option Moment
  deriving DecidableEq, Repr

/-- A column of a table. -/
structure ColumnInfo where
  name : String
  dataType : String
  deriving DecidableEq, Repr

/-- A table or view with its columns in the order of the database. -/
structure TableInfo where
  schema : String
  name : String
  isView : Bool
  columns : List ColumnInfo
  deriving DecidableEq, Repr

/-- The name of a table as SQL writes it. -/
def TableInfo.qualifiedName (t : TableInfo) : String := t.schema ++ "." ++ t.name

/-- A connection with the tables found by its latest sync. -/
structure ConnectionMetadata where
  connection : Connection
  tables : List TableInfo
  deriving DecidableEq, Repr

/-- A column of a result, with its type if that is known. -/
structure QueryColumn where
  name : String
  type : Option String
  deriving DecidableEq, Repr

/-- The columns and rows that a database answers. -/
structure ResultSet where
  columns : List QueryColumn
  rows : List (List Json.Value)
  deriving Repr

/-- The result of a guarded query. -/
structure QueryResult where
  columns : List QueryColumn
  rows : List (List Json.Value)
  limitAdded : Bool
  message : Option String
  deriving Repr

end QueryGateway
