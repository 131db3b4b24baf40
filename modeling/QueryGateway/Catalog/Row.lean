import QueryGateway.Error
import QueryGateway.Moment.Stored
import QueryGateway.Wire.Models

/-!
# Rows of the catalog

What the storage of the catalog holds: a row for each registered database, and one
for each table found there. Times and lists of columns are kept as text and read
again when a record is asked for, so that text which came there in another way shows
only then.
-/

namespace QueryGateway

open Text

/-- The row of a registered database. -/
structure ConnectionRow where
  id : Int
  name : Option String
  url : String
  createdAt : String
  lastSynced : Option String
  deriving DecidableEq, Repr

/-- The row of a table of a registered database. -/
structure TableRow where
  connectionId : Int
  schema : String
  name : String
  isView : Bool
  columns : String
  deriving DecidableEq, Repr

/-- The moment that a column of a row holds. -/
def readMoment (column text : String) : Except StorageFault Moment :=
  match Moment.ofStored? text with
  | some t => .ok t
  | none => .error (.badMoment column text)

namespace ConnectionRow

/-- The connection that a row describes. -/
def read (r : ConnectionRow) : Except StorageFault Connection := do
  let createdAt ← readMoment "created_at" r.createdAt
  let lastSynced ← r.lastSynced.mapM (readMoment "last_synced")
  .ok ⟨r.id, r.name, r.url, createdAt, lastSynced⟩

/-- One row was made after another, or with it and under a larger id. -/
def newer (r s : ConnectionRow) : Bool :=
  lt s.createdAt r.createdAt || (r.createdAt == s.createdAt && s.id ≤ r.id)

end ConnectionRow

namespace TableRow

/-- The row of a table of a connection. -/
def ofTable (connectionId : Int) (t : TableInfo) : TableRow :=
  ⟨connectionId, t.schema, t.name, t.isView, Wire.columnsText t.columns⟩

/-- The table that a row describes. -/
def read (r : TableRow) : Except StorageFault TableInfo :=
  match Wire.parseColumns r.columns with
  | .ok columns => .ok ⟨r.schema, r.name, r.isView, columns⟩
  | .error message => .error (.badColumns message)

/-- One row stands before another by schema and name, or has both of them. -/
def before (r s : TableRow) : Bool :=
  lt r.schema s.schema || (r.schema == s.schema && (lt r.name s.name || r.name == s.name))

/-- Two rows are of one table. -/
def same (r s : TableRow) : Bool :=
  r.connectionId == s.connectionId && r.schema == s.schema && r.name == s.name

end TableRow

end QueryGateway
