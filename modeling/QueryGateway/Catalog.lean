import QueryGateway.Catalog.Row
import QueryGateway.Sorting

/-!
# The catalog

The registry of databases with the tables found in each. An operation that fails
leaves the rows as they were, apart from the ones whose change is made before the
changed row turns out to be unreadable.

Ids count up from one and are never used again: `lastId` is the largest that was ever
given out, and a registration takes the next one, even if it finds its database
registered already.
-/

namespace QueryGateway

open Text

/-- The rows of a catalog, and whether its storage can be reached. -/
structure Catalog where
  connections : List ConnectionRow := []
  tables : List TableRow := []
  lastId : Int := 0
  isOpen : Bool := true
  deriving DecidableEq, Repr

namespace Catalog

/-- What an operation answers, and the catalog behind it. -/
abbrev Outcome (α : Type) := Except CatalogError α × Catalog

/-! ## Rows -/

/-- The row of a connection. -/
def find? (c : Catalog) (id : Int) : Option ConnectionRow :=
  c.connections.find? fun r => r.id == id

/-- The row of the connection to a database. -/
def findUrl? (c : Catalog) (url : String) : Option ConnectionRow :=
  c.connections.find? fun r => r.url == url

/-- The rows of the tables of a connection. -/
def tablesOf (c : Catalog) (id : Int) : List TableRow :=
  c.tables.filter fun t => t.connectionId == id

/-- The catalog with a change made to the row of a connection. -/
def modify (c : Catalog) (id : Int) (change : ConnectionRow → ConnectionRow) : Catalog :=
  { c with connections := c.connections.map fun r => if r.id == id then change r else r }

/-- The connection of a row as a change answers it. -/
def written (r : ConnectionRow) : Except CatalogError Connection :=
  r.read.mapError .writeFailed

/-- The connection of a row as a look-up answers it. -/
def seen (r : ConnectionRow) : Except CatalogError Connection :=
  r.read.mapError .readFailed

/-! ## Changes -/

/-- Registers a database, or finds it registered; its name counts only in the first
case. -/
def upsert (url : String) (name : Option String) (now : Moment) (c : Catalog) : Outcome Connection :=
  if !c.isOpen then (.error (.writeFailed .closed), c)
  else if c.lastId ≥ maxInt64 then (.error (.writeFailed .idsExhausted), c)
  else
    let c := { c with lastId := c.lastId + 1 }
    match c.findUrl? url with
    | some r => (written r, c)
    | none =>
      let r : ConnectionRow := ⟨c.lastId, name, url, now.offsetText, none⟩
      (written r, { c with connections := c.connections ++ [r] })

/-- Makes changes as one: if one of them fails, none is made. -/
def transact (changes : Catalog → Except CatalogError Catalog) (c : Catalog) : Outcome Unit :=
  match changes c with
  | .ok c' => (.ok (), c')
  | .error e => (.error e, c)

/-- The catalog without the tables of a connection. -/
def clearTables (id : Int) (c : Catalog) : Catalog :=
  { c with tables := c.tables.filter fun t => t.connectionId != id }

/-- Puts the rows of tables in, one after the other, up to the first whose table has a
row already. -/
def insertTables : List TableRow → Catalog → Except StorageFault Catalog
  | [], c => .ok c
  | r :: rs, c =>
    if c.tables.any r.same then .error .duplicateTable
    else insertTables rs { c with tables := c.tables ++ [r] }

/-- Puts tables in the place of all that a connection had. The old ones are taken out
before the connection is looked for and before the new ones go in. -/
def replaceTables (id : Int) (tables : List TableInfo) : Catalog → Outcome Unit :=
  transact fun c =>
    if !c.isOpen then .error (.writeFailed .closed)
    else
      let cleared := c.clearTables id
      if (cleared.find? id).isNone then .error (.notFound id)
      else (cleared.insertTables (tables.map (TableRow.ofTable id))).mapError .writeFailed

/-- Changes the row of a connection and answers it. -/
def update (id : Int) (change : ConnectionRow → ConnectionRow) (c : Catalog) : Outcome Connection :=
  if !c.isOpen then (.error (.writeFailed .closed), c)
  else
    match c.find? id with
    | none => (.error (.notFound id), c)
    | some r => (written (change r), c.modify id change)

/-- Notes that a connection is synced now. -/
def touch (id : Int) (now : Moment) (c : Catalog) : Outcome Connection :=
  c.update id fun r => { r with lastSynced := some now.offsetText }

/-- Gives a connection another name, or none. -/
def rename (id : Int) (name : Option String) (c : Catalog) : Outcome Connection :=
  c.update id fun r => { r with name }

/-- Takes a connection and its tables out. -/
def delete (id : Int) (c : Catalog) : Outcome Unit :=
  if !c.isOpen then (.error (.writeFailed .closed), c)
  else if (c.find? id).isNone then (.error (.notFound id), c)
  else
    (.ok (), { c.clearTables id with connections := c.connections.filter fun r => r.id != id })

/-! ## Look-ups -/

/-- All connections, the newest first. -/
def list (c : Catalog) : Except CatalogError (List Connection) :=
  if !c.isOpen then .error (.readFailed .closed)
  else (sorted ConnectionRow.newer c.connections).mapM seen

/-- A connection. -/
def get (id : Int) (c : Catalog) : Except CatalogError Connection :=
  if !c.isOpen then .error (.readFailed .closed)
  else
    match c.find? id with
    | none => .error (.notFound id)
    | some r => seen r

/-- A connection with its tables, by schema and name. -/
def metadata (id : Int) (c : Catalog) : Except CatalogError ConnectionMetadata := do
  let connection ← c.get id
  let tables ← ((sorted TableRow.before (c.tablesOf id)).mapM TableRow.read).mapError .readFailed
  .ok ⟨connection, tables⟩

/-! ## Rows from elsewhere -/

/-- Puts the row of a connection in as it is; nothing if its id or its database has
one already. -/
def insertConnection? (r : ConnectionRow) (c : Catalog) : Option Catalog :=
  if !c.isOpen || (c.find? r.id).isSome || (c.findUrl? r.url).isSome then none
  else some { c with connections := c.connections ++ [r], lastId := max c.lastId r.id }

/-- Puts the row of a table in as it is; nothing if there is one already, or no such
connection. -/
def insertTable? (r : TableRow) (c : Catalog) : Option Catalog :=
  if !c.isOpen || (c.find? r.connectionId).isNone || c.tables.any r.same then none
  else some { c with tables := c.tables ++ [r] }

/-- The catalog with its storage out of reach. -/
def close (c : Catalog) : Catalog := { c with isOpen := false }

end Catalog

end QueryGateway
