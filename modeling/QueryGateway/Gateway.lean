import QueryGateway.Catalog
import QueryGateway.Guard

/-!
# The gateway

The catalog and the remote databases together. A sync looks into a database first and
registers what it found; a query goes to the database of its connection only in the
form that the guard gives it. Everything that reaches a remote database is noted in
`calls`, whether it succeeds or not.
-/

namespace QueryGateway

/-- Remote databases: what looking into one at a URL answers, and what a statement
there answers. -/
structure Remote where
  introspect : String → Except RemoteError (List TableInfo)
  execute : String → String → Except RemoteError ResultSet

/-- A call to a remote database. -/
inductive Call
  | introspect (url : String)
  | execute (url sql : String)
  deriving DecidableEq, Repr

/-- A gateway at work. `now` is what its clock shows next, and `origins` are the pages
that may ask it from a browser. -/
structure Gateway where
  catalog : Catalog
  remote : Remote
  calls : List Call := []
  now : Moment
  origins : List String := ["*"]

namespace Gateway

/-! ## The catalog and the clock -/

/-- A gateway with another catalog, and whatever the change of the catalog answers. -/
def withCatalog {α : Type} (g : Gateway) (outcome : Catalog.Outcome α) :
    Except CatalogError α × Gateway :=
  (outcome.1, { g with catalog := outcome.2 })

/-- Registers a database. -/
def upsert (url : String) (name : Option String) (g : Gateway) :
    Except CatalogError Connection × Gateway :=
  { g with now := g.now.tick }.withCatalog (g.catalog.upsert url name g.now)

/-- Puts tables in the place of all that a connection had. -/
def replaceTables (id : Int) (tables : List TableInfo) (g : Gateway) :
    Except CatalogError Unit × Gateway :=
  g.withCatalog (g.catalog.replaceTables id tables)

/-- Notes that a connection is synced now. -/
def touch (id : Int) (g : Gateway) : Except CatalogError Connection × Gateway :=
  { g with now := g.now.tick }.withCatalog (g.catalog.touch id g.now)

/-- Gives a connection another name, or none. -/
def rename (id : Int) (name : Option String) (g : Gateway) :
    Except CatalogError Connection × Gateway :=
  g.withCatalog (g.catalog.rename id name)

/-- Takes a connection and its tables out. -/
def delete (id : Int) (g : Gateway) : Except CatalogError Unit × Gateway :=
  g.withCatalog (g.catalog.delete id)

/-! ## Remote databases -/

/-- A gateway that notes a call. -/
def note (call : Call) (g : Gateway) : Gateway := { g with calls := g.calls ++ [call] }

/-- Looks into a database, registers it, and keeps what was found. -/
def sync (url : String) (name : Option String) (g : Gateway) :
    Except GatewayError ConnectionMetadata × Gateway :=
  let g := g.note (.introspect url)
  match g.remote.introspect url with
  | .error e => (.error (.ofRemote e), g)
  | .ok tables =>
    match g.upsert url name with
    | (.error e, g) => (.error (.ofCatalog e), g)
    | (.ok connection, g) =>
      match g.replaceTables connection.id tables with
      | (.error e, g) => (.error (.ofCatalog e), g)
      | (.ok (), g) =>
        match g.touch connection.id with
        | (.error e, g) => (.error (.ofCatalog e), g)
        | (.ok connection, g) => (.ok ⟨connection, tables⟩, g)

/-- What a result says about a limit that was added. -/
def limitMessage : String := "LIMIT 1000 applied automatically"

/-- The result of a guarded query. -/
def resultOf (q : GuardedQuery) (rs : ResultSet) : QueryResult :=
  ⟨rs.columns, rs.rows, q.limitAdded, if q.limitAdded then some limitMessage else none⟩

/-- Sends a query, as the guard lets it through, to the database of a connection. -/
def query (id : Int) (sql : String) (g : Gateway) : Except GatewayError QueryResult × Gateway :=
  match g.catalog.get id with
  | .error e => (.error (.ofCatalog e), g)
  | .ok connection =>
    match guardSql sql with
    | .error e => (.error (.ofGuard e), g)
    | .ok q =>
      let g := g.note (.execute connection.connectionUrl q.patchedSql)
      match g.remote.execute connection.connectionUrl q.patchedSql with
      | .error e => (.error (.ofRemote e), g)
      | .ok rs => (.ok (resultOf q rs), g)

end Gateway

end QueryGateway
