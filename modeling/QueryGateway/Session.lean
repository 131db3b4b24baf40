import QueryGateway.Catalog.Opening
import QueryGateway.Http.Service

/-!
# Sessions

A session drives a gateway step by step: operations of the catalog, syncs and queries,
requests to the service, and what happens around the gateway, such as rows that someone
else puts into the storage. Every step has an answer, and `run` gives all of them.
-/

namespace QueryGateway

/-- A change to the record of the schema from outside. -/
inductive Damage
  /-- The content of the version is another one. -/
  | content
  /-- The version is one that is not known. -/
  | version
  /-- The version was not applied to the end. -/
  | half
  deriving DecidableEq, Repr

/-- The record after damage. -/
def SchemaRecord.damage (r : SchemaRecord) : Damage → SchemaRecord
  | .content => { r with intact := false }
  | .version => { r with version := 7 }
  | .half => { r with complete := false }

/-- A remote side that answers every call in one way: with a failure, if there is one,
and else with the same tables and the same rows. -/
def Remote.scripted (tables : List TableInfo) (result : ResultSet) (failure : Option RemoteError) :
    Remote where
  introspect _ := failure.elim (.ok tables) .error
  execute _ _ := failure.elim (.ok result) .error

/-- A step of a session. -/
inductive Step
  | upsert (url : String) (name : Option String)
  | replace (id : Int) (tables : List TableInfo)
  | touch (id : Int)
  | rename (id : Int) (name : Option String)
  | delete (id : Int)
  | list
  | get (id : Int)
  | metadata (id : Int)
  | sync (url : String) (name : Option String)
  | query (id : Int) (sql : String)
  /-- Other remote databases from now on. -/
  | script (remote : Remote)
  /-- Tells the calls since they were told last. -/
  | calls
  | request (r : Http.Request)
  /-- Opens the storage again, if it lasts. -/
  | reopen
  | seedConnection (row : ConnectionRow)
  | seedTable (row : TableRow)
  | tamper (damage : Damage)
  /-- Closes the storage, if others have it too. -/
  | close

/-- The answer to a step. -/
inductive Answer
  | done (r : Except CatalogError Unit)
  | connection (r : Except CatalogError Connection)
  | connections (r : Except CatalogError (List Connection))
  | metadata (r : Except CatalogError ConnectionMetadata)
  | synced (r : Except GatewayError ConnectionMetadata)
  | result (r : Except GatewayError QueryResult)
  | calls (calls : List Call)
  | response (r : Http.Response)
  /-- Whether a change from outside was possible. -/
  | seeded (ok : Bool)

/-- A session: the gateway, where its catalog is kept, and the record of the schema
there. -/
structure Session where
  gateway : Gateway
  place : Place
  record : SchemaRecord := {}

namespace Session

/-- A session with its gateway after an operation. -/
def after {α : Type} (s : Session) (answer : α → Answer) (outcome : α × Gateway) : Answer × Session :=
  (answer outcome.1, { s with gateway := outcome.2 })

/-- Others can reach the storage. -/
def isShared (s : Session) : Bool := s.place != .memory && s.gateway.catalog.isOpen

/-- A session after a change of the rows from outside. -/
def seed (s : Session) (change : Catalog → Option Catalog) : Answer × Session :=
  match if s.isShared then change s.gateway.catalog else none with
  | some c => (.seeded true, { s with gateway := { s.gateway with catalog := c } })
  | none => (.seeded false, s)

/-- Takes a step. -/
def step (s : Session) : Step → Answer × Session
  | .upsert url name => s.after .connection (s.gateway.upsert url name)
  | .replace id tables => s.after .done (s.gateway.replaceTables id tables)
  | .touch id => s.after .connection (s.gateway.touch id)
  | .rename id name => s.after .connection (s.gateway.rename id name)
  | .delete id => s.after .done (s.gateway.delete id)
  | .list => (.connections s.gateway.catalog.list, s)
  | .get id => (.connection (s.gateway.catalog.get id), s)
  | .metadata id => (.metadata (s.gateway.catalog.metadata id), s)
  | .sync url name => s.after .synced (s.gateway.sync url name)
  | .query id sql => s.after .result (s.gateway.query id sql)
  | .script remote => (.done (.ok ()), { s with gateway := { s.gateway with remote } })
  | .calls => (.calls s.gateway.calls, { s with gateway := { s.gateway with calls := [] } })
  | .request r => s.after .response (Http.serve r s.gateway)
  | .reopen => (.done (if s.place == .file then s.record.check else .ok ()), s)
  | .seedConnection row => s.seed (Catalog.insertConnection? row)
  | .seedTable row => s.seed (Catalog.insertTable? row)
  | .tamper damage =>
    if s.isShared then (.seeded true, { s with record := s.record.damage damage })
    else (.seeded false, s)
  | .close =>
    let g := s.gateway
    if s.place == .shared then (.done (.ok ()), { s with gateway := { g with catalog := g.catalog.close } })
    else (.done (.ok ()), s)

/-- Takes steps one after the other. -/
def run (s : Session) : List Step → List Answer × Session
  | [] => ([], s)
  | t :: ts =>
    let (a, s) := s.step t
    let (as, s) := s.run ts
    (a :: as, s)

/-- A session with an empty catalog. -/
def start (place : Place) (origins : List String) (now : Moment) : Except CatalogError Session :=
  (Catalog.create place).map fun catalog =>
    { gateway := { catalog, remote := .scripted [] ⟨[], []⟩ none, now, origins }, place }

end Session

end QueryGateway
