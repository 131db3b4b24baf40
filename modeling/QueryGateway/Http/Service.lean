import QueryGateway.Gateway
import QueryGateway.Http.MediaType
import QueryGateway.Http.Route
import QueryGateway.Wire.Models

/-!
# The service

`serve` answers requests. A request that names a resource with one of its methods
becomes an operation of the gateway; all others change nothing. Texts from clients
count without the white space around them, and a name of nothing but white space is no
name.

Every response says which origins may see it: any, if one of those that are set up is a
star, and else the origin of the request if it is one of them.
-/

namespace QueryGateway.Http

open Text Wire

/-! ## Bodies of requests -/

/-- How many bytes a body may have. -/
def bodyLimit : Nat := 2097152

/-- Why a body is not what is asked for. -/
def bodyMessage (text : List Char) (f : Json.Fault) : String :=
  let what :=
    if f.cause.isData then "Failed to deserialize the JSON body into the target type: "
    else "Failed to parse the request body as JSON: "
  let path := Json.pathText f.path
  what ++ (if path.isEmpty then "" else path ++ ": ") ++ f.message text

/-- The data of the body of a request. -/
def readBody (shape : Shape) (r : Request) : Except GatewayError shape.Data :=
  let text := r.body.toList
  if !(r.header? "content-type").any isJsonType then
    .error (.validation "Expected request with `Content-Type: application/json`")
  else if utf8Length text > bodyLimit then
    .error (.validation "Failed to buffer the request body: length limit exceeded")
  else
    match shape.parse r.body with
    | .ok d => .ok d
    | .error f => .error (.validation (bodyMessage text f))

/-- A name without the white space around it, if anything is left. -/
def cleanName (name : Option String) : Option String :=
  (name.map trim).filter fun n => !n.isEmpty

/-! ## Operations -/

/-- An operation that answers JSON or fails. -/
def answerJson {α : Type} (json : α → Json.Value) (outcome : Except GatewayError α × Gateway) :
    Response × Gateway :=
  match outcome.1 with
  | .ok a => (.json 200 (json a), outcome.2)
  | .error e => (.ofError e, outcome.2)

/-- An answer that leaves the gateway as it is. -/
def answerOnly (r : Response) (g : Gateway) : Response × Gateway := (r, g)

/-- Syncs the database that the body names. -/
def syncDatabase (r : Request) (g : Gateway) : Response × Gateway :=
  match readBody syncRequest r with
  | .error e => (.ofError e, g)
  | .ok (url, name, ()) =>
    if (trim url).isEmpty then (.ofError (.validation "connectionUrl must not be empty"), g)
    else answerJson connectionMetadataJson (g.sync (trim url) (cleanName name))

/-- Lists all connections. -/
def listConnections (g : Gateway) : Response :=
  match g.catalog.list with
  | .ok cs => .json 200 (.array (cs.map connectionJson))
  | .error e => .ofError (.ofCatalog e)

/-- Shows a connection with its tables. -/
def showConnection (segment : List Char) (g : Gateway) : Response :=
  match readId segment with
  | .error e => .ofError e
  | .ok id =>
    match g.catalog.metadata id with
    | .ok m => .json 200 (connectionMetadataJson m)
    | .error e => .ofError (.ofCatalog e)

/-- Gives a connection the name in the body. -/
def renameConnection (segment : List Char) (r : Request) (g : Gateway) : Response × Gateway :=
  match readId segment with
  | .error e => (.ofError e, g)
  | .ok id =>
    match readBody renameRequest r with
    | .error e => (.ofError e, g)
    | .ok (name, ()) =>
      let (outcome, g) := g.rename id (cleanName name)
      answerJson connectionJson (outcome.mapError .ofCatalog, g)

/-- Takes a connection out. -/
def deleteConnection (segment : List Char) (g : Gateway) : Response × Gateway :=
  match readId segment with
  | .error e => (.ofError e, g)
  | .ok id =>
    match g.delete id with
    | (.ok (), g) => (.bare 204, g)
    | (.error e, g) => (.ofError (.ofCatalog e), g)

/-- Runs the query in the body. -/
def runQuery (r : Request) (g : Gateway) : Response × Gateway :=
  match readBody queryRequest r with
  | .error e => (.ofError e, g)
  | .ok (id, sql, ()) => answerJson queryResultJson (g.query id sql)

/-- The answer to everyone who asks whether the gateway is there. -/
def healthy : Response := .json 200 (.ofMembers [("status", .string "ok")])

/-- The operation of a method on a resource. -/
def operate (resource : Resource) (method : Method) (r : Request) (g : Gateway) :
    Response × Gateway :=
  match resource, method with
  | .health, .get => answerOnly healthy g
  | .health, .head => answerOnly healthy.withoutBody g
  | .connections, .get => answerOnly (listConnections g) g
  | .connections, .head => answerOnly (listConnections g).withoutBody g
  | .connection s, .get => answerOnly (showConnection s g) g
  | .connection s, .head => answerOnly (showConnection s g).withoutBody g
  | .connection s, .put => renameConnection s r g
  | .connection s, .delete => deleteConnection s g
  | .sync, .post => syncDatabase r g
  | .query, .post => runQuery r g
  | _, _ => answerOnly (.bare 405) g

/-! ## Origins -/

/-- The origin that may see the response to a request. -/
def allowedOrigin? (origins : List String) (r : Request) : Option String :=
  if origins.contains "*" then some "*"
  else (r.header? "origin").filter fun o => origins.contains o && o.toList.all isHeaderChar

/-- The headers about origins. -/
def originHeaders (origins : List String) (r : Request) : Headers :=
  let vary := ("vary", "origin, access-control-request-method, access-control-request-headers")
  match allowedOrigin? origins r with
  | some o => [("access-control-allow-origin", o), vary]
  | none => [vary]

/-- The answer to a browser that asks beforehand what it may send. -/
def preflight (resource : Option Resource) : Response :=
  (Response.bare 200).withHeaders
    ([("access-control-allow-methods", "*"), ("access-control-allow-headers", "*")] ++
      (resource.map Resource.allow).getD [])

/-! ## Requests -/

/-- The answer to a request, without the headers about origins. -/
def respond (r : Request) (g : Gateway) : Response × Gateway :=
  let resource := Resource.ofPath? r.path
  if r.method == "OPTIONS" then (preflight resource, g)
  else
    match resource with
    | none => (.bare 404, g)
    | some resource =>
      match resource.method? r.method with
      | some method => operate resource method r g
      | none => ((Response.bare 405).withHeaders resource.allow, g)

/-- Answers a request. -/
def serve (r : Request) (g : Gateway) : Response × Gateway :=
  let (response, g') := respond r g
  (response.withHeaders (originHeaders g.origins r), g')

end QueryGateway.Http
