import QueryGateway.Error
import QueryGateway.Json.Value

/-!
# Requests and responses

What a client sends and what it is answered. A failure of the gateway is answered by an
envelope of its code and its message; what went wrong inside stays inside.
-/

namespace QueryGateway.Http

open Text

/-- Headers: their names in lower case, and their values. -/
abbrev Headers := List (String × String)

/-- A request. The target is a path that may have a query behind it. -/
structure Request where
  method : String
  target : String
  headers : Headers
  body : String
  deriving DecidableEq, Repr

/-- The body of a response. -/
inductive Body
  | empty
  | json (v : Json.Value)
  deriving Repr

/-- A response. -/
structure Response where
  status : Nat
  headers : Headers
  body : Body
  deriving Repr

namespace Request

/-- The path of the target. -/
def path (r : Request) : List Char :=
  r.target.toList.takeWhile fun c => c != '?' && c != '#'

/-- The value of a header. -/
def header? (r : Request) (name : String) : Option String := r.headers.lookup name

end Request

namespace Response

/-- A response with JSON. -/
def json (status : Nat) (v : Json.Value) : Response :=
  ⟨status, [("content-type", "application/json")], .json v⟩

/-- A response without a body. -/
def bare (status : Nat) : Response := ⟨status, [], .empty⟩

/-- The response without its body. -/
def withoutBody (r : Response) : Response := { r with body := .empty }

/-- The response with more headers. -/
def withHeaders (r : Response) (headers : Headers) : Response :=
  { r with headers := r.headers ++ headers }

end Response

/-! ## Failures -/

/-- The status of a failure. -/
def statusOf : GatewayError → Nat
  | .validation _ => 400
  | .queryFailed _ => 400
  | .notFound _ => 404
  | .connectionFailure _ => 502
  | .timeout _ => 504
  | .catalogWrite _ => 500
  | .internal _ => 500

/-- What a client is told of a failure. -/
def detailOf (e : GatewayError) : String :=
  match e with
  | .internal _ => "Internal server error"
  | .catalogWrite _ => "Failed to update the metadata catalog"
  | e => e.message

/-- The response to a failure. -/
def Response.ofError (e : GatewayError) : Response :=
  .json (statusOf e) (.ofMembers [("detail", .string (detailOf e)), ("code", .string e.code)])

end QueryGateway.Http
