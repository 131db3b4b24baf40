import QueryGateway.Http.Message
import QueryGateway.Text.Utf8

/-!
# Routes

What the paths of the gateway name, and which methods each of them knows. A path has
exactly the segments of its form: a slash at the end is one segment more.
-/

namespace QueryGateway.Http

open Text

/-- What a path names. The id of a connection is kept as it stands in the path. -/
inductive Resource
  | health
  | sync
  | connections
  | connection (segment : List Char)
  | query
  deriving DecidableEq, Repr

/-- A method that some resource knows. -/
inductive Method
  | get
  | head
  | post
  | put
  | delete
  deriving DecidableEq, Repr

/-- The name of a method. -/
def Method.name : Method → String
  | get => "GET"
  | head => "HEAD"
  | post => "POST"
  | put => "PUT"
  | delete => "DELETE"

/-- The resource of a path. -/
def Resource.ofPath? (path : List Char) : Option Resource :=
  match (splitAll '/' path).map String.ofList with
  | ["", "health"] => some .health
  | ["", "api", "query"] => some .query
  | ["", "api", "metadata"] => some .connections
  | ["", "api", "metadata", "sync"] => some .sync
  | ["", "api", "metadata", segment] => if segment == "" then none else some (.connection segment.toList)
  | _ => none

/-- The methods that a resource knows. -/
def Resource.methods : Resource → List Method
  | health => [.get, .head]
  | connections => [.get, .head]
  | connection _ => [.get, .head, .put, .delete]
  | sync => [.post]
  | query => [.post]

/-- The methods of a resource as a header. -/
def Resource.allow (r : Resource) : Headers :=
  [("allow", join "," (r.methods.map Method.name))]

/-- The method of a name, if a resource knows it. -/
def Resource.method? (r : Resource) (name : String) : Option Method :=
  r.methods.find? fun m => m.name == name

/-- The id that a segment of a path writes. -/
def readId (segment : List Char) : Except GatewayError Int :=
  match percentDecode segment with
  | .error _ => .error (.validation "Invalid URL: Invalid UTF-8 in `id`")
  | .ok cs =>
    match int64? cs with
    | some id => .ok id
    | none => .error (.validation ("Invalid URL: Cannot parse `" ++ String.ofList cs ++ "` to a `i64`"))

end QueryGateway.Http
