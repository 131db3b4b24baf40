import QueryGateway.Sql.Script

/-!
# The guard

What the gateway lets through: one statement that is a query and in which no
query locks rows, writes a table, or is a change in disguise. A query that
passes gets a cap on its rows if it has none, and is printed anew.
-/

namespace QueryGateway

open Sql

/-! ## Refusals -/

/-- Why a text is refused. -/
inductive GuardError
  | parse (e : String)
  | empty
  | multiple (count : Nat)
  | notReadOnly (reason : String)
  deriving DecidableEq, Repr

/-- The message of a refusal. -/
def GuardError.message : GuardError → String
  | parse e => "SQL parse error: " ++ e
  | empty => "SQL parse error: empty statement"
  | multiple _ => "Only SELECT statements are allowed"
  | notReadOnly _ => "Only SELECT statements are allowed"

/-- The name of a kind of statement. -/
def Sql.Operation.text : Operation → String
  | .select => "Select"
  | .insert => "Insert"
  | .update => "Update"
  | .delete => "Delete"
  | .ddl => "Ddl"
  | .other => "Other"

/-! ## Reading only -/

/-- What is wrong with a body by itself, the left side of a set operation before
the right. Queries in parentheses answer for themselves. -/
def bodyFault : Body → Option String
  | .select s => if s.into.isSome then some "SELECT INTO" else none
  | .combined _ left right => (bodyFault left).or (bodyFault right)
  | .nested _ => none
  | .values .. => none
  | .table _ => none
  | .modifying => some "data-modifying query body"

/-- What is wrong with a query by itself. -/
def queryFault (q : Query) : Option String :=
  if q.locks.isEmpty then bodyFault q.body else some "row locking clause"

/-- The query a statement is, if it only reads. The first fault found decides the
reason, a query before those in it. -/
def readOnlyQuery : Statement → Except GuardError Query
  | .query q =>
    match q.queries.findSome? queryFault with
    | some reason => .error (.notReadOnly reason)
    | none => .ok q
  | s => .error (.notReadOnly (s.operation.text ++ " statement"))

/-! ## The cap -/

/-- How many rows a query may return if it does not say itself. -/
def maxRows : Nat := 1000

/-- A query bounds its rows: it has a `FETCH`, or a limit that is not the literal
`NULL`. -/
def hasRowCap (q : Query) : Bool :=
  q.fetch.isSome || match q.limit with
    | .none => false
    | .offsetOnly _ => false
    | .atMost limit _ => !limit.isNull
    | .commaPair _ _ => true

/-- A limit and offset with the limit replaced. -/
def capLimit (cap : Nat) : Limit → Limit
  | .none => .atMost (.word (toString cap)) .empty
  | .offsetOnly offset => .atMost (.word (toString cap)) offset
  | .atMost _ offset => .atMost (.word (toString cap)) offset
  | .commaPair _ _ => .atMost (.word (toString cap)) .empty

/-- A query with a limit set. -/
def withRowCap (cap : Nat) (q : Query) : Query :=
  q.withLimit (capLimit cap q.limit)

/-! ## Guarding -/

instance decidableEqExcept {ε α : Type} [DecidableEq ε] [DecidableEq α] : DecidableEq (Except ε α)
  | .ok a, .ok b => decidable_of_iff (a = b) ⟨congrArg Except.ok, Except.ok.inj⟩
  | .error e, .error f => decidable_of_iff (e = f) ⟨congrArg Except.error, Except.error.inj⟩
  | .ok _, .error _ => isFalse nofun
  | .error _, .ok _ => isFalse nofun

/-- A query that may be sent: its text, and whether a limit was added. -/
structure GuardedQuery where
  patchedSql : String
  limitAdded : Bool
  deriving DecidableEq, Repr

/-- The statements of a text. -/
def parseStatements (sql : String) : Except GuardError (List Statement) :=
  (parseScript sql).mapError fun e => .parse e.message

/-- The one statement of a text. -/
def parseSingle (sql : String) : Except GuardError Statement := do
  match ← parseStatements sql with
  | [] => .error .empty
  | [s] => .ok s
  | ss => .error (.multiple ss.length)

/-- The tree that is sent for a query, and whether a limit was added. -/
def capQuery (q : Query) : Query × Bool :=
  if hasRowCap q then (q, false) else (withRowCap maxRows q, true)

/-- What is sent for a text. -/
def guardSql (sql : String) : Except GuardError GuardedQuery := do
  let q ← readOnlyQuery (← parseSingle sql)
  let (capped, added) := capQuery q
  return ⟨capped.render, added⟩

end QueryGateway
