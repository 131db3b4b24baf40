import QueryGateway.Sql.Token

/-!
# Query trees

What the gateway keeps of a query. The clauses of a query, its set operations
and its selects have a shape of their own, because the gateway looks into them.
Everything below, that is expressions, tables, joins, windows, is a phrase: the
words it prints, in order, with the queries nested in it at their places.

A tree has two readings. `render` gives its text. `queries` gives the queries in
it, every query before those nested in it, in the order in which they are
examined; that is the order of the text but for `swapped`.
-/

namespace QueryGateway.Sql

/-- A `FETCH` clause: how many rows, as it prints, and whether that is a
percentage and whether ties count once. -/
structure Fetch where
  quantity : Option String
  percent : Bool
  withTies : Bool
  deriving DecidableEq, Repr

mutual

/-- Part of a query below the level of clauses. -/
inductive Phrase
  | empty
  | word (text : String)
  /-- The literal `NULL`. -/
  | null
  /-- Two phrases, one behind the other. -/
  | seq (front back : Phrase)
  /-- Two phrases, one behind the other, of which the second is examined first. -/
  | swapped (front back : Phrase)
  /-- A nested query. -/
  | query (q : Query)

/-- A query: its `WITH` clause, its body, and the clauses behind the body, where
an absent clause is the empty phrase. `format` is a `FOR JSON`, `FOR XML` or
`FOR BROWSE` clause. -/
inductive Query
  | mk (ctes : Phrase) (body : Body) (order : Phrase) (limit : Limit) (fetch : Option Fetch)
      (locks : List String) (format : String)

/-- The body of a query. -/
inductive Body
  | select (s : Select)
  | nested (q : Query)
  /-- Rows behind `VALUES` or `VALUE`. -/
  | values (keyword : String) (rows : Phrase)
  | table (name : String)
  /-- A set operation with its quantifier, such as `UNION ALL`. -/
  | combined (operation : String) (left right : Body)
  /-- An `INSERT`, `UPDATE`, `DELETE` or `MERGE` that stands for a query. -/
  | modifying

/-- A select. `head` is what stands between `SELECT` and the list of columns;
`into` is the target of `SELECT INTO`; `tail` holds the clauses behind `FROM`. -/
inductive Select
  | mk (head columns : Phrase) (into : Option String) (sources tail : Phrase)

/-- The `LIMIT` and `OFFSET` of a query. The offset of `atMost` may be empty. -/
inductive Limit
  | none
  | offsetOnly (offset : Phrase)
  | atMost (limit offset : Phrase)
  | commaPair (offset limit : Phrase)

end

/-! ## Putting phrases together -/

instance : Append Phrase := ⟨Phrase.seq⟩

instance : Coe String Phrase := ⟨Phrase.word⟩

instance : Inhabited Phrase := ⟨.empty⟩

namespace Phrase

/-- Phrases behind each other, with a word between them. -/
def sepBy (separator : String) : List Phrase → Phrase
  | [] => .empty
  | [p] => p
  | p :: ps => p ++ (.word separator ++ sepBy separator ps)

/-- Phrases with commas between them. -/
def commas (ps : List Phrase) : Phrase := sepBy ", " ps

/-- A phrase in parentheses. -/
def parens (p : Phrase) : Phrase := .word "(" ++ (p ++ .word ")")

/-- The phrase behind a word, or nothing. -/
def opt (before : String) : Option Phrase → Phrase
  | some p => .word before ++ p
  | none => .empty

/-- The literal `NULL` and nothing else. -/
def isNull : Phrase → Bool
  | null => true
  | _ => false

end Phrase

/-! ## Parts of a query -/

namespace Query

/-- The body of a query. -/
def body : Query → Body
  | mk _ b _ _ _ _ _ => b

/-- The limit and offset of a query. -/
def limit : Query → Limit
  | mk _ _ _ l _ _ _ => l

/-- The `FETCH` clause of a query. -/
def fetch : Query → Option Fetch
  | mk _ _ _ _ f _ _ => f

/-- The locking clauses of a query. -/
def locks : Query → List String
  | mk _ _ _ _ _ ls _ => ls

/-- The query with another limit and offset. -/
def withLimit : Query → Limit → Query
  | mk w b o _ f ls g, l => mk w b o l f ls g

/-- A query that is nothing but a body. -/
def ofBody (b : Body) : Query := mk .empty b .empty .none none [] ""

end Query

/-- The target of `SELECT INTO`. -/
def Select.into : Select → Option String
  | mk _ _ target _ _ => target

/-! ## Text -/

/-- The text behind a word, or nothing. -/
def clauseText (before : String) : Option String → String
  | some s => before ++ s
  | none => ""

/-- The text of a `FETCH` clause. -/
def Fetch.render (f : Fetch) : String :=
  " FETCH FIRST "
    ++ (match f.quantity with
      | some n => n ++ (if f.percent then " PERCENT " else " ")
      | none => "")
    ++ (if f.withTies then "ROWS WITH TIES" else "ROWS ONLY")

/-- The text of a `FETCH` clause, if there is one. -/
def fetchText : Option Fetch → String
  | some f => f.render
  | none => ""

mutual

/-- The text of a phrase. -/
def Phrase.render : Phrase → String
  | .empty => ""
  | .word s => s
  | .null => "NULL"
  | .seq a b => a.render ++ b.render
  | .swapped a b => a.render ++ b.render
  | .query q => q.render

/-- The text of a query. -/
def Query.render : Query → String
  | .mk ctes body order limit fetch locks format =>
    ctes.render ++ body.render ++ order.render ++ limit.render ++ fetchText fetch
      ++ String.join (locks.map (" " ++ ·)) ++ format

/-- The text of a body. -/
def Body.render : Body → String
  | .select s => s.render
  | .nested q => "(" ++ q.render ++ ")"
  | .values keyword rows => keyword ++ " " ++ rows.render
  | .table name => "TABLE " ++ name
  | .combined op left right => left.render ++ " " ++ op ++ " " ++ right.render
  | .modifying => ""

/-- The text of a select. -/
def Select.render : Select → String
  | .mk head columns into sources tail =>
    "SELECT" ++ head.render ++ columns.render ++ clauseText " " into ++ sources.render ++ tail.render

/-- The text of a limit and offset. -/
def Limit.render : Limit → String
  | .none => ""
  | .offsetOnly offset => offset.render
  | .atMost limit offset => " LIMIT " ++ limit.render ++ offset.render
  | .commaPair offset limit => " LIMIT " ++ offset.render ++ ", " ++ limit.render

end

/-! ## Nested queries -/

mutual

/-- The queries in a phrase. -/
def Phrase.queries : Phrase → List Query
  | .empty => []
  | .word _ => []
  | .null => []
  | .seq a b => a.queries ++ b.queries
  | .swapped a b => b.queries ++ a.queries
  | .query q => q.queries

/-- A query and the queries in it. -/
def Query.queries : Query → List Query
  | .mk ctes body order limit fetch locks format =>
    .mk ctes body order limit fetch locks format
      :: (ctes.queries ++ body.queries ++ order.queries ++ limit.queries)

/-- The queries in a body. -/
def Body.queries : Body → List Query
  | .select s => s.queries
  | .nested q => q.queries
  | .values _ rows => rows.queries
  | .table _ => []
  | .combined _ left right => left.queries ++ right.queries
  | .modifying => []

/-- The queries in a select. -/
def Select.queries : Select → List Query
  | .mk head columns _ sources tail =>
    head.queries ++ columns.queries ++ sources.queries ++ tail.queries

/-- The queries in a limit and offset. -/
def Limit.queries : Limit → List Query
  | .none => []
  | .offsetOnly offset => offset.queries
  | .atMost limit offset => limit.queries ++ offset.queries
  | .commaPair offset limit => offset.queries ++ limit.queries

end

end QueryGateway.Sql
