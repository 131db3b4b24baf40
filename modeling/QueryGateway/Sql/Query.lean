import QueryGateway.Sql.Change

/-!
# Queries

A query: its common table expressions, its set operations, and its ordering,
limit and locks.
-/

namespace QueryGateway.Sql

/-! ## Common table expressions -/

/-- A common table expression. -/
def cte (g : Grammar) : Parser Phrase := do
  let table ← name
  let columns ← if ← sees "AS" then pure "" else aliasColumns
  kw "AS"
  let hint ← if ← kw? "MATERIALIZED" then pure "MATERIALIZED "
    else
      if ← kws? ["NOT", "MATERIALIZED"] then pure "NOT MATERIALIZED " else pure ""
  let q ← parenthesized g.query
  let source ← optionally "FROM" name
  let sourceText := match source with
    | some s => ") FROM " ++ s
    | none => ")"
  return .word (table ++ columns ++ " AS " ++ hint ++ "(") ++ (.query q ++ .word sourceText)

/-- `WITH`, or nothing. -/
def withClause (g : Grammar) : Parser Phrase := do
  if ← kw? "WITH" then
    let recursive := if ← kw? "RECURSIVE" then "RECURSIVE " else ""
    let tables ← sepBy (cte g)
    return .word ("WITH " ++ recursive) ++ (.commas tables ++ .word " ")
  return .empty

/-! ## Bodies -/

/-- The table of a `TABLE` body. Three tokens are taken, whatever they are. -/
def tableBody : Parser Body := do
  let first ← next
  let second ← next
  let third ← next
  match first.map Lexeme.token, second.any (·.isMark "."), third.map Lexeme.token with
  | some (.word schema), true, some (.word table) =>
    return .table (schema.value ++ "." ++ table.value)
  | some (.word _), true, _ => expectedAt "Table name" third
  | _, true, _ => expectedAt "Schema name" first
  | some (.word table), false, _ => return .table table.value
  | _, false, _ => expectedAt "Table name" first

/-- A body without set operations. -/
def simpleBody (g : Grammar) : Parser Body := do
  if ← sees "SELECT" then return .select (← select g)
  else if ← mark? "(" then
    let q ← g.query
    mark ")"
    return .nested q
  else if ← kw? "VALUES" then return .values "VALUES" (← valueRows g)
  else if ← kw? "VALUE" then return .values "VALUE" (← valueRows g)
  else if ← kw? "TABLE" then tableBody
  else expected "SELECT, VALUES, or a subquery in the query body"

/-- The quantifier of a set operation, or nothing. -/
def setQuantifier : Parser String := do
  if ← kws? ["DISTINCT", "BY", "NAME"] then return " DISTINCT BY NAME"
  else if ← kws? ["BY", "NAME"] then return " BY NAME"
  else if ← kw? "ALL" then
    if ← kws? ["BY", "NAME"] then return " ALL BY NAME"
    return " ALL"
  else if ← kw? "DISTINCT" then return " DISTINCT"
  else return ""

/-- A set operation and its right side, behind a left side. -/
def setOperation (operators : List String) (right : String → Parser Body) (left : Body) :
    Parser (Option Body) := do
  match ← oneOf? operators with
  | some op =>
    let quantifier ← setQuantifier
    return some (.combined (op ++ quantifier) left (← right op))
  | none => return none

/-- A body whose only set operations are intersections, which bind tighter. -/
def intersections (g : Grammar) : Parser Body := do
  iterate (setOperation ["INTERSECT"] fun _ => simpleBody g) (← simpleBody g)

/-- The body of a query. -/
def queryBody (g : Grammar) : Parser Body := do
  let right (op : String) : Parser Body :=
    if op == "INTERSECT" then simpleBody g else intersections g
  iterate (setOperation ["UNION", "EXCEPT", "MINUS", "INTERSECT"] right) (← simpleBody g)

/-! ## Limits and locks -/

/-- An offset behind its keyword. -/
def offsetClause (g : Grammar) : Parser Phrase := do
  let e ← g.phrase
  match ← oneOf? ["ROW", "ROWS"] with
  | some k => return .word " OFFSET " ++ (e ++ .word (" " ++ k))
  | none => return .word " OFFSET " ++ e

/-- The limit and offset of a query, in either order. `LIMIT ALL` is no limit. -/
def limitClause (g : Grammar) : Parser Limit := do
  let early ← optionally "OFFSET" (offsetClause g)
  let limit ← if ← kw? "LIMIT" then
      if ← kw? "ALL" then pure (some none) else (some ∘ some) <$> g.phrase
    else pure none
  let offset ← if early.isNone && limit.isSome then optionally "OFFSET" (offsetClause g)
    else pure early
  match limit.join, offset with
  | some l, some o => return .atMost l o
  | some l, none => return .atMost l .empty
  | none, some o => return .offsetOnly o
  | none, none => return .none

/-- `FETCH` behind its keyword. -/
def fetchClause : Parser Fetch := do
  let _ ← oneOf? ["FIRST", "NEXT"]
  let (quantity, percent) ← if (← oneOf? ["ROW", "ROWS"]).isSome then pure (none, false)
    else do
      let n ← value
      let percent ← kw? "PERCENT"
      let _ ← oneOf? ["ROW", "ROWS"]
      pure (some n.render, percent)
  let ties ← if ← kw? "ONLY" then pure false else kws? ["WITH", "TIES"]
  return ⟨quantity, percent, ties⟩

/-- A name in parentheses, or nothing. -/
def elementName : Parser String := do
  if ← seesMark "(" then return "('" ++ (← parenthesized literalString) ++ "')"
  return ""

/-- The options of a `FOR XML` or `FOR JSON` clause, in the order they were
written. -/
def formatOptions (option : Parser (List String)) : Parser (List String) := do
  iterate (fun found : List String => do
    if ← mark? "," then return some (found ++ (← option))
    return none) []

/-- Options in the order they print. A repeated root counts once, the last. -/
def formatText (head : String) (order found : List String) (root : Option String) : String :=
  head ++ String.join (order.map fun o =>
    if o == "ROOT" then match root with
      | some r => ", ROOT('" ++ r ++ "')"
      | none => ""
    else if found.contains o then ", " ++ o else "")

/-- The last root among options. -/
def lastRoot (found : List String) : Option String :=
  (found.filterMap fun o => (Text.dropHead? "ROOT ".toList o.toList).map String.ofList).getLast?

/-- `FOR XML` behind its keywords. -/
def xmlFormat : Parser String := do
  let head ← match ← oneOf? ["RAW", "AUTO", "EXPLICIT", "PATH"] with
    | some "RAW" => do pure ("RAW" ++ (← elementName))
    | some "PATH" => do pure ("PATH" ++ (← elementName))
    | some k => pure k
    | none => throw (.stated "Expected FOR XML [RAW | AUTO | EXPLICIT | PATH ]")
  let found ← formatOptions do
    if ← kw? "ELEMENTS" then return ["ELEMENTS"]
    else if ← kw? "BINARY" then
      kw "BASE64"
      return ["BINARY BASE64"]
    else if ← kw? "ROOT" then return ["ROOT " ++ (← parenthesized literalString)]
    else if ← kw? "TYPE" then return ["TYPE"]
    else return []
  return formatText (" FOR XML " ++ head) ["BINARY BASE64", "TYPE", "ROOT", "ELEMENTS"] found
    (lastRoot found)

/-- `FOR JSON` behind its keywords. -/
def jsonFormat : Parser String := do
  let head ← match ← oneOf? ["AUTO", "PATH"] with
    | some k => pure k
    | none => throw (.stated "Expected FOR JSON [AUTO | PATH ]")
  let found ← formatOptions do
    if ← kw? "ROOT" then return ["ROOT " ++ (← parenthesized literalString)]
    else if ← kw? "INCLUDE_NULL_VALUES" then return ["INCLUDE_NULL_VALUES"]
    else if ← kw? "WITHOUT_ARRAY_WRAPPER" then return ["WITHOUT_ARRAY_WRAPPER"]
    else return []
  return formatText (" FOR JSON " ++ head) ["ROOT", "INCLUDE_NULL_VALUES", "WITHOUT_ARRAY_WRAPPER"]
    found (lastRoot found)

/-- A lock behind `FOR`. -/
def lock : Parser String := do
  let kind ← oneOf ["UPDATE", "SHARE"]
  let target ← optionally "OF" objectName
  let targetText := match target with
    | some t => " OF " ++ t
    | none => ""
  let waiting ← if ← kw? "NOWAIT" then pure " NOWAIT"
    else
      if ← kws? ["SKIP", "LOCKED"] then pure " SKIP LOCKED" else pure ""
  return "FOR " ++ kind ++ targetText ++ waiting

/-- What the clauses behind `FOR` amount to. -/
structure ForClauses where
  locks : List String
  format : String
  ended : Bool

/-- The locks of a query, and the format clause that may end them. -/
def forClauses : Parser ForClauses :=
  iterate (fun found : ForClauses => do
    if found.ended then return none
    else if ← kw? "FOR" then
      match ← oneOf? ["XML", "JSON", "BROWSE"] with
      | some "XML" => return some ⟨found.locks, ← xmlFormat, true⟩
      | some "JSON" => return some ⟨found.locks, ← jsonFormat, true⟩
      | some _ => return some ⟨found.locks, " FOR BROWSE", true⟩
      | none => return some ⟨found.locks ++ [← lock], "", false⟩
    else return none) ⟨[], "", false⟩

/-! ## The query -/

/-- A change that stands for a query, if one is next. -/
def changeBody (g : Grammar) : Parser (Option Body) := do
  match ← oneOf? ["INSERT", "UPDATE", "DELETE", "MERGE"] with
  | some "INSERT" =>
    let _ ← insert g
    return some .modifying
  | some "UPDATE" =>
    let _ ← update g
    return some .modifying
  | some "DELETE" =>
    let _ ← delete g
    return some .modifying
  | some _ =>
    let _ ← merge g
    return some .modifying
  | none => return none

/-- A query. -/
def query (g : Grammar) : Parser Query := do
  let ctes ← withClause g
  match ← changeBody g with
  | some body => return .mk ctes body .empty .none none [] ""
  | none =>
    let body ← queryBody g
    let order ← listClause "ORDER" "BY" (orderItem g)
    let limit ← limitClause g
    let fetch ← optionally "FETCH" fetchClause
    let clauses ← forClauses
    return .mk ctes body order limit fetch clauses.locks clauses.format

end QueryGateway.Sql
