import QueryGateway.Sql.Select

/-!
# Changes

`INSERT`, `UPDATE`, `DELETE` and `MERGE`. The gateway keeps nothing of them, so
these readers only find out where a change ends.
-/

namespace QueryGateway.Sql

/-! ## Parts -/

/-- A conflict clause such as `OR REPLACE`, or nothing. -/
def conflictClause : Parser Unit := do
  if (← sees "OR") && (← seesAt 1 ["REPLACE", "ROLLBACK", "ABORT", "FAIL", "IGNORE"]) then
    let _ ← next
    let _ ← next

/-- An assignment to a column or to several. -/
def assignment (g : Grammar) : Parser Unit := do
  if ← seesMark "(" then
    let _ ← parenthesized (sepBy objectName)
  else
    let _ ← objectName
  mark "="
  let _ ← g.expr

/-- Assignments with commas between them. -/
def assignments (g : Grammar) : Parser Unit := do
  let _ ← sepBy (assignment g)

/-- An expression behind a keyword, or nothing. -/
def skipClause (g : Grammar) (keyword : String) : Parser Unit := do
  let _ ← optionally keyword g.expr

/-- `RETURNING` and its columns, or nothing. -/
def returningClause (g : Grammar) : Parser Unit := do
  let _ ← optionally "RETURNING" (sepBy (selectItem g))

/-- Names in parentheses, or nothing. -/
def optionalColumns : Parser Unit := do
  if ← seesMark "(" then
    let _ ← nameList

/-- Rows of values, with the word in front of each row if there is one. -/
def valueRows (g : Grammar) : Parser Phrase := do
  let rows ← sepBy do
    let explicit ← kw? "ROW"
    let cells ← parenthesized (sepBy g.phrase)
    return (explicit, Phrase.commas cells)
  let front := if rows.any (·.1) then "ROW(" else "("
  return .commas (rows.map fun (_, cells) => .word front ++ (cells ++ .word ")"))

/-! ## Insert -/

/-- What to do about a row that is there already, or nothing. -/
def onConflict (g : Grammar) : Parser Unit := do
  if ← kw? "ON" then
    if ← kw? "CONFLICT" then
      if ← kws? ["ON", "CONSTRAINT"] then
        let _ ← objectName
      else if ← seesMark "(" then
        let _ ← columnList name
      kw "DO"
      unless ← kw? "NOTHING" do
        kws ["UPDATE", "SET"]
        assignments g
        skipClause g "WHERE"
    else
      kws ["DUPLICATE", "KEY", "UPDATE"]
      assignments g

/-- `INSERT` behind its keyword. -/
def insert (g : Grammar) : Parser Operation := do
  conflictClause
  let _ ← kw? "OVERWRITE"
  let _ ← kw? "INTO"
  let _ ← kw? "LOCAL"
  if ← kw? "DIRECTORY" then
    let _ ← literalString
    if ← kws? ["STORED", "AS"] then
      let _ ← oneOf ["AVRO", "JSONFILE", "ORC", "PARQUET", "RCFILE", "SEQUENCEFILE", "TEXTFILE"]
    let _ ← g.query
    return .other
  let _ ← kw? "TABLE"
  let _ ← objectName
  if ← kw? "AS" then
    let _ ← identifier
  unless ← kws? ["DEFAULT", "VALUES"] do
    unless (← seesMark "(") && (← seesAt 1 ["SELECT"]) do
      optionalColumns
      if ← kw? "PARTITION" then
        let _ ← parenthesized (sepBy g.expr)
    unless ← seesAt 0 ["FORMAT", "SETTINGS"] do
      let _ ← g.query
  onConflict g
  returningClause g
  return .insert

/-! ## Update and delete -/

/-- `UPDATE` behind its keyword. -/
def update (g : Grammar) : Parser Operation := do
  conflictClause
  let _ ← tableAndJoins g
  let early ← kw? "FROM"
  if early then
    let _ ← tables g
  kw "SET"
  assignments g
  unless early do
    let _ ← optionally "FROM" (tables g)
  skipClause g "WHERE"
  returningClause g
  skipClause g "LIMIT"
  return .update

/-- `DELETE` behind its keyword. -/
def delete (g : Grammar) : Parser Operation := do
  unless ← kw? "FROM" do
    let _ ← sepBy objectName
    kw "FROM"
  let _ ← tables g
  let _ ← optionally "USING" (tables g)
  skipClause g "WHERE"
  returningClause g
  if ← kws? ["ORDER", "BY"] then
    let _ ← orderItems g
  skipClause g "LIMIT"
  return .delete

/-! ## Merge -/

/-- What to do with the rows of one clause of a merge. -/
def mergeAction (g : Grammar) (clause : String) (absent : Bool) : Parser Unit := do
  let refuse (action : String) : Parser Unit :=
    throw (.stated (action ++ " is not allowed in a " ++ clause ++ " merge clause"))
  match ← oneOf? ["UPDATE", "INSERT", "DELETE"] with
  | some "UPDATE" =>
    if absent then refuse "UPDATE"
    kw "SET"
    assignments g
  | some "DELETE" => if absent then refuse "DELETE"
  | some _ =>
    unless absent do refuse "INSERT"
    optionalColumns
    kw "VALUES"
    let _ ← valueRows g
  | none => throw (.stated "expected UPDATE, DELETE or INSERT in merge clause")

/-- One clause of a merge, or nothing. -/
def mergeClause (g : Grammar) : Parser (Option Unit) := do
  if ← kw? "WHEN" then
    let negated ← kw? "NOT"
    kw "MATCHED"
    let (clause, absent) ← if !negated then pure ("MATCHED", false)
      else
        if ← kws? ["BY", "SOURCE"] then pure ("NOT MATCHED BY SOURCE", false)
        else
          if ← kws? ["BY", "TARGET"] then pure ("NOT MATCHED BY TARGET", true) else pure ("NOT MATCHED", true)
    skipClause g "AND"
    kw "THEN"
    mergeAction g clause absent
    return some ()
  return none

/-- `MERGE` behind its keyword. -/
def merge (g : Grammar) : Parser Operation := do
  let depth := (← get).rest.length + 1
  let _ ← kw? "INTO"
  let _ ← tableFactor g depth
  kw "USING"
  let _ ← tableFactor g depth
  kw "ON"
  let _ ← g.expr
  let _ ← many (mergeClause g)
  match ← oneOf? ["OUTPUT", "RETURNING"] with
  | some k =>
    let _ ← sepBy (selectItem g)
    if k == "OUTPUT" then
      let _ ← optionally "INTO" intoTarget
  | none => pure ()
  return .other

end QueryGateway.Sql
