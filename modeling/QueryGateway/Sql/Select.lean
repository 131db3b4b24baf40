import QueryGateway.Sql.Table

/-!
# Selects

A `SELECT` with its clauses up to `QUALIFY`.
-/

namespace QueryGateway.Sql

/-! ## Columns -/

/-- A column of a select, with its alias. -/
def selectItem (g : Grammar) : Parser Phrase := do
  let e ← wildcardExpr g
  match e.shape with
  | .wildcard => return e.phrase
  | .name w =>
    if !w.quoted && Text.lower w.value == "from" then
      failAt ("Expected an expression, found: " ++ w.value) (← peek)
    match ← aliasWord noColumnAlias with
    | some (_, i) => return e.phrase ++ .word (" AS " ++ i.text)
    | none => return e.phrase
  | _ =>
    match ← aliasWord noColumnAlias with
    | some (_, i) => return e.phrase ++ .word (" AS " ++ i.text)
    | none => return e.phrase

/-- `DISTINCT`, perhaps `ON` some expressions, or nothing. `ALL` is dropped. -/
def distinctClause (g : Grammar) : Parser Phrase := do
  let l ← peek
  let all ← kw? "ALL"
  if ← kw? "DISTINCT" then
    if all then failAt "Cannot specify both ALL and DISTINCT" l
    if ← kw? "ON" then
      let items ← parenthesized (sepBy0 g.phrase ")")
      return .word " DISTINCT ON (" ++ (.commas items ++ .word ")")
    return .word " DISTINCT"
  return .empty

/-- `TOP` and a number of rows, or nothing. -/
def topClause (g : Grammar) : Parser Phrase := do
  if ← kw? "TOP" then
    let quantity ← if ← mark? "(" then do
        let e ← g.phrase
        mark ")"
        pure (.parens e)
      else Phrase.word <$> (toString <$> literalUint)
    let percent := if ← kw? "PERCENT" then " PERCENT" else ""
    let ties := if ← kws? ["WITH", "TIES"] then " WITH TIES" else ""
    return .word " TOP " ++ (quantity ++ .word (percent ++ ties))
  return .empty

/-- The target of `SELECT INTO` behind the keyword. -/
def intoTarget : Parser String := do
  let temporary := if (← oneOf? ["TEMP", "TEMPORARY"]).isSome then " TEMPORARY" else ""
  let unlogged := if ← kw? "UNLOGGED" then " UNLOGGED" else ""
  let table := if ← kw? "TABLE" then " TABLE" else ""
  return "INTO" ++ temporary ++ unlogged ++ table ++ " " ++ (← objectName)

/-! ## Clauses behind the tables -/

/-- A lateral view, or nothing. -/
def lateralView (g : Grammar) : Parser (Option Phrase) := do
  if ← kws? ["LATERAL", "VIEW"] then
    let outer := if ← kw? "OUTER" then " OUTER " else " "
    let e ← g.phrase
    let view ← objectName
    let columns ← sepBy (aliasWord ["WHERE", "GROUP", "CLUSTER", "HAVING", "LATERAL"])
    let names := columns.filterMap fun column => column.map fun found => found.2.text
    let columnText := if names.isEmpty then "" else " AS " ++ commaText names
    return some (.word (" LATERAL VIEW" ++ outer) ++ (e ++ .word (" " ++ view ++ columnText)))
  return none

/-- Expressions in parentheses, possibly none. -/
def tuple (g : Grammar) : Parser (List Phrase) := parenthesized (sepBy0 g.phrase ")")

/-- Expressions in parentheses, or one without. -/
def tupleOrOne (g : Grammar) : Parser (List Phrase) := do
  if ← seesMark "(" then tuple g else return [← g.phrase]

/-- Expressions in parentheses. -/
def tuplePhrase (items : List Phrase) : Phrase := .parens (.commas items)

/-- Expressions in parentheses unless there is just one. -/
def liftedPhrase : List Phrase → Phrase
  | [e] => e
  | es => tuplePhrase es

/-- An item of `GROUP BY`. -/
def groupItem (g : Grammar) : Parser Phrase := do
  if ← kws? ["GROUPING", "SETS"] then
    let sets ← parenthesized (sepBy (tuple g))
    return .word "GROUPING SETS (" ++ (.commas (sets.map tuplePhrase) ++ .word ")")
  else
    match ← oneOf? ["CUBE", "ROLLUP"] with
    | some k =>
      let sets ← parenthesized (sepBy (tupleOrOne g))
      return .word (k ++ " (") ++ (.commas (sets.map liftedPhrase) ++ .word ")")
    | none =>
      if (← seesMark "(") && (← seesMarkAt 1 ")") then
        let _ ← next
        let _ ← next
        return .word "()"
      g.phrase

/-- `GROUP BY`, or nothing. -/
def groupClause (g : Grammar) : Parser Phrase := do
  if ← kws? ["GROUP", "BY"] then
    let items ← if ← kw? "ALL" then pure (.word "ALL") else Phrase.commas <$> sepBy (groupItem g)
    let sets ← if ← kws? ["GROUPING", "SETS"] then do
        let sets ← parenthesized (sepBy (tupleOrOne g))
        pure (.word " GROUPING SETS (" ++ (.commas (sets.map tuplePhrase) ++ .word ")"))
      else pure Phrase.empty
    return .word " GROUP BY " ++ (items ++ sets)
  return .empty

/-- A clause of two keywords and a list, or nothing. -/
def listClause (first second : String) (item : Parser Phrase) : Parser Phrase := do
  if ← kws? [first, second] then
    return .word (" " ++ first ++ " " ++ second ++ " ") ++ .commas (← sepBy item)
  return .empty

/-- A named window. -/
def namedWindow (g : Grammar) : Parser Phrase := do
  let window ← name
  kw "AS"
  mark "("
  return .word (window ++ " AS ") ++ (← windowSpec g (operand g))

/-- `WINDOW`, or nothing. -/
def windowClause (g : Grammar) : Parser Phrase := do
  if ← kw? "WINDOW" then return .word " WINDOW " ++ .commas (← sepBy (namedWindow g))
  return .empty

/-- `QUALIFY`, or nothing. -/
def qualifyClause (g : Grammar) : Parser Phrase := do
  return .opt " QUALIFY " (← optionally "QUALIFY" g.phrase)

/-- `WINDOW` and `QUALIFY` in any order; the windows are examined first. -/
def windowAndQualify (g : Grammar) : Parser Phrase := do
  if ← sees "WINDOW" then
    let windows ← windowClause g
    return windows ++ (← qualifyClause g)
  else
    let condition ← qualifyClause g
    let windows ← windowClause g
    return .swapped condition windows

/-- The clauses behind `FROM`. -/
def selectTail (g : Grammar) : Parser Phrase := do
  let views ← many (lateralView g)
  let condition ← optionally "WHERE" g.phrase
  let groups ← groupClause g
  let cluster ← listClause "CLUSTER" "BY" g.phrase
  let distribute ← listClause "DISTRIBUTE" "BY" g.phrase
  let sort ← listClause "SORT" "BY" (orderItem g)
  let having ← optionally "HAVING" g.phrase
  let windows ← windowAndQualify g
  return .sepBy "" views ++ (.opt " WHERE " condition ++ (groups ++ (cluster ++ (distribute ++ (sort
    ++ (.opt " HAVING " having ++ windows))))))

/-! ## The select -/

/-- A select. -/
def select (g : Grammar) : Parser Select := do
  kw "SELECT"
  let distinct ← distinctClause g
  let top ← topClause g
  let columns ← if ← sees "FROM" then pure Phrase.empty
    else do pure (.word " " ++ .commas (← sepBy (selectItem g)))
  let into ← optionally "INTO" intoTarget
  let sources ← optionally "FROM" (tables g)
  let tail ← selectTail g
  return .mk (distinct ++ top) columns into (.opt " FROM " sources) tail

end QueryGateway.Sql
