import QueryGateway.Sql.Expression

/-!
# Tables

What may stand behind `FROM`: tables, calls, derived tables, the table forms of
JSON and XML, samples, pivots, and joins.
-/

namespace QueryGateway.Sql

/-! ## Aliases -/

/-- An alias, with the word `AS` if it was there. A word in `refused` is no alias
unless `AS` is in front; a string in single quotes always is one. -/
def aliasWord (refused : List String) : Parser (Option (Bool × Ident)) := do
  let explicit ← kw? "AS"
  let l ← peek
  match l.map Lexeme.token with
  | some (.word w) =>
    if explicit || w.quoted || !refused.contains w.capitals then
      let _ ← next
      return some (explicit, Ident.ofWord w)
    return none
  | some (.literal .plain s) =>
    let _ ← next
    return some (explicit, ⟨s, some '\''⟩)
  | _ =>
    if explicit then expectedAt "an identifier after AS" l
    return none

/-- Names and perhaps types of columns in parentheses, or nothing. -/
def aliasColumns : Parser String := do
  if ← mark? "(" then
    let columns ← sepBy do
      let column ← name
      match ← attempt dataType with
      | some t => return column ++ " " ++ t.text
      | none => return column
    mark ")"
    return " (" ++ commaText columns ++ ")"
  return ""

/-- The alias of a table, with a blank in front, or nothing. -/
def tableAlias : Parser Phrase := do
  match ← aliasWord noTableAlias with
  | some (explicit, i) =>
    let columns ← aliasColumns
    return .word ((if explicit then " AS " else " ") ++ i.text ++ columns)
  | none => return .empty

/-- An expression and perhaps its alias behind `AS`. -/
def aliased (e : Phrase) : Parser Phrase := do
  match ← optionally "AS" name with
  | some a => return e ++ .word (" AS " ++ a)
  | none => return e

/-! ## Samples and pivots -/

/-- A number or a placeholder. -/
def numberValue : Parser Phrase := do
  let l ← peek
  let v ← value
  match l.map Lexeme.token with
  | some (.number ..) => return v
  | some (.placeholder _) => return v
  | some (.mark _) => return v
  | _ => expectedAt "literal number" l

/-- The size of a sample, between parentheses or not. -/
def sampleSize (g : Grammar) (inParens : Bool) : Parser Phrase := do
  let size ← match ← attempt g.phrase with
    | some e => pure e
    | none => do
      let l ← next
      match l.map Lexeme.token with
      | some (.word w) => pure (.word w.value)
      | _ => failAt "Expecting number or byte length e.g. 100M" (← peek)
  let unit := match ← oneOf? ["ROWS", "PERCENT"] with
    | some k => " " ++ k
    | none => ""
  return if inParens then .word " (" ++ (size ++ .word (unit ++ ")")) else .word " " ++ (size ++ .word unit)

/-- What decides the rows of a sample again, or nothing. -/
def sampleSeed : Parser Phrase := do
  match ← oneOf? ["REPEATABLE", "SEED"] with
  | some k =>
    let n ← parenthesized numberValue
    return .word (" " ++ k ++ " (") ++ (n ++ .word ")")
  | none => return .empty

/-- A sample of a table, or nothing. -/
def sampleClause (g : Grammar) : Parser Phrase := do
  match ← oneOf? ["TABLESAMPLE", "SAMPLE"] with
  | none => return .empty
  | some keyword =>
    let method := match ← oneOf? ["BERNOULLI", "ROW", "SYSTEM", "BLOCK"] with
      | some k => " " ++ k
      | none => ""
    let inParens ← mark? "("
    let inBucket ← if inParens then kw? "BUCKET" else pure false
    let (size, bucket) ← if inBucket then do
        let selected ← numberValue
        kws ["OUT", "OF"]
        let total ← numberValue
        let on ← optionally "ON" g.phrase
        pure (Phrase.empty, .word " (BUCKET " ++ (selected ++ (.word " OUT OF " ++ (total
          ++ (.opt " ON " on ++ .word ")")))))
      else do pure (← sampleSize g inParens, Phrase.empty)
    if inParens then mark ")"
    let seed ← sampleSeed
    let offset ← optionally "OFFSET" g.phrase
    return .word (" " ++ keyword ++ method) ++ (size ++ (seed ++ (bucket ++ .opt " OFFSET " offset)))

/-- A column list in parentheses that has to be there. -/
def columnList {α : Type} (item : Parser α) : Parser (List α) := do
  unless ← seesMark "(" do expected "a list of columns in parentheses"
  parenthesized (sepBy item)

/-- An aggregate of a pivot. -/
def pivotAggregate (g : Grammar) : Parser Phrase := do
  let l ← next
  match l.map Lexeme.token with
  | some (.word w) => aliased (← call g (operand g) w.value)
  | _ => expected "a function identifier"

/-- The values a pivot makes columns of. -/
def pivotValues (g : Grammar) : Parser Phrase := do
  if ← kw? "ANY" then
    if ← kws? ["ORDER", "BY"] then return .word "ANY ORDER BY " ++ (← orderItems g)
    return .word "ANY"
  else if ← seesAt 0 ["SELECT", "WITH"] then return .query (← g.query)
  else return .commas (← sepBy do aliased (← g.phrase))

/-- `PIVOT` behind its keyword. -/
def pivotClause (g : Grammar) (table : Phrase) : Parser Phrase := do
  mark "("
  let aggregates ← sepBy (pivotAggregate g)
  kw "FOR"
  let column ← if ← seesMark "(" then do
      let columns ← columnList (g.subexpr betweenPrec)
      match columns with
      | [c] => pure c.phrase
      | cs => pure (.parens (.commas (cs.map (·.phrase))))
    else Operand.phrase <$> g.subexpr betweenPrec
  kw "IN"
  mark "("
  let values ← pivotValues g
  mark ")"
  let default ← if ← kws? ["DEFAULT", "ON", "NULL"] then do
      let e ← parenthesized g.phrase
      pure (.word " DEFAULT ON NULL (" ++ (e ++ .word ")"))
    else pure Phrase.empty
  mark ")"
  let aliasText ← tableAlias
  return table ++ (.word " PIVOT(" ++ (.commas aggregates ++ (.word " FOR " ++ (column
    ++ (.word " IN (" ++ (values ++ (.word ")" ++ (default ++ (.word ")" ++ aliasText)))))))))

/-- `UNPIVOT` behind its keyword. -/
def unpivotClause (g : Grammar) (table : Phrase) : Parser Phrase := do
  let nulls ← match ← oneOf? ["INCLUDE", "EXCLUDE"] with
    | some k => do
      kw "NULLS"
      pure (" " ++ k ++ " NULLS ")
    | none => pure ""
  mark "("
  let v ← g.phrase
  kw "FOR"
  let column ← name
  kw "IN"
  let columns ← columnList do aliased (← g.phrase)
  mark ")"
  let aliasText ← tableAlias
  return table ++ (.word (" UNPIVOT" ++ nulls ++ "(") ++ (v ++ (.word (" FOR " ++ column ++ " IN (")
    ++ (.commas columns ++ (.word "))" ++ aliasText)))))

/-- The pivots behind a table. -/
def pivots (g : Grammar) (table : Phrase) : Parser Phrase :=
  iterate (fun t : Phrase => do
    match ← oneOf? ["PIVOT", "UNPIVOT"] with
    | some "PIVOT" => some <$> pivotClause g t
    | some _ => some <$> unpivotClause g t
    | none => return none) table

/-! ## JSON and XML -/

/-- What a JSON column holds when its value is missing or wrong. -/
def jsonFallbacks : Parser (String × String) :=
  iterate (fun (found : String × String) => do
    let handling ← match ← oneOf? ["NULL", "ERROR", "DEFAULT"] with
      | some "DEFAULT" => do pure (some ("DEFAULT " ++ (← value).render))
      | found => pure found
    match handling with
    | none => return none
    | some h =>
      kw "ON"
      if ← kw? "EMPTY" then return some (" " ++ h ++ " ON EMPTY", found.2)
      kw "ERROR"
      return some (found.1, " " ++ h ++ " ON ERROR")) ("", "")

/-- A column of `JSON_TABLE`, nested at most `depth` times. -/
def jsonColumn : Nat → Parser String
  | 0 => throw .tooDeep
  | depth + 1 => do
    if ← kw? "NESTED" then
      let _ ← kw? "PATH"
      let path ← value
      kw "COLUMNS"
      let columns ← parenthesized (sepBy (jsonColumn depth))
      return "NESTED PATH " ++ path.render ++ " COLUMNS (" ++ commaText columns ++ ")"
    let column ← name
    if ← kw? "FOR" then
      kw "ORDINALITY"
      return column ++ " FOR ORDINALITY"
    let t ← dataType
    let asked := if ← kw? "EXISTS" then " EXISTS" else ""
    kw "PATH"
    let path ← value
    let (onEmpty, onError) ← jsonFallbacks
    return column ++ " " ++ t.text ++ asked ++ " PATH " ++ path.render ++ onEmpty ++ onError

/-- `JSON_TABLE` behind its opening parenthesis. -/
def jsonTable (g : Grammar) : Parser Phrase := do
  let e ← g.phrase
  mark ","
  let path ← value
  kw "COLUMNS"
  let columns ← parenthesized (do sepBy (jsonColumn ((← get).rest.length + 1)))
  mark ")"
  let aliasText ← tableAlias
  return .word "JSON_TABLE(" ++ (e ++ (.word (", " ++ path.render ++ " COLUMNS(" ++ commaText columns ++ "))")
    ++ aliasText))

/-- A column of `OPENJSON`. -/
def openJsonColumn : Parser String := do
  let column ← name
  let t ← dataType
  let path ← match (← peek).map Lexeme.token with
    | some (.literal .plain s) => do
      let _ ← next
      pure (" " ++ quoteText '\'' s)
    | _ => pure ""
  if ← kw? "AS" then
    kw "JSON"
    return column ++ " " ++ t.text ++ path ++ " AS JSON"
  return column ++ " " ++ t.text ++ path

/-- `OPENJSON` behind its opening parenthesis. -/
def openJson (g : Grammar) : Parser Phrase := do
  let e ← g.phrase
  let path ← if ← mark? "," then do pure (", " ++ (← value).render) else pure ""
  mark ")"
  let columns ← if ← kw? "WITH" then do
      pure (" WITH (" ++ commaText (← parenthesized (sepBy openJsonColumn)) ++ ")")
    else pure ""
  let aliasText ← tableAlias
  return .word "OPENJSON(" ++ (e ++ (.word (path ++ ")" ++ columns) ++ aliasText))

/-- A column of `XMLTABLE`. -/
def xmlColumn (g : Grammar) : Parser Phrase := do
  let column ← name
  if ← kw? "FOR" then
    kw "ORDINALITY"
    return .word (column ++ " FOR ORDINALITY")
  let t ← dataType
  let path ← optionally "PATH" g.phrase
  let default ← optionally "DEFAULT" g.phrase
  let required ← kws? ["NOT", "NULL"]
  unless required do
    let _ ← kw? "NULL"
  return .word (column ++ " " ++ t.text) ++ (.opt " PATH " path ++ (.opt " DEFAULT " default
    ++ .word (if required then " NOT NULL" else "")))

/-- An argument passed to `XMLTABLE`. -/
def xmlArgument (g : Grammar) : Parser Phrase := do
  let byValue ← if ← kw? "BY" then kw? "VALUE" else pure false
  let e ← aliased (← g.phrase)
  return .word (if byValue then "BY VALUE " else "") ++ e

/-- `XMLTABLE` behind its opening parenthesis. -/
def xmlTable (g : Grammar) : Parser Phrase := do
  let namespaces ← if ← kw? "XMLNAMESPACES" then do
      let spaces ← parenthesized (sepBy do
        let uri ← g.phrase
        kw "AS"
        return uri ++ .word (" AS " ++ (← name)))
      mark ","
      pure (.word "XMLNAMESPACES(" ++ (.commas spaces ++ .word "), "))
    else pure Phrase.empty
  let row ← g.phrase
  let passing ← if ← kw? "PASSING" then do
      pure (.word " PASSING " ++ .commas (← sepBy (xmlArgument g)))
    else pure Phrase.empty
  kw "COLUMNS"
  let columns ← sepBy (xmlColumn g)
  mark ")"
  let aliasText ← tableAlias
  return .word "XMLTABLE(" ++ (namespaces ++ (row ++ (passing ++ (.word " COLUMNS " ++ (.commas columns
    ++ (.word ")" ++ aliasText))))))

/-! ## Table factors -/

/-- A table as it is read: its text, and whether it is a join in parentheses. -/
structure TableRef where
  phrase : Phrase
  isNested : Bool

/-- A query in parentheses behind the opening one, with its alias. -/
def derivedTable (g : Grammar) (before : String) : Parser Phrase := do
  let q ← g.query
  mark ")"
  let aliasText ← tableAlias
  return .word (before ++ "(") ++ (.query q ++ (.word ")" ++ aliasText))

/-- Arguments behind the opening parenthesis, up to the closing one. -/
def tableArguments (g : Grammar) : Parser Phrase := do
  if ← mark? ")" then return .word "()"
  let arguments ← sepBy (callArgument g)
  mark ")"
  return .parens (.commas arguments)

/-- `UNNEST` behind its keyword. -/
def unnestTable (g : Grammar) : Parser Phrase := do
  let arrays ← parenthesized (sepBy g.phrase)
  let ordinality := if ← kws? ["WITH", "ORDINALITY"] then " WITH ORDINALITY" else ""
  let aliasText ← tableAlias
  let offset ← if ← kw? "WITH" then kw? "OFFSET" else pure false
  let offsetText ← if offset then do
      match ← aliasWord noColumnAlias with
      | some (_, i) => pure (" WITH OFFSET AS " ++ i.text)
      | none => pure " WITH OFFSET"
    else pure ""
  return .word "UNNEST(" ++ (.commas arrays ++ (.word (")" ++ ordinality) ++ (aliasText ++ .word offsetText)))

/-- Hints in parentheses behind `WITH`, or nothing. -/
def tableHints (g : Grammar) : Parser Phrase := do
  if (← sees "WITH") && (← seesMarkAt 1 "(") then
    let _ ← next
    let hints ← parenthesized (sepBy g.phrase)
    return .word " WITH (" ++ (.commas hints ++ .word ")")
  return .empty

/-- A table by its name, or the call of a function. -/
def namedTable (g : Grammar) : Parser Phrase := do
  let table ← objectName
  let arguments ← if ← mark? "(" then tableArguments g else pure .empty
  let ordinality := if ← kws? ["WITH", "ORDINALITY"] then " WITH ORDINALITY" else ""
  let aliasText ← tableAlias
  let hints ← tableHints g
  let sample ← sampleClause g
  pivots g (.word table ++ (arguments ++ (.word ordinality ++ (aliasText ++ (hints ++ sample)))))

/-- `LATERAL` behind its keyword. -/
def lateralTable (g : Grammar) : Parser Phrase := do
  if ← mark? "(" then derivedTable g "LATERAL "
  else
    let function ← objectName
    mark "("
    let arguments ← tableArguments g
    let aliasText ← tableAlias
    return .word ("LATERAL " ++ function) ++ (arguments ++ aliasText)

/-- Takes a keyword and an opening parenthesis if both are next. -/
def formStart? (keyword : String) : Parser Bool := do
  if (← sees keyword) && (← seesMarkAt 1 "(") then
    let _ ← next
    let _ ← next
    return true
  return false

/-! ## Joins -/

/-- The condition of a join, or nothing. -/
def joinCondition (g : Grammar) (natural : Bool) : Parser Phrase := do
  if natural then return .empty
  else if ← kw? "ON" then return .word " ON " ++ (← g.phrase)
  else if ← kw? "USING" then
    return .word (" USING(" ++ commaText (← columnList objectName) ++ ")")
  else return .empty

/-- The kind of a join that takes a condition, or nothing if none is next. -/
def joinKind (natural : Bool) : Parser (Option String) := do
  match ← oneOf? ["INNER", "JOIN", "LEFT", "RIGHT", "ANTI", "SEMI", "FULL", "STRAIGHT_JOIN"] with
  | some "INNER" =>
    kw "JOIN"
    return some "INNER JOIN"
  | some "JOIN" => return some "JOIN"
  | some "ANTI" =>
    kw "JOIN"
    return some "ANTI JOIN"
  | some "SEMI" =>
    kw "JOIN"
    return some "SEMI JOIN"
  | some "FULL" =>
    let _ ← kw? "OUTER"
    kw "JOIN"
    return some "FULL JOIN"
  | some "STRAIGHT_JOIN" => return some "STRAIGHT_JOIN"
  | some side =>
    match ← oneOf? ["OUTER", "SEMI", "ANTI", "JOIN"] with
    | some "JOIN" => return some (side ++ " JOIN")
    | some k =>
      kw "JOIN"
      return some (side ++ " " ++ k ++ " JOIN")
    | none => throw (.stated ("expected OUTER, SEMI, ANTI or JOIN after " ++ side))
  | none =>
    if ← sees "OUTER" then expected "LEFT, RIGHT, or FULL"
    else if natural then expected "a join type after NATURAL"
    else return none

/-- One more join, or nothing. -/
def join (g : Grammar) (factor : Parser TableRef) : Parser (Option Phrase) := do
  let front := if ← kw? "GLOBAL" then " GLOBAL " else " "
  if ← kw? "CROSS" then
    let kind ← match ← oneOf? ["JOIN", "APPLY"] with
      | some k => pure k
      | none => expected "JOIN or APPLY after CROSS"
    let table ← factor
    return some (.word (front ++ "CROSS " ++ kind ++ " ") ++ table.phrase)
  else if ← kw? "OUTER" then
    kw "APPLY"
    let table ← factor
    return some (.word (front ++ "OUTER APPLY ") ++ table.phrase)
  else if ← kw? "ASOF" then
    kw "JOIN"
    let table ← factor
    kw "MATCH_CONDITION"
    let match_ ← parenthesized g.phrase
    let condition ← joinCondition g false
    return some (.word (front ++ "ASOF JOIN ") ++ (table.phrase ++ (.word " MATCH_CONDITION (" ++ (match_
      ++ (.word ")" ++ condition)))))
  else
    let natural ← kw? "NATURAL"
    match ← joinKind natural with
    | none => return none
    | some kind =>
      let table ← factor
      let condition ← joinCondition g natural
      return some (.word (front ++ (if natural then "NATURAL " else "") ++ kind ++ " ")
        ++ (table.phrase ++ condition))

/-- A table with its joins, and whether it is nothing but a join in parentheses
or has joins of its own. -/
def joinedTable (g : Grammar) (factor : Parser TableRef) : Parser TableRef := do
  let first ← factor
  let joins ← many (join g factor)
  if joins.isEmpty then return first
  return ⟨first.phrase ++ .sepBy "" joins, true⟩

/-- A table in which parentheses nest at most `depth` times. -/
def tableFactor (g : Grammar) : Nat → Parser TableRef
  | 0 => throw .tooDeep
  | depth + 1 => do
    if ← kw? "LATERAL" then return ⟨← lateralTable g, false⟩
    else if ← kw? "TABLE" then
      let e ← parenthesized g.phrase
      let aliasText ← tableAlias
      return ⟨.word "TABLE(" ++ (e ++ (.word ")" ++ aliasText)), false⟩
    else if ← mark? "(" then
      match ← attempt (derivedTable g "") with
      | some table => return ⟨← pivots g table, false⟩
      | none =>
        let inner ← joinedTable g (tableFactor g depth)
        unless inner.isNested do expected "joined table"
        mark ")"
        let aliasText ← tableAlias
        return ⟨.parens inner.phrase ++ aliasText, true⟩
    else if ← kw? "UNNEST" then return ⟨← unnestTable g, false⟩
    else if ← formStart? "JSON_TABLE" then return ⟨← jsonTable g, false⟩
    else if ← formStart? "OPENJSON" then return ⟨← openJson g, false⟩
    else if ← formStart? "XMLTABLE" then return ⟨← xmlTable g, false⟩
    else return ⟨← namedTable g, false⟩

/-- A table with its joins. -/
def tableAndJoins (g : Grammar) : Parser Phrase := do
  let depth := (← get).rest.length + 1
  return (← joinedTable g (tableFactor g depth)).phrase

/-- The tables behind `FROM`. -/
def tables (g : Grammar) : Parser Phrase := do
  return .commas (← sepBy (tableAndJoins g))

end QueryGateway.Sql
