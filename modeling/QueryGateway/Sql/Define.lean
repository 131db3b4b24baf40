import QueryGateway.Sql.Query

/-!
# Tables, views and indexes

Of a definition only its kind is kept; these readers find out where it ends and
what is wrong with it.
-/

namespace QueryGateway.Sql

/-! ## Parts -/

/-- Takes the given keywords if they are next, and tells nothing. -/
def skip (keywords : List String) : Parser Unit := do
  let _ ← kws? keywords

/-- Takes the next token if it is one of the given keywords, and tells nothing. -/
def skipOneOf (keywords : List String) : Parser Unit := do
  let _ ← oneOf? keywords

/-- A parser run for where it ends. -/
def skipping {α : Type} (p : Parser α) : Parser Unit := do
  let _ ← p

/-- `CASCADE` or `RESTRICT`, or nothing. -/
def dropBehavior : Parser Unit := skipOneOf ["CASCADE", "RESTRICT"]

/-- Whether it exists already, asked for or not. -/
def unlessExists : Parser Bool := kws? ["IF", "NOT", "EXISTS"]

/-- An expression to index, perhaps with an operator class, and its ordering. -/
def indexItem (g : Grammar) : Parser Unit := do
  skipping g.expr
  unless ← seesAt 0 ["ASC", "DESC", "NULLS", "WITH"] do skipping (attempt objectName)
  skipping orderOptions

/-- Expressions to index in parentheses, at least one. -/
def keyColumns (g : Grammar) : Parser Unit := do
  skipping (columnList (indexItem g))

/-- The method of an index behind `USING`, or nothing. -/
def indexMethod : Parser Unit := do
  if ← kw? "USING" then skipping identifier

/-- The columns of a key, perhaps with a name and a method in front. -/
def keyDefinition (g : Grammar) : Parser Unit := do
  skipping (attempt identifier)
  indexMethod
  keyColumns g

/-- `NULLS DISTINCT` or `NULLS NOT DISTINCT`, or nothing. -/
def nullsDistinct : Parser Unit := do
  if ← kw? "NULLS" then
    skip ["NOT"]
    kw "DISTINCT"

/-- When a constraint is checked. -/
def constraintTiming : Parser Unit := do
  skipping (many do
    if ← kws? ["NOT", "DEFERRABLE"] then return some ()
    else if ← kw? "DEFERRABLE" then return some ()
    else if ← kw? "INITIALLY" then
      if (← oneOf? ["DEFERRED", "IMMEDIATE"]).isNone then expected "one of DEFERRED or IMMEDIATE"
      return some ()
    else if ← kws? ["NOT", "ENFORCED"] then return some ()
    else if ← kw? "ENFORCED" then return some ()
    else return none)

/-- What a foreign key does on a change. -/
def referentialAction : Parser Unit := do
  if ← kw? "RESTRICT" then return ()
  else if ← kw? "CASCADE" then return ()
  else if ← kws? ["SET", "NULL"] then return ()
  else if ← kws? ["NO", "ACTION"] then return ()
  else if ← kws? ["SET", "DEFAULT"] then return ()
  else expected "one of RESTRICT, CASCADE, SET NULL, NO ACTION or SET DEFAULT"

/-- The target of a foreign key behind `REFERENCES`. -/
def referenceTarget : Parser Unit := do
  skipping objectName
  optionalColumns
  skipping (many do
    if ← kw? "MATCH" then
      skipping (oneOf ["FULL", "PARTIAL", "SIMPLE"])
      return some ()
    else if ← kws? ["ON", "DELETE"] then
      referentialAction
      return some ()
    else if ← kws? ["ON", "UPDATE"] then
      referentialAction
      return some ()
    else return none)

/-- Options in parentheses: names with values. -/
def optionList (g : Grammar) : Parser Unit := do
  skipping (parenthesized (sepBy0 (do
    skipping identifier
    mark "="
    skipping g.expr) ")"))

/-- Options in parentheses behind a keyword, or nothing. -/
def optionsBehind (g : Grammar) (keyword : String) : Parser Unit := do
  if ← kw? keyword then optionList g

/-- A number with a sign. -/
def signedNumber : Parser Unit := do
  unless ← mark? "+" do
    let _ ← mark? "-"
  skipping numberValue

/-- Options of a sequence, in the one order they come in. -/
def sequenceOptions : Parser Unit := do
  if ← kw? "INCREMENT" then
    skip ["BY"]
    signedNumber
  if ← kw? "MINVALUE" then signedNumber else skip ["NO", "MINVALUE"]
  if ← kw? "MAXVALUE" then signedNumber else skip ["NO", "MAXVALUE"]
  if ← kw? "START" then
    skip ["WITH"]
    signedNumber
  if ← kw? "CACHE" then signedNumber
  if ← kws? ["NO", "CYCLE"] then return () else skip ["CYCLE"]

/-! ## Columns and constraints -/

/-- How a generated column comes by its value, behind `GENERATED`. -/
def generatedColumn (g : Grammar) : Parser Unit := do
  if ← kws? ["ALWAYS", "AS", "IDENTITY"] <||> kws? ["BY", "DEFAULT", "AS", "IDENTITY"] then
    if ← mark? "(" then
      sequenceOptions
      mark ")"
  else if ← kws? ["ALWAYS", "AS"] then
    if ← mark? "(" then
      skipping (withColumn false g.expr)
      mark ")"
      unless ← kw? "STORED" do expected "STORED"

/-- An option of a column, or nothing. -/
def columnOption (g : Grammar) : Parser (Option Unit) := do
  if ← kws? ["CHARACTER", "SET"] then return some (← skipping objectName)
  else if ← kw? "COLLATE" then return some (← skipping objectName)
  else if ← kws? ["NOT", "NULL"] then return some ()
  else if ← kw? "COMMENT" then return some (← skipping literalString)
  else if ← kw? "NULL" then return some ()
  else if ← kw? "DEFAULT" then return some (← skipping (withColumn true g.expr))
  else if ← kws? ["PRIMARY", "KEY"] then return some (← constraintTiming)
  else if ← kw? "UNIQUE" then
    skip ["KEY"]
    return some (← constraintTiming)
  else if ← kw? "REFERENCES" then
    referenceTarget
    return some (← constraintTiming)
  else if ← kw? "CHECK" then
    skipping (parenthesized (withColumn false g.expr))
    return some ()
  else if ← kw? "GENERATED" then
    generatedColumn g
    return some ()
  else return none

/-- A column of a table: its name, its type and its options. -/
def columnDefinition (g : Grammar) : Parser Unit := do
  skipping identifier
  skipping dataType
  skipping (many do
    if ← kw? "CONSTRAINT" then
      skipping identifier
      match ← columnOption g with
      | some _ => return some ()
      | none => expected "constraint details after CONSTRAINT <name>"
    else columnOption g)

/-- A constraint of a table, or nothing. -/
def tableConstraint (g : Grammar) : Parser (Option Unit) := do
  let named ← kw? "CONSTRAINT"
  if named then skipping identifier
  if ← kw? "UNIQUE" then
    if (← oneOf? ["KEY", "INDEX"]).isSome then
      expected "`index_name` or `(column_name [, ...])`"
    nullsDistinct
    keyDefinition g
    return some (← constraintTiming)
  else if ← kw? "PRIMARY" then
    kw "KEY"
    keyDefinition g
    return some (← constraintTiming)
  else if ← kw? "FOREIGN" then
    kw "KEY"
    skipping (attempt identifier)
    skipping (columnList name)
    kw "REFERENCES"
    referenceTarget
    return some (← constraintTiming)
  else if ← kw? "CHECK" then
    skipping (parenthesized g.expr)
    unless ← kw? "ENFORCED" do skip ["NOT", "ENFORCED"]
    return some ()
  else if named then expected "PRIMARY, UNIQUE, FOREIGN, or CHECK"
  else return none

/-- The columns and constraints of a table in parentheses, or nothing. -/
def tableElements (g : Grammar) : Parser Unit := do
  if ← mark? "(" then
    unless ← mark? ")" do
      skipping (iterate (fun finished : Bool => do
        if finished then return none
        match ← tableConstraint g with
        | some _ => pure ()
        | none =>
          match (← peek).map Lexeme.token with
          | some (.word _) => columnDefinition g
          | _ => expected "column name or constraint definition"
        let comma ← mark? ","
        let closes ← seesMark ")"
        if !comma && !closes then expected "',' or ')' after column definition"
        if closes && !comma then
          mark ")"
          return some true
        return some false) false)

/-! ## Create -/

/-- What `CREATE TABLE` says of the table behind its columns. -/
def tableConfig (g : Grammar) : Parser Unit := do
  if ← kw? "INHERITS" then skipping (columnList objectName)
  optionsBehind g "WITH"
  optionsBehind g "TBLPROPERTIES"
  if ← kws? ["PARTITION", "BY"] then skipping g.expr
  if ← kw? "TABLESPACE" then
    let _ ← mark? "="
    skipping identifier

/-- `CREATE TABLE` behind its keywords. -/
def createTable (g : Grammar) : Parser Operation := do
  skipping unlessExists
  skipping objectName
  if (← oneOf? ["LIKE", "ILIKE"]).isSome then skipping objectName
  if ← kw? "CLONE" then skipping (attempt objectName)
  tableElements g
  skip ["WITHOUT", "ROWID"]
  tableConfig g
  if ← kws? ["ON", "COMMIT"] then
    if ← kws? ["DELETE", "ROWS"] then pure ()
    else if ← kws? ["PRESERVE", "ROWS"] then pure ()
    else if ← kw? "DROP" then pure ()
    else expected "Expecting DELETE ROWS, PRESERVE ROWS or DROP"
  skip ["STRICT"]
  if ← kw? "AS" then skipping g.query
  return .ddl

/-- `CREATE EXTERNAL TABLE` behind its first keyword. -/
def createExternalTable (g : Grammar) : Parser Operation := do
  kw "TABLE"
  skipping unlessExists
  skipping objectName
  tableElements g
  skipping (many do
    if ← kws? ["STORED", "AS"] then return some (← skipping identifier)
    else if ← kw? "LOCATION" then return some (← skipping literalString)
    else return none)
  optionsBehind g "TBLPROPERTIES"
  return .ddl

/-- `CREATE VIRTUAL TABLE` behind its first keyword. -/
def createVirtualTable : Parser Operation := do
  kw "TABLE"
  skipping unlessExists
  skipping objectName
  kw "USING"
  skipping identifier
  optionalColumns
  return .other

/-- `CREATE VIEW` at its first keyword. -/
def createView (g : Grammar) : Parser Operation := do
  skip ["SECURE"]
  skip ["MATERIALIZED"]
  kw "VIEW"
  let asked ← unlessExists
  skipping objectName
  unless asked do skipping unlessExists
  skip ["COPY", "GRANTS"]
  if ← mark? "(" then
    unless ← mark? ")" do
      skipping (sepBy do
        skipping identifier
        skipping (columnOption g))
      mark ")"
  optionsBehind g "WITH"
  if ← kw? "CLUSTER" then
    kw "BY"
    optionalColumns
  kw "AS"
  skipping g.query
  return .ddl

/-- `CREATE INDEX` behind its keywords. -/
def createIndex (g : Grammar) : Parser Operation := do
  skip ["CONCURRENTLY"]
  let asked ← unlessExists
  let unnamed ← if asked then pure false else kw? "ON"
  unless unnamed do
    skipping objectName
    indexMethod
    kw "ON"
  skipping objectName
  indexMethod
  keyColumns g
  if ← kw? "INCLUDE" then skipping (parenthesized (sepBy identifier))
  nullsDistinct
  if ← kw? "WITH" then skipping (parenthesized (sepBy g.expr))
  skipClause g "WHERE"
  return .ddl

end QueryGateway.Sql
