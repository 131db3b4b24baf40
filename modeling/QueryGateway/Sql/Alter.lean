import QueryGateway.Sql.Object

/-!
# Alterations and removals

`ALTER`, `DROP` and `TRUNCATE`. The readers find out where the statement ends and
what is wrong with it.
-/

namespace QueryGateway.Sql

/-! ## Tables -/

/-- What `ALTER COLUMN` does to a column, behind its name. -/
def alterColumn (g : Grammar) : Parser Unit := do
  if ← kws? ["SET", "NOT", "NULL"] then return ()
  else if ← kws? ["DROP", "NOT", "NULL"] then return ()
  else if ← kws? ["SET", "DEFAULT"] then skipping g.expr
  else if ← kws? ["DROP", "DEFAULT"] then return ()
  else if ← kws? ["SET", "DATA", "TYPE"] <||> kw? "TYPE" then
    skipping dataType
    skipClause g "USING"
  else if ← kws? ["ADD", "GENERATED"] then
    unless ← kw? "ALWAYS" do skip ["BY", "DEFAULT"]
    kws ["AS", "IDENTITY"]
    if ← mark? "(" then
      sequenceOptions
      mark ")"
  else
    expected "SET/DROP NOT NULL, SET DEFAULT, SET DATA TYPE, or ADD GENERATED after ALTER COLUMN"

/-- What `ADD` adds to a table. -/
def addToTable (g : Grammar) : Parser Unit := do
  match ← tableConstraint g with
  | some _ => skip ["NOT", "VALID"]
  | none =>
    skipping unlessExists
    skip ["COLUMN"]
    skipping unlessExists
    columnDefinition g

/-- What `RENAME` renames in a table. -/
def renameInTable : Parser Unit := do
  let constraint ← kw? "CONSTRAINT"
  if ← pure (!constraint) <&&> (kw? "TO" <||> kw? "AS") then skipping objectName
  else
    unless constraint do skip ["COLUMN"]
    skipping identifier
    kw "TO"
    skipping identifier

/-- What `DROP` takes from a table. -/
def dropFromTable : Parser Unit := do
  if ← kw? "CONSTRAINT" then
    skip ["IF", "EXISTS"]
    skipping identifier
    dropBehavior
  else if ← kws? ["PRIMARY", "KEY"] then dropBehavior
  else if ← kws? ["FOREIGN", "KEY"] then
    skipping identifier
    dropBehavior
  else if ← kw? "INDEX" then skipping identifier
  else if ← kws? ["CLUSTERING", "KEY"] then return ()
  else
    skip ["COLUMN"]
    skip ["IF", "EXISTS"]
    skipping identifier
    dropBehavior

/-- What `DISABLE` turns off for a table. -/
def disableForTable : Parser Unit := do
  if ← kws? ["ROW", "LEVEL", "SECURITY"] then return ()
  else if ← kw? "RULE" <||> kw? "TRIGGER" then skipping identifier
  else expected "ROW LEVEL SECURITY, RULE, or TRIGGER after DISABLE"

/-- What `ENABLE` turns on for a table. -/
def enableForTable : Parser Unit := do
  let forms := [["ALWAYS", "RULE"], ["ALWAYS", "TRIGGER"], ["REPLICA", "RULE"],
    ["REPLICA", "TRIGGER"], ["RULE"], ["TRIGGER"]]
  if ← kws? ["ROW", "LEVEL", "SECURITY"] then return ()
  for form in forms do
    if ← kws? form then
      skipping identifier
      return ()
  expected "ALWAYS, REPLICA, ROW LEVEL SECURITY, RULE, or TRIGGER after ENABLE"

/-- What tells the rows of a table apart for replicas. -/
def replicaIdentity : Parser Unit := do
  if (← oneOf? ["NOTHING", "FULL", "DEFAULT"]).isSome then return ()
  else if ← kws? ["USING", "INDEX"] then skipping identifier
  else expected "NOTHING, FULL, DEFAULT, or USING INDEX index_name after REPLICA IDENTITY"

/-- One operation of `ALTER TABLE`. -/
def alterOperation (g : Grammar) : Parser Unit := do
  if ← kw? "ADD" then addToTable g
  else if ← kw? "RENAME" then renameInTable
  else if ← kw? "DISABLE" then disableForTable
  else if ← kw? "ENABLE" then enableForTable
  else if ← kw? "DROP" then dropFromTable
  else if ← kw? "ALTER" then
    skip ["COLUMN"]
    skipping identifier
    alterColumn g
  else if ← kw? "SWAP" then
    kw "WITH"
    skipping objectName
  else if ← kws? ["OWNER", "TO"] then skipping identifier
  else if ← kws? ["CLUSTER", "BY"] then skipping (parenthesized (sepBy g.expr))
  else if ← kws? ["SUSPEND", "RECLUSTER"] then return ()
  else if ← kws? ["RESUME", "RECLUSTER"] then return ()
  else if ← kws? ["REPLICA", "IDENTITY"] then replicaIdentity
  else if ← kws? ["VALIDATE", "CONSTRAINT"] then skipping identifier
  else if ← kws? ["SET", "TBLPROPERTIES"] <||> kw? "SET" then optionList g
  else
    expected ("ADD, RENAME, PARTITION, SWAP, DROP, REPLICA IDENTITY, SET, or SET TBLPROPERTIES "
      ++ "after ALTER TABLE")

/-- `ALTER TABLE` behind its keywords. -/
def alterTable (g : Grammar) : Parser Unit := do
  skip ["IF", "EXISTS"]
  skip ["ONLY"]
  skipping objectName
  skipping (sepBy (alterOperation g))

/-! ## Other objects -/

/-- `ALTER VIEW` behind its keywords. -/
def alterView (g : Grammar) : Parser Unit := do
  skipping objectName
  optionalColumns
  optionsBehind g "WITH"
  kw "AS"
  skipping g.query

/-- `ALTER INDEX` behind its keywords. -/
def alterIndex : Parser Unit := do
  skipping objectName
  unless ← kw? "RENAME" do expected "RENAME after ALTER INDEX"
  unless ← kw? "TO" do expected "TO after RENAME"
  skipping objectName

/-- `ALTER ROLE` behind its keywords. -/
def alterRole (g : Grammar) : Parser Unit := do
  skipping identifier
  if ← kws? ["IN", "DATABASE"] then skipping (attempt objectName)
  if ← kw? "RENAME" then
    unless ← kw? "TO" do expected "TO after RENAME"
    skipping identifier
  else if ← kw? "SET" then
    skipping objectName
    unless ← kws? ["FROM", "CURRENT"] do
      unless ← mark? "=" <||> kw? "TO" do expected "'TO' or '=' or 'FROM CURRENT'"
      unless ← kw? "DEFAULT" do
        if (← attempt g.expr).isNone then expected "config value"
  else if ← kw? "RESET" then
    unless ← kw? "ALL" do skipping objectName
  else
    skip ["WITH"]
    if (← many (do return (← attempt roleChange).join)).isEmpty then expected "option"
where
  /-- A change of an option of a role. -/
  roleChange : Parser (Option Unit) := do
    match ← oneOf? (roleFlags ++ ["PASSWORD", "CONNECTION", "VALID"]) with
    | some "PASSWORD" => return some (← rolePassword)
    | some "CONNECTION" =>
      kw "LIMIT"
      return some (← skipping g.expr)
    | some "VALID" =>
      kw "UNTIL"
      return some (← skipping g.expr)
    | some _ => return some ()
    | none => return none

/-- `ALTER TYPE` behind its keywords. -/
def alterType : Parser Unit := do
  skipping objectName
  if ← kws? ["RENAME", "TO"] then skipping identifier
  else if ← kws? ["ADD", "VALUE"] then
    skipping unlessExists
    skipping identifier
    if (← oneOf? ["BEFORE", "AFTER"]).isSome then skipping identifier
  else if ← kws? ["RENAME", "VALUE"] then
    skipping identifier
    kw "TO"
    skipping identifier
  else expected "\x7bRENAME TO | \x7b RENAME | ADD \x7d VALUE\x7d"

/-- `ALTER SCHEMA` behind its keywords. -/
def alterSchema (g : Grammar) : Parser Unit := do
  skip ["IF", "EXISTS"]
  skipping objectName
  if ← kws? ["SET", "OPTIONS"] then optionList g
  else if ← kws? ["SET", "DEFAULT", "COLLATE"] then skipping g.expr
  else if ← kws? ["RENAME", "TO"] then skipping objectName
  else if ← kws? ["OWNER", "TO"] then skipping identifier
  else expected "ALTER SCHEMA operation"

/-- `ALTER POLICY` behind its keywords. -/
def alterPolicy (g : Grammar) : Parser Unit := do
  skipping identifier
  kw "ON"
  skipping objectName
  if ← kw? "RENAME" then
    kw "TO"
    skipping identifier
  else policyClauses g

/-- `ALTER USER` behind its keywords. -/
def alterUser : Parser Unit := do
  skip ["IF", "EXISTS"]
  skipping identifier
  if ← kws? ["RENAME", "TO"] then skipping identifier
  if ← kw? "SET" then skipping (many userOption)

/-- `ALTER CONNECTOR` behind its keywords. -/
def alterConnector (g : Grammar) : Parser Unit := do
  skipping identifier
  kw "SET"
  if ← kw? "DCPROPERTIES" then optionList g
  else if ← kw? "URL" then skipping literalString
  else if ← kw? "OWNER" then
    skipOneOf ["USER", "ROLE"]
    skipping identifier
  else expected "OWNER, USER or ROLE after ALTER CONNECTOR"

/-- The operator that a statement names, by its name and its operands. -/
def operatorSignature : Parser Unit := do
  operatorName
  mark "("
  unless ← kw? "NONE" do skipping dataType
  mark ","
  skipping dataType
  mark ")"

/-- `ALTER OPERATOR` behind its keywords. -/
def alterOperator : Parser Unit := do
  operatorSignature
  if ← kws? ["OWNER", "TO"] then skipping identifier
  else if ← kws? ["SET", "SCHEMA"] then skipping objectName
  else if ← kw? "SET" then
    skipping (parenthesized (sepBy do
      match ← oneOf ["RESTRICT", "JOIN", "COMMUTATOR", "NEGATOR", "HASHES", "MERGES"] with
      | "HASHES" => pure ()
      | "MERGES" => pure ()
      | "COMMUTATOR" => relatedOperator
      | "NEGATOR" => relatedOperator
      | _ =>
        mark "="
        unless ← kw? "NONE" do skipping objectName))
  else expected "OWNER TO, SET SCHEMA, or SET after ALTER OPERATOR"

/-- `ALTER` behind its keyword. -/
def alter (g : Grammar) : Parser Operation := do
  match ← oneOf ["VIEW", "TYPE", "TABLE", "INDEX", "ROLE", "POLICY", "CONNECTOR", "ICEBERG", "SCHEMA",
      "USER", "OPERATOR"] with
  | "TABLE" =>
    alterTable g
    return .ddl
  | "ICEBERG" =>
    kw "TABLE"
    alterTable g
    return .ddl
  | "VIEW" => alterView g
  | "INDEX" => alterIndex
  | "ROLE" => alterRole g
  | "TYPE" => alterType
  | "SCHEMA" => alterSchema g
  | "POLICY" => alterPolicy g
  | "USER" => alterUser
  | "CONNECTOR" => alterConnector g
  | _ => alterOperator
  return .other

/-! ## Drop and truncate -/

/-- `DROP` of objects by name, behind the kind of object. -/
def dropObjects (role : Bool) : Parser Operation := do
  skip ["IF", "EXISTS"]
  skipping (sepBy objectName)
  let l ← peek
  let cascade ← kw? "CASCADE"
  let restrict ← kw? "RESTRICT"
  let purge ← kw? "PURGE"
  if cascade && restrict then failAt "Cannot specify both CASCADE and RESTRICT in DROP" l
  if role && (cascade || restrict || purge) then
    failAt "Cannot specify CASCADE, RESTRICT, or PURGE in DROP ROLE" l
  if ← kw? "ON" then skipping objectName
  return .ddl

/-- `DROP OPERATOR`, or of a family or class of them, behind its keyword. -/
def dropOperator : Parser Unit := do
  if ← kw? "FAMILY" <||> kw? "CLASS" then
    skip ["IF", "EXISTS"]
    skipping (sepBy objectName)
    kw "USING"
    skipping identifier
  else
    skip ["IF", "EXISTS"]
    skipping (sepBy operatorSignature)
  dropBehavior

/-- `DROP` of other things than the general ones, behind the kind of thing. -/
def dropOther (g : Grammar) (kind : String) : Parser Unit := do
  if kind == "OPERATOR" then dropOperator
  else
    skip ["IF", "EXISTS"]
    match kind with
    | "POLICY" =>
      skipping identifier
      kw "ON"
      skipping objectName
      dropBehavior
    | "CONNECTOR" => skipping identifier
    | "DOMAIN" =>
      skipping objectName
      dropBehavior
    | "SECRET" =>
      skipping identifier
      if ← kw? "FROM" then skipping identifier
    | "TRIGGER" =>
      skipping objectName
      if ← kw? "ON" then skipping objectName
      dropBehavior
    | "EXTENSION" =>
      skipping (sepBy identifier)
      dropBehavior
    | _ =>
      skipping (sepBy (functionSignature g))
      dropBehavior

/-- `DROP` behind its keyword. -/
def drop (g : Grammar) : Parser Operation := do
  if (← oneOf? ["TABLE", "VIEW", "INDEX", "SCHEMA", "DATABASE", "SEQUENCE", "STAGE", "TYPE", "USER",
      "STREAM"]).isSome then dropObjects false
  else if ← kws? ["MATERIALIZED", "VIEW"] then dropObjects false
  else if ← kw? "ROLE" then dropObjects true
  else
    match ← oneOf? ["FUNCTION", "POLICY", "CONNECTOR", "DOMAIN", "PROCEDURE", "SECRET", "TRIGGER",
        "EXTENSION", "OPERATOR"] with
    | some kind =>
      dropOther g kind
      return .other
    | none =>
      expected ("CONNECTOR, DATABASE, EXTENSION, FUNCTION, INDEX, OPERATOR, POLICY, PROCEDURE, ROLE, "
        ++ "SCHEMA, SECRET, SEQUENCE, STAGE, TABLE, TRIGGER, TYPE, VIEW, MATERIALIZED VIEW or USER after DROP")

/-- `TRUNCATE` behind its keyword. -/
def truncate (g : Grammar) : Parser Operation := do
  skip ["TABLE"]
  skipping (sepBy do
    skip ["ONLY"]
    skipping objectName)
  if ← kw? "PARTITION" then skipping (parenthesized (sepBy g.expr))
  if ← kws? ["RESTART", "IDENTITY"] then pure () else skip ["CONTINUE", "IDENTITY"]
  dropBehavior
  if ← kws? ["ON", "CLUSTER"] then skipping identifier
  return .ddl

end QueryGateway.Sql
