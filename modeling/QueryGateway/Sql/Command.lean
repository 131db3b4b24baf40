import QueryGateway.Sql.Alter

/-!
# Commands

The statements that neither query, change nor define: transactions, settings,
cursors, privileges, and the rest. Only where they end matters.
-/

namespace QueryGateway.Sql

/-! ## Explanations -/

/-- An option of `EXPLAIN` or `VACUUM` in parentheses. -/
def utilityOption (g : Grammar) : Parser Unit := do
  skipping identifier
  unless (← seesMark ",") || (← seesMark ")") do skipping g.expr

/-- The format of an explanation behind its keyword. -/
def explainFormat : Parser Unit := do
  let _ ← mark? "="
  let l ← next
  match l with
  | some lexeme =>
    unless lexeme.isOneOf ["TEXT", "GRAPHVIZ", "JSON", "TRADITIONAL", "TREE", "XML", "YAML"] do
      expectedAt "fileformat" l
  | none => expectedAt "fileformat" l

/-- `EXPLAIN` or `DESCRIBE` behind the keyword. -/
def explain (g : Grammar) (full : Bool) : Parser Statement := do
  if full && (← seesMark "(") then skipping (parenthesized (sepBy (utilityOption g)))
  else if ← kws? ["QUERY", "PLAN"] then pure ()
  else if ← kw? "ESTIMATE" then pure ()
  else
    skip ["ANALYZE"]
    skip ["VERBOSE"]
    if ← kw? "FORMAT" then explainFormat
  match ← attempt g.statement with
  | some .explanation => throw (.stated "Explain must be root of the plan")
  | some _ => return .explanation
  | none =>
    skipOneOf ["EXTENDED", "FORMATTED"]
    skip ["TABLE"]
    skipping objectName
    return .explanation

/-- `ANALYZE` behind its keyword. -/
def analyze (g : Grammar) : Parser Unit := do
  skip ["TABLE"]
  skipping objectName
  skipping (many do
    match ← oneOf? ["PARTITION", "FOR", "CACHE", "NOSCAN", "COMPUTE"] with
    | some "PARTITION" => return some (← skipping (parenthesized (sepBy g.expr)))
    | some "FOR" =>
      kw "COLUMNS"
      return some (← skipping (attempt (sepBy identifier)))
    | some "CACHE" => return some (← kw "METADATA")
    | some "COMPUTE" => return some (← kw "STATISTICS")
    | some _ => return some ()
    | none => return none)

/-! ## Blocks -/

/-- A condition with its statements behind `THEN`. -/
def conditionalBlock (g : Grammar) (terminal : List String) : Parser Unit := do
  skipping g.expr
  kw "THEN"
  blockStatements g terminal

/-- `IF` behind its keyword. -/
def ifBlock (g : Grammar) : Parser Unit := do
  conditionalBlock g ["ELSE", "ELSEIF", "END"]
  skipping (many do
    if ← kw? "ELSEIF" then return some (← conditionalBlock g ["ELSEIF", "ELSE", "END"])
    return none)
  if ← kw? "ELSE" then blockStatements g ["END"]
  kw "END"
  kw "IF"

/-- `CASE` as a statement behind its keyword. -/
def caseBlock (g : Grammar) : Parser Unit := do
  unless ← sees "WHEN" do skipping g.expr
  kw "WHEN"
  skipping (sepByN (kw? "WHEN") (conditionalBlock g ["WHEN", "ELSE", "END"]) (← get).rest.length)
  if ← kw? "ELSE" then blockStatements g ["END"]
  kw "END"
  skip ["CASE"]

/-! ## Transactions -/

/-- The modes of a transaction. -/
def transactionModes : Parser Unit := do
  skipping (iterate (fun required : Bool => do
    if ← kws? ["ISOLATION", "LEVEL"] then
      if ← kws? ["READ", "UNCOMMITTED"] then pure ()
      else if ← kws? ["READ", "COMMITTED"] then pure ()
      else if ← kws? ["REPEATABLE", "READ"] then pure ()
      else if ← kw? "SERIALIZABLE" then pure ()
      else if ← kw? "SNAPSHOT" then pure ()
      else expected "isolation level"
      return some (← mark? ",")
    else if ← kws? ["READ", "ONLY"] <||> kws? ["READ", "WRITE"] then return some (← mark? ",")
    else if required then expected "transaction mode"
    else return none) false)

/-- `AND CHAIN` behind the end of a transaction. -/
def transactionEnd : Parser Unit := do
  skipOneOf ["TRANSACTION", "WORK", "TRAN"]
  if ← kw? "AND" then
    skip ["NO"]
    kw "CHAIN"

/-! ## Settings -/

/-- The values of a setting. -/
def settingValues (g : Grammar) : Parser Unit := do
  skipping (sepBy g.expr)

/-- `SET` behind its keyword. -/
def setCommand (g : Grammar) : Parser Unit := do
  let hivevar ← kw? "HIVEVAR"
  let scope ← if hivevar then pure none else oneOf? ["SESSION", "LOCAL", "GLOBAL"]
  if hivevar then mark ":"
  let role ← attempt do
    kw "ROLE"
    unless ← kw? "NONE" do skipping identifier
  if role.isSome then return ()
  if ← kws? ["TIME", "ZONE"] <||> kw? "TIMEZONE" then
    if ← mark? "=" <||> kw? "TO" then settingValues g else skipping g.expr
  else if ← kw? "NAMES" then
    unless ← kw? "DEFAULT" do
      skipping identifier
      if ← kw? "COLLATE" then skipping literalString
  else if ← kw? "CHARACTERISTICS" then
    kws ["AS", "TRANSACTION"]
    transactionModes
  else if ← kw? "TRANSACTION" then
    if ← kw? "SNAPSHOT" then skipping value else transactionModes
  else if ← sees "AUTHORIZATION" then
    let l ← next
    if scope.isNone then
      expectedAt "SESSION, LOCAL, or other scope modifier before AUTHORIZATION" l
    unless ← kw? "DEFAULT" do skipping identifier
  else
    skipping objectName
    if ← mark? "=" <||> kw? "TO" then settingValues g
    else expected "equals sign or TO"

/-- A filter of `SHOW`, or nothing. -/
def showFilter (g : Grammar) : Parser Unit := do
  match ← oneOf? ["LIKE", "ILIKE"] with
  | some _ => skipping literalString
  | none => if ← kw? "WHERE" then skipping g.expr else skipping (attempt literalString)

/-- Where `SHOW` looks, and what it picks. -/
def showOptions (g : Grammar) : Parser Unit := do
  if (← oneOf? ["FROM", "IN"]).isSome then
    match ← oneOf? ["ACCOUNT", "DATABASE", "SCHEMA", "TABLE", "VIEW"] with
    | some _ => skipping (attempt objectName)
    | none =>
      skipping objectName
      if (← oneOf? ["FROM", "IN"]).isSome then skipping identifier
  showFilter g
  if ← kws? ["STARTS", "WITH"] then skipping value
  skipClause g "LIMIT"
  if ← kw? "FROM" then skipping value

/-- Everything up to a semicolon or an equals sign. -/
def restOfStatement : Parser Unit := fun s =>
  .ok ((), { s with rest := s.rest.dropWhile fun l => !(l.isMark ";" || l.isMark "=") })

/-- `SHOW` behind its keyword. -/
def showCommand (g : Grammar) : Parser Unit := do
  skip ["TERSE"]
  let extended ← kw? "EXTENDED"
  let full ← kw? "FULL"
  skip ["SESSION"]
  skip ["GLOBAL"]
  skip ["EXTERNAL"]
  if (← oneOf? ["COLUMNS", "FIELDS"]).isSome then showOptions g
  else if ← kw? "TABLES" then
    skip ["HISTORY"]
    showOptions g
  else if ← kws? ["MATERIALIZED", "VIEWS"] then showOptions g
  else if ← kw? "VIEWS" then showOptions g
  else if ← kw? "FUNCTIONS" then showFilter g
  else if extended || full then
    throw (.stated "EXTENDED/FULL are not supported with this type of SHOW query")
  else if ← kw? "CREATE" then
    skipping (oneOf ["TABLE", "TRIGGER", "EVENT", "FUNCTION", "PROCEDURE", "VIEW"])
    skipping objectName
  else if ← kw? "COLLATION" then showFilter g
  else if ← kw? "DATABASES" then
    skip ["HISTORY"]
    showOptions g
  else if ← kw? "SCHEMAS" then
    skip ["HISTORY"]
    showOptions g
  else if ← kws? ["CHARACTER", "SET"] then showFilter g
  else if ← kw? "CHARSET" then showFilter g
  else restOfStatement

/-! ## Cursors -/

/-- `DECLARE` behind its keyword. -/
def declareCursor (g : Grammar) : Parser Unit := do
  skipping identifier
  skip ["BINARY"]
  skipOneOf ["INSENSITIVE", "ASENSITIVE"]
  if ← kw? "SCROLL" then pure () else skip ["NO", "SCROLL"]
  kw "CURSOR"
  if (← oneOf? ["WITH", "WITHOUT"]).isSome then kw "HOLD"
  kw "FOR"
  skipping g.query

/-- `FETCH` as a statement behind its keyword. -/
def fetchCommand : Parser Unit := do
  match ← oneOf? ["NEXT", "PRIOR", "FIRST", "LAST", "ABSOLUTE", "RELATIVE", "FORWARD", "BACKWARD",
      "ALL"] with
  | some k =>
    if k == "ABSOLUTE" || k == "RELATIVE" then skipping numberValue
    else if k == "FORWARD" || k == "BACKWARD" then
      unless ← kw? "ALL" do skipping numberValue
  | none => skipping numberValue
  if (← oneOf? ["FROM", "IN"]).isNone then failAt "Expected FROM or IN" (← peek)
  skipping identifier
  if ← kw? "INTO" then skipping objectName

/-! ## Privileges -/

/-- One privilege, with the columns it is for. -/
def privilege : Parser Unit := do
  match ← oneOf? ["CONNECT", "CREATE", "DELETE", "DROP", "EXECUTE", "INSERT", "REFERENCES", "SELECT",
      "TEMPORARY", "TRIGGER", "TRUNCATE", "UPDATE", "USAGE", "ROLE", "OWNERSHIP", "READ", "MODIFY",
      "MONITOR", "OPERATE", "EXEC", "APPLY", "AUDIT", "FAILOVER", "REPLICATE", "MANAGE"] with
  | some "ROLE" => skipping identifier
  | some k => if ["INSERT", "REFERENCES", "SELECT", "UPDATE"].contains k then optionalColumns
  | none => expected "a privilege keyword"

/-- The privileges and the objects they are for. -/
def privileges (g : Grammar) : Parser Unit := do
  if ← kw? "ALL" then skip ["PRIVILEGES"] else skipping (sepBy privilege)
  if ← kw? "ON" then
    if ← kws? ["ALL", "TABLES", "IN", "SCHEMA"] <||> kws? ["ALL", "VIEWS", "IN", "SCHEMA"]
        <||> kws? ["ALL", "FUNCTIONS", "IN", "SCHEMA"] <||> kws? ["ALL", "SEQUENCES", "IN", "SCHEMA"]
    then skipping (sepBy objectName)
    else
      let kind ← oneOf? ["SEQUENCE", "DATABASE", "SCHEMA", "TABLE", "VIEW", "WAREHOUSE", "INTEGRATION",
        "USER", "CONNECTION", "FUNCTION", "PROCEDURE"]
      if kind == some "FUNCTION" || kind == some "PROCEDURE" then
        skipping (sepBy (functionSignature g))
      else
        skipping (sepBy (sepByN (mark? ".") (do
          unless ← mark? "*" do skipping identifier) (← get).rest.length))

/-- Those a privilege is granted to or revoked from. -/
def grantees : Parser Unit := do
  skipping (sepBy do
    match ← oneOf? ["ROLE", "USER", "SHARE", "GROUP", "PUBLIC", "APPLICATION"] with
    | some "PUBLIC" => pure ()
    | _ =>
      skipping objectName
      if ← mark? ":" then skipping identifier)

/-- `GRANT` behind its keyword. -/
def grant (g : Grammar) : Parser Unit := do
  privileges g
  kw "TO"
  grantees
  skip ["WITH", "GRANT", "OPTION"]
  if ← kw? "AS" then skipping identifier
  if ← kws? ["GRANTED", "BY"] then skipping identifier

/-- `REVOKE` behind its keyword. -/
def revoke (g : Grammar) : Parser Unit := do
  privileges g
  kw "FROM"
  grantees
  if ← kws? ["GRANTED", "BY"] then skipping identifier
  dropBehavior

/-! ## Copies -/

/-- A single character. -/
def literalChar : Parser Unit := do
  let l ← peek
  let s ← literalString
  if Text.utf8Length s.toList != 1 then failAt ("Expect a char, found \"" ++ s ++ "\"") l

/-- `TRUE` or `FALSE`, or nothing. -/
def optionalTruth : Parser Unit := skipOneOf ["TRUE", "FALSE"]

/-- An option of `COPY` in parentheses. -/
def copyOption : Parser Unit := do
  match ← oneOf? ["FORMAT", "FREEZE", "DELIMITER", "NULL", "HEADER", "QUOTE", "ESCAPE", "FORCE_QUOTE",
      "FORCE_NOT_NULL", "FORCE_NULL", "ENCODING"] with
  | some k =>
    match k with
    | "FORMAT" => skipping identifier
    | "FREEZE" => optionalTruth
    | "HEADER" => optionalTruth
    | "NULL" => skipping literalString
    | "ENCODING" => skipping literalString
    | "DELIMITER" => literalChar
    | "QUOTE" => literalChar
    | "ESCAPE" => literalChar
    | _ => skipping (columnList name)
  | none => expected "option"

/-- An option of `COPY` without parentheses. -/
def legacyCopyOption : Parser (Option Unit) := do
  match ← oneOf? ["BINARY", "CSV", "DELIMITER", "NULL", "HEADER"] with
  | some "DELIMITER" =>
    skip ["AS"]
    return some (← literalChar)
  | some "NULL" =>
    skip ["AS"]
    return some (← skipping literalString)
  | some _ => return some ()
  | none => return none

/-- The rows of a copy from the script itself, up to a backslash and a period. -/
def inlineRows : Parser Unit := fun s =>
  .ok ((), { s with rest := rowsEnd s.rest })
where
  /-- What follows the mark that ends the rows. -/
  rowsEnd : List Lexeme → List Lexeme
    | [] => []
    | [_] => []
    | a :: b :: rest => if a.isMark "\\" && b.isMark "." then rest else rowsEnd (b :: rest)

/-- `COPY` behind its keyword. -/
def copy (g : Grammar) : Parser Unit := do
  let fromQuery ← mark? "("
  if fromQuery then
    skipping g.query
    mark ")"
  else
    skipping objectName
    optionalColumns
  match ← oneOf? ["FROM", "TO"] with
  | some "FROM" =>
    if fromQuery then throw (.stated "COPY ... FROM does not support query as a source")
  | some _ => pure ()
  | none => expected "FROM or TO"
  let target ← oneOf? ["STDIN", "STDOUT", "PROGRAM"]
  unless target == some "STDIN" || target == some "STDOUT" do skipping literalString
  skip ["WITH"]
  if ← seesMark "(" then skipping (parenthesized (sepBy copyOption))
  skipping (many do return (← attempt legacyCopyOption).join)
  if target == some "STDIN" then
    mark ";"
    inlineRows

/-! ## Other commands -/

/-- `EXECUTE` behind its keyword. -/
def execute (g : Grammar) : Parser Unit := do
  skipping objectName
  if ← mark? "(" then
    skipping (sepBy0 g.expr ")")
    mark ")"
  else
    match ← peek with
    | none => pure ()
    | some l =>
      unless l.isMark ";" || l.isOneOf ["USING", "OUTPUT", "DEFAULT"] do skipping (sepBy g.expr)
  if ← kw? "INTO" then skipping (sepBy identifier)
  if ← kw? "USING" then skipping (sepBy do aliased (← g.phrase))
  skip ["OUTPUT"]
  skip ["DEFAULT"]

/-- `COMMENT` behind its keyword. -/
def comment : Parser Unit := do
  skip ["IF", "EXISTS"]
  kw "ON"
  let l ← next
  match l with
  | some lexeme =>
    if lexeme.isKeyword "MATERIALIZED" then kw "VIEW"
    else unless lexeme.isOneOf ["COLUMN", "DATABASE", "DOMAIN", "EXTENSION", "FUNCTION", "INDEX",
        "PROCEDURE", "ROLE", "SCHEMA", "SEQUENCE", "TABLE", "TYPE", "USER", "VIEW"] do
      expectedAt "comment object_type" l
  | none => expectedAt "comment object_type" l
  skipping objectName
  kw "IS"
  unless ← kw? "NULL" do skipping literalString

/-- A value of `PRAGMA`. -/
def pragmaValue : Parser Unit := do
  let l ← peek
  let _ ← value
  match l.map Lexeme.token with
  | some (.number ..) => pure ()
  | some (.placeholder _) => pure ()
  | some (.literal .plain _) => pure ()
  | some (.word w) =>
    unless w.quoted do expectedAt "number or string or ? placeholder" l
  | some (.mark _) => pure ()
  | _ => expectedAt "number or string or ? placeholder" l

/-- `VACUUM` behind its keyword. -/
def vacuum : Parser Unit := do
  skip ["FULL"]
  skip ["SORT", "ONLY"]
  skip ["DELETE", "ONLY"]
  skip ["REINDEX"]
  skip ["RECLUSTER"]
  match ← attempt objectName with
  | some _ =>
    if ← kw? "TO" then
      skipping value
      kw "PERCENT"
    skip ["BOOST"]
  | none => pure ()

/-- A command behind its keyword, or nothing if the keyword starts none. `l` is
the keyword. -/
def command (g : Grammar) (keyword : String) (l : Option Lexeme) : Parser Statement := do
  let other (p : Parser Unit) : Parser Statement := do
    p
    return .command .other
  let kind (p : Parser Operation) : Parser Statement := do return .command (← p)
  match keyword with
  | "EXPLAIN" => explain g true
  | "DESCRIBE" => explain g false
  | "DESC" => explain g false
  | "INSERT" => kind (insert g)
  | "UPDATE" => kind (update g)
  | "DELETE" => kind (delete g)
  | "MERGE" => kind (merge g)
  | "CREATE" => kind (create g)
  | "ALTER" => kind (alter g)
  | "DROP" => kind (drop g)
  | "TRUNCATE" => kind (truncate g)
  | "ANALYZE" => other (analyze g)
  | "CASE" => other (caseBlock g)
  | "IF" => other (ifBlock g)
  | "WHILE" => other do
    skipping g.expr
    blockStatements g ["END"]
  | "RAISE" => other do
    if ← kws? ["USING", "MESSAGE"] then
      mark "="
      skipping g.expr
    else skipping (attempt g.expr)
  | "KILL" => other do
    match ← oneOf? ["CONNECTION", "QUERY", "MUTATION"] with
    | some "MUTATION" => expected "Unsupported type for KILL, allowed: CONNECTION | QUERY"
    | _ => skipping literalUint
  | "FLUSH" => failAt "Unsupported statement FLUSH" (← peek)
  | "REPLACE" => failAt "Unsupported statement REPLACE" (← peek)
  | "ATTACH" => other do
    skip ["DATABASE"]
    skipping g.expr
    kw "AS"
    skipping identifier
  | "MSCK" => other do
    skip ["REPAIR"]
    kw "TABLE"
    skipping objectName
    skipping (attempt do
      skipOneOf ["ADD", "DROP", "SYNC"]
      kw "PARTITIONS")
  | "CACHE" => other do
    unless ← kw? "TABLE" do
      skipping objectName
      kw "TABLE"
    skipping objectName
    unless (← peek).isNone do
      skip ["AS"]
      skipping g.query
  | "UNCACHE" => other do
    kw "TABLE"
    skip ["IF", "EXISTS"]
    skipping objectName
  | "DISCARD" => other do
    if (← oneOf? ["ALL", "PLANS", "SEQUENCES", "TEMP", "TEMPORARY"]).isNone then
      expected "ALL, PLANS, SEQUENCES, TEMP or TEMPORARY after DISCARD"
  | "DECLARE" => other (declareCursor g)
  | "FETCH" => other fetchCommand
  | "OPEN" => other (skipping identifier)
  | "CLOSE" => other do unless ← kw? "ALL" do skipping identifier
  | "CALL" => other do
    let function ← objectName
    if ← seesMark "(" then skipping (call g (operand g) function)
  | "COPY" => other (copy g)
  | "SET" => other (setCommand g)
  | "RESET" => other do unless ← kw? "ALL" do skipping objectName
  | "SHOW" => other (showCommand g)
  | "USE" => other (skipping objectName)
  | "GRANT" => other (grant g)
  | "REVOKE" => other (revoke g)
  | "DENY" => other do
    privileges g
    kw "TO"
    grantees
    skip ["CASCADE"]
    if ← kw? "AS" then skipping identifier
  | "START" => other do
    kw "TRANSACTION"
    transactionModes
  | "BEGIN" => other do
    skipOneOf ["TRANSACTION", "WORK", "TRAN"]
    transactionModes
  | "END" => other transactionEnd
  | "COMMIT" => other transactionEnd
  | "ROLLBACK" => other do
    transactionEnd
    if ← kw? "TO" then
      skip ["SAVEPOINT"]
      skipping identifier
  | "SAVEPOINT" => other (skipping identifier)
  | "RELEASE" => other do
    skip ["SAVEPOINT"]
    skipping identifier
  | "RAISERROR" => other do
    skipping (parenthesized (sepBy g.expr))
    if ← kw? "WITH" then skipping (sepBy identifier)
  | "ASSERT" => other do
    skipping g.expr
    skipClause g "AS"
  | "DEALLOCATE" => other do
    skip ["PREPARE"]
    skipping identifier
  | "EXECUTE" => other (execute g)
  | "EXEC" => other (execute g)
  | "PREPARE" => other do
    skipping identifier
    if ← seesMark "(" then skipping (parenthesized (sepBy dataType))
    kw "AS"
    skipping g.statement
  | "LISTEN" => other (skipping identifier)
  | "UNLISTEN" => other do
    unless ← mark? "*" do
      match ← attempt identifier with
      | some _ => pure ()
      | none => expected "wildcard or identifier"
  | "NOTIFY" => other do
    skipping identifier
    if ← mark? "," then skipping literalString
  | "PRAGMA" => other do
    skipping objectName
    if ← mark? "(" then
      pragmaValue
      mark ")"
    else if ← mark? "=" then pragmaValue
  | "UNLOAD" => other do
    mark "("
    if ← seesAt 0 ["SELECT", "WITH"] then skipping g.query else skipping literalString
    mark ")"
    kw "TO"
    skipping identifier
  | "RENAME" => other do
    unless ← kw? "TABLE" do expected "KEYWORD `TABLE` after RENAME"
    skipping (sepBy do
      skipping objectName
      kw "TO"
      skipping objectName)
  | "LOAD" => other (skipping identifier)
  | "COMMENT" => other comment
  | "PRINT" => other (skipping g.expr)
  | "RETURN" => other (skipping (attempt g.expr))
  | "EXPORT" => other do
    kw "DATA"
    kw "OPTIONS"
    optionList g
    kw "AS"
    skipping g.query
  | "VACUUM" => other vacuum
  | _ => expectedAt "an SQL statement" l

end QueryGateway.Sql
