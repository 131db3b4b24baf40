import QueryGateway.Sql.Routine

/-!
# Other objects

What `CREATE` makes besides tables, views, indexes and routines: types, domains,
roles, policies, sequences, operators and servers. The readers find out where the
statement ends and what is wrong with it.
-/

namespace QueryGateway.Sql

/-! ## Types and domains -/

/-- An attribute of a composite type. -/
def typeAttribute : Parser Unit := do
  skipping identifier
  skipping dataType
  if ← kw? "COLLATE" then skipping objectName

/-- A part of the definition of a type, with its value or without. -/
def typeOption (g : Grammar) : Parser Unit := do
  skipping identifier
  if ← mark? "=" then skipping g.expr

/-- `CREATE TYPE` behind its keyword. -/
def createType (g : Grammar) : Parser Operation := do
  skipping objectName
  if ← kw? "AS" then
    if ← kw? "ENUM" then skipping (parenthesized (sepBy0 identifier ")"))
    else if ← kw? "RANGE" then skipping (parenthesized (sepBy0 (typeOption g) ")"))
    else if ← seesMark "(" then skipping (parenthesized (sepBy0 typeAttribute ")"))
    else expected "ENUM, RANGE, or '(' after AS"
  else if ← seesMark "(" then skipping (parenthesized (sepBy (typeOption g)))
  return .other

/-- `CREATE DOMAIN` behind its keyword. -/
def createDomain (g : Grammar) : Parser Operation := do
  skipping objectName
  kw "AS"
  skipping dataType
  if ← kw? "COLLATE" then skipping identifier
  skipClause g "DEFAULT"
  skipping (many (tableConstraint g))
  return .other

/-! ## Roles and policies -/

/-- The options of a role that are a keyword and its opposite. -/
def roleFlags : List String :=
  ["SUPERUSER", "NOSUPERUSER", "CREATEDB", "NOCREATEDB", "CREATEROLE", "NOCREATEROLE", "INHERIT",
   "NOINHERIT", "LOGIN", "NOLOGIN", "REPLICATION", "NOREPLICATION", "BYPASSRLS", "NOBYPASSRLS"]

/-- A password, which may be null. -/
def rolePassword : Parser Unit := do
  unless ← kw? "NULL" do skipping value

/-- An option of a new role, or nothing. -/
def roleOption : Parser (Option Unit) := do
  match ← oneOf? (roleFlags ++ ["PASSWORD", "CONNECTION", "VALID", "IN", "ROLE", "USER", "ADMIN"]) with
  | some "PASSWORD" => return some (← rolePassword)
  | some "CONNECTION" =>
    kw "LIMIT"
    return some (← skipping numberValue)
  | some "VALID" =>
    kw "UNTIL"
    return some (← skipping value)
  | some "IN" =>
    unless ← kw? "ROLE" <||> kw? "GROUP" do expected "ROLE or GROUP after IN"
    return some (← skipping (sepBy identifier))
  | some k =>
    if roleFlags.contains k then return some ()
    return some (← skipping (sepBy identifier))
  | none => return none

/-- `CREATE ROLE` behind its keyword. -/
def createRole : Parser Operation := do
  skipping unlessExists
  skipping (sepBy objectName)
  skip ["WITH"]
  skipping (many roleOption)
  return .other

/-- The value of an option of a user: one value, or several in parentheses. -/
def userOptionValue : Parser Unit := do
  let l ← next
  match l.map Lexeme.token with
  | some (.literal .plain _) => pure ()
  | some (.word _) => pure ()
  | some (.number ..) => pure ()
  | some (.mark "(") =>
    skipping (sepBy value)
    mark ")"
  | _ => expected "expected option value"

/-- An option of a user, or nothing where `WITH`, `TAG` or the end follows. -/
def userOption : Parser (Option Unit) := do
  match ← peek with
  | none => return none
  | some l =>
    if l.isOneOf ["WITH", "TAG"] then return none
    let _ ← next
    match l.token with
    | .mark "," => return some ()
    | .word _ =>
      mark "="
      return some (← userOptionValue)
    | .mark ")" => expected " another option or EOF"
    | _ => expected "another option, EOF, Comma or ')'"

/-- `CREATE USER` behind its keyword. -/
def createUser : Parser Operation := do
  skipping unlessExists
  skipping identifier
  skipping (many userOption)
  skip ["WITH"]
  if ← kw? "TAG" then
    skipping (parenthesized (many do
      if ← seesMark ")" then return none
      userOption))
  return .other

/-- Those a policy is for and its conditions. -/
def policyClauses (g : Grammar) : Parser Unit := do
  if ← kw? "TO" then skipping (sepBy identifier)
  if ← kw? "USING" then skipping (parenthesized g.expr)
  if ← kws? ["WITH", "CHECK"] then skipping (parenthesized g.expr)

/-- `CREATE POLICY` behind its keyword. -/
def createPolicy (g : Grammar) : Parser Operation := do
  skipping identifier
  kw "ON"
  skipping objectName
  if ← kw? "AS" then skipping (oneOf ["PERMISSIVE", "RESTRICTIVE"])
  if ← kw? "FOR" then skipping (oneOf ["ALL", "SELECT", "INSERT", "UPDATE", "DELETE"])
  policyClauses g
  return .other

/-! ## Operators -/

/-- The name of an operator: any tokens with periods between them. -/
def operatorName : Parser Unit := do
  skipping (sepByN (mark? ".") next ((← get).rest.length + 1))

/-- An operator of the same family that another option names. -/
def relatedOperator : Parser Unit := do
  mark "="
  if ← kw? "OPERATOR" then
    mark "("
    operatorName
    mark ")"
  else operatorName

/-- An option of a new operator. -/
def operatorOption : Parser String := do
  let k ← oneOf ["FUNCTION", "PROCEDURE", "LEFTARG", "RIGHTARG", "COMMUTATOR", "NEGATOR", "RESTRICT",
    "JOIN", "HASHES", "MERGES"]
  if k == "HASHES" || k == "MERGES" then pure ()
  else if k == "COMMUTATOR" || k == "NEGATOR" then relatedOperator
  else
    mark "="
    if k == "LEFTARG" || k == "RIGHTARG" then skipping dataType else skipping objectName
  return k

/-- Types of operands in parentheses. -/
def operandTypes : Parser Unit := do
  skipping (parenthesized (sepBy dataType))

/-- A member of an operator class. -/
def operatorClassMember (g : Grammar) : Parser Unit := do
  match ← oneOf? ["OPERATOR", "FUNCTION", "STORAGE"] with
  | some "OPERATOR" =>
    skipping literalUint
    operatorName
    if ← seesMark "(" then operandTypes
    if ← kw? "FOR" then
      if ← kw? "SEARCH" then pure ()
      else
        kws ["ORDER", "BY"]
        skipping objectName
  | some "FUNCTION" =>
    skipping literalUint
    if ← seesMark "(" then operandTypes
    skipping objectName
    if ← seesMark "(" then functionArguments g
  | some _ => skipping dataType
  | none => expected "OPERATOR, FUNCTION, or STORAGE after AS"

/-- `CREATE OPERATOR`, or a family or class of them, behind its keyword. -/
def createOperator (g : Grammar) : Parser Operation := do
  if ← kw? "FAMILY" then
    skipping objectName
    kw "USING"
    skipping identifier
  else if ← kw? "CLASS" then
    skipping objectName
    skip ["DEFAULT"]
    kws ["FOR", "TYPE"]
    skipping dataType
    kw "USING"
    skipping identifier
    if ← kw? "FAMILY" then skipping objectName
    kw "AS"
    skipping (sepBy (operatorClassMember g))
  else
    operatorName
    let options ← parenthesized (sepBy operatorOption)
    unless options.any fun k => k == "FUNCTION" || k == "PROCEDURE" do
      throw (.stated "CREATE OPERATOR requires FUNCTION parameter")
  return .other

/-! ## Schemas, databases, sequences, extensions and servers -/

/-- `CREATE SCHEMA` behind its keyword. -/
def createSchema (g : Grammar) : Parser Operation := do
  skipping unlessExists
  unless ← sees "AUTHORIZATION" do skipping objectName
  if ← kw? "AUTHORIZATION" then skipping identifier
  if ← kws? ["DEFAULT", "COLLATE"] then skipping g.expr
  optionsBehind g "WITH"
  optionsBehind g "OPTIONS"
  if ← kw? "CLONE" then skipping objectName
  return .other

/-- `CREATE DATABASE` behind its keyword. -/
def createDatabase : Parser Operation := do
  skipping unlessExists
  skipping objectName
  skipping (many do
    if (← oneOf? ["LOCATION", "MANAGEDLOCATION"]).isSome then return some (← skipping literalString)
    return none)
  if ← kw? "CLONE" then skipping objectName
  return .other

/-- `CREATE SEQUENCE` behind its keyword. -/
def createSequence : Parser Operation := do
  skipping unlessExists
  skipping objectName
  if ← kw? "AS" then skipping dataType
  sequenceOptions
  if ← kws? ["OWNED", "BY"] then skipping objectName
  return .other

/-- `CREATE EXTENSION` behind its keyword. -/
def createExtension : Parser Operation := do
  skipping unlessExists
  skipping identifier
  if ← kw? "WITH" then
    if ← kw? "SCHEMA" then skipping identifier
    if ← kw? "VERSION" then skipping identifier
    skip ["CASCADE"]
  return .other

/-- `CREATE CONNECTOR` behind its keyword. -/
def createConnector (g : Grammar) : Parser Operation := do
  skipping unlessExists
  skipping identifier
  if ← kw? "TYPE" then skipping literalString
  if ← kw? "URL" then skipping literalString
  if ← kw? "COMMENT" then skipping literalString
  if ← kws? ["WITH", "DCPROPERTIES"] then optionList g
  return .other

/-- `CREATE SERVER` behind its keyword. -/
def createServer : Parser Operation := do
  skipping unlessExists
  skipping objectName
  if ← kw? "TYPE" then skipping identifier
  if ← kw? "VERSION" then skipping identifier
  kws ["FOREIGN", "DATA", "WRAPPER"]
  skipping objectName
  if ← kw? "OPTIONS" then
    skipping (parenthesized (sepBy do
      skipping identifier
      skipping identifier))
  return .other

/-- `CREATE SECRET` behind its keyword. -/
def createSecret : Parser Operation := do
  skipping unlessExists
  unless ← seesMark "(" do
    skip ["IN"]
    skipping (attempt identifier)
    if ← kw? "IN" then skipping (attempt identifier)
  mark "("
  kw "TYPE"
  skipping identifier
  if ← mark? "," then
    skipping (sepBy do
      skipping identifier
      skipping identifier)
  mark ")"
  return .other

/-! ## Create -/

/-- What `CREATE` starts that `OR REPLACE` does not go with. -/
def createPlain (g : Grammar) : Parser Operation := do
  if ← kw? "EXTENSION" then createExtension
  else if ← kw? "INDEX" then createIndex g
  else if ← kws? ["UNIQUE", "INDEX"] then createIndex g
  else if ← kw? "VIRTUAL" then createVirtualTable
  else if ← kw? "SCHEMA" then createSchema g
  else if ← kw? "DATABASE" then createDatabase
  else if ← kw? "ROLE" then createRole
  else if ← kw? "SEQUENCE" then createSequence
  else if ← kw? "TYPE" then createType g
  else if ← kw? "PROCEDURE" then createProcedure g
  else if ← kw? "CONNECTOR" then createConnector g
  else if ← kw? "OPERATOR" then createOperator g
  else if ← kw? "SERVER" then createServer
  else expected "an object type after CREATE"

/-- `CREATE` behind its keyword. -/
def create (g : Grammar) : Parser Operation := do
  let replaces ← kws? ["OR", "REPLACE"]
  skip ["OR", "ALTER"]
  skip ["LOCAL"]
  skip ["GLOBAL"]
  skip ["TRANSIENT"]
  skipOneOf ["TEMP", "TEMPORARY"]
  if ← kw? "TABLE" then createTable g
  else if (← seesAt 0 ["MATERIALIZED", "VIEW"]) || ((← sees "SECURE") && (← seesAt 1 ["MATERIALIZED", "VIEW"]))
    then createView g
  else if ← kw? "POLICY" then createPolicy g
  else if ← kw? "EXTERNAL" then createExternalTable g
  else if ← kw? "FUNCTION" then createFunction g
  else if ← kw? "DOMAIN" then createDomain g
  else if ← kw? "TRIGGER" then createTrigger g
  else if ← kws? ["CONSTRAINT", "TRIGGER"] then createTrigger g
  else if ← sees "MACRO" then expected "an object type after CREATE"
  else if ← kw? "SECRET" then createSecret
  else if ← kw? "USER" then createUser
  else if replaces then
    expected "[EXTERNAL] TABLE or [MATERIALIZED] VIEW or FUNCTION after CREATE OR REPLACE"
  else createPlain g

end QueryGateway.Sql
