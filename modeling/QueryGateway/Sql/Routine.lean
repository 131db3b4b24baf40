import QueryGateway.Sql.Define

/-!
# Routines

Functions, procedures and triggers, and the blocks of statements that they and
the commands of a script hold.
-/

namespace QueryGateway.Sql

/-! ## Blocks -/

/-- Statements with semicolons behind them, up to one of some keywords. -/
def statementList (g : Grammar) (terminal : List String) : Parser Unit := do
  skipping (many do
    match ← peek with
    | none => return none
    | some l =>
      if l.isOneOf terminal then return none
      skipping g.statement
      mark ";"
      return some ())

/-- The statements of a block, between `BEGIN` and `END` or not. -/
def blockStatements (g : Grammar) (terminal : List String) : Parser Unit := do
  if ← kw? "BEGIN" then
    statementList g terminal
    kw "END"
  else statementList g terminal

/-! ## Functions and procedures -/

/-- An argument of a function: a mode, a name, a type and a default. Of two types
the first is the name. -/
def functionArgument (g : Grammar) : Parser Unit := do
  skipOneOf ["IN", "OUT", "INOUT"]
  skipping dataType
  unless ← sees "DEFAULT" do skipping (attempt dataType)
  if ← kw? "DEFAULT" <||> mark? "=" then skipping g.expr

/-- The arguments of a function in parentheses. -/
def functionArguments (g : Grammar) : Parser Unit := do
  mark "("
  unless ← seesMark ")" do skipping (sepBy (functionArgument g))
  mark ")"

/-- A function by its name and perhaps its arguments. -/
def functionSignature (g : Grammar) : Parser Unit := do
  skipping objectName
  if ← seesMark "(" then functionArguments g

/-- The text of a function: a literal, perhaps between dollars. -/
def functionText : Parser Unit := do
  match (← peek).map Lexeme.token with
  | some (.dollar ..) => skipping next
  | _ => skipping literalString

/-- One of the things that may be said of a function. Of each subject only one thing
may be said; the title is how a fault names what was said too much. -/
structure FunctionTrait where
  subject : String
  title : String
  keywords : List String
  reader : Parser Unit

/-- All that may be said of a function behind its arguments and its result. -/
def functionTraits (g : Grammar) : List FunctionTrait :=
  let volatility := "IMMUTABLE | STABLE | VOLATILE"
  let nulls := "CALLED ON NULL INPUT | RETURNS NULL ON NULL INPUT | STRICT"
  [⟨"body", "AS", ["AS"], functionText⟩,
   ⟨"language", "LANGUAGE", ["LANGUAGE"], skipping identifier⟩,
   ⟨"volatility", volatility, ["IMMUTABLE"], pure ()⟩,
   ⟨"volatility", volatility, ["STABLE"], pure ()⟩,
   ⟨"volatility", volatility, ["VOLATILE"], pure ()⟩,
   ⟨"nulls", nulls, ["CALLED", "ON", "NULL", "INPUT"], pure ()⟩,
   ⟨"nulls", nulls, ["RETURNS", "NULL", "ON", "NULL", "INPUT"], pure ()⟩,
   ⟨"nulls", nulls, ["STRICT"], pure ()⟩,
   ⟨"parallel", "PARALLEL \x7b UNSAFE | RESTRICTED | SAFE \x7d", ["PARALLEL"], do
      if (← oneOf? ["UNSAFE", "RESTRICTED", "SAFE"]).isNone then
        expected "one of UNSAFE | RESTRICTED | SAFE"⟩,
   ⟨"body", "RETURN", ["RETURN"], skipping g.expr⟩]

/-- The next thing said of a function, given the subjects of what is said already. -/
def functionTrait (said : List String) : List FunctionTrait → Parser (Option (List String))
  | [] => return none
  | t :: rest => do
    if ← kws? t.keywords then
      if said.contains t.subject then throw (.stated (t.title ++ " specified more than once"))
      t.reader
      return some (t.subject :: said)
    functionTrait said rest

/-- `CREATE FUNCTION` behind its keyword. -/
def createFunction (g : Grammar) : Parser Operation := do
  skipping objectName
  functionArguments g
  if ← kw? "RETURNS" then skipping dataType
  skipping (iterate (fun said => functionTrait said (functionTraits g)) [])
  return .other

/-- A parameter of a procedure: a mode, a name, a type and a default. -/
def procedureParameter (g : Grammar) : Parser Unit := do
  skipOneOf ["IN", "OUT", "INOUT"]
  skipping identifier
  skipping dataType
  if ← mark? "=" then skipping g.expr

/-- The parameters of a procedure in parentheses, or nothing. -/
def procedureParameters (g : Grammar) : Parser Unit := do
  if ← mark? "(" then
    unless ← mark? ")" do
      skipping (iterate (fun finished : Bool => do
        if finished then return none
        match (← peek).map Lexeme.token with
        | some (.word _) => procedureParameter g
        | _ => pure ()
        let comma ← mark? ","
        if ← mark? ")" then return some true
        unless comma do expected "',' or ')' after parameter definition"
        return some false) false)

/-- `CREATE PROCEDURE` behind its keyword. -/
def createProcedure (g : Grammar) : Parser Operation := do
  skipping objectName
  procedureParameters g
  if ← kw? "LANGUAGE" then skipping identifier
  kw "AS"
  blockStatements g ["END"]
  return .other

/-! ## Triggers -/

/-- When a trigger acts, relative to the event. -/
def triggerPeriod : Parser Unit := do
  if (← oneOf ["FOR", "BEFORE", "AFTER", "INSTEAD"]) == "INSTEAD" then kw "OF"

/-- The event a trigger waits for. -/
def triggerEvent : Parser Unit := do
  if (← oneOf ["INSERT", "UPDATE", "DELETE", "TRUNCATE"]) == "UPDATE" then
    if ← kw? "OF" then skipping (sepBy identifier)

/-- A name for the rows before or after the event, or nothing. -/
def triggerReference : Parser (Option Unit) := do
  if (← oneOf? ["OLD", "NEW"]).isNone then return none
  unless ← kw? "TABLE" do return none
  skip ["AS"]
  return some (← skipping objectName)

/-- `CREATE TRIGGER` behind its keyword. -/
def createTrigger (g : Grammar) : Parser Operation := do
  skipping objectName
  skipping (attempt triggerPeriod)
  skipping (sepByN (kw? "OR") triggerEvent (← get).rest.length)
  kw "ON"
  skipping objectName
  if ← kw? "FROM" then skipping (attempt objectName)
  constraintTiming
  if ← kw? "REFERENCING" then skipping (many triggerReference)
  if ← kw? "FOR" then
    skip ["EACH"]
    skipping (oneOf ["ROW", "STATEMENT"])
  skipClause g "WHEN"
  if ← kw? "EXECUTE" then
    skipping (oneOf ["FUNCTION", "PROCEDURE"])
    functionSignature g
  else blockStatements g ["END"]
  return .other

end QueryGateway.Sql
