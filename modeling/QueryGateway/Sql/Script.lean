import QueryGateway.Sql.Command

/-!
# Scripts

A script is a list of statements with semicolons between them. The grammar is
tied here: at each level the readers of nested expressions, queries and
statements are those of the level below, and at the bottom nothing may nest.
-/

namespace QueryGateway.Sql

/-- A statement. -/
def statement (g : Grammar) : Parser Statement := do
  let start ← get
  let l ← next
  match l.map Lexeme.token with
  | some (.mark "(") =>
    set start
    return .query (← g.query)
  | some (.word w) =>
    if ["SELECT", "WITH", "VALUES", "FROM"].contains w.capitals then
      set start
      return .query (← g.query)
    else command g w.capitals l
  | _ => expectedAt "an SQL statement" l

/-- How deep expressions, queries and statements may nest in each other. -/
def nestingLimit : Nat := 50

/-- The grammar in which a given number of levels may nest. -/
def grammar : Nat → Grammar
  | 0 => .exhausted
  | n + 1 => ⟨expression (grammar n), query (grammar n), statement (grammar n)⟩

/-- Statements with semicolons between them, read so far in reverse, and whether
the reading ended. -/
structure Progress where
  read : List Statement
  ended : Bool

/-- One more statement. Behind a statement, a semicolon has to follow, or the
end; the word `END` also ends a script there. -/
def scriptStep (p : Progress) : Parser (Option Progress) := do
  if p.ended then return none
  let separated ← iterate (fun _ : Bool => do
    if ← mark? ";" then return some true
    return none) p.read.isEmpty
  match ← peek with
  | none => return none
  | some l =>
    if !separated then
      if l.isKeyword "END" then return some ⟨p.read, true⟩
      expected "end of statement"
    let s ← (grammar nestingLimit).statement
    return some ⟨s :: p.read, false⟩

/-- The statements of a script. -/
def script : Parser (List Statement) := do
  return (← iterate scriptStep ⟨[], false⟩).read.reverse

/-- The statements a text holds. -/
def parseScript (text : String) : Except ParseError (List Statement) :=
  match lexemes text with
  | .error e => .error (.lexical e)
  | .ok ls => (script.run ⟨ls, false⟩).map Prod.fst

end QueryGateway.Sql
