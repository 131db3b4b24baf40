import QueryGateway.Sql.Lexer
import QueryGateway.Sql.Tree

/-!
# Parsers

A parser takes the tokens that are left and returns what it read together with
what is left then, or an error. The loops of the grammar are made from three
functions here, `iterate`, `sepBy` and `optionally`; they run on a counter that
starts at the number of tokens left, so every parser is total.

Nesting is what the grammar record bounds: it holds the readers of nested
expressions, queries and statements, each one level shallower than the reader
that uses them.
-/

namespace QueryGateway.Sql

/-! ## Errors -/

/-- A text that is no script. -/
inductive ParseError
  | lexical (e : LexError)
  /-- Something else was expected than the token found, which has no place if it
  is the end of the text. -/
  | expected (what found : String) (place : Option Place)
  | stated (message : String)
  /-- Nested too deeply. -/
  | tooDeep
  deriving DecidableEq, Repr

namespace ParseError

/-- The message of an error. -/
def message : ParseError → String
  | lexical e => "sql parser error: " ++ e.message ++ e.place.text
  | expected what found place =>
    "sql parser error: Expected: " ++ what ++ ", found: " ++ found
      ++ (match place with | some p => p.text | none => "")
  | stated message => "sql parser error: " ++ message
  | tooDeep => "sql parser error: recursion limit exceeded"

end ParseError

/-! ## The parser -/

/-- What a parser works on: the tokens left, and whether they belong to the
definition of a column, where `COLLATE` and `NOT NULL` are no operators. -/
structure Input where
  rest : List Lexeme
  inColumn : Bool

/-- A reader of tokens. -/
abbrev Parser (α : Type) := StateT Input (Except ParseError) α

/-- The token `n` places ahead. -/
def peekAt (n : Nat) : Parser (Option Lexeme) := do
  return (← get).rest[n]?

/-- The next token, which stays. -/
def peek : Parser (Option Lexeme) := do
  return (← get).rest.head?

/-- Takes the next token. -/
def next : Parser (Option Lexeme) := do
  let s ← get
  set { s with rest := s.rest.tail }
  return s.rest.head?

/-- Fails because a token is not what was expected. -/
def expectedAt {α : Type} (what : String) : Option Lexeme → Parser α
  | some l => throw (.expected what l.token.text (some l.place))
  | none => throw (.expected what "EOF" none)

/-- Fails because the next token is not what was expected. -/
def expected {α : Type} (what : String) : Parser α := do
  expectedAt what (← peek)

/-- How a message points at a token; the end of the text has no place. -/
def placeText : Option Lexeme → String
  | some l => l.place.text
  | none => ""

/-- Fails with a message that points at a token. -/
def failAt {α : Type} (message : String) (l : Option Lexeme) : Parser α :=
  throw (.stated (message ++ placeText l))

/-! ## Marks and keywords -/

/-- A lexeme is the given mark. -/
def Lexeme.isMark (spelling : String) (l : Lexeme) : Bool :=
  match l.token with
  | .mark s => s == spelling
  | _ => false

/-- A lexeme is the given keyword. -/
def Lexeme.isKeyword (keyword : String) (l : Lexeme) : Bool :=
  match l.token with
  | .word w => w.capitals == keyword
  | _ => false

/-- A lexeme is one of the given keywords. -/
def Lexeme.isOneOf (keywords : List String) (l : Lexeme) : Bool :=
  match l.token with
  | .word w => !w.quoted && keywords.contains w.capitals
  | _ => false

/-- The token `n` places ahead is the given mark. -/
def seesMarkAt (n : Nat) (spelling : String) : Parser Bool := do
  return (← peekAt n).any (·.isMark spelling)

/-- The next token is the given mark. -/
def seesMark (spelling : String) : Parser Bool := seesMarkAt 0 spelling

/-- The token `n` places ahead is one of the given keywords. -/
def seesAt (n : Nat) (keywords : List String) : Parser Bool := do
  return (← peekAt n).any (·.isOneOf keywords)

/-- The next token is the given keyword. -/
def sees (keyword : String) : Parser Bool := do
  return (← peek).any (·.isKeyword keyword)

/-- Takes the next token if it is the given mark. -/
def mark? (spelling : String) : Parser Bool := do
  if ← seesMark spelling then
    let _ ← next
    return true
  return false

/-- Takes the given mark. -/
def mark (spelling : String) : Parser Unit := do
  unless ← mark? spelling do expected spelling

/-- Takes the next token if it is the given keyword. -/
def kw? (keyword : String) : Parser Bool := do
  if ← sees keyword then
    let _ ← next
    return true
  return false

/-- Takes the given keyword. -/
def kw (keyword : String) : Parser Unit := do
  unless ← kw? keyword do expected keyword

/-- Whether lexemes start with the given keywords. -/
def startsWithKeywords : List String → List Lexeme → Bool
  | [], _ => true
  | _ :: _, [] => false
  | k :: ks, l :: ls => l.isKeyword k && startsWithKeywords ks ls

/-- Takes the given keywords if all of them are next. -/
def kws? (keywords : List String) : Parser Bool := do
  let s ← get
  if startsWithKeywords keywords s.rest then
    set { s with rest := s.rest.drop keywords.length }
    return true
  return false

/-- Takes the given keywords. -/
def kws : List String → Parser Unit
  | [] => pure ()
  | k :: ks => do
    kw k
    kws ks

/-- Takes the next token if it is one of the given keywords. -/
def oneOf? (keywords : List String) : Parser (Option String) := do
  match ← peek with
  | some ⟨.word w, _, _⟩ =>
    if !w.quoted && keywords.contains w.capitals then
      let _ ← next
      return some w.capitals
    return none
  | _ => return none

/-- Takes one of the given keywords. -/
def oneOf (keywords : List String) : Parser String := do
  match ← oneOf? keywords with
  | some k => return k
  | none => expected ("one of " ++ Text.join " or " keywords)

/-! ## Alternatives -/

/-- What the parser reads, or nothing if it fails. Only nesting too deeply is
not taken for an absence. -/
def attempt {α : Type} (p : Parser α) : Parser (Option α) := fun s =>
  match p s with
  | .ok (a, t) => .ok (some a, t)
  | .error .tooDeep => .error .tooDeep
  | .error _ => .ok (none, s)

/-- What the parser reads, or the error it fails with; then no token is taken. -/
def outcome {α : Type} (p : Parser α) : Parser (Except ParseError α) := fun s =>
  match p s with
  | .ok (a, t) => .ok (.ok a, t)
  | .error e => .ok (.error e, s)

/-- What the parser reads behind a keyword, if the keyword is there. -/
def optionally {α : Type} (keyword : String) (p : Parser α) : Parser (Option α) := do
  if ← kw? keyword then return some (← p)
  return none

/-- Runs a parser inside or outside the definition of a column. -/
def withColumn {α : Type} (inColumn : Bool) (p : Parser α) : Parser α := fun s =>
  match p { s with inColumn := inColumn } with
  | .ok (a, t) => .ok (a, { t with inColumn := s.inColumn })
  | .error e => .error e

/-- Whether the tokens belong to the definition of a column. -/
def inColumn : Parser Bool := do
  return (← get).inColumn

/-! ## Loops -/

/-- At most `n` rounds of a step, until it returns nothing. -/
def iterateN {α : Type} (step : α → Parser (Option α)) : Nat → α → Parser α
  | 0, a => pure a
  | n + 1, a => do
    match ← step a with
    | some b => iterateN step n b
    | none => pure a

/-- Rounds of a step until it returns nothing. Every round takes a token, so
there are no more rounds than tokens. -/
def iterate {α : Type} (step : α → Parser (Option α)) (a : α) : Parser α := do
  iterateN step ((← get).rest.length + 1) a

/-- At most `n + 1` items with a separator between them. -/
def sepByN {α : Type} (separator : Parser Bool) (item : Parser α) : Nat → Parser (List α)
  | 0 => do return [← item]
  | n + 1 => do
    let a ← item
    if ← separator then return a :: (← sepByN separator item n)
    return [a]

/-- Items with commas between them, at least one. -/
def sepBy {α : Type} (item : Parser α) : Parser (List α) := do
  sepByN (mark? ",") item (← get).rest.length

/-- Items with commas between them, possibly none if the closing mark is next. -/
def sepBy0 {α : Type} (item : Parser α) (closing : String) : Parser (List α) := do
  if ← seesMark closing then return []
  sepBy item

/-- Items one behind the other, until there is none. -/
def many {α : Type} (item : Parser (Option α)) : Parser (List α) := do
  let found ← iterate (fun acc : List α => do return (← item).map (· :: acc)) []
  return found.reverse

/-- What the parser reads between parentheses. -/
def parenthesized {α : Type} (p : Parser α) : Parser α := do
  mark "("
  let a ← p
  mark ")"
  return a

/-! ## Nesting -/

/-- What an expression is, as far as the grammar asks. -/
inductive Shape
  | name (w : Word)
  /-- Several names with periods between them. -/
  | path
  /-- `*`, or names and `.*`. -/
  | wildcard
  | subquery
  | other
  deriving DecidableEq, Repr

/-- One name or several. -/
def Shape.isNames : Shape → Bool
  | name _ => true
  | path => true
  | _ => false

/-- An expression as it is read. -/
structure Operand where
  phrase : Phrase
  shape : Shape

/-- An expression of no particular shape. -/
def Operand.plain (p : Phrase) : Operand := ⟨p, .other⟩

/-- What the gateway tells apart about a statement that is no query. -/
inductive Operation
  | select
  | insert
  | update
  | delete
  | ddl
  | other
  deriving DecidableEq, Repr

/-- A statement: a query, or something else of which only the kind is kept. -/
inductive Statement
  | query (q : Query)
  | command (op : Operation)
  /-- An explanation of another statement or of a table. -/
  | explanation

/-- The kind of a statement. -/
def Statement.operation : Statement → Operation
  | query _ => .select
  | command op => op
  | explanation => .other

/-- The readers of what nests. -/
structure Grammar where
  /-- An expression whose operators all bind tighter than a precedence. -/
  subexpr : Nat → Parser Operand
  query : Parser Query
  statement : Parser Statement

/-- The grammar that allows no nesting. -/
def Grammar.exhausted : Grammar :=
  ⟨fun _ => throw .tooDeep, throw .tooDeep, throw .tooDeep⟩

/-- An expression. -/
def Grammar.expr (g : Grammar) : Parser Operand := g.subexpr 0

/-- The text of an expression. -/
def Grammar.phrase (g : Grammar) : Parser Phrase := do
  return (← g.expr).phrase

end QueryGateway.Sql
