import QueryGateway.Sql.Call

/-!
# Expressions

Expressions by precedence climbing. `prefixed` reads what can start an
expression, `accesses` the fields and subscripts behind it, and `expression`
then takes operators as long as they bind tighter than asked.

The readers take a grammar for what is nested one level deeper. An interval may
start with another prefix without counting as a level; `prefixed` runs on a
counter for that.
-/

namespace QueryGateway.Sql

/-! ## Precedence -/

/-- How tight the operators bind. -/
def periodPrec : Nat := 200
/-- `::` -/
def castPrec : Nat := 140
/-- `[` -/
def bracketPrec : Nat := 130
/-- `COLLATE` -/
def collatePrec : Nat := 120
/-- `AT TIME ZONE` -/
def zonePrec : Nat := 110
/-- `^` -/
def powerPrec : Nat := 100
/-- `*`, `/` and `%` -/
def productPrec : Nat := 90
/-- `+` and `-` -/
def sumPrec : Nat := 80
/-- `XOR` -/
def xorPrec : Nat := 75
/-- Any operator without a place of its own. -/
def otherPrec : Nat := 70
/-- `BETWEEN`, `IN` and `LIKE` -/
def betweenPrec : Nat := 60
/-- Comparisons -/
def comparePrec : Nat := 50
/-- `IS` -/
def isPrec : Nat := 40
/-- `NOT` in front -/
def notPrec : Nat := 30
/-- `AND` -/
def andPrec : Nat := 20
/-- `OR` -/
def orPrec : Nat := 10

/-- How tight a mark binds as an operator; zero if it is none. -/
def markPrecedence (spelling : String) : Nat :=
  match spelling with
  | "." => periodPrec
  | "::" => castPrec
  | "[" => bracketPrec
  | "^" => powerPrec
  | "*" => productPrec
  | "/" => productPrec
  | "%" => productPrec
  | "+" => sumPrec
  | "-" => sumPrec
  | s =>
    if ["=", "<", ">", "<=", ">=", "<>", "==", ":=", "<=>", "~", "~*", "!~", "!~*", "~~", "~~*",
        "!~~", "!~~*"].contains s then comparePrec
    else if ["->", "->>", "#>", "#>>", "@>", "<@", "#-", "@?", "@@", "?", "?&", "?|", "!", "&&",
        "^@", "||", "#", "<<", ">>", "&", "|", "?-", "##", "&<", "&>", "?-|", "&<|", "|&>", "<->",
        "<^", ">^", "?#", "?||", "~=", "@", "<<|", "|>>"].contains s then otherPrec
    else 0

/-- How tight an operator behind `NOT` binds. -/
def negatedPrecedence (l : Option Lexeme) (inColumn : Bool) : Nat :=
  match l.map Lexeme.token with
  | some (.word w) =>
    if ["IN", "BETWEEN", "LIKE", "ILIKE", "RLIKE", "REGEXP", "MATCH", "SIMILAR", "MEMBER"].contains
        w.capitals then betweenPrec
    else if w.capitals == "NULL" && !inColumn then isPrec
    else 0
  | _ => 0

/-- How tight the next token binds as an operator; zero if it is none. -/
def nextPrecedence : Parser Nat := do
  match (← peek).map Lexeme.token with
  | some (.mark s) => return markPrecedence s
  | some (.custom _) => return otherPrec
  | some (.word w) =>
    match w.capitals with
    | "OR" => return orPrec
    | "AND" => return andPrec
    | "XOR" => return xorPrec
    | "AT" =>
      return if (← seesAt 1 ["TIME"]) && (← seesAt 2 ["ZONE"]) then zonePrec else 0
    | "NOT" => return negatedPrecedence (← peekAt 1) (← inColumn)
    | "COLLATE" => return if ← inColumn then 0 else collatePrec
    | "NOTNULL" => return isPrec
    | "IS" => return isPrec
    | "DIV" => return productPrec
    | k =>
      return if ["IN", "BETWEEN", "OVERLAPS", "LIKE", "ILIKE", "RLIKE", "REGEXP", "MATCH", "SIMILAR",
        "MEMBER", "OPERATOR"].contains k then betweenPrec else 0
  | _ => return 0

/-! ## Forms that start with a keyword -/

/-- `CASE` behind its keyword. -/
def caseForm (g : Grammar) : Parser Phrase := do
  let subject ← if ← kw? "WHEN" then pure Phrase.empty
    else do
      let e ← g.phrase
      kw "WHEN"
      pure (.word " " ++ e)
  let branches ← sepByN (kw? "WHEN") (do
    let condition ← g.phrase
    kw "THEN"
    let result ← g.phrase
    return Phrase.word " WHEN " ++ (condition ++ (.word " THEN " ++ result)))
    (← get).rest.length
  let otherwise ← optionally "ELSE" g.phrase
  kw "END"
  return .word "CASE" ++ (subject ++ (.sepBy "" branches ++ (.opt " ELSE " otherwise ++ .word " END")))

/-- `CONVERT` behind its keyword. -/
def convertForm (g : Grammar) : Parser Phrase := do
  mark "("
  let e ← g.phrase
  if ← kw? "USING" then
    let charset ← objectName
    mark ")"
    return .word "CONVERT(" ++ (e ++ .word (" USING " ++ charset ++ ")"))
  mark ","
  let t ← dataType
  let charset ← if ← kws? ["CHARACTER", "SET"] then do pure (" CHARACTER SET " ++ (← objectName))
    else pure ""
  mark ")"
  return .word "CONVERT(" ++ (e ++ .word (", " ++ t.text ++ charset ++ ")"))

/-- `CAST` and its relatives behind their keyword. -/
def castForm (g : Grammar) (keyword : String) : Parser Phrase := do
  mark "("
  let e ← g.phrase
  kw "AS"
  let t ← dataType
  let format ← if ← kw? "FORMAT" then do
      let v ← value
      if ← kws? ["AT", "TIME", "ZONE"] then
        let zone ← value
        pure (.word " FORMAT " ++ (v ++ (.word " AT TIME ZONE " ++ zone)))
      else pure (.word " FORMAT " ++ v)
    else pure Phrase.empty
  mark ")"
  return .word (keyword ++ "(") ++ (e ++ (.word (" AS " ++ t.text) ++ (format ++ .word ")")))

/-- `EXISTS` behind its keyword. -/
def existsForm (g : Grammar) : Parser Phrase := do
  let q ← parenthesized g.query
  return .word "EXISTS (" ++ (.query q ++ .word ")")

/-- `EXTRACT` behind its keyword. -/
def extractForm (g : Grammar) : Parser Phrase := do
  mark "("
  let part ← datePart
  unless ← kw? "FROM" do throw (.stated "Expected 'FROM' or ','")
  let e ← g.phrase
  mark ")"
  return .word ("EXTRACT(" ++ part ++ " FROM ") ++ (e ++ .word ")")

/-- `CEIL` or `FLOOR` behind its keyword. -/
def roundForm (g : Grammar) (keyword : String) : Parser Phrase := do
  mark "("
  let e ← g.phrase
  let suffix ← if ← kw? "TO" then do pure (" TO " ++ (← datePart))
    else
      if ← mark? "," then
        let l ← peek
        let v ← value
        match l.map Lexeme.token with
        | some (.number ..) => pure (", " ++ v.render)
        | _ => throw (.stated "Scale field can only be of number type")
      else pure ""
  mark ")"
  return .word (keyword ++ "(") ++ (e ++ .word (suffix ++ ")"))

/-- `POSITION` behind its keyword, which is a plain call if no `IN` is there. -/
def positionForm (g : Grammar) (operand : Parser Operand) (function : String) : Parser Phrase := do
  let found ← attempt do
    mark "("
    let e ← g.subexpr betweenPrec
    kw "IN"
    let within ← g.phrase
    mark ")"
    return Phrase.word "POSITION(" ++ (e.phrase ++ (.word " IN " ++ (within ++ .word ")")))
  match found with
  | some p => return p
  | none => call g operand function

/-- `SUBSTRING` or `SUBSTR` behind its keyword. -/
def substringForm (g : Grammar) (keyword : String) : Parser Phrase := do
  mark "("
  let e ← g.phrase
  let comma ← mark? ","
  let start ← if comma then some <$> g.phrase else optionally "FROM" g.phrase
  let length ← if ← kw? "FOR" <||> mark? "," then some <$> g.phrase else pure none
  mark ")"
  return .word (keyword ++ "(")
    ++ (e ++ (.opt (if comma then ", " else " FROM ") start
      ++ (.opt (if comma then ", " else " FOR ") length ++ .word ")")))

/-- `OVERLAY` behind its keyword. -/
def overlayForm (g : Grammar) : Parser Phrase := do
  mark "("
  let e ← g.phrase
  kw "PLACING"
  let what ← g.phrase
  kw "FROM"
  let start ← g.phrase
  let length ← optionally "FOR" g.phrase
  mark ")"
  return .word "OVERLAY(" ++ (e ++ (.word " PLACING " ++ (what ++ (.word " FROM " ++ (start
    ++ (.opt " FOR " length ++ .word ")"))))))

/-- `TRIM` behind its keyword. The text to trim is examined before the
characters to trim off it. -/
def trimForm (g : Grammar) : Parser Phrase := do
  mark "("
  let side ← match ← oneOf? ["BOTH", "LEADING", "TRAILING"] with
    | some k => pure (k ++ " ")
    | none => pure ""
  let e ← g.phrase
  if ← kw? "FROM" then
    let subject ← g.phrase
    mark ")"
    return .word ("TRIM(" ++ side) ++ .swapped (e ++ .word " FROM ") (subject ++ .word ")")
  let _ ← mark? ","
  mark ")"
  return .word ("TRIM(" ++ side) ++ (e ++ .word ")")

/-- The elements of an array behind the opening bracket. -/
def arrayForm (g : Grammar) (keyword : String) : Parser Phrase := do
  let elements ← sepBy0 g.phrase "]"
  mark "]"
  return .word (keyword ++ "[") ++ (.commas elements ++ .word "]")

/-- `NOT` behind its keyword. -/
def notForm (g : Grammar) : Parser Phrase := do
  if ← kw? "EXISTS" then return .word "NOT " ++ (← existsForm g)
  let e ← g.subexpr notPrec
  return .word "NOT " ++ e.phrase

/-- The geometric types that can stand in front of a value. -/
def geometricTypes : List (String × String) :=
  [("CIRCLE", "circle"), ("BOX", "box"), ("PATH", "path"), ("LINE", "line"), ("LSEG", "lseg"),
   ("POINT", "point"), ("POLYGON", "polygon")]

/-- What a keyword starts, if it starts a form of its own. The keyword is
already taken. -/
def keywordForm (g : Grammar) (operand : Parser Operand) (w : Word) : Parser (Option Operand) := do
  let plain (p : Parser Phrase) : Parser (Option Operand) := do return some (.plain (← p))
  if w.quoted then return none
  match w.capitals with
  | "TRUE" => return some (.plain (.word "true"))
  | "FALSE" => return some (.plain (.word "false"))
  | "NULL" => return some (.plain .null)
  | "CASE" => plain (caseForm g)
  | "CONVERT" => plain (convertForm g)
  | "CAST" => plain (castForm g "CAST")
  | "TRY_CAST" => plain (castForm g "TRY_CAST")
  | "SAFE_CAST" => plain (castForm g "SAFE_CAST")
  | "EXISTS" => plain (existsForm g)
  | "EXTRACT" => plain (extractForm g)
  | "CEIL" => plain (roundForm g "CEIL")
  | "FLOOR" => plain (roundForm g "FLOOR")
  | "POSITION" =>
    if ← seesMark "(" then plain (positionForm g operand w.print) else return none
  | "SUBSTR" => plain (substringForm g "SUBSTR")
  | "SUBSTRING" => plain (substringForm g "SUBSTRING")
  | "OVERLAY" => plain (overlayForm g)
  | "TRIM" => plain (trimForm g)
  | "INTERVAL" => return some (← interval operand)
  | "NOT" => plain (notForm g)
  | "ARRAY" =>
    if ← mark? "[" then plain (arrayForm g "ARRAY")
    else if ← mark? "(" then
      let q ← g.query
      mark ")"
      return some (.plain (.word (w.print ++ "(") ++ (.query q ++ .word ")")))
    else return none
  | k =>
    if ["CURRENT_CATALOG", "CURRENT_USER", "SESSION_USER", "USER"].contains k then
      return some (.plain (.word w.print))
    else if ["CURRENT_TIMESTAMP", "CURRENT_TIME", "CURRENT_DATE", "LOCALTIME",
        "LOCALTIMESTAMP"].contains k then
      if ← mark? "(" then plain do return .word w.print ++ (← callArguments g)
      else return some (.plain (.word w.print))
    else match geometricTypes.lookup k with
      | some t => plain do return .word (t ++ " ") ++ (← value)
      | none => return none

/-- What a word starts that starts no form of its own: a call, a string with a
character set, or just a name. -/
def nameForm (g : Grammar) (operand : Parser Operand) (w : Word) : Parser Operand := do
  match (← peek).map Lexeme.token with
  | some (.mark "(") => return .plain (← call g operand w.print)
  | some (.literal kind s) =>
    if (kind == .plain || kind == .hex) && w.value.toList.head? == some '_' then
      let _ ← next
      return .plain (.word (w.print ++ " " ++ literalPrint kind s))
    return ⟨.word w.print, .name w⟩
  | _ => return ⟨.word w.print, .name w⟩

/-- A word at the start of an expression. If the form it starts does not read,
it is taken for a name, unless it can be none. -/
def wordForm (g : Grammar) (operand : Parser Operand) (w : Word) : Parser Operand := do
  match ← outcome (keywordForm g operand w) with
  | .ok (some e) => return e
  | .ok none => nameForm g operand w
  | .error e =>
    if !w.quoted && ["EXISTS", "STRUCT", "TRIM"].contains w.capitals then throw e
    match ← outcome (nameForm g operand w) with
    | .ok found => return found
    | .error _ => throw e

/-- A value behind the name of its type. -/
def typedValue (operand : Parser Operand) : Parser Operand := do
  let t ← dataType
  if t.isInterval then interval operand
  else if t.isCustom then throw (.stated "dummy")
  else return .plain (.word (t.text ++ " ") ++ (← value))

/-! ## Other forms -/

/-- The operators that stand in front of an expression: how tight their operand
binds, and their text. -/
def prefixOperators : List (String × Nat × String) :=
  [("-", productPrec, "-"), ("+", productPrec, "+"), ("!!", sumPrec, "!!"), ("|/", sumPrec, "|/"),
   ("||/", sumPrec, "||/"), ("@", sumPrec, "@"), ("~", sumPrec, "~"), ("#", sumPrec, "# "),
   ("@-@", sumPrec, "@-@ "), ("@@", sumPrec, "@@ "), ("?-", sumPrec, "?- "), ("?|", sumPrec, "?| ")]

/-- A parenthesis behind the opening one: a query, an expression, or several. -/
def parenForm (g : Grammar) : Parser Operand := do
  if ← seesAt 0 ["SELECT", "WITH"] then
    let q ← g.query
    mark ")"
    return ⟨.parens (.query q), .subquery⟩
  let items ← sepBy g.phrase
  mark ")"
  return .plain (.parens (.commas items))

/-- A form in braces behind the opening one: a call, a date, or a time. -/
def braceForm (g : Grammar) (operand : Parser Operand) (brace : Option Lexeme) : Parser Operand := do
  let function ← attempt do
    kw "FN"
    let function ← objectName
    call g operand function
  match function with
  | some p =>
    mark "\x7d"
    return .plain (.word "\x7bfn " ++ (p ++ .word "\x7d"))
  | none =>
    let time ← attempt do
      let l ← next
      let keyword := (l.map fun l => l.token.text).getD "EOF"
      if ["t", "d", "ts"].contains keyword then return (keyword, ← value)
      expectedAt "ODBC datetime keyword (t, d, or ts)" l
    match time with
    | some (keyword, v) =>
      mark "\x7d"
      return .plain (.word ("\x7b" ++ keyword ++ " ") ++ (v ++ .word "\x7d"))
    | none => expectedAt "an expression" brace

/-- What can start an expression. -/
def prefixed (g : Grammar) : Nat → Parser Operand
  | 0 => throw .tooDeep
  | n + 1 => do
    match ← attempt (typedValue (prefixed g n)) with
    | some e => return e
    | none =>
      let start ← get
      let l ← next
      match l.map Lexeme.token with
      | some (.word w) => wordForm g (prefixed g n) w
      | some (.mark "[") => return .plain (← arrayForm g "")
      | some (.mark "(") => parenForm g
      | some (.mark "\x7b") => braceForm g (prefixed g n) l
      | some (.mark s) =>
        match prefixOperators.lookup s with
        | some (prec, text) =>
          let e ← g.subexpr prec
          return .plain (.word text ++ e.phrase)
        | none =>
          if s == ":" then
            set start
            return .plain (← value)
          else expectedAt "an expression" l
      | some (.number ..) =>
        set start
        return .plain (← value)
      | some (.literal ..) =>
        set start
        return .plain (← value)
      | some (.dollar ..) =>
        set start
        return .plain (← value)
      | some (.placeholder _) =>
        set start
        return .plain (← value)
      | _ => expectedAt "an expression" l

/-- What can start an expression; a round of `prefixed` takes a token. -/
def operand (g : Grammar) : Parser Operand := do
  prefixed g ((← get).rest.length + 1)

/-! ## Fields and subscripts -/

/-- A subscript or a slice behind the opening bracket. -/
def subscript (g : Grammar) : Parser Phrase := do
  let close (p : Phrase) : Phrase := .word "[" ++ (p ++ .word "]")
  let lower ← if ← mark? ":" then pure none else some <$> g.phrase
  if ← mark? "]" then
    match lower with
    | some e => return close e
    | none => return close (.word ":")
  if lower.isSome then mark ":"
  let front := lower.getD .empty ++ .word ":"
  if ← mark? "]" then return close front
  let upper ← g.phrase
  if ← mark? "]" then return close (front ++ upper)
  mark ":"
  if ← mark? "]" then return close (front ++ upper)
  let stride ← g.phrase
  mark "]"
  return close (front ++ (upper ++ (.word ":" ++ stride)))

/-- How far a chain of fields and subscripts is read. -/
structure Chain where
  operand : Operand
  /-- The chain ends in `.*`. -/
  starred : Bool

/-- One more field or subscript. -/
def access (g : Grammar) (chain : Chain) : Parser (Option Chain) := do
  let e := chain.operand
  if chain.starred then return none
  else if ← mark? "." then
    match (← peek).map Lexeme.token with
    | some (.mark "*") =>
      let _ ← next
      return some ⟨⟨e.phrase ++ .word ".*", e.shape⟩, true⟩
    | some (.literal .plain s) =>
      let _ ← next
      let shape := if e.shape.isNames then Shape.path else .other
      return some ⟨⟨e.phrase ++ .word ("." ++ quoteText '\'' s), shape⟩, false⟩
    | _ =>
      let field ← g.subexpr periodPrec
      let shape := if e.shape.isNames && field.shape.isNames then Shape.path else .other
      return some ⟨⟨e.phrase ++ (.word "." ++ field.phrase), shape⟩, false⟩
  else if ← mark? "[" then
    return some ⟨.plain (e.phrase ++ (← subscript g)), false⟩
  else return none

/-- An expression with the fields and subscripts behind it. -/
def accesses (g : Grammar) (e : Operand) : Parser Operand := do
  let chain ← iterate (access g) ⟨e, false⟩
  if chain.starred then
    if chain.operand.shape.isNames then return ⟨chain.operand.phrase, .wildcard⟩
    else expected "an identifier or a '*' after '.'"
  return chain.operand

/-! ## Operators -/

/-- The operators that can stand in front of `ANY`, `SOME` and `ALL`. -/
def comparisons : List String :=
  ["=", ">", "<", ">=", "<=", "<>", "~", "~*", "!~", "!~*", "~~", "~~*", "!~~", "!~~*"]

/-- The right side of a binary operator. -/
def binaryRight (g : Grammar) (prec : Nat) (left : Phrase) (op : String) (l : Option Lexeme) :
    Parser Operand := do
  match ← oneOf? ["ANY", "ALL", "SOME"] with
  | some quantifier =>
    let start ← get
    mark "("
    let right ← if ← seesAt 0 ["SELECT", "WITH"] then do
        set start
        g.subexpr prec
      else do
        let e ← g.subexpr prec
        mark ")"
        pure e
    if !comparisons.contains op then
      failAt ("Expected one of [=, >, <, =>, =<, !=, ~, ~*, !~, !~*, ~~, ~~*, !~~, !~~*] "
        ++ "as comparison operator, found: " ++ op) l
    let argument := if right.shape == .subquery then right.phrase else .parens right.phrase
    return .plain (left ++ (.word (" " ++ op ++ " " ++ quantifier) ++ argument))
  | none =>
    let right ← g.subexpr prec
    return .plain (left ++ (.word (" " ++ op ++ " ") ++ right.phrase))

/-- An operator of the database in `OPERATOR(..)`, behind the keyword. -/
def qualifiedOperator : Parser String := do
  mark "("
  let parts ← sepByN (mark? ".") (do
    let l ← next
    return (l.map fun l => l.token.text).getD "EOF") (← get).rest.length
  mark ")"
  return "OPERATOR(" ++ Text.join "." parts ++ ")"

/-- `ESCAPE` and its character, or nothing. -/
def escapeClause : Parser Phrase := do
  return .opt " ESCAPE " (← optionally "ESCAPE" value)

/-- The list or query behind `IN`. -/
def inList (g : Grammar) : Parser Phrase := do
  if ← kw? "UNNEST" then
    let e ← parenthesized g.phrase
    return .word "UNNEST(" ++ (e ++ .word ")")
  mark "("
  let items ← match ← attempt g.query with
    | some q => pure (.query q)
    | none => Phrase.commas <$> sepBy g.phrase
  mark ")"
  return .parens items

/-- What follows `IS`. -/
def isTest (g : Grammar) : Parser Phrase := do
  if ← kw? "NULL" then return .word "NULL"
  else if ← kws? ["NOT", "NULL"] then return .word "NOT NULL"
  else if ← kw? "TRUE" then return .word "TRUE"
  else if ← kws? ["NOT", "TRUE"] then return .word "NOT TRUE"
  else if ← kw? "FALSE" then return .word "FALSE"
  else if ← kws? ["NOT", "FALSE"] then return .word "NOT FALSE"
  else if ← kw? "UNKNOWN" then return .word "UNKNOWN"
  else if ← kws? ["NOT", "UNKNOWN"] then return .word "NOT UNKNOWN"
  else if ← kws? ["DISTINCT", "FROM"] then return .word "DISTINCT FROM " ++ (← g.phrase)
  else if ← kws? ["NOT", "DISTINCT", "FROM"] then return .word "NOT DISTINCT FROM " ++ (← g.phrase)
  else
    let negation := if ← kw? "NOT" then "NOT " else ""
    let form ← match ← oneOf? ["NFC", "NFD", "NFKC", "NFKD"] with
      | some k => pure (k ++ " ")
      | none => pure ""
    if ← kw? "NORMALIZED" then return .word (negation ++ form ++ "NORMALIZED")
    expected "[NOT] NULL | TRUE | FALSE | DISTINCT | [form] NORMALIZED FROM after IS"

/-- A test for membership or likeness behind its left side. -/
def likeTest (g : Grammar) (left : Phrase) : Parser Phrase := do
  let negated ← kw? "NOT"
  let word (s : String) : Phrase := .word ((if negated then " NOT " else " ") ++ s)
  let regexp ← kw? "REGEXP"
  let rlike ← kw? "RLIKE"
  let null ← if ← inColumn then pure false else kw? "NULL"
  if regexp || rlike then
    let pattern ← g.subexpr betweenPrec
    return left ++ (word (if regexp then "REGEXP " else "RLIKE ") ++ pattern.phrase)
  else if negated && null then return left ++ .word " IS NOT NULL"
  else if ← kw? "IN" then return left ++ (word "IN " ++ (← inList g))
  else if ← kw? "BETWEEN" then
    let low ← g.subexpr betweenPrec
    kw "AND"
    let high ← g.subexpr betweenPrec
    return left ++ (word "BETWEEN " ++ (low.phrase ++ (.word " AND " ++ high.phrase)))
  else if ← kws? ["SIMILAR", "TO"] then
    let pattern ← g.subexpr betweenPrec
    return left ++ (word "SIMILAR TO " ++ (pattern.phrase ++ (← escapeClause)))
  else
    match ← oneOf? ["LIKE", "ILIKE"] with
    | some k =>
      let any := if ← kw? "ANY" then " ANY " else " "
      let pattern ← g.subexpr betweenPrec
      return left ++ (word (k ++ any) ++ (pattern.phrase ++ (← escapeClause)))
    | none => expected "IN or BETWEEN after NOT"

/-- The name of a mark in the message about an operator out of place. -/
def markName (spelling : String) : String :=
  match spelling with
  | "[" => "LBracket"
  | "." => "Period"
  | s => s

/-- One more operator behind an expression, with its right side. -/
def operatorStep (g : Grammar) (left : Operand) (prec : Nat) : Parser Operand := do
  let start ← get
  let l ← next
  match l.map Lexeme.token with
  | some (.custom s) => binaryRight g prec left.phrase s l
  | some (.mark "::") =>
    let t ← dataType
    return .plain (left.phrase ++ .word ("::" ++ t.text))
  | some (.mark "!") => return .plain (left.phrase ++ .word "!")
  | some (.mark "==") => binaryRight g prec left.phrase "=" l
  | some (.mark "[") => failAt "No infix parser for token LBracket" l
  | some (.mark s) => binaryRight g prec left.phrase s l
  | some (.word w) =>
    match w.capitals with
    | "OPERATOR" =>
      let op ← qualifiedOperator
      binaryRight g prec left.phrase op l
    | "IS" => return .plain (left.phrase ++ (.word " IS " ++ (← isTest g)))
    | "AT" =>
      kws ["TIME", "ZONE"]
      let zone ← g.subexpr prec
      return .plain (left.phrase ++ (.word " AT TIME ZONE " ++ zone.phrase))
    | "NOTNULL" => return .plain (left.phrase ++ .word " IS NOT NULL")
    | "MEMBER" =>
      if ← kw? "OF" then
        let e ← parenthesized g.phrase
        return .plain (left.phrase ++ (.word " MEMBER OF(" ++ (e ++ .word ")")))
      expected "OF after MEMBER"
    | k =>
      if ["AND", "OR", "XOR", "OVERLAPS"].contains k then binaryRight g prec left.phrase k l
      else if ["NOT", "IN", "BETWEEN", "LIKE", "ILIKE", "SIMILAR", "REGEXP", "RLIKE"].contains k then
        set start
        return .plain (← likeTest g left.phrase)
      else failAt ("No infix parser for token Word(Word \x7b value: \"" ++ w.value
        ++ "\", quote_style: None, keyword: " ++ k ++ " \x7d)") l
  | _ => failAt "No infix parser for token EOF" l

/-- `COLLATE` and a collation behind an expression, or nothing. -/
def collation (e : Operand) : Parser Operand := do
  if ← inColumn then return e
  if ← kw? "COLLATE" then return .plain (e.phrase ++ .word (" COLLATE " ++ (← objectName)))
  return e

/-- An expression whose operators all bind tighter than `least`. -/
def expression (g : Grammar) (least : Nat) : Parser Operand := do
  let start ← collation (← accesses g (← operand g))
  iterate (fun left : Operand => do
    let prec ← nextPrecedence
    if prec ≤ least || prec == periodPrec then return none
    return some (← operatorStep g left prec)) start

end QueryGateway.Sql
