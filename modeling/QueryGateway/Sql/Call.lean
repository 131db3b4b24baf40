import QueryGateway.Sql.DataType

/-!
# Function calls

The arguments of a call and what may follow them: ordering within a group, a
filter, the treatment of nulls, and a window.
-/

namespace QueryGateway.Sql

/-! ## Orderings -/

/-- The direction of an ordering and the place of its nulls. -/
def orderOptions : Parser String := do
  let direction ← match ← oneOf? ["ASC", "DESC"] with
    | some k => pure (" " ++ k)
    | none => pure ""
  if ← kws? ["NULLS", "FIRST"] then return direction ++ " NULLS FIRST"
  else if ← kws? ["NULLS", "LAST"] then return direction ++ " NULLS LAST"
  else return direction

/-- An expression to order by. -/
def orderItem (g : Grammar) : Parser Phrase := do
  let e ← g.phrase
  return e ++ .word (← orderOptions)

/-- What follows `ORDER BY`. -/
def orderItems (g : Grammar) : Parser Phrase := do
  return .commas (← sepBy (orderItem g))

/-! ## Dates and intervals -/

/-- The words for a part of a date that may follow an interval. -/
def temporalUnits : List String :=
  ["YEAR", "YEARS", "MONTH", "MONTHS", "WEEK", "WEEKS", "DAY", "DAYS", "HOUR", "HOURS", "MINUTE",
   "MINUTES", "SECOND", "SECONDS", "CENTURY", "DECADE", "DOW", "DOY", "EPOCH", "ISODOW",
   "ISOYEAR", "JULIAN", "MICROSECOND", "MICROSECONDS", "MILLENIUM", "MILLENNIUM", "MILLISECOND",
   "MILLISECONDS", "NANOSECOND", "NANOSECONDS", "QUARTER", "TIMEZONE", "TIMEZONE_HOUR",
   "TIMEZONE_MINUTE"]

/-- The words for a part of a date or time. -/
def dateParts : List String :=
  temporalUnits ++ ["DAYOFWEEK", "DAYOFYEAR", "DATE", "DATETIME", "ISOWEEK", "TIME",
    "TIMEZONE_ABBR", "TIMEZONE_REGION"]

/-- A part of a date or time; any other name will do as well. -/
def datePart : Parser String := do
  let l ← next
  match l.map Lexeme.token with
  | some (.word w) =>
    if !w.quoted && dateParts.contains w.capitals then return w.capitals else return w.print
  | some (.literal .plain s) => return quoteText '\'' s
  | _ => expectedAt "date/time field" l

/-- An interval behind its keyword; `operand` reads its value. -/
def interval (operand : Parser Operand) : Parser Operand := do
  let v ← operand
  let start : Phrase := .word "INTERVAL " ++ v.phrase
  let unit ← if ← seesAt 0 temporalUnits then some <$> datePart else pure none
  let unitText := match unit with
    | some u => " " ++ u
    | none => ""
  if unit == some "SECOND" then
    if ← mark? "(" then
      let leading ← literalUint
      if ← mark? "," then
        let fraction ← literalUint
        mark ")"
        return .plain (start ++ .word (unitText ++ " (" ++ toString leading ++ ", " ++ toString fraction ++ ")"))
      mark ")"
      return .plain (start ++ .word (unitText ++ " (" ++ toString leading ++ ")"))
    return .plain (start ++ .word unitText)
  else
    let leading ← optionalPrecision
    let leadingText := if leading == "" then "" else " " ++ leading
    if ← kw? "TO" then
      let last ← datePart
      let fraction ← if last == "SECOND" then optionalPrecision else pure ""
      let fractionText := if fraction == "" then "" else " " ++ fraction
      return .plain (start ++ .word (unitText ++ leadingText ++ " TO " ++ last ++ fractionText))
    return .plain (start ++ .word (unitText ++ leadingText))

/-! ## Windows -/

/-- One end of a window frame; `operand` reads the value of an interval. -/
def frameBound (g : Grammar) (operand : Parser Operand) : Parser Phrase := do
  if ← kws? ["CURRENT", "ROW"] then return .word "CURRENT ROW"
  let distance ← if ← kw? "UNBOUNDED" then pure (.word "UNBOUNDED")
    else match (← peek).map Lexeme.token with
      | some (.literal .plain _) => Operand.phrase <$> interval operand
      | _ => g.phrase
  match ← oneOf? ["PRECEDING", "FOLLOWING"] with
  | some side => return distance ++ .word (" " ++ side)
  | none => expected "PRECEDING or FOLLOWING"

/-- A window frame. -/
def windowFrame (g : Grammar) (operand : Parser Operand) : Parser Phrase := do
  let l ← next
  match l with
  | some ⟨.word w, _, _⟩ =>
    if w.quoted || !(["ROWS", "RANGE", "GROUPS"].contains w.capitals) then
      expectedAt "ROWS, RANGE, GROUPS" l
    else if ← kw? "BETWEEN" then
      let first ← frameBound g operand
      kw "AND"
      let last ← frameBound g operand
      return .word (w.capitals ++ " BETWEEN ") ++ (first ++ (.word " AND " ++ last))
    else return .word (w.capitals ++ " ") ++ (← frameBound g operand)
  | l => expectedAt "ROWS, RANGE, GROUPS" l

/-- A window between parentheses, behind the opening one. -/
def windowSpec (g : Grammar) (operand : Parser Operand) : Parser Phrase := do
  let base ← match (← peek).map Lexeme.token with
    | some (.word w) =>
      if w.quoted || !isVocabulary w.capitals then do pure [Phrase.word (← name)]
      else pure []
    | _ => pure []
  let partition ← if ← kws? ["PARTITION", "BY"] then do
      pure [Phrase.word "PARTITION BY " ++ .commas (← sepBy g.phrase)]
    else pure []
  let order ← if ← kws? ["ORDER", "BY"] then do
      pure [Phrase.word "ORDER BY " ++ (← orderItems g)]
    else pure []
  let frame ← if ← mark? ")" then pure []
    else do
      let frame ← windowFrame g operand
      mark ")"
      pure [frame]
  return .parens (.sepBy " " (base ++ partition ++ order ++ frame))

/-! ## Arguments -/

/-- What a quick look says about a wildcard: `*`, or names that end in `.*`.
Names that end otherwise are left alone; a period with no name behind it is an
error. -/
def wildcardHead : Parser (Option Operand) := do
  match (← peek).map Lexeme.token with
  | some (.mark "*") =>
    let _ ← next
    return some ⟨.word "*", .wildcard⟩
  | some t =>
    match t.ident? with
    | none => return none
    | some first =>
      let start ← get
      let _ ← next
      if ← seesMark "." then
        let found ← iterate (fun state : List Ident × Bool => do
          if state.2 then return none
          else if ← mark? "." then
            let l ← next
            match l.map Lexeme.token with
            | some (.mark "*") => return some (state.1, true)
            | t =>
              match t.bind Token.ident? with
              | some i => return some (i :: state.1, false)
              | none => expectedAt "an identifier or a '*' after '.'" l
          else return none) ([first], false)
        if found.2 then return some ⟨.word (dottedText found.1.reverse ++ ".*"), .wildcard⟩
        set start
        return none
      else
        set start
        return none
  | none => return none

/-- An expression or a wildcard. -/
def wildcardExpr (g : Grammar) : Parser Operand := do
  match ← wildcardHead with
  | some e => return e
  | none => g.expr

/-- The operator between the name and the value of an argument. -/
def argumentOperator : Parser (Option String) := do
  if ← kw? "VALUE" then return some " VALUE "
  else if ← mark? "=>" then return some " => "
  else if ← mark? ":" then return some " : "
  else return none

/-- An argument whose name is already read; fails if there is no operator. -/
def namedArgument (g : Grammar) (argument : Operand) : Parser Phrase := do
  match ← argumentOperator with
  | none => expected "argument operator"
  | some op => do
    let v ← wildcardExpr g
    return argument.phrase ++ (.word op ++ v.phrase)

/-- An argument of a call. The expression at its start is read once, whether it
turns out to be a name or the argument itself. -/
def callArgument (g : Grammar) : Parser Phrase := do
  let start ← get
  match ← outcome g.expr with
  | .error .tooDeep => throw .tooDeep
  | .error e =>
    match ← wildcardHead with
    | some w => return w.phrase
    | none => throw e
  | .ok e =>
    match ← attempt (namedArgument g e) with
    | some p => return p
    | none =>
      let behind ← get
      set start
      match ← wildcardHead with
      | some w => return w.phrase
      | none =>
        set behind
        return e.phrase

/-- How nulls appear in a JSON constructor, or nothing. -/
def jsonNullClause : Parser (List Phrase) := do
  if ← kws? ["ABSENT", "ON", "NULL"] then return [.word "ABSENT ON NULL"]
  else if ← kws? ["NULL", "ON", "NULL"] then return [.word "NULL ON NULL"]
  else return []

/-- The type a JSON constructor returns, or nothing. -/
def jsonReturningClause : Parser (List Phrase) := do
  if ← kw? "RETURNING" then return [.word ("RETURNING " ++ (← dataType).text)]
  return []

/-- What a list aggregate does when its result grows too long, or nothing. -/
def overflowClause (g : Grammar) : Parser (List Phrase) := do
  if ← kws? ["ON", "OVERFLOW"] then
    if ← kw? "ERROR" then return [.word "ON OVERFLOW ERROR"]
    kw "TRUNCATE"
    let filler ← match (← peek).map Lexeme.token with
      | some (.literal kind _) =>
        if kind == .bits || kind == .bytes then
          expected "either filler, WITH, or WITHOUT in LISTAGG"
        else do
          let e ← g.phrase
          pure (.word " " ++ e)
      | _ =>
        if ← seesAt 0 ["WITH", "WITHOUT"] then pure Phrase.empty
        else expected "either filler, WITH, or WITHOUT in LISTAGG"
    let side ← match ← oneOf? ["WITH", "WITHOUT"] with
      | some k => pure k
      | none => expected "either WITH or WITHOUT in LISTAGG"
    kw "COUNT"
    return [.word "ON OVERFLOW TRUNCATE" ++ (filler ++ .word (" " ++ side ++ " COUNT"))]
  return []

/-- `DISTINCT` or `ALL` in front of arguments, or nothing. -/
def duplicateTreatment : Parser Phrase := do
  let l ← peek
  let all ← kw? "ALL"
  let distinct ← kw? "DISTINCT"
  if all && distinct then failAt "Cannot specify both ALL and DISTINCT" l
  else if all then return .word "ALL "
  else if distinct then return .word "DISTINCT "
  else return .empty

/-- The arguments of a call behind the opening parenthesis, up to the closing
one. -/
def callArguments (g : Grammar) : Parser Phrase := do
  let early := (← jsonNullClause) ++ (← jsonReturningClause)
  if ← mark? ")" then return .parens (.sepBy " " early)
  let duplicates ← duplicateTreatment
  let arguments ← sepBy (callArgument g)
  let order ← if ← kws? ["ORDER", "BY"] then do pure [Phrase.word "ORDER BY " ++ (← orderItems g)]
    else pure []
  let limit ← if ← kw? "LIMIT" then do pure [Phrase.word "LIMIT " ++ (← g.phrase)] else pure []
  let overflow ← overflowClause g
  let nulls ← jsonNullClause
  let returning ← jsonReturningClause
  mark ")"
  let clauses := early ++ order ++ limit ++ overflow ++ nulls ++ returning
  return .parens (duplicates ++ .sepBy " " (.commas arguments :: clauses))

/-! ## Calls -/

/-- `RESPECT NULLS` or `IGNORE NULLS`, or nothing. -/
def nullTreatment : Parser Phrase := do
  match ← oneOf? ["RESPECT", "IGNORE"] with
  | some k =>
    kw "NULLS"
    return .word (" " ++ k ++ " NULLS")
  | none => return .empty

/-- A condition on the rows of an aggregate, or nothing. The word `FILTER` is
taken even if no condition follows. -/
def filterClause (g : Grammar) : Parser Phrase := do
  if ← kw? "FILTER" then
    if ← mark? "(" then
      if ← kw? "WHERE" then
        let e ← g.phrase
        mark ")"
        return .word " FILTER (WHERE " ++ (e ++ .word ")")
  return .empty

/-- A call of a function behind its name. A filter and a window are examined
before an ordering within the group. -/
def call (g : Grammar) (operand : Parser Operand) (function : String) : Parser Phrase := do
  mark "("
  let arguments ← callArguments g
  let within ← if ← kws? ["WITHIN", "GROUP"] then do
      mark "("
      kws ["ORDER", "BY"]
      let order ← orderItems g
      mark ")"
      pure (.word " WITHIN GROUP (ORDER BY " ++ (order ++ .word ")"))
    else pure Phrase.empty
  let filter ← filterClause g
  let nulls ← nullTreatment
  let windowed ← if ← kw? "OVER" then
      if ← mark? "(" then do pure (.word " OVER " ++ (← windowSpec g operand))
      else do pure (.word (" OVER " ++ (← name)))
    else pure Phrase.empty
  return .word function ++ (arguments ++ .swapped within (filter ++ (nulls ++ windowed)))

end QueryGateway.Sql
