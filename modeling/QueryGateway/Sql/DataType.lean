import QueryGateway.Sql.Names

/-!
# Data types

The names of data types. A built-in type prints in capitals with its arguments;
any other name is a type of the database and prints as it is written.
-/

namespace QueryGateway.Sql

open Text

/-- A data type: its text, and the two things the expression grammar asks. -/
structure DataType where
  text : String
  isInterval : Bool
  isCustom : Bool

/-- A built-in data type. -/
def DataType.builtin (text : String) : DataType := ⟨text, false, false⟩

/-! ## Arguments -/

/-- A whole number with a sign. -/
def signedInteger : Parser Int := do
  let negative ← mark? "-"
  unless negative do
    let _ ← mark? "+"
  let l ← peek
  match l.map Lexeme.token with
  | some (.number digits _) =>
    let _ ← next
    match decimal? digits.toList with
    | some n =>
      if (n : Int) ≤ maxInt64 then return (if negative then -(n : Int) else n)
      else failAt ("Could not parse '" ++ digits
        ++ "' as i64: number too large to fit in target type") l
    | none =>
      failAt ("Could not parse '" ++ digits ++ "' as i64: invalid digit found in string") l
  | _ => expectedAt "number" l

/-- An argument in parentheses, or nothing. -/
def optionalArgument (p : Parser String) : Parser String := do
  if ← mark? "(" then
    let s ← p
    mark ")"
    return "(" ++ s ++ ")"
  return ""

/-- A precision in parentheses, or nothing. -/
def optionalPrecision : Parser String :=
  optionalArgument do return toString (← literalUint)

/-- A precision and perhaps a scale in parentheses, or nothing. -/
def optionalScale : Parser String :=
  optionalArgument do
    let precision ← literalUint
    if ← mark? "," then return toString precision ++ "," ++ toString (← signedInteger)
    return toString precision

/-- A length in characters or octets in parentheses, or nothing. -/
def optionalLength : Parser String :=
  optionalArgument do
    if ← kw? "MAX" then return "MAX"
    let n ← literalUint
    match ← oneOf? ["CHARACTERS", "OCTETS"] with
    | some unit => return toString n ++ " " ++ unit
    | none => return toString n

/-- A length in bytes in parentheses, or nothing. -/
def optionalByteLength : Parser String :=
  optionalArgument do
    if ← kw? "MAX" then return "MAX"
    return toString (← literalUint)

/-- The arguments a built-in type takes. -/
inductive TypeArguments
  | none
  | precision
  | scale
  | length
  | byteLength

/-- The arguments of a type as they are printed. -/
def TypeArguments.read : TypeArguments → Parser String
  | none => return ""
  | precision => optionalPrecision
  | scale => optionalScale
  | length => optionalLength
  | byteLength => optionalByteLength

/-! ## Built-in types -/

/-- The built-in types that are one word with arguments, and whether `UNSIGNED`
may follow. -/
def simpleTypes : List (String × String × TypeArguments × Bool) :=
  [("BOOLEAN", "BOOLEAN", .none, false), ("BOOL", "BOOL", .none, false),
   ("FLOAT", "FLOAT", .scale, true), ("REAL", "REAL", .none, true),
   ("FLOAT4", "FLOAT4", .none, false), ("FLOAT32", "Float32", .none, false),
   ("FLOAT64", "FLOAT64", .none, false), ("FLOAT8", "FLOAT8", .none, false),
   ("TINYINT", "TINYINT", .precision, true), ("INT2", "INT2", .precision, true),
   ("SMALLINT", "SMALLINT", .precision, true), ("MEDIUMINT", "MEDIUMINT", .precision, true),
   ("INT", "INT", .precision, true), ("INT4", "INT4", .precision, true),
   ("INT8", "INT8", .precision, true), ("INTEGER", "INTEGER", .precision, true),
   ("BIGINT", "BIGINT", .precision, true), ("INT16", "Int16", .none, false),
   ("INT32", "Int32", .none, false), ("INT64", "INT64", .none, false),
   ("INT128", "Int128", .none, false), ("INT256", "Int256", .none, false),
   ("HUGEINT", "HUGEINT", .none, false), ("UBIGINT", "UBIGINT", .none, false),
   ("UHUGEINT", "UHUGEINT", .none, false), ("USMALLINT", "USMALLINT", .none, false),
   ("UTINYINT", "UTINYINT", .none, false), ("UINT8", "UInt8", .none, false),
   ("UINT16", "UInt16", .none, false), ("UINT32", "UInt32", .none, false),
   ("UINT64", "UInt64", .none, false), ("UINT128", "UInt128", .none, false),
   ("UINT256", "UInt256", .none, false), ("VARCHAR", "VARCHAR", .length, false),
   ("NVARCHAR", "NVARCHAR", .length, false), ("CLOB", "CLOB", .precision, false),
   ("BINARY", "BINARY", .precision, false), ("VARBINARY", "VARBINARY", .byteLength, false),
   ("BLOB", "BLOB", .precision, false), ("TINYBLOB", "TINYBLOB", .none, false),
   ("MEDIUMBLOB", "MEDIUMBLOB", .none, false), ("LONGBLOB", "LONGBLOB", .none, false),
   ("BYTES", "BYTES", .precision, false), ("VARBIT", "VARBIT", .precision, false),
   ("UUID", "UUID", .none, false), ("DATE", "DATE", .none, false),
   ("DATE32", "Date32", .none, false), ("DATETIME", "DATETIME", .precision, false),
   ("TIMESTAMPTZ", "TIMESTAMPTZ", .precision, false),
   ("TIMESTAMP_NTZ", "TIMESTAMP_NTZ", .precision, false),
   ("TIMETZ", "TIMETZ", .precision, false), ("JSON", "JSON", .none, false),
   ("JSONB", "JSONB", .none, false), ("REGCLASS", "REGCLASS", .none, false),
   ("STRING", "STRING", .precision, false), ("TEXT", "TEXT", .none, false),
   ("TINYTEXT", "TINYTEXT", .none, false), ("MEDIUMTEXT", "MEDIUMTEXT", .none, false),
   ("LONGTEXT", "LONGTEXT", .none, false), ("BYTEA", "BYTEA", .none, false),
   ("NUMERIC", "NUMERIC", .scale, false), ("DECIMAL", "DECIMAL", .scale, true),
   ("DEC", "DEC", .scale, true), ("BIGNUMERIC", "BIGNUMERIC", .scale, false),
   ("BIGDECIMAL", "BIGDECIMAL", .scale, false), ("TRIGGER", "TRIGGER", .none, false),
   ("TSVECTOR", "TSVECTOR", .none, false), ("TSQUERY", "TSQUERY", .none, false)]

/-- `WITH TIME ZONE` or `WITHOUT TIME ZONE`, or nothing. -/
def optionalTimeZone : Parser String := do
  match ← oneOf? ["WITH", "WITHOUT"] with
  | some k =>
    kws ["TIME", "ZONE"]
    return " " ++ k ++ " TIME ZONE"
  | none => return ""

/-- The fields of an interval, such as `DAY TO SECOND`, or nothing. -/
def intervalFields : Parser String := do
  match ← oneOf? ["YEAR", "DAY", "HOUR", "MINUTE", "MONTH", "SECOND"] with
  | none => return ""
  | some field =>
    if field == "MONTH" || field == "SECOND" then return " " ++ field
    else if ← kw? "TO" then
      if field == "YEAR" then
        kw "MONTH"
        return " YEAR TO MONTH"
      else if field == "MINUTE" then
        kw "SECOND"
        return " MINUTE TO SECOND"
      else
        let last ← oneOf (if field == "DAY" then ["HOUR", "MINUTE", "SECOND"] else ["MINUTE", "SECOND"])
        return " " ++ field ++ " TO " ++ last
    else return " " ++ field

/-- A string between single quotes, where only such a string will do. -/
def plainString (what : String) : Parser String := do
  let l ← next
  match l.map Lexeme.token with
  | some (.literal .plain s) => return s
  | _ => expectedAt what l

/-- The modifiers of a type of the database, in parentheses, where commas may
stand anywhere. -/
def typeModifiers : Parser (List String) := do
  let found ← iterate (fun acc : List String => do
    let l ← next
    match l.map Lexeme.token with
    | some (.word w) => return some (Token.text (.word w) :: acc)
    | some (.number digits _) => return some (digits :: acc)
    | some (.literal .plain s) => return some (s :: acc)
    | some (.mark ",") => return some acc
    | some (.mark ")") => return none
    | _ => expectedAt "type modifiers" l) []
  return found.reverse

/-- A type of the database. -/
def customType : Parser DataType := do
  let typeName ← objectName
  if ← mark? "(" then
    let modifiers ← typeModifiers
    if modifiers.isEmpty then return ⟨typeName, false, true⟩
    return ⟨typeName ++ "(" ++ commaText modifiers ++ ")", false, true⟩
  return ⟨typeName, false, true⟩

/-- A number of the values of an enumeration: what follows the equals sign. -/
def enumMember : Parser String := do
  let s ← literalString
  if ← mark? "=" then
    let v ← value
    return "'" ++ s ++ "' = " ++ v.render
  return "'" ++ s ++ "'"

/-- Whether a closing angle bracket was already taken together with another. -/
abbrev SecondBracket := Bool

/-- The closing angle bracket of `ARRAY<..>`, which may be half of `>>`. -/
def closingAngle (taken : SecondBracket) : Parser SecondBracket := do
  if taken then return false
  else if ← mark? ">" then return false
  else if ← mark? ">>" then return true
  else expected ">"

/-- What follows the first word of a character type. -/
def characterType (word : String) : Parser DataType := do
  if ← kw? "VARYING" then
    return .builtin (word ++ " VARYING" ++ (← optionalLength))
  else if ← kws? ["LARGE", "OBJECT"] then
    return .builtin (word ++ " LARGE OBJECT" ++ (← optionalPrecision))
  else return .builtin (word ++ (← optionalLength))

/-- `UNSIGNED` behind a type, or nothing. -/
def unsignedSuffix : Parser String := do
  return if ← kw? "UNSIGNED" then " UNSIGNED" else ""

/-- The built-in type a keyword starts, if the words behind it decide more than
an argument does. The keyword is still the next token. -/
def compoundType (keyword : String) : Parser (Option DataType) := do
  match keyword with
  | "DOUBLE" =>
    let _ ← next
    if ← kw? "PRECISION" then return some (.builtin ("DOUBLE PRECISION" ++ (← unsignedSuffix)))
    let arguments ← optionalScale
    return some (.builtin ("DOUBLE" ++ arguments ++ (← unsignedSuffix)))
  | "CHARACTER" =>
    let _ ← next
    return some (← characterType "CHARACTER")
  | "CHAR" =>
    let _ ← next
    return some (← characterType "CHAR")
  | "BIT" =>
    let _ ← next
    if ← kw? "VARYING" then return some (.builtin ("BIT VARYING" ++ (← optionalPrecision)))
    return some (.builtin ("BIT" ++ (← optionalPrecision)))
  | "TIMESTAMP" =>
    let _ ← next
    let precision ← optionalPrecision
    return some (.builtin ("TIMESTAMP" ++ precision ++ (← optionalTimeZone)))
  | "TIME" =>
    let _ ← next
    let precision ← optionalPrecision
    return some (.builtin ("TIME" ++ precision ++ (← optionalTimeZone)))
  | "INTERVAL" =>
    let _ ← next
    let fields ← intervalFields
    return some ⟨"INTERVAL" ++ fields ++ (← optionalPrecision), true, false⟩
  | "DATETIME64" =>
    let _ ← next
    mark "("
    let precision ← literalUint
    if ← mark? "," then
      let zone ← literalString
      mark ")"
      return some (.builtin ("DateTime64(" ++ toString precision ++ ", '" ++ zone ++ "')"))
    mark ")"
    return some (.builtin ("DateTime64(" ++ toString precision ++ ")"))
  | "FIXEDSTRING" =>
    let _ ← next
    let length ← parenthesized literalUint
    return some (.builtin ("FixedString(" ++ toString length ++ ")"))
  | "ENUM" =>
    let _ ← next
    return some (.builtin ("ENUM(" ++ commaText (← parenthesized (sepBy enumMember)) ++ ")"))
  | "ENUM8" =>
    let _ ← next
    return some (.builtin ("ENUM8(" ++ commaText (← parenthesized (sepBy enumMember)) ++ ")"))
  | "ENUM16" =>
    let _ ← next
    return some (.builtin ("ENUM16(" ++ commaText (← parenthesized (sepBy enumMember)) ++ ")"))
  | "SET" =>
    let _ ← next
    let members ← parenthesized (sepBy (plainString "a string"))
    return some (.builtin ("SET(" ++ commaText (members.map (quoteText '\'' ·)) ++ ")"))
  | "SIGNED" =>
    let _ ← next
    return some (.builtin (if ← kw? "INTEGER" then "SIGNED INTEGER" else "SIGNED"))
  | "UNSIGNED" =>
    let _ ← next
    return some (.builtin (if ← kw? "INTEGER" then "UNSIGNED INTEGER" else "UNSIGNED"))
  | "ANY" =>
    if ← seesAt 1 ["TYPE"] then
      kws ["ANY", "TYPE"]
      return some (.builtin "ANY TYPE")
    return none
  | _ => return none

/-- The brackets of array types behind an element type. -/
def arraySuffix (element : DataType) : Parser DataType :=
  iterate (fun t : DataType => do
    if ← mark? "[" then
      let size ← attempt literalUint
      mark "]"
      let bounds := match size with
        | some n => toString n
        | none => ""
      return some (.builtin (t.text ++ "[" ++ bounds ++ "]"))
    return none) element

/-- The names and types of the columns of a table type. -/
def tableColumns (inner : Parser DataType) : Parser String := do
  let columns ← parenthesized (sepBy0 (do
    let column ← name
    let t ← inner
    return column ++ " " ++ t.text) ")")
  return "TABLE(" ++ commaText columns ++ ")"

/-- A data type that nests at most `depth` times, and whether it took a closing
angle bracket too many. -/
def dataTypeN : Nat → Parser (DataType × SecondBracket)
  | 0 => throw .tooDeep
  | depth + 1 => do
    let l ← peek
    match l.map Lexeme.token with
    | some (.word w) =>
      if !w.quoted && w.capitals == "ARRAY" then
        let _ ← next
        mark "<"
        let (element, taken) ← dataTypeN depth
        let surplus ← closingAngle taken
        return (← arraySuffix (.builtin ("ARRAY<" ++ element.text ++ ">")), surplus)
      else if !w.quoted && w.capitals == "TABLE" then
        let _ ← next
        if ← seesMark "(" then
          let t ← tableColumns do
            let (t, _) ← dataTypeN depth
            return t
          return (← arraySuffix (.builtin t), false)
        return (← arraySuffix (.builtin "TABLE"), false)
      else
        match (if w.quoted then none else simpleTypes.lookup w.capitals) with
        | some (printed, arguments, unsigned) =>
          let _ ← next
          let argumentText ← arguments.read
          let suffix ← if unsigned then unsignedSuffix else pure ""
          return (← arraySuffix (.builtin (printed ++ argumentText ++ suffix)), false)
        | none =>
          match ← compoundType w.capitals with
          | some t => return (← arraySuffix t, false)
          | none => return (← arraySuffix (← customType), false)
    | _ => expectedAt "a data type name" l

/-- A data type. -/
def dataType : Parser DataType := do
  let (t, surplus) ← dataTypeN ((← get).rest.length + 1)
  if surplus then failAt ("unmatched > after parsing data type " ++ t.text) (← peek)
  return t

end QueryGateway.Sql
