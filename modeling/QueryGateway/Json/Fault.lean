import QueryGateway.Text

/-!
# Faults of JSON texts

Why a JSON text is refused, and where. A place in a text is a mark, the number of
bytes in front of it; messages give it as a line and a column of bytes.
-/

namespace QueryGateway.Json

open Text

/-- A place in a text: how many bytes stand in front of it. -/
abbrev Mark := Nat

/-- Why a JSON text is refused: it is no JSON, or not the data that is asked
for. -/
inductive Cause
  | endOfList
  | endOfObject
  | endOfString
  | endOfValue
  | noColon
  | noListComma
  | noObjectComma
  | noWord
  | noValue
  | badEscape
  | badNumber
  | outOfRange
  | controlCharacter
  | keyNotString
  | loneSurrogate
  | endOfEscape
  | trailingComma
  | trailing
  | tooDeep
  | wrongType (found expected : String)
  | wrongValue (found expected : String)
  | wrongLength (length : Nat) (expected : String)
  | missingField (name : String)
  | duplicateField (name : String)
  | badInstant (message : String)
  deriving DecidableEq, Repr

namespace Cause

/-- The message of a cause. -/
def message : Cause → String
  | endOfList => "EOF while parsing a list"
  | endOfObject => "EOF while parsing an object"
  | endOfString => "EOF while parsing a string"
  | endOfValue => "EOF while parsing a value"
  | noColon => "expected `:`"
  | noListComma => "expected `,` or `]`"
  | noObjectComma => "expected `,` or `\x7d`"
  | noWord => "expected ident"
  | noValue => "expected value"
  | badEscape => "invalid escape"
  | badNumber => "invalid number"
  | outOfRange => "number out of range"
  | controlCharacter => "control character (\\u0000-\\u001F) found while parsing a string"
  | keyNotString => "key must be a string"
  | loneSurrogate => "lone leading surrogate in hex escape"
  | endOfEscape => "unexpected end of hex escape"
  | trailingComma => "trailing comma"
  | trailing => "trailing characters"
  | tooDeep => "recursion limit exceeded"
  | wrongType found expected => "invalid type: " ++ found ++ ", expected " ++ expected
  | wrongValue found expected => "invalid value: " ++ found ++ ", expected " ++ expected
  | wrongLength n expected => "invalid length " ++ toString n ++ ", expected " ++ expected
  | missingField name => "missing field `" ++ name ++ "`"
  | duplicateField name => "duplicate field `" ++ name ++ "`"
  | badInstant message => message

/-- The text is JSON, but not the data that is asked for. -/
def isData : Cause → Bool
  | wrongType .. => true
  | wrongValue .. => true
  | wrongLength .. => true
  | missingField _ => true
  | duplicateField _ => true
  | badInstant _ => true
  | _ => false

end Cause

/-- A step on the way from a whole value to a part of it. -/
inductive Step
  | key (name : String)
  | index (i : Nat)
  deriving DecidableEq, Repr

/-- The way to a part, such as `tables[2].name`; empty for the whole. -/
def pathText : List Step → String
  | [] => ""
  | .key name :: rest => name ++ pathTail rest
  | .index i :: rest => "[" ++ toString i ++ "]" ++ pathTail rest
where
  /-- The steps behind the first. -/
  pathTail : List Step → String
    | [] => ""
    | .key name :: rest => "." ++ name ++ pathTail rest
    | .index i :: rest => "[" ++ toString i ++ "]" ++ pathTail rest

/-- A cause at a place. The path leads to the part that was being read. -/
structure Fault where
  cause : Cause
  mark : Mark
  path : List Step
  deriving DecidableEq, Repr

/-- A fault of the whole. -/
def Fault.here (cause : Cause) (mark : Mark) : Fault := ⟨cause, mark, []⟩

/-- A fault of a part, seen from the whole. -/
def Fault.inside (step : Step) (f : Fault) : Fault := ⟨f.cause, f.mark, step :: f.path⟩

/-- The line and column of a mark, both as they are shown: lines from one, columns
as the number of bytes in front on the line. -/
def lineColumn : List Char → Mark → Nat → Nat → Nat × Nat
  | [], mark, line, column => (line, column + mark)
  | c :: cs, mark, line, column =>
    if mark < utf8Width c then (line, column + mark)
    else if c == '\n' then lineColumn cs (mark - 1) (line + 1) 0
    else lineColumn cs (mark - utf8Width c) line (column + utf8Width c)

/-- The message of a fault of a text. -/
def Fault.message (f : Fault) (text : List Char) : String :=
  let (line, column) := lineColumn text f.mark 1 0
  f.cause.message ++ " at line " ++ toString line ++ " column " ++ toString column

end QueryGateway.Json
