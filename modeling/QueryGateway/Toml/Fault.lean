import QueryGateway.Text

/-!
# Faults of TOML texts

Why a TOML text is refused, and where. A place is a stretch of bytes. The message
shows the line it starts in, with marks below the stretch as far as the line goes.
-/

namespace QueryGateway.Toml

open Text

/-- A stretch of a text: the bytes from `start` up to `stop`. -/
structure Span where
  start : Nat
  stop : Nat
  deriving DecidableEq, Repr

/-- The empty stretch at a place. -/
def Span.at (n : Nat) : Span := ⟨n, n⟩

/-- The four ways to write a string. -/
inductive Quote
  | basic
  | literal
  | longBasic
  | longLiteral
  deriving DecidableEq, Repr

/-- How the name of a way to write strings reads in messages. -/
def Quote.name : Quote → String
  | basic => "basic string"
  | literal => "literal string"
  | longBasic => "multi-line basic string"
  | longLiteral => "multi-line literal string"

/-- Why a TOML text is refused. The first group is about the order of its tokens, the
second about the text of one token, the third about tables, the last about the data
that is asked for. -/
inductive Cause
  | unclosedHeader
  | unclosedListHeader (closing : String)
  | keyWithoutValue
  | pathWithoutValue
  | strayText
  | noHeaderOpening
  | noKey
  | secondAssignment
  | noInlineOpening
  | noListOpening
  | unclosedList
  | extraListComma
  | assignmentInList
  | noListComma
  | unclosedInline
  | extraInlineComma (expected : String)
  | extraInlineAssignment (expected : String)
  | noInlineKey (expected : String)
  | noInlineAssignment
  | noInlineComma
  | tooDeep
  | loneReturn
  | badComment
  | emptyKey
  | badKey
  | longKey (quote : Quote)
  | unclosedString (quote : Quote)
  | badCharacter (quote : Quote)
  | noLineEnd
  | badEscape
  | shortEscape
  | badCodePoint
  | noOpeningQuote (quote : String)
  | unquoted
  | leadingZero
  | looseUnderscore
  | secondSign
  | signedBase
  | upperBase (base : String)
  | decimalBase
  | signBehindBase
  | badDigit (number : String)
  | noDigits (part : String)
  | badFloat (expected : String)
  | badBoolean (expected : String)
  | badMoment (message : String)
  | duplicateKey
  | notExtensible (kind : String)
  | hugeInteger
  | hugeFloat
  | wrongType (found expected : String)
  | wrongValue (found expected : String)
  deriving DecidableEq, Repr

/-- The message of a cause. -/
def Cause.message : Cause → String
  | unclosedHeader => "unclosed table, expected `]`"
  | unclosedListHeader closing => "unclosed array table, expected `" ++ closing ++ "`"
  | keyWithoutValue => "key with no value, expected `=`"
  | pathWithoutValue => "missing value for key, expected `=`"
  | strayText => "unexpected key or value, expected newline, `#`"
  | noHeaderOpening => "missing table open, expected `[`"
  | noKey => "invalid key, expected key"
  | secondAssignment => "extra `=`, expected nothing"
  | noInlineOpening => "missing inline table opening, expected `\x7b`"
  | noListOpening => "missing array opening, expected `[`"
  | unclosedList => "unclosed array, expected `]`"
  | extraListComma => "extra comma in array, expected value"
  | assignmentInList => "unexpected `=` in array, expected value, `]`"
  | noListComma => "missing comma between array elements, expected `,`"
  | unclosedInline => "unclosed inline table, expected `\x7d`"
  | extraInlineComma expected => "extra comma in inline table, expected " ++ expected
  | extraInlineAssignment expected =>
    "extra assignment between key-value pairs, expected " ++ expected
  | noInlineKey expected => "missing key for inline table element, expected " ++ expected
  | noInlineAssignment => "missing assignment between key-value pairs, expected `=`"
  | noInlineComma => "missing comma between key-value pairs, expected `,`"
  | tooDeep => "cannot recurse further; max recursion depth met"
  | loneReturn => "carriage return must be followed by newline, expected newline"
  | badComment => "invalid comment character, expected printable characters"
  | emptyKey => "unquoted keys cannot be empty, expected letters, numbers, `-`, `_`"
  | badKey => "invalid unquoted key, expected letters, numbers, `-`, `_`"
  | longKey quote =>
    "keys cannot be " ++ quote.name ++ "s, expected basic string, literal string"
  | unclosedString quote =>
    "invalid " ++ quote.name ++ ", expected " ++
      (match quote with
      | .basic => "`\"`"
      | .literal => "`'`"
      | .longBasic => "`\"\"\"`"
      | .longLiteral => "`'''`")
  | badCharacter quote =>
    "invalid " ++ quote.name ++ ", expected " ++
      (match quote with
      | .basic | .longBasic => "non-double-quote visible characters, `\\`"
      | .literal | .longLiteral => "non-single-quote visible characters")
  | noLineEnd => "invalid multi-line basic string, expected newline"
  | badEscape =>
    "missing escaped value, expected `b`, `e`, `f`, `n`, `r`, `\\`, `\"`, `x`, `u`, `U`"
  | shortEscape => "too few unicode value digits, expected unicode hexadecimal value"
  | badCodePoint => "invalid value, expected unicode hexadecimal value"
  | noOpeningQuote quote => "missing opening quote, expected `" ++ quote ++ "`"
  | unquoted => "string values must be quoted, expected literal string"
  | leadingZero => "unexpected leading zero, expected nothing"
  | looseUnderscore => "`_` may only go between digits, expected nothing"
  | secondSign => "redundant numeric sign, expected nothing"
  | signedBase => "integers with a radix cannot be signed, expected nothing"
  | upperBase base => "radix must be lowercase, expected `" ++ base ++ "`"
  | decimalBase => "redundant integer number prefix, expected nothing"
  | signBehindBase => "unexpected sign, expected nothing"
  | badDigit number => "invalid " ++ number ++ " number"
  | noDigits part => "invalid " ++ part ++ ", expected digits"
  | badFloat expected => "invalid float, expected " ++ expected
  | badBoolean expected => "invalid boolean, expected " ++ expected
  | badMoment message => message
  | duplicateKey => "duplicate key"
  | notExtensible kind => "cannot extend value of type " ++ kind ++ " with a dotted key"
  | hugeInteger => "integer number overflowed"
  | hugeFloat => "floating-point number overflowed"
  | wrongType found expected => "invalid type: " ++ found ++ ", expected " ++ expected
  | wrongValue found expected => "invalid value: " ++ found ++ ", expected " ++ expected

/-- A refusal of a TOML text. -/
structure Fault where
  cause : Cause
  span : Span
  deriving DecidableEq, Repr

/-! ## The message with the source line -/

/-- The characters in front of a byte, and those from it on; `none` if the byte is
inside a character or behind the end. -/
def splitBytes : Nat → List Char → Option (List Char × List Char)
  | 0, cs => some ([], cs)
  | _ + 1, [] => none
  | n + 1, c :: cs =>
    if n + 1 < utf8Width c then none
    else (splitBytes (n + 1 - utf8Width c) cs).map fun (front, rest) => (c :: front, rest)

/-- The characters behind the last line break. -/
def lastLine (cs : List Char) : List Char :=
  (cs.reverse.takeWhile (· != '\n')).reverse

/-- The line and the column of a byte, both from zero. A column counts characters;
in front of a character of several bytes it counts bytes. The end of a text is one
column behind its last character. -/
def position (text : List Char) (index : Nat) : Nat × Nat :=
  match splitBytes index text with
  | some (front, c :: _) =>
    let line := lastLine front
    (front.count '\n', if utf8Width c == 1 then line.length else utf8Length line)
  | _ =>
    let front := text.dropLast
    if text.isEmpty then (0, index) else (front.count '\n', (lastLine front).length + 1)

/-- So many spaces. -/
def spaces (n : Nat) : String := String.ofList (List.replicate n ' ')

/-- The whole message of a fault in a text. -/
def Fault.message (text : List Char) (f : Fault) : String :=
  let (line, column) := position text f.span.start
  let content := (splitAll '\n' text)[line]?.getD []
  let number := toString (line + 1)
  let gutter := spaces (number.length + 1) ++ "|"
  let marks := max 1 (min (f.span.stop - f.span.start) (utf8Length content - column))
  "TOML parse error at line " ++ number ++ ", column " ++ toString (column + 1) ++ "\n" ++
    gutter ++ "\n" ++
    number ++ " | " ++ String.ofList content ++ "\n" ++
    gutter ++ spaces (column + 1) ++ String.ofList (List.replicate marks '^') ++ "\n" ++
    f.cause.message ++ "\n"

end QueryGateway.Toml
