import QueryGateway.Sql.Parser
import QueryGateway.Sql.Vocabulary

/-!
# Names and literals

Identifiers, names with periods, and literal values, with the text they print.
-/

namespace QueryGateway.Sql

/-! ## Quoting -/

/-- A text to stand between quotes. A quote behind a backslash and a pair of
quotes stay as they are, any other quote is doubled. `before` is the character
in front. -/
def escapeQuote (quote : Char) (before : Char) : List Char → List Char
  | [] => []
  | c :: cs =>
    if c == quote then
      if before == '\\' then c :: escapeQuote quote before cs
      else match cs with
        | [] => [c, c]
        | d :: ds =>
          if d == quote then c :: d :: escapeQuote quote c ds
          else c :: c :: escapeQuote quote c (d :: ds)
    else c :: escapeQuote quote c cs

/-- A text between quotes. -/
def quoteText (quote : Char) (s : String) : String :=
  String.ofList (quote :: escapeQuote quote (Char.ofNat 0) s.toList ++ [quote])

/-- A character of an escape string. -/
def escapeStringChar : Char → List Char
  | '\'' => ['\\', '\'']
  | '\\' => ['\\', '\\']
  | '\n' => ['\\', 'n']
  | '\t' => ['\\', 't']
  | '\r' => ['\\', 'r']
  | c => [c]

/-- Upper-case hexadecimal digits, padded with zeros to a width. -/
def paddedHex (width n : Nat) : List Char :=
  let digits := (Text.hexText true n).toList
  List.replicate (width - digits.length) '0' ++ digits

/-- A character of a Unicode string. -/
def escapeUnicodeChar (c : Char) : List Char :=
  if c == '\'' then ['\'', '\'']
  else if c == '\\' then ['\\', '\\']
  else if c.toNat < 128 then [c]
  else if c.toNat < 0x10000 then '\\' :: paddedHex 4 c.toNat
  else '\\' :: '+' :: paddedHex 6 c.toNat

/-- A string literal as it is printed. -/
def literalPrint (kind : Literal) (value : String) : String :=
  match kind with
  | .plain => quoteText '\'' value
  | .escaped => "E'" ++ String.ofList (value.toList.flatMap escapeStringChar) ++ "'"
  | .unicode => "U&'" ++ String.ofList (value.toList.flatMap escapeUnicodeChar) ++ "'"
  | kind => Token.literalText kind value

/-! ## Identifiers -/

/-- An identifier with the quote it was written in. -/
structure Ident where
  value : String
  quote : Option Char
  deriving DecidableEq, Repr

namespace Ident

/-- The identifier as it is printed. -/
def text (i : Ident) : String :=
  match i.quote with
  | some q => quoteText q i.value
  | none => i.value

/-- The identifier a word is. -/
def ofWord (w : Word) : Ident :=
  ⟨w.value, if w.quoted then some '\"' else none⟩

end Ident

/-- A word as it is printed. -/
def Word.print (w : Word) : String := (Ident.ofWord w).text

/-- The identifier a token is, if it is one. -/
def Token.ident? : Token → Option Ident
  | .word w => some (Ident.ofWord w)
  | .literal .plain s => some ⟨s, some '\''⟩
  | _ => none

/-- An identifier, which may stand in single quotes. -/
def identifier : Parser Ident := do
  let l ← next
  match l.bind (·.token.ident?) with
  | some i => return i
  | none => expectedAt "identifier" l

/-- The text of an identifier. -/
def name : Parser String := do
  return (← identifier).text

/-- Identifiers with periods between them. -/
def nameParts : Parser (List Ident) := do
  sepByN (mark? ".") identifier (← get).rest.length

/-- The text of identifiers with periods between them. -/
def dottedText (parts : List Ident) : String :=
  Text.join "." (parts.map Ident.text)

/-- A name with periods. -/
def objectName : Parser String := do
  return dottedText (← nameParts)

/-- Names in parentheses. -/
def nameList : Parser (List String) := parenthesized (sepBy name)

/-- Texts with commas between them. -/
def commaText (parts : List String) : String := Text.join ", " parts

/-! ## Literal values -/

/-- A placeholder behind its colon or at sign; nothing may stand between them. -/
def placeholderName (sign : Lexeme) : Parser Phrase := do
  match sign.blank with
  | some (text, place) => throw (.expected "placeholder" text (some place))
  | none =>
    let l ← next
    match l.map Lexeme.token with
    | some (.word w) => return .word (sign.token.text ++ w.value)
    | some (.number digits false) => return .word (sign.token.text ++ digits)
    | _ => expectedAt "placeholder" l

/-- A literal value. -/
def value : Parser Phrase := do
  let l ← next
  match l with
  | none => expectedAt "a value" none
  | some lexeme =>
    match lexeme.token with
    | .word w =>
      if w.quoted then return .word (quoteText '\"' w.value)
      else if w.capitals == "TRUE" then return .word "true"
      else if w.capitals == "FALSE" then return .word "false"
      else if w.capitals == "NULL" then return .null
      else expectedAt "a concrete value" l
    | .number .. => return .word lexeme.token.text
    | .literal kind s => return .word (literalPrint kind s)
    | .dollar .. => return .word lexeme.token.text
    | .placeholder s => return .word s
    | .mark ":" => placeholderName lexeme
    | .mark "@" => placeholderName lexeme
    | _ => expectedAt "a value" l

/-- A string where the grammar wants one. A word that is no keyword will do. -/
def literalString : Parser String := do
  let l ← next
  match l.map Lexeme.token with
  | some (.word w) =>
    if w.quoted || !isVocabulary w.capitals then return w.value
    else expectedAt "literal string" l
  | some (.literal .plain s) => return s
  | some (.literal .escaped s) => return s
  | some (.literal .unicode s) => return s
  | _ => expectedAt "literal string" l

/-- A whole number where the grammar wants one. -/
def literalUint : Parser Nat := do
  let l ← next
  match l.map Lexeme.token with
  | some (.number digits _) =>
    match Text.decimal? digits.toList with
    | some n =>
      if n ≤ Text.maxWord64 then return n
      else failAt ("Could not parse '" ++ digits
        ++ "' as u64: number too large to fit in target type") l
    | none =>
      failAt ("Could not parse '" ++ digits ++ "' as u64: invalid digit found in string") l
  | _ => expectedAt "literal int" l

end QueryGateway.Sql
