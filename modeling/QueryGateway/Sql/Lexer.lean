import QueryGateway.Sql.Token

/-!
# The lexer

`lexemes` cuts a text into tokens the way PostgreSQL spells them: dollar quotes,
escape strings, nested comments, and operators of any length. White space and
comments are dropped; only the piece right behind a token is remembered, for the
one message that shows it.

Every reader here takes the characters that are left and returns what it read
together with what is left then. The loop over a text runs on a counter that
starts at the length of the text, and each round takes at least one character,
so the counter never ends the loop.
-/

namespace QueryGateway.Sql

open Text

/-! ## What the lexer reads -/

/-- A text the lexer refuses: what is wrong, and where. -/
structure LexError where
  message : String
  place : Place
  deriving DecidableEq, Repr

/-- A refusal while a token is read, with how many characters were left then. -/
structure LexFault where
  message : String
  remaining : Nat

/-- What one step of the lexer reads: a token, or white space or a comment. -/
inductive Piece
  | token (t : Token)
  | blank (text : String)

/-- A reader of characters. -/
abbrev Scan (α : Type) := List Char → Except LexFault (α × List Char)

/-- The characters at the front that satisfy a test, and the rest. -/
def spanChars (p : Char → Bool) : List Char → List Char × List Char
  | [] => ([], [])
  | c :: cs => if p c then let (xs, rest) := spanChars p cs; (c :: xs, rest) else ([], c :: cs)

/-- A character of an identifier behind its first one. -/
def isWordChar (c : Char) : Bool :=
  isAlnum c || c == '$' || c == '_' || 128 ≤ c.toNat

/-- The first character of an identifier. -/
def isWordStart (c : Char) : Bool :=
  isLetter c || c == '_' || 128 ≤ c.toNat

/-- A character of an operator the database may define. -/
def isOperatorChar (c : Char) : Bool :=
  ['+', '-', '*', '/', '<', '>', '=', '~', '!', '@', '#', '%', '^', '&', '|', '\x60', '?'].contains c

/-- A letter or digit of any script, as far as the tags of dollar quotes and the
names of placeholders need it. -/
def isLetterOrDigit (c : Char) : Bool :=
  let n := c.toNat
  let within (a b : Nat) : Bool := a ≤ n && n ≤ b
  isAlnum c || n == 0xAA || within 0xB2 0xB3 || n == 0xB5 || within 0xB9 0xBA
    || within 0xBC 0xBE || within 0xC0 0xD6 || within 0xD8 0xF6 || within 0xF8 0x2C1
    || within 0x370 0x373 || within 0x376 0x377 || within 0x37A 0x37D || n == 0x37F
    || n == 0x386 || within 0x388 0x3F5 || within 0x3F7 0x481 || within 0x48A 0x52F
    || within 0x531 0x556 || within 0x560 0x588 || within 0x5D0 0x5EA || within 0x620 0x657
    || within 0x660 0x669 || within 0x671 0x6D3 || within 0x904 0x93B || within 0xE01 0xE30
    || within 0x10A0 0x10FA || within 0x1E00 0x1F15 || within 0x3041 0x3096
    || within 0x30A1 0x30FA || within 0x3400 0x4DBF || within 0x4E00 0x9FFF
    || within 0xA000 0xA48C || within 0xAC00 0xD7A3 || within 0xF900 0xFA6D
    || within 0xFF10 0xFF19 || within 0xFF21 0xFF3A || within 0xFF41 0xFF5A
    || within 0xFF66 0xFFBE || within 0x20000 0x2A6DF

/-! ## Quoted text -/

/-- The text up to the closing quote, with doubled quotes read as one; `none`
if the quote is never closed. -/
def quotedText (quote : Char) : List Char → Option (List Char × List Char)
  | [] => none
  | c :: cs =>
    if c == quote then
      match cs with
      | [] => some ([], [])
      | d :: ds =>
        if d == quote then (quotedText quote ds).map fun (s, rest) => (c :: s, rest)
        else some ([], d :: ds)
    else (quotedText quote cs).map fun (s, rest) => (c :: s, rest)

/-- The character a backslash escape stands for in a hexadecimal or national
string. -/
def backslashChar : Char → Char
  | '0' => Char.ofNat 0
  | 'a' => Char.ofNat 7
  | 'b' => Char.ofNat 8
  | 'f' => Char.ofNat 12
  | 'n' => '\n'
  | 'r' => '\r'
  | 't' => '\t'
  | 'Z' => Char.ofNat 26
  | c => c

/-- Like `quotedText`, where a backslash escapes the character behind it. -/
def backslashText (quote : Char) : List Char → Option (List Char × List Char)
  | [] => none
  | '\\' :: [] => none
  | '\\' :: c :: cs =>
    (backslashText quote cs).map fun (s, rest) => (backslashChar c :: s, rest)
  | c :: cs =>
    if c == quote then
      match cs with
      | [] => some ([], [])
      | d :: ds =>
        if d == quote then (backslashText quote ds).map fun (s, rest) => (c :: s, rest)
        else some ([], d :: ds)
    else (backslashText quote cs).map fun (s, rest) => (c :: s, rest)

/-- A string between quotes; `cs` starts at the opening quote. -/
def scanString (kind : Literal) (reader : List Char → Option (List Char × List Char)) :
    Scan Token := fun cs =>
  match reader cs.tail with
  | some (s, rest) => .ok (.literal kind (String.ofList s), rest)
  | none => .error ⟨"Unterminated string literal", cs.length⟩

/-- An identifier in double quotes; `cs` starts at the opening quote. -/
def scanQuotedWord : Scan Token := fun cs =>
  match quotedText '\"' cs.tail with
  | some (s, rest) => .ok (.word (.quote (String.ofList s)), rest)
  | none => .error ⟨"Expected close delimiter '\"' before EOF.", cs.length⟩

/-! ## Escape strings -/

/-- The number a list of digits writes, where one plus sign may stand in front. -/
def signedNumeral (base : Nat) (digit : Char → Option Nat) (cs : List Char) : Option Nat :=
  match cs with
  | [] => none
  | ['+'] => none
  | '+' :: ds => numeralFrom base digit 0 ds
  | ds => numeralFrom base digit 0 ds

/-- The character with a code point, if there is one and it is not null. -/
def scalar? (n : Nat) : Option Char :=
  if n == 0 then none
  else if n < 0xD800 || (0xDFFF < n && n < 0x110000) then some (Char.ofNat n) else none

/-- The character of a byte escape: only ASCII, and not null. -/
def byteChar? (n : Nat) : Option Char :=
  let b := n % 256
  if b ≤ 127 then scalar? b else none

/-- An octal digit. -/
def octalDigit? (c : Char) : Option Nat :=
  if '0' ≤ c && c ≤ '7' then some (c.toNat - 48) else none

/-- At most `limit` characters at the front that are digits. -/
def takeDigits (digit : Char → Option Nat) : Nat → List Char → List Char × List Char
  | 0, cs => ([], cs)
  | _ + 1, [] => ([], [])
  | n + 1, c :: cs =>
    if (digit c).isSome then let (ds, rest) := takeDigits digit n cs; (c :: ds, rest)
    else ([], c :: cs)

/-- The character of a Unicode escape of a fixed number of digits. -/
def unicodeEscape (width : Nat) (cs : List Char) : Option (Char × List Char) :=
  if cs.length < width then none
  else do
    let n ← signedNumeral 16 hexDigit? (cs.take width)
    let c ← scalar? n
    return (c, cs.drop width)

/-- The character an escape stands for; `cs` starts behind the backslash. -/
def escapedChar : List Char → Option (Char × List Char)
  | [] => none
  | 'b' :: cs => some (Char.ofNat 8, cs)
  | 'f' :: cs => some (Char.ofNat 12, cs)
  | 'n' :: cs => some ('\n', cs)
  | 'r' :: cs => some ('\r', cs)
  | 't' :: cs => some ('\t', cs)
  | 'u' :: cs => unicodeEscape 4 cs
  | 'U' :: cs => unicodeEscape 8 cs
  | 'x' :: cs =>
    match takeDigits hexDigit? 2 cs with
    | ([], rest) => some ('x', rest)
    | (ds, rest) => (numeralFrom 16 hexDigit? 0 ds).bind fun n => (byteChar? n).map (·, rest)
  | c :: cs =>
    match octalDigit? c with
    | some d =>
      let (ds, rest) := takeDigits octalDigit? 2 cs
      (numeralFrom 8 octalDigit? d ds).bind fun n => (byteChar? n).map (·, rest)
    | none => if c.toNat == 0 then none else some (c, cs)

/-- The text of an escape string up to its closing quote. -/
def escapeText : Nat → List Char → Option (List Char × List Char)
  | 0, _ => none
  | _ + 1, [] => none
  | _ + 1, ['\''] => some ([], [])
  | n + 1, '\'' :: '\'' :: cs => (escapeText n cs).map fun (s, rest) => ('\'' :: s, rest)
  | _ + 1, '\'' :: c :: cs => some ([], c :: cs)
  | n + 1, '\\' :: cs =>
    (escapedChar cs).bind fun (c, rest) =>
      (escapeText n rest).map fun (s, last) => (c :: s, last)
  | n + 1, c :: cs => (escapeText n cs).map fun (s, rest) => (c :: s, rest)

/-- The code point of a fixed number of hexadecimal digits. -/
def fixedHex : Nat → Nat → List Char → Except LexFault (Nat × List Char)
  | 0, acc, cs => .ok (acc, cs)
  | _ + 1, _, [] =>
    .error ⟨"Unexpected EOF while parsing hex digit in escaped unicode string.", 0⟩
  | n + 1, acc, c :: cs =>
    match hexDigit? c with
    | some d => fixedHex n (acc * 16 + d) cs
    | none =>
      .error ⟨"Invalid hex digit in escaped unicode string: " ++ String.singleton c, cs.length⟩

/-- The character of a fixed number of hexadecimal digits. -/
def fixedHexChar (width : Nat) : Scan Char := fun cs => do
  let (n, rest) ← fixedHex width 0 cs
  if n < 0xD800 || (0xDFFF < n && n < 0x110000) then return (Char.ofNat n, rest)
  else .error ⟨"Invalid unicode character: " ++ hexText false n, rest.length⟩

/-- The text of a Unicode string up to its closing quote. -/
def unicodeText : Nat → List Char → Except LexFault (List Char × List Char)
  | 0, cs => .error ⟨"Unterminated unicode encoded string literal", cs.length⟩
  | _ + 1, [] => .error ⟨"Unterminated unicode encoded string literal", 0⟩
  | _ + 1, ['\''] => .ok ([], [])
  | n + 1, '\'' :: '\'' :: cs => do
    let (s, rest) ← unicodeText n cs
    return ('\'' :: s, rest)
  | _ + 1, '\'' :: c :: cs => .ok ([], c :: cs)
  | n + 1, '\\' :: '\\' :: cs => do
    let (s, rest) ← unicodeText n cs
    return ('\\' :: s, rest)
  | n + 1, '\\' :: '+' :: cs => do
    let (c, rest) ← fixedHexChar 6 cs
    let (s, last) ← unicodeText n rest
    return (c :: s, last)
  | n + 1, '\\' :: cs => do
    let (c, rest) ← fixedHexChar 4 cs
    let (s, last) ← unicodeText n rest
    return (c :: s, last)
  | n + 1, c :: cs => do
    let (s, rest) ← unicodeText n cs
    return (c :: s, rest)

/-! ## Dollar quotes -/

/-- The text of a dollar quote without a tag, up to the first two dollar signs
in a row. -/
def dollarText : List Char → Option (List Char × List Char)
  | [] => none
  | '$' :: '$' :: cs => some ([], cs)
  | c :: cs => (dollarText cs).map fun (s, rest) => (c :: s, rest)

/-- The text of a tagged dollar quote, up to its closing tag. -/
def taggedText (closing : List Char) : List Char → Option (List Char × List Char)
  | [] => if closing.isEmpty then some ([], []) else none
  | c :: cs =>
    match dropHead? closing (c :: cs) with
    | some rest => some ([], rest)
    | none => (taggedText closing cs).map fun (s, rest) => (c :: s, rest)

/-- What a dollar sign starts: a quoted string or a placeholder. `cs` is what
follows the sign. -/
def scanDollar : Scan Token
  | '$' :: cs =>
    match dollarText cs with
    | some (s, rest) => .ok (.dollar (String.ofList s) none, rest)
    | none => .error ⟨"Unterminated dollar-quoted string", 0⟩
  | cs =>
    let (tag, rest) := spanChars (fun c => isLetterOrDigit c || c == '_') cs
    match rest with
    | '$' :: body =>
      match taggedText ('$' :: tag ++ ['$']) body with
      | some (s, rest) =>
        .ok (.dollar (String.ofList s) (if tag.isEmpty then none else some (String.ofList tag)), rest)
      | none => .error ⟨"Unterminated dollar-quoted, expected $", 0⟩
    | rest => .ok (.placeholder ("$" ++ String.ofList tag), rest)

/-! ## Numbers -/

/-- Digits of a number at the front, where an underscore may stand before a
hexadecimal digit. -/
def spanDigits (digit : Char → Bool) : List Char → List Char × List Char
  | [] => ([], [])
  | c :: cs =>
    let separates := c == '_' && (match cs with | d :: _ => isHexDigit d | [] => false)
    if digit c || separates then let (ds, rest) := spanDigits digit cs; (c :: ds, rest)
    else ([], c :: cs)

/-- An exponent at the front, if digits follow its letter and sign. -/
def exponentPart : List Char → List Char × List Char
  | e :: cs =>
    if e == 'e' || e == 'E' then
      let (sign, rest) := match cs with
        | '+' :: ds => (['+'], ds)
        | '-' :: ds => (['-'], ds)
        | ds => ([], ds)
      match spanChars isDigit rest with
      | ([], _) => ([], e :: cs)
      | (ds, rest) => (e :: sign ++ ds, rest)
    else ([], e :: cs)
  | [] => ([], [])

/-- The end of a number: the letter that marks a long one. -/
def finishNumber (digits : List Char) : List Char → Token × List Char
  | 'L' :: cs => (.number (String.ofList digits) true, cs)
  | cs => (.number (String.ofList digits) false, cs)

/-- A number behind its integer digits: fraction, exponent and suffix. A lone
period is a mark. -/
def scanFraction (whole : List Char) (cs : List Char) : Token × List Char :=
  let (point, cs) := match cs with
    | '.' :: ds => (['.'], ds)
    | ds => ([], ds)
  let (fraction, cs) := spanDigits isDigit cs
  let digits := whole ++ point ++ fraction
  if digits == ['.'] then (.mark ".", cs)
  else
    let (exponent, cs) := exponentPart cs
    finishNumber (digits ++ exponent) cs

/-- A number, or a period. -/
def scanNumber (cs : List Char) : Token × List Char :=
  let (whole, rest) := spanDigits isDigit cs
  match rest with
  | 'x' :: ds =>
    if whole == ['0'] then
      let (digits, rest) := spanDigits isHexDigit ds
      (.literal .hex (String.ofList digits), rest)
    else scanFraction whole rest
  | rest => scanFraction whole rest

/-! ## Operators -/

/-- An operator that is the built-in one if no operator character follows, and
else one the database may define. -/
def binop (spelling : String) (cs : List Char) : Token × List Char :=
  match spanChars isOperatorChar cs with
  | ([], rest) => (.mark spelling, rest)
  | (more, rest) => (.custom (spelling ++ String.ofList more), rest)

/-- An operator that has to be one the database may define. -/
def binopOnly (spelling : String) : Scan Token := fun cs =>
  match spanChars isOperatorChar cs with
  | ([], rest) =>
    .error ⟨"Expected a valid binary operator after '" ++ spelling ++ "'", rest.length⟩
  | (more, rest) => .ok (.custom (spelling ++ String.ofList more), rest)

/-- What starts with `|`. -/
def scanBar : Scan Token
  | '/' :: cs => .ok (binop "|/" cs)
  | '|' :: '/' :: cs => .ok (binop "||/" cs)
  | '|' :: cs => .ok (binop "||" cs)
  | '&' :: '>' :: cs => .ok (binop "|&>" cs)
  | '&' :: cs => binopOnly "|&" cs
  | '>' :: '>' :: cs => .ok (binop "|>>" cs)
  | '>' :: cs => binopOnly "|>" cs
  | cs => .ok (binop "|" cs)

/-- What starts with `<`. -/
def scanLess : Scan Token
  | '=' :: '>' :: cs => .ok (binop "<=>" cs)
  | '=' :: cs => .ok (binop "<=" cs)
  | '|' :: cs => .ok (binop "<<|" cs)
  | '>' :: cs => .ok (binop "<>" cs)
  | '<' :: '|' :: cs => .ok (binop "<<|" cs)
  | '<' :: cs => .ok (binop "<<" cs)
  | '-' :: '>' :: cs => .ok (binop "<->" cs)
  | '-' :: cs => binopOnly "<-" cs
  | '^' :: cs => .ok (binop "<^" cs)
  | '@' :: cs => .ok (binop "<@" cs)
  | cs => .ok (binop "<" cs)

/-- What starts with `!`. -/
def scanBang : List Char → Token × List Char
  | '=' :: cs => (.mark "<>", cs)
  | '!' :: cs => (.mark "!!", cs)
  | '~' :: '*' :: cs => (.mark "!~*", cs)
  | '~' :: '~' :: '*' :: cs => (.mark "!~~*", cs)
  | '~' :: '~' :: cs => (.mark "!~~", cs)
  | '~' :: cs => (.mark "!~", cs)
  | cs => (.mark "!", cs)

/-- What starts with `&`. The operator `&>` takes the character behind it with
it. -/
def scanAmpersand : List Char → Token × List Char
  | '>' :: cs => (.mark "&>", cs.drop 1)
  | '<' :: '|' :: cs => (.mark "&<|", cs)
  | '<' :: cs => binop "&<" cs
  | '&' :: cs => binop "&&" cs
  | cs => binop "&" cs

/-- What starts with `~`. -/
def scanTilde : List Char → Token × List Char
  | '*' :: cs => binop "~*" cs
  | '=' :: cs => binop "~=" cs
  | '~' :: '*' :: cs => binop "~~*" cs
  | '~' :: cs => binop "~~" cs
  | cs => binop "~" cs

/-- What starts with `#`. -/
def scanHash : List Char → Token × List Char
  | '-' :: cs => binop "#-" cs
  | '>' :: '>' :: cs => binop "#>>" cs
  | '>' :: cs => binop "#>" cs
  | '#' :: cs => binop "##" cs
  | cs => binop "#" cs

/-- What starts with `@`. -/
def scanAt : Scan Token
  | '@' :: cs => .ok (.mark "@@", cs)
  | '-' :: '@' :: cs => .ok (.mark "@-@", cs)
  | '-' :: cs => binopOnly "@-" cs
  | '>' :: cs => .ok (.mark "@>", cs)
  | '?' :: cs => .ok (.mark "@?", cs)
  | '\x60' :: cs => .ok (.mark "@", '\x60' :: cs)
  | cs => .ok (binop "@" cs)

/-- What starts with `?`. -/
def scanQuestion : List Char → Token × List Char
  | '|' :: '|' :: cs => (.mark "?||", cs)
  | '|' :: cs => (.mark "?|", cs)
  | '&' :: cs => (.mark "?&", cs)
  | '-' :: '|' :: cs => (.mark "?-|", cs)
  | '-' :: cs => (.mark "?-", cs)
  | '#' :: cs => (.mark "?#", cs)
  | cs => (.mark "?", cs)

/-- What starts with `>`. -/
def scanGreater : List Char → Token × List Char
  | '=' :: cs => binop ">=" cs
  | '>' :: cs => binop ">>" cs
  | '^' :: cs => binop ">^" cs
  | cs => binop ">" cs

/-- The mark of a character that is punctuation by itself. -/
def isPunctuation (c : Char) : Bool :=
  ['(', ')', ',', ';', '\\', '[', ']', '\x7b', '\x7d', '+', '*'].contains c

/-- An operator or a punctuation mark whose first character is `c`. -/
def scanMark (c : Char) (cs : List Char) : Except LexFault (Token × List Char) :=
  if isPunctuation c then .ok (.mark (String.singleton c), cs)
  else match c with
    | '%' => .ok (binop "%" cs)
    | '/' => .ok (.mark "/", cs)
    | '-' => match cs with
      | '>' :: '>' :: ds => .ok (binop "->>" ds)
      | '>' :: ds => .ok (binop "->" ds)
      | ds => .ok (binop "-" ds)
    | '|' => scanBar cs
    | '=' => match cs with
      | '>' :: ds => .ok (.mark "=>", ds)
      | '=' :: ds => .ok (.mark "==", ds)
      | ds => .ok (.mark "=", ds)
    | '!' => .ok (scanBang cs)
    | '<' => scanLess cs
    | '>' => .ok (scanGreater cs)
    | ':' => match cs with
      | ':' :: ds => .ok (.mark "::", ds)
      | '=' :: ds => .ok (.mark ":=", ds)
      | ds => .ok (.mark ":", ds)
    | '&' => .ok (scanAmpersand cs)
    | '^' => match cs with
      | '@' :: ds => .ok (.mark "^@", ds)
      | ds => .ok (.mark "^", ds)
    | '~' => .ok (scanTilde cs)
    | '#' => .ok (scanHash cs)
    | '@' => scanAt cs
    | '?' => .ok (scanQuestion cs)
    | _ => .ok (.stray c, cs)

/-! ## Comments and words -/

/-- The text of a nested comment behind its opening mark, up to the mark that
closes it. -/
def commentText : Nat → List Char → Option (List Char × List Char)
  | _, [] => none
  | depth, '/' :: '*' :: cs =>
    (commentText (depth + 1) cs).map fun (s, rest) => ('/' :: '*' :: s, rest)
  | 0, '*' :: '/' :: cs => some ([], cs)
  | depth + 1, '*' :: '/' :: cs =>
    (commentText depth cs).map fun (s, rest) => ('*' :: '/' :: s, rest)
  | depth, c :: cs => (commentText depth cs).map fun (s, rest) => (c :: s, rest)

/-- A word that starts with `c`. -/
def scanWord (c : Char) (cs : List Char) : Token × List Char :=
  let (more, rest) := spanChars isWordChar cs
  (.word (.plain (String.ofList (c :: more))), rest)

/-- Whether a letter in front of a single quote makes a special string. -/
def literalOf : Char → Option (Literal × (List Char → Option (List Char × List Char)))
  | 'b' => some (.bits, quotedText '\'')
  | 'B' => some (.bits, quotedText '\'')
  | 'n' => some (.national, quotedText '\'')
  | 'N' => some (.national, quotedText '\'')
  | 'x' => some (.hex, backslashText '\'')
  | 'X' => some (.hex, backslashText '\'')
  | 'e' => some (.escaped, fun cs => escapeText (cs.length + 1) cs)
  | 'E' => some (.escaped, fun cs => escapeText (cs.length + 1) cs)
  | _ => none

/-- A word, or the string literal its first letter announces. -/
def scanLetter (c : Char) (cs : List Char) : Except LexFault (Token × List Char) :=
  match cs with
  | '\'' :: body =>
    match literalOf c with
    | some (.escaped, reader) =>
      match reader body with
      | some (s, rest) => .ok (.literal .escaped (String.ofList s), rest)
      | none => .error ⟨"Unterminated encoded string literal", cs.length + 1⟩
    | some (kind, reader) => scanString kind reader cs
    | none => .ok (scanWord c cs)
  | '\"' :: _ =>
    if c == 'b' || c == 'B' then scanString .bytes (quotedText '\"') cs
    else .ok (scanWord c cs)
  | '&' :: '\'' :: body =>
    if c == 'u' || c == 'U' then do
      let (s, rest) ← unicodeText (body.length + 1) body
      return (.literal .unicode (String.ofList s), rest)
    else .ok (scanWord c cs)
  | _ => .ok (scanWord c cs)

/-! ## The loop -/

/-- The piece at the front of the text `c :: cs`. `afterWord` tells that the
piece before it is a word. -/
def scanPiece (afterWord : Bool) (c : Char) (cs : List Char) :
    Except LexFault (Piece × List Char) :=
  if c == ' ' || c == '\t' || c == '\n' || c == '\x0b' || c == '\x0c' then
    .ok (.blank (String.singleton (if c == '\x0b' || c == '\x0c' then ' ' else c)), cs)
  else if c == '\r' then
    match cs with
    | '\n' :: ds => .ok (.blank "\n", ds)
    | ds => .ok (.blank "\n", ds)
  else if c == '\'' then do
    let (t, rest) ← scanString .plain (quotedText '\'') (c :: cs)
    return (.token t, rest)
  else if c == '\"' then do
    let (t, rest) ← scanQuotedWord (c :: cs)
    return (.token t, rest)
  else if isWordStart c then do
    let (t, rest) ← scanLetter c cs
    return (.token t, rest)
  else if isDigit c then
    let (t, rest) := scanNumber (c :: cs)
    .ok (.token t, rest)
  else if c == '.' then
    match cs with
    | '_' :: _ =>
      if afterWord then .ok (.token (.mark "."), cs)
      else .error ⟨"Unexpected character '_'", cs.length + 1⟩
    | _ =>
      let (t, rest) := scanNumber (c :: cs)
      .ok (.token t, rest)
  else if c == '$' then do
    let (t, rest) ← scanDollar cs
    return (.token t, rest)
  else match c, cs with
    | '-', '-' :: ds =>
      let (text, rest) := spanChars (fun d => d != '\n' && d != '\r') ds
      .ok (.blank (String.ofList ('-' :: '-' :: text ++ rest.take 1)), rest.drop 1)
    | '/', '*' :: ds =>
      match commentText 0 ds with
      | some (text, rest) => .ok (.blank ("/*" ++ String.ofList text ++ "*/"), rest)
      | none => .error ⟨"Unexpected EOF while in a multi-line comment", 0⟩
    | _, _ => do
      let (t, rest) ← scanMark c cs
      return (.token t, rest)

/-- Whether a piece is a word. -/
def Piece.isWord : Piece → Bool
  | .token (.word _) => true
  | _ => false

/-- The pieces of a text, each with its place. The counter is at least the
number of characters left. -/
def pieces : Nat → Place → Bool → List Char → Except LexError (List (Piece × Place))
  | 0, _, _, _ => .ok []
  | _ + 1, _, _, [] => .ok []
  | fuel + 1, place, afterWord, c :: cs =>
    match scanPiece afterWord c cs with
    | .error fault =>
      let passed := (c :: cs).take ((c :: cs).length - fault.remaining)
      .error ⟨fault.message, place.advance passed⟩
    | .ok (piece, rest) => do
      let passed := (c :: cs).take ((c :: cs).length - rest.length)
      let more ← pieces fuel (place.advance passed) piece.isWord rest
      return (piece, place) :: more

/-- Tokens with the white space right behind each of them. -/
def attachBlanks : List (Piece × Place) → List Lexeme
  | [] => []
  | (.blank _, _) :: more => attachBlanks more
  | (.token t, place) :: more =>
    let blank := match more with
      | (.blank text, p) :: _ => some (text, p)
      | _ => none
    ⟨t, place, blank⟩ :: attachBlanks more

/-- The tokens of a text. -/
def lexemes (text : String) : Except LexError (List Lexeme) :=
  let cs := text.toList
  (pieces cs.length Place.start false cs).map attachBlanks

end QueryGateway.Sql
