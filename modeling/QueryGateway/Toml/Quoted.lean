import QueryGateway.Toml.Layout

/-!
# Strings of TOML

`readQuoted` gives the text that a quoted word stands for. A basic string has escapes,
a literal one has none; either may go over several lines if it is opened by three
quotes. `readKey` reads a word as a key, with quotes or without.

Readers are told the byte in front of the characters they are given, and go on with
that of the characters they leave.
-/

namespace QueryGateway.Toml

open Text

/-- A character that may stand in a string of one line as it is, apart from its quote
and from backslashes. -/
def isTextChar (c : Char) : Bool := isCommentChar c

/-! ## Escapes -/

/-- The character of a short escape. -/
def shortEscape? : Char → Option Char
  | 'b' => some '\x08'
  | 'e' => some '\x1b'
  | 'f' => some '\x0c'
  | 'n' => some '\n'
  | 'r' => some '\r'
  | 't' => some '\t'
  | '\\' => some '\\'
  | '"' => some '"'
  | _ => none

/-- How many hexadecimal digits a long escape has. -/
def escapeDigits? : Char → Option Nat
  | 'x' => some 2
  | 'u' => some 4
  | 'U' => some 8
  | _ => none

/-- The character of a code point. -/
def scalar? (n : Nat) : Option Char :=
  if n < 0xD800 || (0xE000 ≤ n && n < 0x110000) then some (Char.ofNat n) else none

/-- Reads an escape behind its backslash: its character, and the byte and the
characters behind it. -/
def readEscape (start : Nat) : List Char → Except Fault (Char × Nat × List Char)
  | [] => refuseAt .badEscape start
  | c :: cs =>
    match shortEscape? c, escapeDigits? c with
    | some d, _ => .ok (d, start + 1, cs)
    | none, some n =>
      let digits := (cs.takeWhile isHexDigit).take n
      if digits.length != n then refuseAt .shortEscape (start + 1 + digits.length)
      else
        match (hexadecimal? digits).bind scalar? with
        | some d => .ok (d, start + 1 + n, cs.drop n)
        | none => refuseAt .badCodePoint (start + 1)
    | none, none => refuseAt .badEscape start

/-! ## Line breaks in strings of several lines -/

/-- The characters without a line break in front. -/
def dropLineEnd : List Char → List Char
  | '\n' :: cs => cs
  | '\r' :: '\n' :: cs => cs
  | cs => cs

/-- What follows blanks and line breaks. -/
def skipLines (start : Nat) : List Char → Except Fault (Nat × List Char)
  | [] => .ok (start, [])
  | '\r' :: '\n' :: cs => skipLines (start + 2) cs
  | c :: cs =>
    if c == '\r' then refuseAt .loneReturn (start + 1)
    else if c == '\n' || isSpace c then skipLines (start + 1) cs
    else .ok (start, c :: cs)

/-- What follows a backslash at the end of a line, and the blanks of the lines
behind it. -/
def skipLineEnd (start : Nat) (cs : List Char) : Except Fault (Nat × List Char) :=
  let n := (cs.takeWhile isSpace).length
  match cs.drop n with
  | '\n' :: rest => skipLines (start + n + 1) rest
  | '\r' :: rest =>
    if rest.head? == some '\n' then skipLines (start + n) ('\r' :: rest)
    else refuseAt .loneReturn (start + n + 1)
  | _ => refuseAt .noLineEnd (start + n)

/-! ## Contents -/

/-- The first two characters are a whole line break. -/
def startsLine (cs : List Char) : Bool := cs.head? == some '\n'

/-- Reads the contents of a basic string. Each round takes a character at least. -/
def readBasic (quote : Quote) : Nat → Nat → List Char → Except Fault (List Char)
  | fuel + 1, start, c :: cs => do
    let long := quote == .longBasic
    if c == '\\' then
      if long && cs.head?.any fun d => isSpace d || d == '\n' || d == '\r' then
        let (start, rest) ← skipLineEnd (start + 1) cs
        readBasic quote fuel start rest
      else
        let (d, start, rest) ← readEscape (start + 1) cs
        .ok (d :: (← readBasic quote fuel start rest))
    else if long && c == '\r' && !startsLine cs then refuseAt .loneReturn (start + 1)
    else if isTextChar c || (long && (c == '\n' || c == '\r')) then
      .ok (c :: (← readBasic quote fuel (start + utf8Width c) cs))
    else
      let bad := (c :: cs).takeWhile fun d => !isTextChar d && !(long && (d == '\n' || d == '\r'))
      refuse (.badCharacter quote) ⟨start, start + bad.length⟩
  | _, _, _ => .ok []

/-- Checks the contents of a literal string. -/
def checkLiteral (quote : Quote) (start : Nat) : List Char → Except Fault Unit
  | [] => .ok ()
  | c :: cs =>
    let long := quote == .longLiteral
    if long && c == '\r' && !startsLine cs then refuseAt .loneReturn start
    else if isTextChar c || (long && (c == '\n' || c == '\r')) then
      checkLiteral quote (start + utf8Width c) cs
    else refuseAt (.badCharacter quote) start

/-- The quotes that open and close a string. -/
def Quote.marks : Quote → List Char
  | basic => ['"']
  | literal => ['\'']
  | longBasic => ['"', '"', '"']
  | longLiteral => ['\'', '\'', '\'']

/-- A string may go over several lines. -/
def Quote.isLong : Quote → Bool
  | basic | literal => false
  | longBasic | longLiteral => true

/-- The text that a quoted word stands for. -/
def readQuoted (quote : Quote) (p : Piece) : Except Fault (List Char) := do
  let opened := p.text.drop quote.marks.length
  let inner := if quote.isLong then dropLineEnd opened else opened
  match dropHead? quote.marks.reverse inner.reverse with
  | none => refuseAt (.unclosedString quote) p.stop
  | some body =>
    let content := body.reverse
    let start := p.before inner
    match quote with
    | .basic | .longBasic => readBasic quote content.length start content
    | .literal | .longLiteral =>
      checkLiteral quote start content
      .ok content

/-! ## Keys -/

/-- A character of a key without quotes. -/
def isKeyChar (c : Char) : Bool := isAlnum c || c == '-' || c == '_'

/-- The key that a word stands for. -/
def readKey (w : Word) : Except Fault String := do
  match w.quote with
  | some quote =>
    if quote.isLong then refuseAt (.longKey quote) w.piece.start
    else .ok (String.ofList (← readQuoted quote w.piece))
  | none =>
    if w.piece.text.isEmpty then refuse .emptyKey w.piece.span
    else
      match w.piece.text.dropWhile isKeyChar with
      | [] => .ok (String.ofList w.piece.text)
      | rest => refuseAt .badKey (w.piece.before rest)

end QueryGateway.Toml
