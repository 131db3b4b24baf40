import QueryGateway.Toml.Fault

/-!
# Tokens of TOML

`tokens` cuts a text into tokens that together are the whole text. It refuses
nothing: a string that is not closed ends at the end of its line, and whether the
characters of a token are right is asked when it is read.
-/

namespace QueryGateway.Toml

open Text

/-- What a token is by its first characters. -/
inductive TokenKind
  | dot
  | equals
  | comma
  | openList
  | closeList
  | openTable
  | closeTable
  | blank
  | comment
  | lineEnd
  | quoted (quote : Quote)
  /-- Anything else up to the next mark or blank. -/
  | plain
  deriving DecidableEq, Repr

/-- A piece of a text with the number of bytes in front of it. -/
structure Piece where
  start : Nat
  text : List Char
  deriving DecidableEq, Repr

namespace Piece

/-- The first byte behind a piece. -/
def stop (p : Piece) : Nat := p.start + utf8Length p.text

/-- The stretch of a piece. -/
def span (p : Piece) : Span := ⟨p.start, p.stop⟩

/-- The byte in front of the characters that end a piece. -/
def before (p : Piece) (rest : List Char) : Nat := p.stop - utf8Length rest

end Piece

/-- A token. -/
structure Token where
  kind : TokenKind
  piece : Piece
  deriving DecidableEq, Repr

/-! ## Ends of tokens -/

/-- Characters of a token and those behind it. -/
abbrev Cut := List Char × List Char

/-- A cut with more in front. -/
def Cut.with (front : List Char) (cut : Cut) : Cut := (front ++ cut.1, cut.2)

/-- A blank inside of a line. -/
def isSpace (c : Char) : Bool := c == ' ' || c == '\t'

/-- A character that ends a plain token. -/
def isMark (c : Char) : Bool :=
  ['.', '=', ',', '[', ']', '\x7b', '\x7d', ' ', '\t', '#', '\r', '\n'].contains c

/-- The characters up to the first that fails a test. -/
def cutWhile (test : Char → Bool) (cs : List Char) : Cut :=
  (cs.takeWhile test, cs.dropWhile test)

/-- The rest of a literal string: up to its quote, or the end of the line. -/
def cutLiteral : List Char → Cut
  | [] => ([], [])
  | c :: cs =>
    if c == '\'' then ([c], cs)
    else if c == '\n' then ([], c :: cs)
    else (cutLiteral cs).with [c]

/-- The rest of a basic string: up to a quote that is not escaped, or the end of the
line. -/
def cutBasic : List Char → Cut
  | [] => ([], [])
  | '\\' :: '\\' :: cs => (cutBasic cs).with ['\\', '\\']
  | '\\' :: '"' :: cs => (cutBasic cs).with ['\\', '"']
  | c :: cs =>
    if c == '"' then ([c], cs)
    else if c == '\n' then ([], c :: cs)
    else (cutBasic cs).with [c]

/-- Up to two more quotes behind the three that close a string. -/
def cutExtra (quote : Char) : List Char → Cut
  | a :: b :: cs =>
    if a == quote && b == quote then ([a, b], cs)
    else if a == quote then ([a], b :: cs)
    else ([], a :: b :: cs)
  | [a] => if a == quote then ([a], []) else ([], [a])
  | [] => ([], [])

/-- The rest of a literal string of several lines. -/
def cutLongLiteral : List Char → Cut
  | [] => ([], [])
  | '\'' :: '\'' :: '\'' :: cs => (cutExtra '\'' cs).with ['\'', '\'', '\'']
  | c :: cs => (cutLongLiteral cs).with [c]

/-- The rest of a basic string of several lines. -/
def cutLongBasic : List Char → Cut
  | [] => ([], [])
  | '\\' :: '\\' :: cs => (cutLongBasic cs).with ['\\', '\\']
  | '\\' :: '"' :: cs => (cutLongBasic cs).with ['\\', '"']
  | '"' :: '"' :: '"' :: cs => (cutExtra '"' cs).with ['"', '"', '"']
  | c :: cs => (cutLongBasic cs).with [c]

/-- The first token of the characters `c :: cs`. -/
def firstToken (c : Char) (cs : List Char) : TokenKind × Cut :=
  match c with
  | '.' => (.dot, [c], cs)
  | '=' => (.equals, [c], cs)
  | ',' => (.comma, [c], cs)
  | '[' => (.openList, [c], cs)
  | ']' => (.closeList, [c], cs)
  | '\x7b' => (.openTable, [c], cs)
  | '\x7d' => (.closeTable, [c], cs)
  | '\n' => (.lineEnd, [c], cs)
  | '\r' =>
    match cs with
    | '\n' :: cs => (.lineEnd, [c, '\n'], cs)
    | cs => (.lineEnd, [c], cs)
  | '#' => (.comment, (cutWhile (fun d => d != '\r' && d != '\n') cs).with [c])
  | '\'' =>
    match cs with
    | '\'' :: '\'' :: cs => (.quoted .longLiteral, (cutLongLiteral cs).with [c, c, c])
    | cs => (.quoted .literal, (cutLiteral cs).with [c])
  | '"' =>
    match cs with
    | '"' :: '"' :: cs => (.quoted .longBasic, (cutLongBasic cs).with [c, c, c])
    | cs => (.quoted .basic, (cutBasic cs).with [c])
  | c =>
    if isSpace c then (.blank, (cutWhile isSpace cs).with [c])
    else (.plain, (cutWhile (fun d => !isMark d) cs).with [c])

/-- The tokens of characters that stand behind so many bytes. Each round takes a
character at least, so that as many rounds as there are characters are enough. -/
def tokensFrom : Nat → Nat → List Char → List Token
  | fuel + 1, start, c :: cs =>
    let (kind, text, rest) := firstToken c cs
    let piece : Piece := ⟨start, text⟩
    ⟨kind, piece⟩ :: tokensFrom fuel piece.stop rest
  | _, _, _ => []

/-- The tokens of a text. A mark of the byte order at its start is no token. -/
def tokens (text : List Char) : List Token :=
  match text with
  | '\uFEFF' :: cs => tokensFrom cs.length 3 cs
  | cs => tokensFrom cs.length 0 cs

end QueryGateway.Toml
