import QueryGateway.Text

/-!
# Tokens

The words of SQL as the lexer hands them to the parser. A token knows how it is
spelled in an error message; a lexeme is a token with the place it starts at
and the white space right behind it.
-/

namespace QueryGateway.Sql

open Text

/-! ## Places -/

/-- A place in a text: lines and columns start at one, columns count
characters. -/
structure Place where
  line : Nat
  column : Nat
  deriving DecidableEq, Repr

namespace Place

/-- The place of the first character. -/
def start : Place := ⟨1, 1⟩

/-- The place behind one more character. -/
def next (p : Place) (c : Char) : Place :=
  if c == '\n' then ⟨p.line + 1, 1⟩ else ⟨p.line, p.column + 1⟩

/-- The place behind some more characters. -/
def advance (p : Place) (cs : List Char) : Place :=
  cs.foldl next p

/-- How a message points at a place. -/
def text (p : Place) : String :=
  " at Line: " ++ toString p.line ++ ", Column: " ++ toString p.column

end Place

/-! ## Words -/

/-- A character in upper case, as far as that can be ASCII: the capital a
keyword is recognised by. A few letters outside ASCII have ASCII capitals. -/
def foldChar (c : Char) : List Char :=
  if c.toNat < 128 then [upperChar c]
  else match c.toNat with
    | 0x17F => ['S']
    | 0x131 => ['I']
    | 0xDF => ['S', 'S']
    | 0xFB00 => ['F', 'F']
    | 0xFB01 => ['F', 'I']
    | 0xFB02 => ['F', 'L']
    | 0xFB03 => ['F', 'F', 'I']
    | 0xFB04 => ['F', 'F', 'L']
    | 0xFB05 => ['S', 'T']
    | 0xFB06 => ['S', 'T']
    | _ => [c]

/-- The capitals of a text. -/
def foldText (s : String) : String :=
  String.ofList (s.toList.flatMap foldChar)

/-- An identifier or keyword: its text without quotes, whether it stood in
double quotes, and its capitals. A quoted word has no capitals, so it is never
a keyword. -/
structure Word where
  value : String
  quoted : Bool
  capitals : String
  deriving DecidableEq, Repr

namespace Word

/-- An unquoted word. -/
def plain (value : String) : Word := ⟨value, false, foldText value⟩

/-- A word in double quotes. -/
def quote (value : String) : Word := ⟨value, true, ""⟩

end Word

/-! ## Tokens -/

/-- The spellings a character string literal can have. -/
inductive Literal
  | plain
  | national
  | escaped
  | unicode
  | hex
  | bits
  | bytes
  deriving DecidableEq, Repr

/-- A token. -/
inductive Token
  | word (w : Word)
  | number (digits : String) (long : Bool)
  | literal (kind : Literal) (value : String)
  | dollar (value : String) (tag : Option String)
  | placeholder (text : String)
  /-- Punctuation or a built-in operator, by its canonical spelling. -/
  | mark (spelling : String)
  /-- An operator the database may define. -/
  | custom (spelling : String)
  | stray (c : Char)
  deriving DecidableEq, Repr

namespace Token

/-- A literal with its value as it is between the quotes. -/
def literalText (kind : Literal) (value : String) : String :=
  match kind with
  | .plain => "'" ++ value ++ "'"
  | .national => "N'" ++ value ++ "'"
  | .escaped => "E'" ++ value ++ "'"
  | .unicode => "U&'" ++ value ++ "'"
  | .hex => "X'" ++ value ++ "'"
  | .bits => "B'" ++ value ++ "'"
  | .bytes => "B\"" ++ value ++ "\""

/-- A dollar-quoted string as it is written. -/
def dollarText (value : String) : Option String → String
  | some tag => "$" ++ tag ++ "$" ++ value ++ "$" ++ tag ++ "$"
  | none => "$$" ++ value ++ "$$"

/-- The token in a message. -/
def text : Token → String
  | word w => if w.quoted then "\"" ++ w.value ++ "\"" else w.value
  | number digits long => if long then digits ++ "L" else digits
  | literal kind value => literalText kind value
  | dollar value tag => dollarText value tag
  | placeholder s => s
  | mark s => s
  | custom s => s
  | stray c => String.singleton c

end Token

/-- A token with its place, and the white space or comment right behind it, if
there is one. -/
structure Lexeme where
  token : Token
  place : Place
  blank : Option (String × Place)
  deriving DecidableEq, Repr

end QueryGateway.Sql
