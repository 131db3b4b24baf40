import QueryGateway.Json.Numeral

/-!
# Quoted texts

The strings of JSON texts. `scanString` cuts a string into pieces, and `decode`
puts the pieces together. Cutting looks no further than one escape; that the halves
of a surrogate pair stand together is checked by `decode` alone, so a string whose
content nobody asks for may hold lone halves.
-/

namespace QueryGateway.Json

open Text

/-- A piece of a string: a character, a character behind a backslash, or a code
unit in hexadecimal digits. -/
inductive Piece
  | plain (c : Char)
  | escaped (c : Char)
  | unit (n : Nat)
  deriving DecidableEq, Repr

/-- How a string ends: with its closing quote, with the text, or with something
that may not stand in it. -/
inductive Ending
  | closed
  | cut
  | control
  | badEscape
  | badDigits
  deriving DecidableEq, Repr

/-- A string as it is written: its pieces with the marks in front of them, and its
ending with its mark. -/
structure Quoted where
  pieces : List (Piece × Mark)
  ending : Ending
  mark : Mark
  deriving DecidableEq, Repr

/-! ## Cutting -/

/-- The character that a letter stands for behind a backslash. -/
def unescape? : Char → Option Char
  | '"' => some '"'
  | '\\' => some '\\'
  | '/' => some '/'
  | 'b' => some '\x08'
  | 'f' => some '\x0c'
  | 'n' => some '\n'
  | 'r' => some '\r'
  | 't' => some '\t'
  | _ => none

/-- The number of four hexadecimal digits. -/
def hexUnit? (a b c d : Char) : Option Nat :=
  hexadecimal? [a, b, c, d]

/-- A string with one more piece in front. -/
def withPiece (p : Piece) (mark : Mark) (r : Quoted × List Char) : Quoted × List Char :=
  (⟨(p, mark) :: r.1.pieces, r.1.ending, r.1.mark⟩, r.2)

/-- The ending of a string whose hexadecimal digits are wrong or cut off; four
bytes are looked at. -/
def wrongDigits (mark : Mark) (cs : List Char) : Quoted × List Char :=
  if utf8Length cs < 4 then (⟨[], .cut, mark + 2 + utf8Length cs⟩, [])
  else (⟨[], .badDigits, mark⟩, [])

/-- A string from behind its opening quote on, and what follows it. -/
def scanString (mark : Mark) : List Char → Quoted × List Char
  | [] => (⟨[], .cut, mark⟩, [])
  | '"' :: cs => (⟨[], .closed, mark⟩, cs)
  | '\\' :: [] => (⟨[], .cut, mark + 1⟩, [])
  | '\\' :: 'u' :: a :: b :: c :: d :: cs =>
    match hexUnit? a b c d with
    | some n => withPiece (.unit n) mark (scanString (mark + 6) cs)
    | none => wrongDigits mark (a :: b :: c :: d :: cs)
  | '\\' :: 'u' :: cs => wrongDigits mark cs
  | '\\' :: e :: cs =>
    match unescape? e with
    | some c => withPiece (.escaped c) mark (scanString (mark + 2) cs)
    | none => (⟨[], .badEscape, mark⟩, [])
  | c :: cs =>
    if c.toNat < 0x20 then (⟨[], .control, mark⟩, [])
    else withPiece (.plain c) mark (scanString (mark + utf8Width c) cs)

/-! ## Reading and skipping -/

/-- The first half of a surrogate pair. -/
def isLeading (n : Nat) : Bool := 0xD800 ≤ n && n ≤ 0xDBFF

/-- The second half of a surrogate pair. -/
def isTrailing (n : Nat) : Bool := 0xDC00 ≤ n && n ≤ 0xDFFF

/-- The character of a surrogate pair. -/
def pairChar (hi lo : Nat) : Char :=
  Char.ofNat ((hi - 0xD800) * 0x400 + (lo - 0xDC00) + 0x10000)

/-- What is wrong with an ending, if the string is read. -/
def Ending.readFault (mark : Mark) : Ending → Option Fault
  | closed => none
  | cut => some (.here .endOfString mark)
  | control => some (.here .controlCharacter (mark + 1))
  | badEscape => some (.here .badEscape (mark + 2))
  | badDigits => some (.here .badEscape (mark + 6))

/-- What is wrong with an ending, if the string is skipped. -/
def Ending.skipFault (mark : Mark) : Ending → Option Fault
  | control => some (.here .controlCharacter mark)
  | e => e.readFault mark

/-- What is wrong with an ending behind the first half of a pair. -/
def Ending.pairFault (mark : Mark) : Ending → Fault
  | closed => .here .endOfEscape (mark + 1)
  | cut => .here .endOfString mark
  | control => .here .endOfEscape (mark + 1)
  | badEscape => .here .endOfEscape (mark + 2)
  | badDigits => .here .badEscape (mark + 6)

/-- What is wrong with a piece behind the first half of a pair. -/
def Piece.pairFault (mark : Mark) : Piece → Fault
  | plain _ => .here .endOfEscape (mark + 1)
  | escaped _ => .here .endOfEscape (mark + 2)
  | unit _ => .here .loneSurrogate (mark + 6)

/-- The characters of pieces in front of an ending. -/
def decodePieces (ending : Ending) (mark : Mark) : List (Piece × Mark) → Except Fault (List Char)
  | [] =>
    match ending.readFault mark with
    | none => .ok []
    | some f => .error f
  | (.plain c, _) :: ps => (decodePieces ending mark ps).map (c :: ·)
  | (.escaped c, _) :: ps => (decodePieces ending mark ps).map (c :: ·)
  | (.unit n, m) :: ps =>
    if isTrailing n then .error (.here .loneSurrogate (m + 6))
    else if isLeading n then
      match ps with
      | [] => .error (ending.pairFault mark)
      | (.unit n2, m2) :: ps =>
        if isTrailing n2 then (decodePieces ending mark ps).map (pairChar n n2 :: ·)
        else .error (.here .loneSurrogate (m2 + 6))
      | (p, m2) :: _ => .error (p.pairFault m2)
    else (decodePieces ending mark ps).map (Char.ofNat n :: ·)

/-- The content of a string. -/
def Quoted.decode (q : Quoted) : Except Fault String :=
  (decodePieces q.ending q.mark q.pieces).map String.ofList

end QueryGateway.Json
