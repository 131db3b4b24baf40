import QueryGateway.Double
import QueryGateway.Toml.Moment
import QueryGateway.Toml.Quoted

/-!
# Scalar values of TOML

`readScalar` gives the value of a word: a string, or without quotes an integer, a
floating-point number, a boolean, a date or a time. A word without quotes that starts
like none of them is taken for a string whose quotes are missing.
-/

namespace QueryGateway.Toml

open Text

/-- A scalar value. -/
inductive Scalar
  | string (text : String)
  | integer (n : Int)
  /-- A floating-point number as messages show it; absent if it is too large. -/
  | float (shown : Option String)
  | boolean (b : Bool)
  | moment
  deriving DecidableEq, Repr

/-! ## Words that are no value -/

/-- The characters end with the given ones. -/
def endsWith (tail cs : List Char) : Bool := startsWith tail.reverse cs.reverse

/-- The quotes that a word ends with; the longest of them that fit. -/
def closingQuote? (cs : List Char) : Option String :=
  ["'''", "\"\"\"", "'", "\""].find? fun q => endsWith q.toList cs

/-- Refuses a word without quotes. -/
def refuseWord {α : Type} (p : Piece) : Except Fault α :=
  match closingQuote? p.text with
  | some q => refuseAt (.noOpeningQuote q) p.start
  | none => refuse .unquoted p.span

/-- A stretch in a piece that starts where some of its last characters start. -/
def stretch (p : Piece) (rest : List Char) (length : Nat) : Span :=
  ⟨p.before rest, p.before rest + length⟩

/-! ## Underscores -/

/-- Checks the parts between underscores, from a byte of a piece on: next to every
underscore there is a digit. -/
def checkParts (p : Piece) (digit : Char → Bool) : Nat → List (List Char) → Except Fault Unit
  | _, [] => .ok ()
  | start, part :: parts => do
    let stop := start + utf8Length part
    if p.start < start && !digit (part.head?.getD '0') then
      refuse .looseUnderscore ⟨start - 1, start⟩
    else if 1 < part.length && stop < p.stop && !digit (part.getLast?.getD '0') then
      refuse .looseUnderscore ⟨stop, stop + 1⟩
    else if part.isEmpty && start != p.start && stop != p.stop then
      refuse .looseUnderscore ⟨start, start + 1⟩
    else checkParts p digit (stop + 1) parts

/-- The characters at the end of a piece without their underscores. -/
def dropUnderscores (p : Piece) (digit : Char → Bool) (cs : List Char) :
    Except Fault (List Char) := do
  if !cs.contains '_' then .ok cs
  else if cs.head? == some '_' then refuse .looseUnderscore ⟨p.start, p.start + 1⟩
  else if cs.getLast? == some '_' then refuse .looseUnderscore ⟨p.stop - 1, p.stop⟩
  else
    checkParts p digit (p.before cs) (splitAll '_' cs)
    .ok (cs.filter (· != '_'))

/-! ## Floating-point numbers -/

/-- Checks a row of digits and underscores, and gives what follows it. -/
def checkDigits (p : Piece) (part : String) (zeroFirst : Bool) (cs : List Char) :
    Except Fault (List Char) :=
  let row := cs.takeWhile fun c => isDigit c || c == '_'
  let count := (row.filter isDigit).length
  if count == 0 then refuseAt (.noDigits part) (p.before cs)
  else if count > 1 && cs.head? == some '0' && !zeroFirst then
    refuse .leadingZero (stretch p cs 1)
  else .ok (cs.drop row.length)

/-- Checks the fraction behind its point, if there is one. -/
def checkFraction (p : Piece) : List Char → Except Fault (List Char)
  | '.' :: cs => checkDigits p "fraction" true cs
  | cs => .ok cs

/-- Checks the exponent behind its letter, if there is one. -/
def checkExponent (p : Piece) : List Char → Except Fault (List Char)
  | c :: cs =>
    if c == 'e' || c == 'E' then
      match cs with
      | '+' :: ds => checkDigits p "exponent" true ds
      | '-' :: ds => checkDigits p "exponent" true ds
      | ds => checkDigits p "exponent" true ds
    else .ok (c :: cs)
  | [] => .ok []

/-- How messages show a floating-point number. -/
def shownFloat (cs : List Char) : Option String :=
  (Double.parse (String.ofList cs)).map Double.plainText

/-- The floating-point number of a piece; `unsigned` are its characters behind the
sign. -/
def readFloat (p : Piece) (unsigned : List Char) : Except Fault Scalar := do
  let rest ← checkDigits p "mantissa" false unsigned
  let rest ← checkFraction p rest
  let rest ← checkExponent p rest
  if rest.isEmpty then .ok (.float (shownFloat (← dropUnderscores p isDigit p.text)))
  else refuse (.badFloat "nothing") (stretch p rest (utf8Length rest))

/-! ## Integers -/

/-- A base other than ten in which integers may be written. -/
structure Base where
  letter : Char
  size : Nat
  name : String
  digit : Char → Option Nat

/-- The bases other than ten. -/
def bases : List Base :=
  [⟨'x', 16, "hexadecimal", hexDigit?⟩,
    ⟨'o', 8, "octal", fun c => (digit? c).filter (· < 8)⟩,
    ⟨'b', 2, "binary", fun c => (digit? c).filter (· < 2)⟩]

/-- Checks digits of a base. -/
def checkBaseDigits (p : Piece) (name : String) (digit : Char → Option Nat) (cs : List Char) :
    Except Fault Unit :=
  match cs.dropWhile fun c => (digit c).isSome || c == '_' with
  | [] => .ok ()
  | rest => refuseAt (.badDigit name) (p.before rest)

/-- Reads an integer of a base behind its letter. `unsigned` starts at the zero. -/
def readBase (p : Piece) (unsigned : List Char) (base : Base) : Except Fault Scalar := do
  let digits := unsigned.drop 2
  if p.text.length != unsigned.length then refuse .signedBase ⟨p.start, p.start + 1⟩
  else if unsigned[1]? != some base.letter then
    refuse (.upperBase (String.ofList ['0', base.letter])) (stretch p unsigned 2)
  else if digits.head?.any fun c => c == '+' || c == '-' then
    refuse .signBehindBase (stretch p digits 1)
  else
    checkBaseDigits p base.name base.digit digits
    let digits ← dropUnderscores p isHexDigit digits
    match digits.isEmpty, numeralFrom base.size base.digit 0 digits with
    | false, some n => .ok (.integer n)
    | _, _ => refuse .hugeInteger p.span

/-- The integer of a piece in base ten; `unsigned` are its characters behind the
sign. -/
def readInteger (p : Piece) (unsigned : List Char) : Except Fault Scalar := do
  if unsigned.length > 1 && unsigned.head? == some '0' then
    refuse .leadingZero (stretch p unsigned 1)
  else
    checkBaseDigits p "integer" digit? unsigned
    let _ ← dropUnderscores p isHexDigit p.text
    match decimal? (unsigned.filter (· != '_')) with
    | some n => .ok (.integer (if p.text.head? == some '-' then -(n : Int) else n))
    | none => refuse .hugeInteger p.span

/-! ## Words without quotes -/

/-- Reads a date, a time or a number of base ten. -/
def readNumber (p : Piece) (unsigned : List Char) : Except Fault Scalar :=
  let rest := unsigned.dropWhile isDigit
  if rest.isEmpty then readInteger p unsigned
  else if rest.head? == some '-' || rest.head? == some ':' then
    match momentFault? p.text with
    | none => .ok .moment
    | some f => refuse (.badMoment f.message) p.span
  else if rest.contains ' ' then refuseWord p
  else if rest.any fun c => c == '.' || c == 'e' || c == 'E' then readFloat p unsigned
  else if rest.head? == some '_' then readInteger p unsigned
  else refuseWord p

/-- Reads a number that starts with a zero. -/
def readZero (p : Piece) (unsigned : List Char) : Except Fault Scalar :=
  match unsigned[1]? with
  | none => .ok (.integer 0)
  | some c =>
    if c == 'd' || c == 'D' then
      if p.text.length != unsigned.length then refuse .signedBase ⟨p.start, p.start + 1⟩
      else refuse .decimalBase (stretch p unsigned 2)
    else
      match bases.find? fun b => b.letter == lowerChar c with
      | some b => readBase p unsigned b
      | none => readNumber p unsigned

/-- Reads a floating-point number that is no number of digits. `shown` is how
messages show it. -/
def readSpecial (p : Piece) (unsigned : List Char) (word shown : String) : Except Fault Scalar :=
  if unsigned == word.toList then .ok (.float (some shown))
  else if p.text.length == unsigned.length && unsigned.contains ' ' then refuseWord p
  else refuse (.badFloat ("`" ++ word ++ "`")) (stretch p unsigned (utf8Length unsigned))

/-- Reads a boolean. -/
def readBoolean (p : Piece) (b : Bool) : Except Fault Scalar :=
  let word := if b then "true" else "false"
  if p.text == word.toList then .ok (.boolean b)
  else if p.text.contains ' ' then refuseWord p
  else refuse (.badBoolean ("`" ++ word ++ "`")) p.span

/-- Reads what follows a sign. -/
def readSigned (p : Piece) : List Char → Except Fault Scalar
  | [] => refuseWord p
  | c :: cs =>
    let infinity := if p.text.head? == some '-' then "-inf" else "inf"
    if c == '+' || c == '-' then refuse .secondSign (stretch p (c :: cs) 1)
    else if c == '0' then readZero p (c :: cs)
    else if isDigit c || c == '_' then readNumber p (c :: cs)
    else if c == '.' then readFloat p (c :: cs)
    else if c == 'i' || c == 'I' then readSpecial p (c :: cs) "inf" infinity
    else if c == 'n' || c == 'N' then readSpecial p (c :: cs) "nan" "NaN"
    else refuseWord p

/-- Reads a word without quotes. -/
def readPlain (p : Piece) : Except Fault Scalar :=
  match p.text with
  | [] => refuseWord p
  | c :: cs =>
    if c == '+' || c == '-' then readSigned p cs
    else if c == '0' then readZero p (c :: cs)
    else if isDigit c || c == '_' then readNumber p (c :: cs)
    else if c == '.' then readFloat p (c :: cs)
    else if c == 't' || c == 'T' then readBoolean p true
    else if c == 'f' || c == 'F' then readBoolean p false
    else if c == 'i' || c == 'I' then readSpecial p (c :: cs) "inf" "inf"
    else if c == 'n' || c == 'N' then readSpecial p (c :: cs) "nan" "NaN"
    else refuseWord p

/-- The value of a word. -/
def readScalar (w : Word) : Except Fault Scalar :=
  match w.quote with
  | some quote => (readQuoted quote w.piece).map fun cs => .string (String.ofList cs)
  | none => readPlain w.piece

end QueryGateway.Toml
