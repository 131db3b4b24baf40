import QueryGateway.Text

/-!
# Doubles

Finite IEEE 754 doubles as exact numbers: a sign, a significand and a power of
two. Every operation computes the exact result first and rounds it once, to the
nearest double and to the even one of two. An overflow is `none`.

Two readings print a double: `digits` gives the shortest decimal number that
rounds to it, and `text` and `plainText` write that number with and without an
exponent.
-/

namespace QueryGateway

open Text

/-- A finite double: `significand * 2 ^ exponent` with a sign. The significand is
below `2 ^ 53`, and at least `2 ^ 52` unless the exponent is the least one. -/
structure Double where
  negative : Bool
  significand : Nat
  exponent : Int
  deriving DecidableEq, Repr

namespace Double

/-! ## Rounding -/

/-- The least exponent of a double. -/
def minExponent : Int := -1074

/-- The greatest exponent of a double. -/
def maxExponent : Int := 971

/-- Zero with a sign. -/
def zero (negative : Bool) : Double := ⟨negative, 0, minExponent⟩

/-- The quotient rounded to the nearest integer, a tie to the even one. -/
def divRound (num den : Nat) : Nat :=
  let q := num / den
  let r := num % den
  if 2 * r < den then q
  else if 2 * r == den then q + q % 2
  else q + 1

/-- A quotient times a power of two, rounded to an integer. -/
def scaledRound (num den : Nat) (shift : Int) : Nat :=
  if shift ≥ 0 then divRound (num * Nat.pow 2 shift.toNat) den
  else divRound num (den * Nat.pow 2 (-shift).toNat)

/-- The exponent of the quotient's double before rounding: the power of two that
leaves 53 bits, or the least one. -/
def quotientExponent (num den : Nat) : Int :=
  let e : Int := (num.log2 : Int) - (den.log2 : Int) - 52
  let tooSmall := if e ≥ 0 then num < den * Nat.pow 2 (52 + e.toNat)
    else num * Nat.pow 2 (-e).toNat < den * Nat.pow 2 52
  max minExponent (if tooSmall then e - 1 else e)

/-- The double nearest to a quotient. -/
def ofRatio (negative : Bool) (num den : Nat) : Option Double :=
  if num == 0 then some (zero negative)
  else
    let e := quotientExponent num den
    let m := scaledRound num den (-e)
    let (m, e) := if m == Nat.pow 2 53 then (Nat.pow 2 52, e + 1) else (m, e)
    if e > maxExponent then none else some ⟨negative, m, e⟩

/-- The double nearest to a decimal number `m * 10 ^ e`. Numbers far out of range
are settled by their order of magnitude. -/
def ofDecimal (negative : Bool) (m : Nat) (e : Int) : Option Double :=
  if m == 0 then some (zero negative)
  else
    let magnitude : Int := (toString m).length + e
    if magnitude > 400 then none
    else if magnitude < -400 then some (zero negative)
    else if e ≥ 0 then ofRatio negative (m * Nat.pow 10 e.toNat) 1
    else ofRatio negative m (Nat.pow 10 (-e).toNat)

/-- The numerator and denominator of a double without its sign. -/
def ratio (x : Double) : Nat × Nat :=
  if x.exponent ≥ 0 then (x.significand * Nat.pow 2 x.exponent.toNat, 1)
  else (x.significand, Nat.pow 2 (-x.exponent).toNat)

/-- The product of two doubles. -/
def mul (x y : Double) : Option Double :=
  let (a, b) := x.ratio
  let (c, d) := y.ratio
  ofRatio (x.negative != y.negative) (a * c) (b * d)

/-- The quotient of two doubles, where the second is not zero. -/
def div (x y : Double) : Option Double :=
  let (a, b) := x.ratio
  let (c, d) := y.ratio
  ofRatio (x.negative != y.negative) (a * d) (b * c)

/-! ## Reading -/

/-- A decimal number as it is written: its digits as a number, and the power of
ten they are multiplied with. -/
structure DecimalText where
  digits : Nat
  scale : Int

/-- An exponent behind its letter: a sign and at least one digit, to the end. -/
def exponentText : List Char → Option Int
  | '+' :: cs => (decimal? cs).map Int.ofNat
  | '-' :: cs => (decimal? cs).map fun n => -(n : Int)
  | cs => (decimal? cs).map Int.ofNat

/-- The decimal number a text writes without a sign: digits, perhaps a point and
more digits, perhaps an exponent. At least one digit stands around the point. -/
def decimalText (cs : List Char) : Option DecimalText := do
  let whole := cs.takeWhile isDigit
  let rest := cs.dropWhile isDigit
  let (fraction, rest) := match rest with
    | '.' :: ds => (ds.takeWhile isDigit, ds.dropWhile isDigit)
    | ds => ([], ds)
  if whole.isEmpty && fraction.isEmpty then none
  else
    let m ← numeralFrom 10 digit? 0 (whole ++ fraction)
    let scale : Int := -(fraction.length : Int)
    match rest with
    | [] => some ⟨m, scale⟩
    | e :: ds =>
      if e == 'e' || e == 'E' then (exponentText ds).map fun x => ⟨m, scale + x⟩ else none

/-- The finite double a text writes, nearest to the number. -/
def parse (s : String) : Option Double :=
  let (negative, cs) := match s.toList with
    | '-' :: cs => (true, cs)
    | '+' :: cs => (false, cs)
    | cs => (false, cs)
  (decimalText cs).bind fun d => ofDecimal negative d.digits d.scale

/-! ## Printing -/

/-- How many decimal digits stand in front of the point of a quotient; not
positive if it is below one tenth. -/
def decimalLength (num den : Nat) : Int :=
  let guess : Int := ((toString num).length : Int) - ((toString den).length : Int)
  let reaches := if guess ≥ 0 then num ≥ den * Nat.pow 10 guess.toNat
    else num * Nat.pow 10 (-guess).toNat ≥ den
  if reaches then guess + 1 else guess

/-- The decimal numbers with one digit more than tried before that may round to a
double, the nearer first. -/
def candidates (num den : Nat) (scale : Int) : List Nat :=
  let (a, b) := if scale ≥ 0 then (num, den * Nat.pow 10 scale.toNat) else (num * Nat.pow 10 (-scale).toNat, den)
  let q := a / b
  let r := a % b
  if 2 * r < b then [q, q + 1] else [q + 1, q]

/-- Searches the shortest decimal number that rounds to a double, from a number
of digits on. -/
def shortestFrom (x : Double) (num den : Nat) (length : Int) : Nat → Nat → Nat × Int
  | 0, _ => (0, 0)
  | fuel + 1, n =>
    let scale := length - n
    match (candidates num den scale).find? fun m => ofDecimal x.negative m scale == some x with
    | some m => (m, scale)
    | none => shortestFrom x num den length fuel (n + 1)

/-- A number without the zeros at its end, and how many there were. -/
def stripZeros : Nat → Nat → Int → Nat × Int
  | 0, m, e => (m, e)
  | fuel + 1, m, e => if m % 10 == 0 && m != 0 then stripZeros fuel (m / 10) (e + 1) else (m, e)

/-- The shortest decimal number `m * 10 ^ e` that rounds to a double, without
zeros at its end. Seventeen digits are always enough. -/
def digits (x : Double) : Nat × Int :=
  if x.significand == 0 then (0, 0)
  else
    let (num, den) := x.ratio
    let (m, e) := shortestFrom x num den (decimalLength num den) 18 1
    stripZeros 20 m e

/-- A row of zeros. -/
def zeros (n : Nat) : String := String.ofList (List.replicate n '0')

/-- The decimal number `m * 10 ^ e` written without an exponent, with a point
somewhere. -/
def plainDigits (m : Nat) (e : Int) : String :=
  let ds := (toString m).toList
  let point : Int := ds.length + e
  if e ≥ 0 then String.ofList ds ++ zeros e.toNat ++ ".0"
  else if point > 0 then String.ofList (ds.take point.toNat) ++ "." ++ String.ofList (ds.drop point.toNat)
  else "0." ++ zeros (-point).toNat ++ String.ofList ds

/-- A double without an exponent, however long that is. -/
def plainText (x : Double) : String :=
  let (m, e) := x.digits
  (if x.negative then "-" else "") ++ plainDigits m e

/-- A double as JSON writes it: with an exponent if it is very large or small. -/
def text (x : Double) : String :=
  let (m, e) := x.digits
  let ds := (toString m).toList
  let point : Int := ds.length + e
  let sign := if x.negative then "-" else ""
  if -5 < point && point ≤ 16 then sign ++ plainDigits m e
  else
    let fraction := if ds.length ≤ 1 then "" else "." ++ String.ofList (ds.drop 1)
    sign ++ String.ofList (ds.take 1) ++ fraction ++ "e" ++ toString (point - 1)

end Double

end QueryGateway
