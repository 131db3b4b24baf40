import QueryGateway.Json.Fault
import QueryGateway.Json.Value

/-!
# Numerals

The numbers of JSON texts. `scan` cuts a numeral into its parts, and `Numeral.value`
gives its number: the integer if it is written as one and fits 64 bits, and else a
double. The double is computed in two roundings, the significand first and then its
product with a power of ten, so that its last digit may differ from the nearest
double's.
-/

namespace QueryGateway.Json

open Text

/-- The rest of a text behind a mark. -/
structure Cursor where
  mark : Mark
  rest : List Char

/-- A number as it is written. The exponent is its sign and its digits. -/
structure Numeral where
  negative : Bool
  whole : List Char
  fraction : Option (List Char)
  exponent : Option (Bool × List Char)
  deriving DecidableEq, Repr

/-! ## Parts -/

/-- The digits in front, and what follows them. -/
def takeDigits (c : Cursor) : List Char × Cursor :=
  let ds := c.rest.takeWhile isDigit
  (ds, ⟨c.mark + ds.length, c.rest.dropWhile isDigit⟩)

/-- The fault of a place where a digit is missing: how it is seen by who reads the
number, and by who skips it. -/
def missingDigit (c : Cursor) : Fault × Fault :=
  if c.rest.isEmpty then (.here .endOfValue c.mark, .here .badNumber c.mark)
  else (.here .badNumber (c.mark + 1), .here .badNumber (c.mark + 1))

/-- The digits in front of the point: a zero alone, or digits that start with
another. -/
def scanWhole (c : Cursor) : Except (Fault × Fault) (List Char × Cursor) :=
  match takeDigits c with
  | ([], _) => .error (missingDigit c)
  | ('0' :: _ :: _, _) => .error (.here .badNumber (c.mark + 2), .here .badNumber (c.mark + 2))
  | (ds, after) => .ok (ds, after)

/-- At least one digit. -/
def scanSome (c : Cursor) : Except (Fault × Fault) (List Char × Cursor) :=
  match takeDigits c with
  | ([], _) => .error (missingDigit c)
  | (ds, after) => .ok (ds, after)

/-- The digits behind the point, if there is one. -/
def scanFraction (c : Cursor) : Except (Fault × Fault) (Option (List Char) × Cursor) :=
  match c.rest with
  | '.' :: cs => (scanSome ⟨c.mark + 1, cs⟩).map fun (ds, after) => (some ds, after)
  | _ => .ok (none, c)

/-- The sign of an exponent, and what follows it. -/
def scanSign (c : Cursor) : Bool × Cursor :=
  match c.rest with
  | '+' :: cs => (false, ⟨c.mark + 1, cs⟩)
  | '-' :: cs => (true, ⟨c.mark + 1, cs⟩)
  | _ => (false, c)

/-- The exponent, if there is one. -/
def scanExponent (c : Cursor) : Except (Fault × Fault) (Option (Bool × List Char) × Cursor) :=
  match c.rest with
  | e :: cs =>
    if e == 'e' || e == 'E' then
      let (negative, behind) := scanSign ⟨c.mark + 1, cs⟩
      (scanSome behind).map fun (ds, after) => (some (negative, ds), after)
    else .ok (none, c)
  | [] => .ok (none, c)

/-- A numeral, and what follows it. -/
def scanNumeral (c : Cursor) : Except (Fault × Fault) (Numeral × Cursor) := do
  let (negative, c) := match c.rest with
    | '-' :: cs => (true, (⟨c.mark + 1, cs⟩ : Cursor))
    | _ => (false, c)
  let (whole, c) ← scanWhole c
  let (fraction, c) ← scanFraction c
  let (exponent, c) ← scanExponent c
  return (⟨negative, whole, fraction, exponent⟩, c)

/-! ## Values -/

/-- The number of a digit. -/
def digitValue (c : Char) : Nat := (digit? c).getD 0

/-- Digits as a significand of 64 bits, and how many digits at the end are left out
because they do not fit. -/
def significand : Nat → List Char → Nat × Nat
  | m, [] => (m, 0)
  | m, c :: cs =>
    if m * 10 + digitValue c > maxWord64 then (m, (c :: cs).length)
    else significand (m * 10 + digitValue c) cs

/-- A power of ten as a double. -/
def tenTo (e : Nat) : Option Double := Double.ofDecimal false 1 e

/-- A number of doubles times a power of ten, `none` if it is too large. A large
negative power is divided off in steps; two of them leave nothing of any
significand. -/
def scaleDouble : Nat → Double → Int → Option Double
  | 0, x, _ => some x
  | fuel + 1, x, e =>
    if e.natAbs ≤ 308 then
      (tenTo e.natAbs).bind fun p => if e ≥ 0 then x.mul p else x.div p
    else if x.significand == 0 then some x
    else if e ≥ 0 then none
    else ((tenTo 308).bind x.div).bind fun y => scaleDouble fuel y (e + 308)

/-- The double of a significand and a power of ten. -/
def doubleOf (negative : Bool) (m : Nat) (e : Int) : Option Double :=
  ((Double.ofDecimal false m 0).bind fun x => scaleDouble 4 x e).map fun x => ⟨negative, x.significand, x.exponent⟩

/-- The exponent that digits write, or else how many of them are in the way of
reading it in 32 bits. -/
def exponentValue : Nat → Nat → List Char → Except Nat Nat
  | _, e, [] => .ok e
  | n, e, c :: cs =>
    if e * 10 + digitValue c > Nat.pow 2 31 - 1 then .error (n + 1)
    else exponentValue (n + 1) (e * 10 + digitValue c) cs

/-- The number of an integer numeral whose digits fit 64 bits. -/
def integerNumber (negative : Bool) (m : Nat) : Option Number :=
  if !negative then some (.int m)
  else if m == 0 || m > Nat.pow 2 63 then (doubleOf true m 0).map .double
  else some (.int (-(m : Int)))

/-- The number of a numeral that ends at a mark; the fault is one that is too
large. -/
def Numeral.value (n : Numeral) (stop : Mark) : Except Fault Number :=
  let orTooLarge (x : Option Number) : Except Fault Number :=
    match x with
    | some v => .ok v
    | none => .error (.here .outOfRange stop)
  let (m, dropped) := significand 0 n.whole
  match n.fraction, n.exponent with
  | none, none =>
    if dropped == 0 then orTooLarge (integerNumber n.negative m)
    else orTooLarge ((doubleOf n.negative m dropped).map .double)
  | fraction, exponent =>
    let (m, scale) : Nat × Int := match fraction with
      | none => (m, dropped)
      | some ds =>
        let (m', left) := significand m ds
        (m', (dropped : Int) - (ds.length - left : Nat))
    match exponent with
    | none => orTooLarge ((doubleOf n.negative m scale).map .double)
    | some (down, ds) =>
      match exponentValue 0 0 ds with
      | .ok e => orTooLarge ((doubleOf n.negative m (if down then scale - e else scale + e)).map .double)
      | .error read =>
        if m != 0 && !down then .error (.here .outOfRange (stop - (ds.length - read)))
        else .ok (.double (Double.zero n.negative))

end QueryGateway.Json
