/-!
# Text

Characters and strings as the gateway sees them: Unicode white space, digits,
and the small list functions the readers share. Everything works on lists of
characters; a `String` is taken apart once on the way in and put together once
on the way out.
-/

namespace QueryGateway.Text

/-! ## White space -/

/-- Unicode `White_Space`. -/
def isBlank (c : Char) : Bool :=
  let n := c.toNat
  (9 ≤ n && n ≤ 13) || n == 32 || n == 0x85 || n == 0xA0 || n == 0x1680
    || (0x2000 ≤ n && n ≤ 0x200A) || n == 0x2028 || n == 0x2029 || n == 0x202F
    || n == 0x205F || n == 0x3000

/-- The characters without the white space at their end. -/
def trimRight (cs : List Char) : List Char :=
  (cs.reverse.dropWhile isBlank).reverse

/-- The characters without the white space at either end. -/
def trimChars (cs : List Char) : List Char :=
  trimRight (cs.dropWhile isBlank)

/-- The text without the white space at either end. -/
def trim (s : String) : String :=
  String.ofList (trimChars s.toList)

/-! ## Digits -/

/-- The value of an ASCII decimal digit. -/
def digit? (c : Char) : Option Nat :=
  if '0' ≤ c && c ≤ '9' then some (c.toNat - 48) else none

/-- An ASCII decimal digit. -/
def isDigit (c : Char) : Bool :=
  '0' ≤ c && c ≤ '9'

/-- The value of an ASCII hexadecimal digit of either case. -/
def hexDigit? (c : Char) : Option Nat :=
  if '0' ≤ c && c ≤ '9' then some (c.toNat - 48)
  else if 'a' ≤ c && c ≤ 'f' then some (c.toNat - 87)
  else if 'A' ≤ c && c ≤ 'F' then some (c.toNat - 55)
  else none

/-- An ASCII hexadecimal digit. -/
def isHexDigit (c : Char) : Bool :=
  (hexDigit? c).isSome

/-- The number written by a list of digits of a base, `none` if some character
is no digit. The empty list writes zero. -/
def numeralFrom (base : Nat) (digit : Char → Option Nat) : Nat → List Char → Option Nat
  | acc, [] => some acc
  | acc, c :: cs =>
    match digit c with
    | some d => numeralFrom base digit (acc * base + d) cs
    | none => none

/-- The natural number a non-empty list of decimal digits writes. -/
def decimal? : List Char → Option Nat
  | [] => none
  | cs => numeralFrom 10 digit? 0 cs

/-- The natural number a non-empty list of hexadecimal digits writes. -/
def hexadecimal? : List Char → Option Nat
  | [] => none
  | cs => numeralFrom 16 hexDigit? 0 cs

/-- The least integer of 64 bits. -/
def minInt64 : Int := -9223372036854775808

/-- The greatest integer of 64 bits. -/
def maxInt64 : Int := 9223372036854775807

/-- The greatest natural number of 64 bits. -/
def maxWord64 : Nat := 18446744073709551615

/-- An integer, if it fits 64 bits. -/
def fitInt64? (n : Int) : Option Int :=
  if minInt64 ≤ n && n ≤ maxInt64 then some n else none

/-- The integer of 64 bits that perhaps a sign and decimal digits write. -/
def int64? : List Char → Option Int
  | '-' :: cs => (decimal? cs).bind fun n => fitInt64? (-(n : Int))
  | '+' :: cs => (decimal? cs).bind fun n => fitInt64? n
  | cs => (decimal? cs).bind fun n => fitInt64? n

/-- One hexadecimal digit. -/
def hexChar (upper : Bool) (d : Nat) : Char :=
  if d < 10 then Char.ofNat (48 + d) else Char.ofNat ((if upper then 55 else 87) + d)

/-- The digits of a number in a base, most significant first, padded with
zeros on the left to a width. -/
def padded (width n : Nat) : String :=
  let s := toString n
  String.ofList (List.replicate (width - s.length) '0') ++ s

/-- The hexadecimal digits of a number, most significant first; zero is one
digit. -/
def hexText (upper : Bool) (n : Nat) : String :=
  String.ofList ((Nat.toDigits 16 n).map fun c => if upper then c.toUpper else c)

/-! ## Letters -/

/-- An ASCII letter. -/
def isLetter (c : Char) : Bool :=
  ('a' ≤ c && c ≤ 'z') || ('A' ≤ c && c ≤ 'Z')

/-- An ASCII letter or digit. -/
def isAlnum (c : Char) : Bool :=
  isLetter c || isDigit c

/-- An ASCII letter in lower case; any other character as it is. -/
def lowerChar (c : Char) : Char :=
  if 'A' ≤ c && c ≤ 'Z' then Char.ofNat (c.toNat + 32) else c

/-- An ASCII letter in upper case; any other character as it is. -/
def upperChar (c : Char) : Char :=
  if 'a' ≤ c && c ≤ 'z' then Char.ofNat (c.toNat - 32) else c

/-- The text with its ASCII letters in lower case. -/
def lower (s : String) : String :=
  String.ofList (s.toList.map lowerChar)

/-- The text with its ASCII letters in upper case. -/
def upper (s : String) : String :=
  String.ofList (s.toList.map upperChar)

/-! ## Lists of characters -/

/-- What follows `head`, if the characters start with it. -/
def dropHead? : List Char → List Char → Option (List Char)
  | [], cs => some cs
  | _ :: _, [] => none
  | h :: hs, c :: cs => if h == c then dropHead? hs cs else none

/-- The characters start with the given ones. -/
def startsWith (head cs : List Char) : Bool :=
  (dropHead? head cs).isSome

/-- What stands before the first occurrence of a character, and what follows
it; `none` if it does not occur. -/
def splitFirst (sep : Char) : List Char → Option (List Char × List Char)
  | [] => none
  | c :: cs =>
    if c == sep then some ([], cs)
    else (splitFirst sep cs).map fun (before, after) => (c :: before, after)

/-- The parts between the occurrences of a character; always at least one. -/
def splitAll (sep : Char) : List Char → List (List Char)
  | [] => [[]]
  | c :: cs =>
    match splitAll sep cs with
    | [] => [[c]]
    | part :: parts => if c == sep then [] :: part :: parts else (c :: part) :: parts

/-- The texts with a separator between them. -/
def join (sep : String) (parts : List String) : String :=
  String.intercalate sep parts

/-- Lexicographic order of texts by code points, which is also their byte
order in UTF-8. -/
def charsLt : List Char → List Char → Bool
  | _, [] => false
  | [], _ :: _ => true
  | a :: as, b :: bs => a.toNat < b.toNat || (a == b && charsLt as bs)

/-- Byte order of texts. -/
def lt (a b : String) : Bool :=
  charsLt a.toList b.toList

/-! ## UTF-8 lengths -/

/-- How many bytes a character takes in UTF-8. -/
def utf8Width (c : Char) : Nat :=
  let n := c.toNat
  if n < 0x80 then 1 else if n < 0x800 then 2 else if n < 0x10000 then 3 else 4

/-- How many bytes the characters take in UTF-8. -/
def utf8Length (cs : List Char) : Nat :=
  cs.foldl (fun n c => n + utf8Width c) 0

/-- The bytes of a character in UTF-8. -/
def utf8Char (c : Char) : List Nat :=
  let n := c.toNat
  if n < 0x80 then [n]
  else if n < 0x800 then [0xC0 + n / 64, 0x80 + n % 64]
  else if n < 0x10000 then [0xE0 + n / 4096, 0x80 + n / 64 % 64, 0x80 + n % 64]
  else [0xF0 + n / 262144, 0x80 + n / 4096 % 64, 0x80 + n / 64 % 64, 0x80 + n % 64]

/-- The bytes of a text in UTF-8. -/
def utf8 (cs : List Char) : List Nat :=
  cs.flatMap utf8Char

end QueryGateway.Text
