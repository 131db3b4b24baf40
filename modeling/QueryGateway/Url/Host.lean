import QueryGateway.Text.Utf8

/-!
# Hosts

The hosts of URLs. The schemes of the web have hosts that are domains or addresses:
a domain is put into its ASCII form, and a host that ends in a number is an address
of version 4. Any other scheme has opaque hosts, which stay as they are. An address
of version 6 in brackets is a host of every scheme.
-/

namespace QueryGateway.Url

open Text

/-! ## Sets of characters -/

/-- Control characters. -/
def isControl (c : Char) : Bool := c.toNat < 0x20 || c.toNat == 0x7F

/-- Characters that no opaque host may hold. -/
def forbiddenInHost (c : Char) : Bool :=
  ['\x00', '\t', '\n', '\x0d', ' ', '#', '/', ':', '<', '>', '?', '@', '[', '\\', ']', '^', '|'].contains c

/-- Characters that no domain may hold. -/
def forbiddenInDomain (c : Char) : Bool :=
  c.toNat ≤ 0x20 || c.toNat == 0x7F
    || ['%', '#', '/', ':', '<', '>', '?', '@', '[', '\\', ']', '^', '|'].contains c

/-! ## Addresses of version 6 -/

/-- A group of an address: one to four hexadecimal digits. -/
def group? (cs : List Char) : Option Nat :=
  if cs.length ≤ 4 then hexadecimal? cs else none

/-- A part of a dotted address: a number up to 255 without zeros in front. -/
def dottedPart? (cs : List Char) : Option Nat :=
  match cs with
  | '0' :: _ :: _ => none
  | cs => (decimal? cs).bind fun n => if cs.length ≤ 3 && n ≤ 255 then some n else none

/-- The two groups of a dotted address. -/
def dottedGroups? (cs : List Char) : Option (List Nat) :=
  match (splitAll '.' cs).map dottedPart? with
  | [some a, some b, some c, some d] => some [a * 256 + b, c * 256 + d]
  | _ => none

/-- Groups with colons between them. The last may be a dotted address. -/
def groups? : List (List Char) → Option (List Nat)
  | [] => some []
  | [last] =>
    if last.contains '.' then dottedGroups? last else (group? last).map fun n => [n]
  | g :: gs => do
    let n ← group? g
    let ns ← groups? gs
    return n :: ns

/-- Groups with colons between them, or none at all. -/
def groupRun? (cs : List Char) : Option (List Nat) :=
  if cs.isEmpty then some [] else groups? (splitAll ':' cs)

/-- What stands in front of two colons, and what follows them. -/
def splitGap : List Char → Option (List Char × List Char)
  | ':' :: ':' :: cs => some ([], cs)
  | c :: cs => (splitGap cs).map fun (before, after) => (c :: before, after)
  | [] => none

/-- The eight groups of an address. Two colons stand for one group of zero or
more. -/
def address6? (cs : List Char) : Option (List Nat) :=
  match splitGap cs with
  | some (before, after) => do
    let head ← if before.contains '.' then none else groupRun? before
    let tail ← groupRun? after
    if head.length + tail.length ≤ 7 then
      some (head ++ List.replicate (8 - head.length - tail.length) 0 ++ tail)
    else none
  | none => do
    let all ← groupRun? cs
    if all.length == 8 then some all else none

/-- How many zeros stand in front. -/
def zeroRun (ns : List Nat) : Nat := (ns.takeWhile (· == 0)).length

/-- The first of the longest rows of zeros: where it starts and how long it is. -/
def longestRun : Nat → List Nat → Nat × Nat
  | _, [] => (0, 0)
  | i, n :: ns =>
    let here := zeroRun (n :: ns)
    let later := longestRun (i + 1) ns
    if here ≥ later.2 then (i, here) else later

/-- Groups in hexadecimal digits with colons. -/
def groupsText (ns : List Nat) : String := join ":" (ns.map (hexText false))

/-- An address in brackets, with the longest row of at least two zeros left out. -/
def address6Text (ns : List Nat) : String :=
  let (start, length) := longestRun 0 ns
  if length < 2 then "[" ++ groupsText ns ++ "]"
  else "[" ++ groupsText (ns.take start) ++ "::" ++ groupsText (ns.drop (start + length)) ++ "]"

/-! ## Addresses of version 4 -/

/-- A number of an address, decimal, octal behind a zero or hexadecimal behind
`0x`. -/
def number4? (cs : List Char) : Option Nat :=
  match cs with
  | [] => none
  | '0' :: 'x' :: ds => numeralFrom 16 hexDigit? 0 ds
  | '0' :: 'X' :: ds => numeralFrom 16 hexDigit? 0 ds
  | '0' :: d :: ds =>
    numeralFrom 8 (fun c => (digit? c).filter (· < 8)) 0 (d :: ds)
  | ds => decimal? ds

/-- The parts of a domain, without an empty one at the end. -/
def domainParts (cs : List Char) : List (List Char) :=
  let parts := splitAll '.' cs
  match parts.reverse with
  | [] :: _ :: _ => parts.dropLast
  | _ => parts

/-- The last part of a domain is a number. -/
def endsInNumber (cs : List Char) : Bool :=
  match (domainParts cs).getLast? with
  | some last => (!last.isEmpty && last.all isDigit) || (number4? last).isSome
  | none => false

/-- The number of an address from its parts: each is a byte but the last, which
holds all the rest. -/
def address4? (cs : List Char) : Option Nat := do
  let numbers ← (domainParts cs).mapM number4?
  let last ← numbers.getLast?
  let front := numbers.dropLast
  if numbers.length ≤ 4 && front.all (· ≤ 255) && last < Nat.pow 256 (4 - front.length) then
    let high := front.foldl (fun n b => n * 256 + b) 0
    some (high * Nat.pow 256 (4 - front.length) + last)
  else none

/-- An address as four bytes with dots. -/
def address4Text (n : Nat) : String :=
  join "." ([n / 16777216, n / 65536 % 256, n / 256 % 256, n % 256].map toString)

/-! ## Domains -/

/-- A character of a domain as it is compared: in lower case, and the forms of full
width as the usual ones. -/
def foldChar (c : Char) : List Char :=
  let n := c.toNat
  if n == 0xAD then []
  else if n == 0x3002 || n == 0xFF61 then ['.']
  else if 0xFF01 ≤ n && n ≤ 0xFF5E then [lowerChar (Char.ofNat (n - 0xFEE0))]
  else if (0xC0 ≤ n && n ≤ 0xDE && n != 0xD7) || (0x391 ≤ n && n ≤ 0x3A9) || (0x410 ≤ n && n ≤ 0x42F) then
    [Char.ofNat (n + 32)]
  else if 0x400 ≤ n && n ≤ 0x40F then [Char.ofNat (n + 80)]
  else [lowerChar c]

/-- How the ASCII form of a label adapts to the distances of its characters. -/
def adaptBias : Nat → Nat → Nat → Nat
  | 0, _, k => k
  | fuel + 1, delta, k =>
    if delta > 455 then adaptBias fuel (delta / 35) (k + 36) else k + 36 * delta / (delta + 38)

/-- A digit of base 36: a letter, or a figure behind the letters. -/
def base36 (d : Nat) : Char := if d < 26 then Char.ofNat (97 + d) else Char.ofNat (22 + d)

/-- A distance in digits of base 36 with the thresholds of a bias. -/
def distanceDigits : Nat → Nat → Nat → Nat → List Char
  | 0, _, _, _ => []
  | fuel + 1, q, k, bias =>
    let t := if k ≤ bias then 1 else if k ≥ bias + 26 then 26 else k - bias
    if q < t then [base36 q]
    else base36 (t + (q - t) % (36 - t)) :: distanceDigits fuel ((q - t) / (36 - t)) (k + 36) bias

/-- What the encoder of a label holds: the distance since the last character, the
bias, and how many characters are done. -/
structure LabelState where
  delta : Nat
  bias : Nat
  handled : Nat
  output : List Char

/-- One character of a label on the way to the code point `n`. -/
def labelChar (n basics : Nat) (s : LabelState) (c : Nat) : LabelState :=
  if c < n then { s with delta := s.delta + 1 }
  else if c == n then
    let digits := distanceDigits 20 s.delta 36 s.bias
    let scaled := if s.handled == basics then s.delta / 700 else s.delta / 2
    let bias := adaptBias 20 (scaled + scaled / (s.handled + 1)) 0
    ⟨0, bias, s.handled + 1, s.output ++ digits⟩
  else s

/-- The label's code points beyond ASCII from the least on. -/
def labelPoints : Nat → Nat → Nat → List Nat → LabelState → LabelState
  | 0, _, _, _, s => s
  | fuel + 1, n, basics, points, s =>
    match (points.filter (· ≥ n)).min? with
    | none => s
    | some m =>
      let s := { s with delta := s.delta + (m - n) * (s.handled + 1) }
      let s := points.foldl (labelChar m basics) s
      labelPoints fuel (m + 1) basics points { s with delta := s.delta + 1 }

/-- The ASCII form of a label. -/
def asciiLabel (label : List Char) : List Char :=
  let points := label.map Char.toNat
  if points.all (· < 0x80) then label
  else
    let basics := label.filter fun c => c.toNat < 0x80
    let start := if basics.isEmpty then [] else basics ++ ['-']
    let s := labelPoints (label.length + 1) 0x80 basics.length points ⟨0, 72, basics.length, start⟩
    ['x', 'n', '-', '-'] ++ s.output

/-- The ASCII form of a domain. -/
def asciiDomain? (cs : List Char) : Option (List Char) := do
  let decoded ← (percentDecode cs).toOption
  let folded := decoded.flatMap foldChar
  if folded.any forbiddenInDomain then none
  else
    let labels := (splitAll '.' folded).map asciiLabel
    some (List.intercalate ['.'] labels)

/-! ## Hosts -/

/-- An address of version 6 behind an opening bracket. -/
def bracketed? (cs : List Char) : Option String :=
  match cs.reverse with
  | ']' :: inside => (address6? inside.reverse).map address6Text
  | _ => none

/-- The host of a scheme of the web. -/
def webHost? (cs : List Char) : Option String :=
  match cs with
  | '[' :: rest => bracketed? rest
  | cs => do
    let domain ← asciiDomain? cs
    if domain.isEmpty then none
    else if endsInNumber domain then (address4? domain).map address4Text
    else some (String.ofList domain)

/-- The host of any other scheme. -/
def opaqueHost? (cs : List Char) : Option String :=
  match cs with
  | '[' :: rest => bracketed? rest
  | cs =>
    if cs.any forbiddenInHost then none
    else some (String.ofList (percentEncode isControl cs))

end QueryGateway.Url
