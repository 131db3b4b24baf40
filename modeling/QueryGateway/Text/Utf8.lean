import QueryGateway.Text

/-!
# UTF-8

Bytes as text. A byte sequence that is no text is refused at its first bad byte. The
fault says how many bytes there are wrong together, or that the sequence is cut off
at the end.
-/

namespace QueryGateway.Text

/-- Where bytes are no UTF-8: the index of the first bad sequence and its length,
absent if the bytes end inside of it. -/
structure Utf8Fault where
  index : Nat
  length : Option Nat
  deriving DecidableEq, Repr

/-- The message of a fault. -/
def Utf8Fault.message (f : Utf8Fault) : String :=
  match f.length with
  | some n => "invalid utf-8 sequence of " ++ toString n ++ " bytes from index " ++ toString f.index
  | none => "incomplete utf-8 byte sequence from index " ++ toString f.index

/-- A byte inside a sequence. -/
def isContinuation (b : Nat) : Bool := 0x80 ≤ b && b ≤ 0xBF

/-- The range of the second byte behind a first byte of three or four. -/
def secondRange (b : Nat) : Nat × Nat :=
  if b == 0xE0 then (0xA0, 0xBF)
  else if b == 0xED then (0x80, 0x9F)
  else if b == 0xF0 then (0x90, 0xBF)
  else if b == 0xF4 then (0x80, 0x8F)
  else (0x80, 0xBF)

/-- A byte may be the second behind another. -/
def fitsSecond (first second : Nat) : Bool :=
  (secondRange first).1 ≤ second && second ≤ (secondRange first).2

/-- The characters of bytes that stand behind so many others. -/
def decodeFrom (index : Nat) : List Nat → Except Utf8Fault (List Char)
  | [] => .ok []
  | a :: rest =>
    let bad (n : Nat) : Except Utf8Fault (List Char) := .error ⟨index, some n⟩
    let cut : Except Utf8Fault (List Char) := .error ⟨index, none⟩
    if a < 0x80 then (decodeFrom (index + 1) rest).map (Char.ofNat a :: ·)
    else if a < 0xC2 || a > 0xF4 then bad 1
    else
      match rest with
      | [] => cut
      | b :: rest =>
        if !fitsSecond a b then bad 1
        else if a < 0xE0 then
          (decodeFrom (index + 2) rest).map (Char.ofNat ((a - 0xC0) * 64 + (b - 0x80)) :: ·)
        else
          match rest with
          | [] => cut
          | c :: rest =>
            if !isContinuation c then bad 2
            else if a < 0xF0 then
              (decodeFrom (index + 3) rest).map
                (Char.ofNat ((a - 0xE0) * 4096 + (b - 0x80) * 64 + (c - 0x80)) :: ·)
            else
              match rest with
              | [] => cut
              | d :: rest =>
                if !isContinuation d then bad 3
                else
                  (decodeFrom (index + 4) rest).map
                    (Char.ofNat ((a - 0xF0) * 262144 + (b - 0x80) * 4096 + (c - 0x80) * 64 + (d - 0x80)) :: ·)

/-- The text of bytes. -/
def decodeUtf8 (bytes : List Nat) : Except Utf8Fault (List Char) := decodeFrom 0 bytes

/-! ## Percent signs -/

/-- Characters with escapes: those of a set, and all beyond ASCII, as their bytes
in hexadecimal digits behind percent signs. -/
def percentEncode (set : Char → Bool) (cs : List Char) : List Char :=
  cs.flatMap fun c =>
    if c.toNat ≥ 0x80 || set c then
      (utf8Char c).flatMap fun b => ['%', hexChar true (b / 16), hexChar true (b % 16)]
    else [c]

/-- The bytes of characters, where two hexadecimal digits behind a percent sign are
one byte. -/
def percentBytes : List Char → List Nat
  | '%' :: a :: b :: cs =>
    match hexDigit? a, hexDigit? b with
    | some x, some y => (x * 16 + y) :: percentBytes cs
    | _, _ => 0x25 :: percentBytes (a :: b :: cs)
  | c :: cs => utf8Char c ++ percentBytes cs
  | [] => []

/-- The text of characters with escapes. -/
def percentDecode (cs : List Char) : Except Utf8Fault (List Char) :=
  decodeUtf8 (percentBytes cs)

end QueryGateway.Text
