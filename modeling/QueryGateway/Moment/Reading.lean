import QueryGateway.Moment

/-!
# Reading moments

A moment is read along a pattern, a list of parts. Numbers may have blanks in front
of them and fewer digits than usual. What a pattern reads are fields; a moment is
made of them at the end, so a date that the calendar does not have is noticed after
everything else.
-/

namespace QueryGateway

open Text

/-- Why a text is no moment. -/
inductive MomentFault
  | outOfRange
  | impossible
  | invalid
  | tooShort
  | tooLong
  /-- A zone is needed and not given. -/
  | notEnough
  deriving DecidableEq, Repr

/-- The message of a fault. -/
def MomentFault.message : MomentFault → String
  | outOfRange => "input is out of range"
  | impossible => "no possible date and time matching input"
  | invalid => "input contains invalid characters"
  | tooShort => "premature end of input"
  | tooLong => "trailing input"
  | notEnough => "input is not enough for unique date and time"

namespace Moment

/-- A part of a pattern. -/
inductive Part
  | year
  | month
  | day
  | hour
  | minute
  | second
  /-- A point and digits, or nothing. -/
  | fraction
  /-- White space, or nothing. -/
  | space
  | literal (c : Char)
  /-- An offset from universal time, perhaps a `Z` for it, perhaps without its
  minutes. -/
  | zone (zulu bareHours : Bool)
  deriving DecidableEq, Repr

/-- What has been read. The offset is in seconds. -/
structure Fields where
  moment : Moment
  offset : Option Int

/-- Nothing read yet. -/
def noFields : Fields := ⟨⟨⟨0, 1, 1⟩, 0, 0, 0, 0⟩, none⟩

/-! ## Numbers -/

/-- The number of the digits in front, of which there is at least one and at most
the given number is read. -/
def readNumber (width : Nat) (cs : List Char) : Except MomentFault (Nat × List Char) :=
  match cs with
  | [] => .error .tooShort
  | c :: _ =>
    if isDigit c then
      let ds := (cs.take width).takeWhile isDigit
      .ok ((numeralFrom 10 digit? 0 ds).getD 0, cs.drop ds.length)
    else .error .invalid

/-- A number between two bounds. -/
def readBetween (lo hi : Nat) (cs : List Char) : Except MomentFault (Nat × List Char) := do
  let (n, rest) ← readNumber 2 (cs.dropWhile isBlank)
  if lo ≤ n && n ≤ hi then .ok (n, rest) else .error .outOfRange

/-- A year in 32 bits. -/
def boundedYear (y : Int) : Except MomentFault Int :=
  if -2147483648 ≤ y && y ≤ 2147483647 then .ok y else .error .outOfRange

/-- A year: four digits, or a sign and any number of digits. -/
def readYear (cs : List Char) : Except MomentFault (Int × List Char) :=
  match cs.dropWhile isBlank with
  | '-' :: cs => do
    let (n, rest) ← readNumber cs.length cs
    return (← boundedYear (-(n : Int)), rest)
  | '+' :: cs => do
    let (n, rest) ← readNumber cs.length cs
    return (← boundedYear n, rest)
  | cs => do
    let (n, rest) ← readNumber 4 cs
    return (← boundedYear n, rest)

/-- Nanoseconds: nine digits count, those behind them are passed over. -/
def readNanos (cs : List Char) : Except MomentFault (Nat × List Char) := do
  let (n, _) ← readNumber 9 cs
  let digits := cs.takeWhile isDigit
  return (n * Nat.pow 10 (9 - digits.length), cs.drop digits.length)

/-! ## Zones -/

/-- Two digits, where two bytes are looked at. -/
def twoDigits : List Char → Except MomentFault (Nat × Nat)
  | [] => .error .tooShort
  | [c] => if utf8Width c < 2 then .error .tooShort else .error .invalid
  | a :: b :: _ =>
    match digit? a, digit? b with
    | some x, some y => .ok (x, y)
    | _, _ => .error .invalid

/-- The sign of an offset, negative or not. -/
def zoneSign : List Char → Except MomentFault (Bool × List Char)
  | [] => .error .tooShort
  | c :: cs =>
    if c == '+' then .ok (false, cs)
    else if c == '-' || c == '\u2212' then .ok (true, cs)
    else .error .invalid

/-- The minutes of an offset. -/
def zoneMinutes (bareHours : Bool) (cs : List Char) : Except MomentFault (Nat × List Char) :=
  match twoDigits cs with
  | .ok (x, y) => if x ≤ 5 then .ok (x * 10 + y, cs.drop 2) else .error .outOfRange
  | .error .tooShort => if bareHours && cs.isEmpty then .ok (0, []) else .error .tooShort
  | .error e => .error e

/-- An offset in seconds. Colons and blanks may stand between hours and minutes. -/
def readZone (zulu bareHours : Bool) (cs : List Char) : Except MomentFault (Int × List Char) :=
  match cs, zulu with
  | 'Z' :: rest, true => .ok (0, rest)
  | 'z' :: rest, true => .ok (0, rest)
  | _, _ => do
    let (negative, cs) ← zoneSign cs
    let (x, y) ← twoDigits cs
    let (minutes, rest) ← zoneMinutes bareHours ((cs.drop 2).dropWhile fun c => c == ':' || isBlank c)
    let seconds : Int := ((x * 10 + y) * 3600 + minutes * 60 : Nat)
    return (if negative then -seconds else seconds, rest)

/-! ## Patterns -/

/-- Reads one part. -/
def readPart (part : Part) (f : Fields) (cs : List Char) : Except MomentFault (Fields × List Char) :=
  let t := f.moment
  match part with
  | .year => do
    let (y, rest) ← readYear cs
    return (⟨{ t with date := { t.date with year := y } }, f.offset⟩, rest)
  | .month => do
    let (n, rest) ← readBetween 1 12 cs
    return (⟨{ t with date := { t.date with month := n } }, f.offset⟩, rest)
  | .day => do
    let (n, rest) ← readBetween 1 31 cs
    return (⟨{ t with date := { t.date with day := n } }, f.offset⟩, rest)
  | .hour => do
    let (n, rest) ← readBetween 0 23 cs
    return (⟨{ t with hour := n }, f.offset⟩, rest)
  | .minute => do
    let (n, rest) ← readBetween 0 59 cs
    return (⟨{ t with minute := n }, f.offset⟩, rest)
  | .second => do
    let (n, rest) ← readBetween 0 60 cs
    return (⟨{ t with second := n }, f.offset⟩, rest)
  | .fraction =>
    match cs with
    | '.' :: ds => do
      let (n, rest) ← readNanos ds
      return (⟨{ t with nano := n }, f.offset⟩, rest)
    | _ => .ok (f, cs)
  | .space => .ok (f, cs.dropWhile isBlank)
  | .literal c =>
    match cs with
    | [] => .error .tooShort
    | d :: rest => if c == d then .ok (f, rest) else .error .invalid
  | .zone zulu bareHours => do
    let (offset, rest) ← readZone zulu bareHours (cs.dropWhile isBlank)
    return (⟨t, some offset⟩, rest)

/-- Reads the parts of a pattern one after the other. -/
def readParts : List Part → Fields → List Char → Except MomentFault (Fields × List Char)
  | [], f, cs => .ok (f, cs)
  | p :: ps, f, cs => do
    let (f, rest) ← readPart p f cs
    readParts ps f rest

/-- Reads a whole text along a pattern. -/
def readFields (pattern : List Part) (text : String) : Except MomentFault Fields := do
  let (f, rest) ← readParts pattern noFields text.toList
  if rest.isEmpty then .ok f else .error .tooLong

/-! ## Moments -/

/-- The moment of the fields as the clock shows it, whatever the zone. -/
def Fields.localMoment (f : Fields) : Except MomentFault Moment :=
  if f.moment.date.isValid then .ok f.moment else .error .outOfRange

/-- The moment of the fields in universal time. -/
def Fields.universal (f : Fields) : Except MomentFault Moment :=
  match f.offset with
  | none => .error .notEnough
  | some offset => do
    let t ← f.localMoment
    if -86400 < offset && offset < 86400 then
      match t.addMinutes (-(offset / 60)) with
      | some u => .ok u
      | none => .error .impossible
    else .error .outOfRange

/-- A date: year, month and day with dashes. -/
def datePattern : List Part :=
  [.year, .literal '-', .month, .literal '-', .day]

/-- A time of day with seconds and perhaps a fraction. -/
def clockPattern : List Part :=
  [.hour, .literal ':', .minute, .literal ':', .second, .fraction]

/-! ## The exchange format -/

/-- What stands in front of the zone, with blanks around its parts. -/
def relaxedClock : List Part :=
  [.hour, .space, .literal ':', .minute, .space, .literal ':', .second, .fraction, .space]

/-- A date with blanks around its parts. -/
def relaxedDate : List Part :=
  [.year, .space, .literal '-', .month, .space, .literal '-', .day]

/-- The sign between date and time. -/
def readDivider : List Char → Except MomentFault (List Char)
  | [] => .error .tooShort
  | c :: cs => if c == 't' || c == 'T' || c == ' ' then .ok cs else .error .invalid

/-- A zone as `UTC`, as a letter or as an offset. -/
def readNamedZone (cs : List Char) : Except MomentFault (Int × List Char) :=
  if (cs.take 3).map upperChar == ['U', 'T', 'C'] then .ok (0, cs.drop 3)
  else readZone true false cs

/-- A date, a time and a zone, read leniently, in universal time. -/
def parseRelaxed (text : String) : Except MomentFault Moment := do
  let (f, cs) ← readParts relaxedDate noFields text.toList
  let cs ← readDivider cs
  let (f, cs) ← readParts relaxedClock f cs
  let (offset, rest) ← readNamedZone cs
  if (rest.dropWhile isBlank).isEmpty then (⟨f.moment, some offset⟩ : Fields).universal
  else .error .tooLong

/-- The characters match a form, in which `d` is a digit, `T` the divider and any
other character itself; what follows them. -/
def matchForm : List Char → List Char → Option (List Char)
  | [], cs => some cs
  | _ :: _, [] => none
  | f :: fs, c :: cs =>
    let fits := if f == 'd' then isDigit c else if f == 'T' then c == 't' || c == 'T' || c == ' ' else f == c
    if fits then matchForm fs cs else none

/-- The rest of a text in the strict form, behind the seconds: perhaps a fraction,
and a zone. -/
def strictTail (cs : List Char) : Bool :=
  let cs := match cs with
    | '.' :: ds => if (ds.takeWhile isDigit).isEmpty then ['.'] else ds.dropWhile isDigit
    | cs => cs
  match cs with
  | [c] => c == 'z' || c == 'Z'
  | c :: ds => (c == '+' || c == '-' || c == '\u2212') && matchForm "dd:dd".toList ds == some []
  | [] => false

/-- A date, a time and a zone in the strict form, in universal time. -/
def parseStrict (text : String) : Option Moment :=
  match matchForm "dddd-dd-ddTdd:dd:dd".toList text.toList with
  | some tail => if strictTail tail then (parseRelaxed text).toOption else none
  | none => none

end Moment

end QueryGateway
