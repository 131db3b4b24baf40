import QueryGateway.Text

/-!
# Dates and times of TOML

`momentFault?` says what is wrong with a word that starts like a date or a time: a
date, a time, or both with an offset from universal time or without one. No setting
of the gateway is a time, so that nothing is made of the parts.
-/

namespace QueryGateway.Toml

open Text

/-- What is wrong with a date or a time: the part, and what is expected there. -/
structure MomentFault where
  part : Option String
  expected : Option String
  deriving DecidableEq, Repr

/-- The message of a fault. -/
def MomentFault.message (f : MomentFault) : String :=
  "invalid " ++ f.part.getD "datetime" ++
    (match f.expected with
    | some what => ", expected " ++ what
    | none => "")

/-- A check of the characters that are left. -/
abbrev MomentCheck (α : Type) := Except MomentFault α

/-- A refusal of a part. -/
def refusePart {α : Type} (part expected : String) : MomentCheck α :=
  .error ⟨some part, some expected⟩

/-- Takes digits. -/
def takeDigits (part expected : String) (cs : List Char) : MomentCheck (List Char × List Char) :=
  match cs.takeWhile isDigit with
  | [] => refusePart part expected
  | ds => .ok (ds, cs.dropWhile isDigit)

/-- Takes one character. -/
def takeMark (mark : Char) (part expected : String) : List Char → MomentCheck (List Char)
  | c :: cs => if c == mark then .ok cs else refusePart part expected
  | [] => refusePart part expected

/-- A number of so many digits. -/
def fixedNumber (digits : Nat) (part expected : String) (ds : List Char) : MomentCheck Nat :=
  if ds.length != digits then refusePart part expected else .ok ((decimal? ds).getD 0)

/-- A condition on a part. -/
def require (condition : Bool) (part expected : String) : MomentCheck Unit :=
  if condition then .ok () else refusePart part expected

/-- How many days a month has. -/
def monthDays (year month : Nat) : Nat :=
  if month == 2 then
    if (year % 4 == 0 && year % 100 != 0) || year % 400 == 0 then 29 else 28
  else if [4, 6, 9, 11].contains month then 30
  else 31

/-- Checks a date whose year has been taken, up to its last digit. -/
def checkDate (year : List Char) (cs : List Char) : MomentCheck (List Char) := do
  let (month, cs) ← takeDigits "date" "month" cs
  let cs ← takeMark '-' "date" "`-` (MM-DD)" cs
  let (day, cs) ← takeDigits "date" "day" cs
  let y ← fixedNumber 4 "date" "a four-digit year (YYYY)" year
  let m ← fixedNumber 2 "date" "a two-digit month (MM)" month
  let d ← fixedNumber 2 "date" "a two-digit day (DD)" day
  require (1 ≤ m && m ≤ 12) "date" "month between 01 and 12"
  let days := monthDays y m
  require (1 ≤ d && d ≤ days) "date" ("day between 01 and " ++ toString days)
  .ok cs

/-- Takes the seconds of a time and their fraction, if there are any. -/
def takeSeconds (cs : List Char) : MomentCheck (Option (List Char) × List Char) :=
  match cs with
  | ':' :: cs => do
    let (second, cs) ← takeDigits "time" "second" cs
    match cs with
    | '.' :: cs =>
      let (_, cs) ← takeDigits "time" "nanosecond" cs
      .ok (some second, cs)
    | cs => .ok (some second, cs)
  | cs => .ok (none, cs)

/-- Checks a time, up to its last digit. -/
def checkTime (cs : List Char) : MomentCheck (List Char) := do
  let (hour, cs) ← takeDigits "time" "hour" cs
  let cs ← takeMark ':' "time" "`:` (HH:MM)" cs
  let (minute, cs) ← takeDigits "time" "minute" cs
  let (second, cs) ← takeSeconds cs
  let h ← fixedNumber 2 "time" "a two-digit hour (HH)" hour
  let m ← fixedNumber 2 "time" "a two-digit minute (MM)" minute
  let s ← fixedNumber 2 "time" "a two-digit second (SS)" (second.getD ['0', '0'])
  require (h ≤ 23) "time" "hour between 00 and 23"
  require (m ≤ 59) "time" "minute between 00 and 59"
  require (s ≤ 60) "time" "second between 00 and 60"
  .ok cs

/-- Checks an offset from universal time, if there is one. -/
def checkOffset : List Char → MomentCheck (List Char)
  | [] => .ok []
  | c :: cs => do
    if c == 'Z' || c == 'z' then .ok cs
    else if c == '+' || c == '-' then
      let (hours, cs) ← takeDigits "offset" "hour" cs
      let cs ← takeMark ':' "offset" "`:` (HH:MM)" cs
      let (minutes, cs) ← takeDigits "offset" "minute" cs
      let h ← fixedNumber 2 "offset" "a two-digit hour (HH)" hours
      let m ← fixedNumber 2 "offset" "a two-digit minute (MM)" minutes
      require (h ≤ 23) "offset" "hours between 00 and 23"
      require (m ≤ 59) "offset" "minutes between 00 and 59"
      .ok cs
    else refusePart "offset" "`Z`, +OFFSET, -OFFSET"

/-- Checks a word that starts with digits. -/
def checkMoment (cs : List Char) : MomentCheck Unit := do
  let ends (rest : List Char) : MomentCheck Unit :=
    if rest.isEmpty then .ok () else .error ⟨none, none⟩
  match cs.takeWhile isDigit, cs.dropWhile isDigit with
  | year, '-' :: rest =>
    let rest ← checkDate year rest
    match rest with
    | [] => .ok ()
    | c :: rest =>
      require (c == 'T' || c == 't' || c == ' ') "date-time" "`T` between date and time"
      ends (← checkOffset (← checkTime rest))
  | _, ':' :: _ => ends (← checkTime cs)
  | _, _ => .error ⟨none, some "`-` (YYYY-MM) or `:` (HH:MM)"⟩

/-- What is wrong with a date or a time; nothing if it is one. -/
def momentFault? (cs : List Char) : Option MomentFault :=
  match checkMoment cs with
  | .ok () => none
  | .error f => some f

end QueryGateway.Toml
