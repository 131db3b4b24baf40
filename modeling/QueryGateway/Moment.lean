import QueryGateway.Text

/-!
# Moments

Points in time as a calendar and a clock show them: a date of the Gregorian
calendar, which goes on before its introduction and has a year zero, and a time of
day to the nanosecond. A leap second is second 60 of its minute.
-/

namespace QueryGateway

open Text

/-! ## Dates -/

/-- A day of the calendar. -/
structure Date where
  year : Int
  month : Nat
  day : Nat
  deriving DecidableEq, Repr

namespace Date

/-- A year with a 29th of February. -/
def isLeap (year : Int) : Bool :=
  year % 4 == 0 && (year % 100 != 0 || year % 400 == 0)

/-- How many days a month has. -/
def daysIn (year : Int) (month : Nat) : Nat :=
  if month == 2 then (if isLeap year then 29 else 28)
  else if month == 4 || month == 6 || month == 9 || month == 11 then 30
  else 31

/-- The first year that is kept. -/
def minYear : Int := -262143

/-- The last year that is kept. -/
def maxYear : Int := 262142

/-- The calendar has the date, in a year that is kept. -/
def isValid (d : Date) : Bool :=
  minYear ≤ d.year && d.year ≤ maxYear && 1 ≤ d.month && d.month ≤ 12
    && 1 ≤ d.day && d.day ≤ daysIn d.year d.month

/-- The day after. -/
def next (d : Date) : Date :=
  if d.day < daysIn d.year d.month then ⟨d.year, d.month, d.day + 1⟩
  else if d.month < 12 then ⟨d.year, d.month + 1, 1⟩
  else ⟨d.year + 1, 1, 1⟩

/-- The day before. -/
def previous (d : Date) : Date :=
  if 1 < d.day then ⟨d.year, d.month, d.day - 1⟩
  else if 1 < d.month then ⟨d.year, d.month - 1, daysIn d.year (d.month - 1)⟩
  else ⟨d.year - 1, 12, 31⟩

end Date

/-! ## Moments -/

/-- A date and a time of day. -/
structure Moment where
  date : Date
  hour : Nat
  minute : Nat
  second : Nat
  nano : Nat
  deriving DecidableEq, Repr

namespace Moment

/-- The moment so many minutes later on the clock, less than a day; `none` if the
date is out of the years that are kept. -/
def addMinutes (delta : Int) (t : Moment) : Option Moment :=
  let m : Int := (t.hour * 60 + t.minute : Nat) + delta
  let (date, m) :=
    if m < 0 then (t.date.previous, m + 1440)
    else if m ≥ 1440 then (t.date.next, m - 1440)
    else (t.date, m)
  if date.isValid then some ⟨date, m.toNat / 60, m.toNat % 60, t.second, t.nano⟩ else none

/-- The moment one second later, where no second is a leap second. -/
def tick (t : Moment) : Moment :=
  if t.second < 59 then ⟨t.date, t.hour, t.minute, t.second + 1, t.nano⟩
  else if t.minute < 59 then ⟨t.date, t.hour, t.minute + 1, 0, t.nano⟩
  else if t.hour < 23 then ⟨t.date, t.hour + 1, 0, 0, t.nano⟩
  else ⟨t.date.next, 0, 0, 0, t.nano⟩

/-- The parts of a moment, the largest first. -/
def parts (t : Moment) : List Int :=
  [t.date.year, t.date.month, t.date.day, t.hour, t.minute, t.second, t.nano]

/-- Lexicographic order. -/
def partsLe : List Int → List Int → Bool
  | a :: as, b :: bs => a < b || (a == b && partsLe as bs)
  | _, _ => true

/-- One moment is not later than another. -/
def le (s t : Moment) : Bool := partsLe s.parts t.parts

/-! ## Text -/

/-- A year: four digits, and a sign with those that need more or lie before year
zero. -/
def yearText (year : Int) : String :=
  if 0 ≤ year && year ≤ 9999 then padded 4 year.toNat
  else (if year < 0 then "-" else "+") ++ padded 4 year.natAbs

/-- A fraction of a second in three, six or nine digits, the fewest that hold it;
nothing if it is zero. -/
def fractionText (nano : Nat) : String :=
  if nano == 0 then ""
  else if nano % 1000000 == 0 then "." ++ padded 3 (nano / 1000000)
  else if nano % 1000 == 0 then "." ++ padded 6 (nano / 1000)
  else "." ++ padded 9 nano

/-- A moment without a zone. -/
def text (t : Moment) : String :=
  yearText t.date.year ++ "-" ++ padded 2 t.date.month ++ "-" ++ padded 2 t.date.day
    ++ "T" ++ padded 2 t.hour ++ ":" ++ padded 2 t.minute ++ ":" ++ padded 2 t.second
    ++ fractionText t.nano

/-- A moment of universal time, with its zone as an offset. -/
def offsetText (t : Moment) : String := t.text ++ "+00:00"

/-- A moment of universal time, with its zone as a letter. -/
def zuluText (t : Moment) : String := t.text ++ "Z"

end Moment

end QueryGateway
