import QueryGateway.Postgres.Cell
import QueryGateway.Proofs.Moment.Order

/-!
# Timestamps of the server

The server writes a timestamp with a zone as it shows in that zone, and the gateway puts it into
universal time. Main statement: what comes out denotes the same instant, in one form, so that two
timestamps are the same text exactly if they are the same instant; and a timestamp that no calendar
or clock shows stays as it is.
-/

namespace QueryGateway.Postgres

open Moment Text

/-! ## What the server writes -/

/-- A timestamp with a zone: numbers of four and two digits, up to nine digits of a fraction, and an
offset of less than a day, whose minutes may be left out. -/
structure Stamp where
  year : Fin 10000
  month : Fin 100
  day : Fin 100
  hour : Fin 100
  minute : Fin 100
  second : Fin 100
  fraction : List (Fin 10)
  short : fraction.length ≤ 9
  behind : Bool
  zoneHour : Fin 24
  zoneMinute : Option (Fin 60)

namespace Stamp

variable (s : Stamp)

/-- The digits of the fraction. -/
def digits : List Char := s.fraction.map fun d => d.val.digitChar

/-- The point and the digits of the fraction, if there are any. -/
def fractionChars : List Char := if s.digits.isEmpty then [] else '.' :: s.digits

/-- The sign and the numbers of the offset. -/
def zoneChars : List Char :=
  (if s.behind then '-' else '+') :: ((padded 2 s.zoneHour).toList ++
    s.zoneMinute.elim [] fun m => ':' :: (padded 2 m).toList)

/-- The text `YYYY-MM-DD HH:MM:SS` with the fraction and the offset behind it. -/
def text : String :=
  padded 4 s.year ++ "-" ++ padded 2 s.month ++ "-" ++ padded 2 s.day ++ " " ++ padded 2 s.hour ++ ":"
    ++ padded 2 s.minute ++ ":" ++ padded 2 s.second ++ String.ofList s.fractionChars ++ String.ofList s.zoneChars

/-- The text in front of the offset: a timestamp without a zone. -/
def localText : String :=
  padded 4 s.year ++ "-" ++ padded 2 s.month ++ "-" ++ padded 2 s.day ++ " " ++ padded 2 s.hour ++ ":"
    ++ padded 2 s.minute ++ ":" ++ padded 2 s.second ++ String.ofList s.fractionChars

/-- The nanoseconds of the fraction. -/
def nano : Nat := Nat.ofDigitChars 10 s.digits 0 * 10 ^ (9 - s.digits.length)

/-- The moment as it shows in its zone. -/
def shown : Moment := ⟨⟨s.year, s.month, s.day⟩, s.hour, s.minute, s.second, s.nano⟩

/-- How many minutes the zone is ahead of universal time. -/
def offset : Int :=
  let minutes : Int := s.zoneHour * 60 + (s.zoneMinute.elim 0 fun m => (m : Nat) : Nat)
  if s.behind then -minutes else minutes

/-- The place of the instant among all nanoseconds. -/
def instant : Int := s.shown.instant - s.offset * 60 * 1000000000

/-- The numbers are within the bounds of a clock and of any calendar. -/
structure InRange : Prop where
  month : 1 ≤ (s.month : Nat) ∧ (s.month : Nat) ≤ 12
  day : 1 ≤ (s.day : Nat) ∧ (s.day : Nat) ≤ 31
  hour : 0 ≤ (s.hour : Nat) ∧ (s.hour : Nat) ≤ 23
  minute : 0 ≤ (s.minute : Nat) ∧ (s.minute : Nat) ≤ 59
  second : 0 ≤ (s.second : Nat) ∧ (s.second : Nat) ≤ 60

/-- The calendar has the day, in a year whose neighbours have four digits, and the clock has the time,
outside a leap second. -/
structure Proper : Prop where
  real : s.shown.IsReal
  year : 1 ≤ (s.year : Nat) ∧ (s.year : Nat) ≤ 9998
  second : (s.second : Nat) < 60

variable {s}

theorem toList_text : s.text.toList = s.localText.toList ++ s.zoneChars := by
  unfold text localText
  rw [String.toList_append, String.toList_ofList]

theorem toList_localText (rest : List Char) : s.localText.toList ++ rest =
    (padded 4 s.year).toList ++ '-' :: ((padded 2 s.month).toList ++ '-' :: ((padded 2 s.day).toList ++
      ' ' :: ((padded 2 s.hour).toList ++ ':' :: ((padded 2 s.minute).toList ++ ':' ::
        ((padded 2 s.second).toList ++ (s.fractionChars ++ rest)))))) := by
  unfold localText
  simp [String.toList_append]

theorem endsClock_zoneChars : EndsClock s.zoneChars := by
  refine ⟨_, _, rfl, ?_⟩
  cases s.behind
  · exact ⟨by decide, by decide, by decide⟩
  · exact ⟨by decide, by decide, by decide⟩

theorem offset_bounds : -1440 < s.offset ∧ s.offset < 1440 := by
  have hours := s.zoneHour.isLt
  have minutes : (s.zoneMinute.elim 0 fun m => (m : Nat)) < 60 := by
    cases s.zoneMinute with
    | none => decide
    | some m => exact m.isLt
  unfold offset
  dsimp only
  split <;> omega

/-! ## Reading it -/

theorem isDigit_of_mem_digits : ∀ c ∈ s.digits, isDigit c = true := by
  have all : ∀ d : Fin 10, isDigit d.val.digitChar = true := by decide
  intro c hc
  obtain ⟨d, -, rfl⟩ := List.mem_map.1 hc
  exact all d

theorem length_digits_le : s.digits.length ≤ 9 := Nat.le_trans (Nat.le_of_eq (List.length_map _)) s.short

theorem numeralFrom_digits : numeralFrom 10 digit? 0 s.digits = some (Nat.ofDigitChars 10 s.digits 0) :=
  numeralFrom_of_digits isDigit_of_mem_digits 0

theorem nano_lt : s.nano < 1000000000 := by
  have value := numeralFrom_lt_pow digit?_lt (numeralFrom_digits (s := s))
  rw [Nat.zero_add, Nat.one_mul] at value
  calc s.nano < 10 ^ s.digits.length * 10 ^ (9 - s.digits.length) :=
        Nat.mul_lt_mul_of_pos_right value (Nat.pow_pos (by decide))
    _ = 10 ^ 9 := by rw [← Nat.pow_add, Nat.add_sub_cancel' length_digits_le]

theorem readParts_fractionChars (ps : List Part) {f : Fields} (hf : f.moment.nano = 0) {rest : List Char}
    (hr : EndsFraction rest) :
    readParts (.fraction :: ps) f (s.fractionChars ++ rest) =
      readParts ps ⟨{ f.moment with nano := s.nano }, f.offset⟩ rest := by
  refine readParts_ok ?_
  by_cases none : s.digits = []
  · have zero : s.nano = f.moment.nano := by rw [nano, none, hf]; rfl
    rw [fractionChars, none, zero]
    cases rest with
    | nil => rfl
    | cons c cs => simp [readPart, (hr c rfl).2]
  · have read : readNanos (s.digits ++ rest) = .ok (s.nano, rest) :=
      readNanos_digits none isDigit_of_mem_digits length_digits_le numeralFrom_digits hr
    rw [fractionChars, if_neg (by simpa using none), List.cons_append]
    simp [readPart, read, bind, Except.bind, pure, Except.pure]

theorem readZone_zoneChars : readZone true true s.zoneChars = .ok (s.offset * 60, []) := by
  have zone : ∃ minutes, (s.zoneMinute.elim 0 fun m => (m : Nat)) = minutes ∧
      zoneMinutes true ((s.zoneMinute.elim [] fun m => ':' :: (padded 2 m).toList).dropWhile
        fun c => c == ':' || isBlank c) = Except.ok (minutes, []) := by
    cases s.zoneMinute with
    | none => exact ⟨0, rfl, rfl⟩
    | some m => exact ⟨m, rfl, zoneMinutes_padded true m.isLt⟩
  obtain ⟨minutes, value, read⟩ := zone
  have hours : (s.zoneHour : Nat) < 100 := by omega
  unfold zoneChars offset
  rw [value]
  cases s.behind with
  | true =>
    have minus : ∀ cs, zoneSign ('-' :: cs) = .ok (true, cs) := fun _ => rfl
    rw [if_pos rfl, readZone_hours minus (by decide) hours read]
    refine congrArg (fun seconds : Int => Except.ok (seconds, [])) ?_
    rw [if_pos rfl, if_pos rfl]
    omega
  | false =>
    have plus : ∀ cs, zoneSign ('+' :: cs) = .ok (false, cs) := fun _ => rfl
    rw [if_neg (by decide), readZone_hours plus (by decide) hours read]
    refine congrArg (fun seconds : Int => Except.ok (seconds, [])) ?_
    rw [if_neg (by decide), if_neg (by decide)]
    omega

/-- The blank between date and time is skipped. -/
theorem readParts_blank (ps : List Part) (f : Fields) (width n : Nat) (rest : List Char) :
    readParts (.space :: ps) f (' ' :: ((padded width n).toList ++ rest)) =
      readParts ps f ((padded width n).toList ++ rest) := by
  refine readParts_ok ?_
  show Except.ok (f, (' ' :: ((padded width n).toList ++ rest)).dropWhile isBlank) = _
  rw [List.dropWhile_cons_of_pos (by decide), dropWhile_blank_digits (padded_ne_nil width n) (padded_digits width n)]

theorem readParts_zoneChars (f : Fields) :
    readParts [.zone true true] f s.zoneChars = .ok (⟨f.moment, some (s.offset * 60)⟩, []) := by
  obtain ⟨c, cs, zone, -, -, blank⟩ := endsClock_zoneChars (s := s)
  have front : s.zoneChars.dropWhile isBlank = s.zoneChars := by
    rw [zone, List.dropWhile_cons_of_neg (by simp [blank])]
  have read : readPart (.zone true true) f s.zoneChars = .ok (⟨f.moment, some (s.offset * 60)⟩, []) := by
    simp [readPart, front, readZone_zoneChars, bind, Except.bind, pure, Except.pure]
  rw [readParts_ok read]
  rfl

/-- The parts of a timestamp, one after the other. -/
theorem timestampPattern_append (ps : List Part) : timestampPattern ++ ps =
    .year :: .literal '-' :: .month :: .literal '-' :: .day :: .space :: .hour :: .literal ':' :: .minute ::
      .literal ':' :: .second :: .fraction :: ps := rfl

theorem readParts_fourDigits (ps : List Part) (f : Fields) (rest : List Char) :
    readParts (.year :: ps) f ((padded 4 s.year).toList ++ '-' :: rest) =
      readParts ps ⟨{ f.moment with date := { f.moment.date with year := (s.year : Nat) } }, f.offset⟩ ('-' :: rest) := by
  have year : yearText (s.year : Nat) = padded 4 s.year := yearText_of_plain (by omega)
  rw [← year, readParts_year _ _ _ (by unfold Date.minYear Date.maxYear; omega)]

/-- Numbers within their bounds are read as they are written. -/
theorem readParts_localText (h : s.InRange) (ps : List Part) {rest : List Char} (hr : EndsFraction rest) :
    readParts (timestampPattern ++ ps) noFields (s.localText.toList ++ rest) = readParts ps ⟨s.shown, none⟩ rest := by
  rw [toList_localText, timestampPattern_append, readParts_fourDigits, readParts_literal, readParts_month _ _ _ h.month,
    readParts_literal, readParts_day _ _ _ h.day, readParts_blank, readParts_hour _ _ _ h.hour.2, readParts_literal,
    readParts_minute _ _ _ h.minute.2, readParts_literal, readParts_second _ _ _ h.second.2,
    readParts_fractionChars _ rfl hr]
  rfl

/-- The first number out of its bounds stops the reading. -/
theorem readParts_localText_outOfRange (h : ¬ s.InRange) (ps : List Part) (rest : List Char) :
    readParts (timestampPattern ++ ps) noFields (s.localText.toList ++ rest) = .error .outOfRange := by
  rw [toList_localText, timestampPattern_append, readParts_fourDigits, readParts_literal]
  by_cases month : 1 ≤ (s.month : Nat) ∧ (s.month : Nat) ≤ 12
  · rw [readParts_month _ _ _ month, readParts_literal]
    by_cases day : 1 ≤ (s.day : Nat) ∧ (s.day : Nat) ≤ 31
    · rw [readParts_day _ _ _ day, readParts_blank]
      by_cases hour : 0 ≤ (s.hour : Nat) ∧ (s.hour : Nat) ≤ 23
      · rw [readParts_hour _ _ _ hour.2, readParts_literal]
        by_cases minute : 0 ≤ (s.minute : Nat) ∧ (s.minute : Nat) ≤ 59
        · rw [readParts_minute _ _ _ minute.2, readParts_literal]
          by_cases second : 0 ≤ (s.second : Nat) ∧ (s.second : Nat) ≤ 60
          · exact absurd ⟨month, day, hour, minute, second⟩ h
          · exact readParts_outOfRange _ _ _ rfl second s.second.isLt
        · exact readParts_outOfRange _ _ _ rfl minute s.minute.isLt
      · exact readParts_outOfRange _ _ _ rfl hour s.hour.isLt
    · exact readParts_outOfRange _ _ _ rfl day s.day.isLt
  · exact readParts_outOfRange _ _ _ rfl month s.month.isLt

theorem readParts_text (h : s.InRange) :
    readParts (timestampPattern ++ [.zone true true]) noFields s.text.toList =
      .ok (⟨s.shown, some (s.offset * 60)⟩, []) := by
  rw [toList_text, readParts_localText h _ endsClock_zoneChars.endsFraction, readParts_zoneChars]

theorem readParts_text_outOfRange (h : ¬ s.InRange) :
    readParts (timestampPattern ++ [.zone true true]) noFields s.text.toList = .error .outOfRange := by
  rw [toList_text, readParts_localText_outOfRange h]

theorem inRange_of_isReal (h : s.shown.IsReal) : s.InRange := by
  obtain ⟨-, month, day⟩ := (Date.isValid_iff s.shown.date).1 h.date
  have last := Date.daysIn_le s.shown.date.year s.shown.date.month
  exact ⟨month, ⟨day.1, Nat.le_trans day.2 last⟩, ⟨Nat.zero_le _, Nat.le_of_lt_succ h.hour⟩,
    ⟨Nat.zero_le _, Nat.le_of_lt_succ h.minute⟩, Nat.zero_le _, h.second⟩

theorem isReal_of_inRange (h : s.InRange) (date : s.shown.date.isValid = true) : s.shown.IsReal :=
  ⟨date, Nat.lt_succ_of_le h.hour.2, Nat.lt_succ_of_le h.minute.2, h.second.2, nano_lt⟩

/-! ## What becomes of it -/

/-- A timestamp that no calendar or clock shows is not converted. -/
theorem timestampZoneCell_of_unreal (h : ¬ s.shown.IsReal) : timestampZoneCell s.text = none := by
  unfold timestampZoneCell readFields
  by_cases range : s.InRange
  · have date : s.shown.date.isValid = false := by
      simpa using fun date => h (isReal_of_inRange range date)
    rw [readParts_text range]
    simp [bind, Except.bind, Fields.universal, Fields.localMoment, date, Except.toOption]
  · rw [readParts_text_outOfRange range]
    rfl

/-- In the years of four digits but the first and the last, any other becomes the moment of universal
time that is its offset earlier, to the nanosecond. -/
theorem timestampZoneCell_of_isReal (h : s.shown.IsReal) (year : 1 ≤ (s.year : Nat) ∧ (s.year : Nat) ≤ 9998) :
    ∃ t : Moment, t.IsPlain ∧ timestampZoneCell s.text = some (.string t.offsetText) ∧
      t.minutes = s.shown.minutes - s.offset ∧ t.second = s.second ∧ t.nano = s.nano := by
  have kept : Date.minYear < s.shown.date.year ∧ s.shown.date.year < Date.maxYear := by
    show Date.minYear < ((s.year : Nat) : Int) ∧ ((s.year : Nat) : Int) < Date.maxYear
    unfold Date.minYear Date.maxYear
    omega
  have bounds := offset_bounds (s := s)
  obtain ⟨t, moved, first, last⟩ := addMinutes_of_year h (-s.offset) kept
  have real : t.IsReal := isReal_of_addMinutes h (by omega) (by omega) moved
  obtain ⟨minutes, second, nano⟩ := minutes_addMinutes h (by omega) (by omega) moved
  have plain : 0 ≤ t.date.year ∧ t.date.year ≤ 9999 := by
    change ((s.year : Nat) : Int) - 1 ≤ t.date.year at first
    change t.date.year ≤ ((s.year : Nat) : Int) + 1 at last
    omega
  have universal : (⟨s.shown, some (s.offset * 60)⟩ : Fields).universal = .ok t := by
    have day : (-86400 < s.offset * 60 && s.offset * 60 < 86400) = true := by simp; omega
    unfold Fields.universal Fields.localMoment
    simp [h.date, bind, Except.bind, day, moved]
  refine ⟨t, ⟨real, plain⟩, ?_, by omega, second, nano⟩
  unfold timestampZoneCell readFields
  rw [readParts_text (inRange_of_isReal h)]
  simp [bind, Except.bind, universal, Except.toOption]

end Stamp

/-- The text shows a moment of universal time: its numbers in four and two digits, with a `T` between
date and time, then its nanoseconds in no digits or in three, six or nine, then the offset zero. -/
def ShowsUniversal (text : String) (t : Moment) : Prop :=
  ∃ fraction : String,
    (t.nano = 0 ∧ fraction = "" ∨
      ∃ w m, (w = 3 ∨ w = 6 ∨ w = 9) ∧ m < 10 ^ w ∧ m * 10 ^ (9 - w) = t.nano ∧ fraction = "." ++ padded w m) ∧
    text = padded 4 t.date.year.toNat ++ "-" ++ padded 2 t.date.month ++ "-" ++ padded 2 t.date.day ++ "T"
      ++ padded 2 t.hour ++ ":" ++ padded 2 t.minute ++ ":" ++ padded 2 t.second ++ fraction ++ "+00:00"

theorem showsUniversal_offsetText {t : Moment} (h : t.IsPlain) : ShowsUniversal t.offsetText t := by
  refine ⟨fractionText t.nano, ?_, ?_⟩
  · rcases fractionText_cases h.real.nano with ⟨zero, none⟩ | ⟨w, m, -, width, below, value, written⟩
    · exact .inl ⟨zero, none⟩
    · exact .inr ⟨w, m, width, below, value, written⟩
  · unfold offsetText Moment.text
    rw [yearText_of_plain h.year]

/-- A proper timestamp becomes the text of one moment, which is its instant. -/
theorem cellValue_of_proper {s : Stamp} (h : s.Proper) :
    ∃ t : Moment, t.IsPlain ∧ t.second < 60 ∧ t.instant = s.instant ∧
      cellValue "TIMESTAMPTZ" s.text = .string t.offsetText := by
  obtain ⟨t, plain, cell, minutes, second, nano⟩ := Stamp.timestampZoneCell_of_isReal h.real h.year
  refine ⟨t, plain, second ▸ h.second, ?_, ?_⟩
  · have second' : s.shown.second = s.second := rfl
    have nano' : s.shown.nano = s.nano := rfl
    unfold Stamp.instant instant
    rw [minutes, second, nano, second', nano']
    omega
  · show orVerbatim s.text (timestampZoneCell s.text) = _
    rw [cell]
    rfl

/-- (1) A timestamp of the calendar and the clock, in the years 1 to 9998 and outside leap seconds,
becomes a text that shows, in universal time, a moment that is the same instant to the nanosecond.
(2) Two such timestamps become the same exactly if they are the same instant. (3) A timestamp of the
same form whose date or time does not exist stays as it is. -/
theorem timestamps_become_universal :
    (∀ s : Stamp, s.Proper → ∃ (t : Moment) (text : String), t.IsPlain ∧ t.second < 60 ∧ t.instant = s.instant ∧
      cellValue "TIMESTAMPTZ" s.text = .string text ∧ ShowsUniversal text t) ∧
    (∀ a b : Stamp, a.Proper → b.Proper →
      (cellValue "TIMESTAMPTZ" a.text = cellValue "TIMESTAMPTZ" b.text ↔ a.instant = b.instant)) ∧
    ∀ s : Stamp, ¬ s.shown.IsReal → cellValue "TIMESTAMPTZ" s.text = .string s.text := by
  refine ⟨fun s h => ?_, fun a b ha hb => ?_, fun s h => ?_⟩
  · obtain ⟨t, plain, second, same, cell⟩ := cellValue_of_proper h
    exact ⟨t, t.offsetText, plain, second, same, cell, showsUniversal_offsetText plain⟩
  · obtain ⟨t, ht, tSecond, tInstant, tCell⟩ := cellValue_of_proper ha
    obtain ⟨u, hu, uSecond, uInstant, uCell⟩ := cellValue_of_proper hb
    rw [tCell, uCell, ← tInstant, ← uInstant]
    constructor
    · intro h
      rw [eq_of_offsetText ht.real hu.real (Json.Value.string.inj h)]
    · intro h
      rw [eq_of_instant ht.real hu.real tSecond uSecond h]
  · show orVerbatim s.text (timestampZoneCell s.text) = _
    rw [Stamp.timestampZoneCell_of_unreal h]
    rfl

/-- Half an hour before the end of a leap day, three quarters of an hour behind universal time, it is
the first of March there; and the thirtieth of February stays as it is. -/
theorem leap_day_becomes_first_of_march :
    let leapDay : Stamp :=
      ⟨2024, 2, 29, 23, 30, 0, [2, 5], by decide, true, 0, some 45⟩
    let march : Stamp := ⟨2024, 3, 1, 2, 15, 0, [2, 5, 0], by decide, false, 2, none⟩
    let february : Stamp := ⟨2024, 2, 30, 23, 30, 0, [], by decide, false, 0, none⟩
    leapDay.text = "2024-02-29 23:30:00.25-00:45" ∧ march.text = "2024-03-01 02:15:00.250+02" ∧
      (∃ t : Moment, t.instant = leapDay.instant ∧
        ∃ text, cellValue "TIMESTAMPTZ" leapDay.text = .string text ∧ ShowsUniversal text t) ∧
      (cellValue "TIMESTAMPTZ" leapDay.text).text = "\"2024-03-01T00:15:00.250+00:00\"" ∧
      cellValue "TIMESTAMPTZ" leapDay.text = cellValue "TIMESTAMPTZ" march.text ∧
      cellValue "TIMESTAMPTZ" february.text = .string "2024-02-30 23:30:00+00" := by
  intro leapDay march february
  obtain ⟨universal, same, unreal⟩ := timestamps_become_universal
  have proper : leapDay.Proper :=
    ⟨⟨by decide, by decide, by decide, by decide, by decide⟩, by decide, by decide⟩
  have proper' : march.Proper :=
    ⟨⟨by decide, by decide, by decide, by decide, by decide⟩, by decide, by decide⟩
  refine ⟨by decide +kernel, by decide +kernel, ?_, by decide +kernel, ?_, ?_⟩
  · obtain ⟨t, text, -, -, instant, cell, shows⟩ := universal leapDay proper
    exact ⟨t, instant, text, cell, shows⟩
  · exact (same leapDay march proper proper').2 (by decide +kernel)
  · have text : february.text = "2024-02-30 23:30:00+00" := by decide +kernel
    rw [unreal february (fun h => absurd h.date (by decide)), text]

end QueryGateway.Postgres
