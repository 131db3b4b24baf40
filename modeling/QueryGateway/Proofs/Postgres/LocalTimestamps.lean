import QueryGateway.Proofs.Postgres.Timestamps

/-!
# Timestamps without a zone

The server writes a timestamp without a zone with as many digits of its fraction as it needs, or more.
Main statement: the gateway puts a `T` between date and time and brings the fraction to no digits or to
three, six or nine, without a change of its value, so that the texts that come out are in the order of
the moments they show; and a timestamp that no calendar or clock shows stays as it is.
-/

namespace QueryGateway.Postgres

open Moment Text

namespace Stamp

variable (s : Stamp)

/-! ## What comes out -/

/-- The calendar has the day, and the clock the hour and the minute. -/
structure OnClock : Prop where
  day : s.shown.date.IsDay
  hour : (s.hour : Nat) < 24
  minute : (s.minute : Nat) < 60

/-- The digits of the fraction, with zeros behind them up to the nanosecond. -/
def nanoDigits : List Char := s.digits ++ List.replicate (9 - s.digits.length) '0'

/-- The digits behind the first ones are zeros. -/
def fits (w : Nat) : Bool := (s.nanoDigits.drop w).all (· == '0')

/-- The point and the fewest of three, six and nine digits that hold the fraction, nothing if it is
zero. -/
def isoFraction : List Char :=
  if s.fits 0 then []
  else if s.fits 3 then '.' :: s.nanoDigits.take 3
  else if s.fits 6 then '.' :: s.nanoDigits.take 6
  else '.' :: s.nanoDigits

/-- The text `YYYY-MM-DDTHH:MM:SS` with the fraction behind it. -/
def isoText : String :=
  padded 4 s.year ++ "-" ++ padded 2 s.month ++ "-" ++ padded 2 s.day ++ "T" ++ padded 2 s.hour ++ ":"
    ++ padded 2 s.minute ++ ":" ++ padded 2 s.second ++ String.ofList s.isoFraction

variable {s}

/-! ## The fraction -/

theorem isDigit_of_mem_nanoDigits : ∀ c ∈ s.nanoDigits, isDigit c = true := by
  refine List.forall_mem_append.2 ⟨isDigit_of_mem_digits, fun c hc => ?_⟩
  rw [List.eq_of_mem_replicate hc]
  rfl

theorem length_nanoDigits : s.nanoDigits.length = 9 := by
  have short := length_digits_le (s := s)
  rw [nanoDigits, List.length_append, List.length_replicate]
  omega

theorem numeralFrom_nanoDigits : numeralFrom 10 digit? 0 s.nanoDigits = some s.nano := by
  rw [numeralFrom_of_digits isDigit_of_mem_nanoDigits, nanoDigits, Nat.ofDigitChars_append,
    Nat.ofDigitChars_replicate_zero, Nat.mul_comm]
  rfl

theorem fits_iff {w : Nat} : s.fits w = true ↔ s.nano % 10 ^ (9 - w) = 0 := by
  have back := (numeralFrom_take_drop (isDigit_of_mem_nanoDigits (s := s)) numeralFrom_nanoDigits w).2
  rw [length_nanoDigits] at back
  exact all_zero_iff back

theorem toList_padded_nano {w : Nat} (hw : 0 < w) (h9 : w ≤ 9) :
    (padded w (s.nano / 10 ^ (9 - w))).toList = s.nanoDigits.take w := by
  have front := (numeralFrom_take_drop (isDigit_of_mem_nanoDigits (s := s)) numeralFrom_nanoDigits w).1
  rw [length_nanoDigits] at front
  have below : s.nano / 10 ^ (9 - w) < 10 ^ w := by
    refine Nat.div_lt_of_lt_mul ?_
    rw [← Nat.pow_add, Nat.sub_add_cancel h9]
    exact nano_lt
  refine eq_of_numeralFrom ?_ (numeralFrom_padded w _) front
  rw [length_padded hw below, List.length_take, length_nanoDigits, Nat.min_eq_left h9]

theorem toList_fractionText : (fractionText s.nano).toList = s.isoFraction := by
  have point {w : Nat} (hw : 0 < w) (h9 : w ≤ 9) :
      ("." ++ padded w (s.nano / 10 ^ (9 - w))).toList = '.' :: s.nanoDigits.take w := by
    rw [String.toList_append, toList_padded_nano hw h9]
    rfl
  have zeros (w : Nat) : (s.nano % 10 ^ (9 - w) == 0) = s.fits w := by
    rw [Bool.eq_iff_iff, fits_iff, beq_iff_eq]
  have none : (s.nano == 0) = s.fits 0 := by
    rw [← zeros 0, Nat.mod_eq_of_lt (by exact nano_lt)]
  have three : (s.nano % 1000000 == 0) = s.fits 3 := zeros 3
  have six : (s.nano % 1000 == 0) = s.fits 6 := zeros 6
  have nine : s.nanoDigits.take 9 = s.nanoDigits := List.take_of_length_le (Nat.le_of_eq length_nanoDigits)
  unfold fractionText isoFraction
  rw [none, three, six]
  split
  · rfl
  · split
    · exact point (by decide) (by decide)
    · split
      · exact point (by decide) (by decide)
      · rw [← nine]
        simpa using point (w := 9) (by decide) (by decide)

/-- What comes out is the text of the moment. -/
theorem text_shown : s.shown.text = s.isoText := by
  have year : yearText (s.year : Nat) = padded 4 s.year := yearText_of_plain (by omega)
  unfold Moment.text isoText
  rw [← toList_fractionText, String.ofList_toList, ← year]
  rfl

/-! ## Calendar and clock -/

theorem isValid_iff_isDay : s.shown.date.isValid = true ↔ s.shown.date.IsDay := by
  refine ⟨Date.isDay_of_isValid, fun h => (Date.isValid_iff _).2 ⟨?_, h.month, h.day⟩⟩
  have year := s.year.isLt
  show Date.minYear ≤ ((s.year : Nat) : Int) ∧ ((s.year : Nat) : Int) ≤ Date.maxYear
  unfold Date.minYear Date.maxYear
  omega

theorem isReal_iff_onClock (second : (s.second : Nat) < 60) : s.shown.IsReal ↔ s.OnClock :=
  ⟨fun h => ⟨isValid_iff_isDay.1 h.date, h.hour, h.minute⟩,
    fun h => ⟨isValid_iff_isDay.2 h.day, h.hour, h.minute, Nat.le_of_lt second, nano_lt⟩⟩

theorem OnClock.isPlain (h : s.OnClock) (second : (s.second : Nat) < 60) : s.shown.IsPlain := by
  refine ⟨(isReal_iff_onClock second).2 h, ?_⟩
  have year := s.year.isLt
  show 0 ≤ ((s.year : Nat) : Int) ∧ ((s.year : Nat) : Int) ≤ 9999
  omega

theorem readFields_localText (h : s.InRange) : readFields timestampPattern s.localText = .ok ⟨s.shown, none⟩ := by
  have read : readParts (timestampPattern ++ []) noFields (s.localText.toList ++ []) = .ok (⟨s.shown, none⟩, []) :=
    readParts_localText h [] nofun
  rw [List.append_nil, List.append_nil] at read
  unfold readFields
  rw [read]
  rfl

theorem readFields_localText_outOfRange (h : ¬ s.InRange) :
    readFields timestampPattern s.localText = .error .outOfRange := by
  have read := readParts_localText_outOfRange h [] []
  rw [List.append_nil, List.append_nil] at read
  unfold readFields
  rw [read]
  rfl

theorem timestampCell_of_isReal (h : s.shown.IsReal) : timestampCell s.localText = some (.string s.isoText) := by
  unfold timestampCell
  rw [readFields_localText (inRange_of_isReal h), ← text_shown]
  simp [Except.bind, Fields.localMoment, h.date, Except.toOption]

theorem timestampCell_of_unreal (h : ¬ s.shown.IsReal) : timestampCell s.localText = none := by
  unfold timestampCell
  by_cases range : s.InRange
  · have date : s.shown.date.isValid = false := by
      simpa using fun date => h (isReal_of_inRange range date)
    rw [readFields_localText range]
    simp [Except.bind, Fields.localMoment, date, Except.toOption]
  · rw [readFields_localText_outOfRange range]
    rfl

end Stamp

/-- Outside leap seconds: (1) a timestamp without a zone whose day is in the calendar and whose hour and
minute are on the clock becomes the text with a `T` for the blank and the fraction in the fewest of no,
three, six and nine digits that hold it. (2) Any other of the form stays as it is. (3) What becomes of
two of the first kind is in the order of their moments, and the same only for one moment. -/
theorem timestamps_become_iso :
    (∀ s : Stamp, (s.second : Nat) < 60 → s.OnClock → cellValue "TIMESTAMP" s.localText = .string s.isoText) ∧
    (∀ s : Stamp, (s.second : Nat) < 60 → ¬ s.OnClock → cellValue "TIMESTAMP" s.localText = .string s.localText) ∧
    ∀ a b : Stamp, (a.second : Nat) < 60 → (b.second : Nat) < 60 → a.OnClock → b.OnClock →
      (a.isoText < b.isoText ↔ a.shown.instant < b.shown.instant) ∧
        (a.isoText = b.isoText ↔ a.shown.instant = b.shown.instant) := by
  refine ⟨fun s second h => ?_, fun s second h => ?_, fun a b aSecond bSecond ha hb => ?_⟩
  · show orVerbatim s.localText (timestampCell s.localText) = _
    rw [Stamp.timestampCell_of_isReal ((Stamp.isReal_iff_onClock second).2 h)]
    rfl
  · show orVerbatim s.localText (timestampCell s.localText) = _
    rw [Stamp.timestampCell_of_unreal (mt (Stamp.isReal_iff_onClock second).1 h)]
    rfl
  · have before {s t : Stamp} (sSecond : (s.second : Nat) < 60) (tSecond : (t.second : Nat) < 60) (hs : s.OnClock)
        (ht : t.OnClock) : s.isoText < t.isoText ↔ s.shown.instant < t.shown.instant := by
      have hs := hs.isPlain sSecond
      have ht := ht.isPlain tSecond
      rw [← Stamp.text_shown, ← Stamp.text_shown, text_lt_iff_before hs ht,
        before_iff_instant hs.real ht.real sSecond tSecond]
    have less := before aSecond bSecond ha hb
    have more := before bSecond aSecond hb ha
    refine ⟨less, ?_⟩
    rw [eq_iff_le_not_lt, eq_iff_le_not_lt, less, ← not_lt, ← not_lt, more]

/-- Zeros behind a fraction are cut, and the seventh digit makes nine of them; in 1900 there is no leap
day. -/
theorem end_of_leap_day_becomes_iso :
    let late : Stamp := ⟨2024, 2, 29, 23, 59, 59, [1, 2, 0, 0], by decide, false, 0, none⟩
    let later : Stamp := ⟨2024, 2, 29, 23, 59, 59, [1, 2, 0, 0, 0, 0, 1], by decide, false, 0, none⟩
    let never : Stamp := ⟨1900, 2, 29, 23, 59, 59, [0], by decide, false, 0, none⟩
    late.localText = "2024-02-29 23:59:59.1200" ∧
      cellValue "TIMESTAMP" late.localText = .string "2024-02-29T23:59:59.120" ∧
      cellValue "TIMESTAMP" later.localText = .string "2024-02-29T23:59:59.120000100" ∧
      late.isoText < later.isoText ∧ late.isoText ≠ later.isoText ∧
      cellValue "TIMESTAMP" never.localText = .string "1900-02-29 23:59:59.0" := by
  intro late later never
  obtain ⟨iso, kept, order⟩ := timestamps_become_iso
  have lateTime : late.OnClock := ⟨⟨by decide, by decide⟩, by decide, by decide⟩
  have laterTime : later.OnClock := ⟨⟨by decide, by decide⟩, by decide, by decide⟩
  have noDay : ¬ never.OnClock := fun h => absurd h.day.day.2 (by decide)
  have lateText : late.isoText = "2024-02-29T23:59:59.120" := by decide +kernel
  have laterText : later.isoText = "2024-02-29T23:59:59.120000100" := by decide +kernel
  have neverText : never.localText = "1900-02-29 23:59:59.0" := by decide +kernel
  obtain ⟨less, same⟩ := order late later (by decide) (by decide) lateTime laterTime
  refine ⟨by decide +kernel, ?_, ?_, less.2 (by decide +kernel), mt same.1 (by decide +kernel), ?_⟩
  · rw [iso late (by decide) lateTime, lateText]
  · rw [iso later (by decide) laterTime, laterText]
  · rw [kept never (by decide) noDay, neverText]

end QueryGateway.Postgres
