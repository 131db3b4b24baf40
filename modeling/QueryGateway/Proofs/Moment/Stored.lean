import QueryGateway.Moment.Stored
import QueryGateway.Proofs.Moment.Clock
import QueryGateway.Proofs.Text.Numerals

/-!
# Stored moments read back

The storage keeps a moment as text. Main statement: the text of any moment that a clock
can show reads back as that moment. The first reading, which is for years of four
digits, gives the moment or nothing, and behind it the last of the other forms gives it.
-/

namespace QueryGateway.Moment

open Text

/-! ## Numbers -/

theorem isBlank_of_isDigit {c : Char} (h : isDigit c = true) : isBlank c = false := by
  have hc : 48 ≤ c.toNat ∧ c.toNat ≤ 57 := by
    simpa [isDigit, Char.le_def, UInt32.le_iff_toNat_le] using h
  unfold isBlank
  simp
  omega

/-- Nothing is skipped in front of a digit. -/
theorem dropWhile_blank_digits {ds : List Char} (hne : ds ≠ []) (hd : ∀ c ∈ ds, isDigit c = true)
    (rest : List Char) : (ds ++ rest).dropWhile isBlank = ds ++ rest := by
  cases ds with
  | nil => exact absurd rfl hne
  | cons c cs => simp [isBlank_of_isDigit (hd c List.mem_cons_self)]

/-- A number ends at its width, or before it where something else follows. -/
theorem readNumber_digits {width n : Nat} {ds rest : List Char} (hne : ds ≠ [])
    (hd : ∀ c ∈ ds, isDigit c = true) (hn : numeralFrom 10 digit? 0 ds = some n)
    (hend : ds.length = width ∨ ds.length ≤ width ∧ rest.head?.any isDigit = false) :
    readNumber width (ds ++ rest) = .ok (n, rest) := by
  have htake : ((ds ++ rest).take width).takeWhile isDigit = ds := by
    rw [List.take_append, List.take_of_length_le (by omega), List.takeWhile_append_of_pos hd]
    have : (rest.take (width - ds.length)).takeWhile isDigit = [] := by
      rcases hend with hw | ⟨-, hstop⟩
      · simp [hw]
      · cases rest <;> cases width - ds.length <;> simp_all
    rw [this, List.append_nil]
  cases ds with
  | nil => exact absurd rfl hne
  | cons c cs =>
    show (if isDigit c then _ else _) = _
    rw [if_pos (hd c List.mem_cons_self), htake, hn]
    simp

theorem readNumber_padded {width n : Nat} (hw : 0 < width) (h : n < 10 ^ width) (rest : List Char) :
    readNumber width ((padded width n).toList ++ rest) = .ok (n, rest) :=
  readNumber_digits (padded_ne_nil width n) (padded_digits width n) (numeralFrom_padded width n)
    (.inl (length_padded hw h))

theorem readBetween_padded {lo hi n : Nat} (hlo : lo ≤ n) (hhi : n ≤ hi) (h : n < 100) (rest : List Char) :
    readBetween lo hi ((padded 2 n).toList ++ rest) = .ok (n, rest) := by
  unfold readBetween
  rw [dropWhile_blank_digits (padded_ne_nil 2 n) (padded_digits 2 n), readNumber_padded (by decide) h]
  simp [bind, Except.bind, hlo, hhi]

theorem readBetween_outOfRange {lo hi n : Nat} (hout : ¬ (lo ≤ n ∧ n ≤ hi)) (h : n < 100) (rest : List Char) :
    readBetween lo hi ((padded 2 n).toList ++ rest) = .error .outOfRange := by
  have hout : (lo ≤ n && n ≤ hi) = false := by simpa using hout
  unfold readBetween
  rw [dropWhile_blank_digits (padded_ne_nil 2 n) (padded_digits 2 n), readNumber_padded (by decide) h]
  show (if (lo ≤ n && n ≤ hi) = true then _ else _) = _
  rw [hout]
  rfl

theorem boundedYear_of_kept {y : Int} (h : Date.minYear ≤ y ∧ y ≤ Date.maxYear) :
    boundedYear y = .ok y := by
  unfold Date.minYear Date.maxYear at h
  unfold boundedYear
  rw [if_pos (by simp; omega)]

theorem yearText_of_plain {y : Int} (h : 0 ≤ y ∧ y ≤ 9999) : yearText y = padded 4 y.toNat := if_pos (by simpa using h)

/-- A year reads back in front of a dash. -/
theorem readYear_yearText {y : Int} (h : Date.minYear ≤ y ∧ y ≤ Date.maxYear) (rest : List Char) :
    readYear ((yearText y).toList ++ '-' :: rest) = .ok (y, '-' :: rest) := by
  unfold yearText
  split
  · next hy =>
    have hy : 0 ≤ y ∧ y ≤ 9999 := by simpa using hy
    have hd := padded_digits 4 y.toNat
    have hn : readNumber 4 ((padded 4 y.toNat).toList ++ '-' :: rest) = .ok (y.toNat, '-' :: rest) :=
      readNumber_padded (by decide) (by omega) ('-' :: rest)
    have hdrop := dropWhile_blank_digits (padded_ne_nil 4 y.toNat) hd ('-' :: rest)
    cases hds : (padded 4 y.toNat).toList with
    | nil => exact absurd hds (padded_ne_nil 4 y.toNat)
    | cons c cs =>
      rw [hds] at hd hn hdrop
      have hc := hd c List.mem_cons_self
      unfold readYear
      rw [hdrop]
      split
      · next heq =>
        cases heq
        cases hc
      · next heq =>
        cases heq
        cases hc
      · rw [hn]
        simp [bind, Except.bind, pure, Except.pure, Int.toNat_of_nonneg hy.1, boundedYear_of_kept h]
  · have hn : readNumber ((padded 4 y.natAbs).toList ++ '-' :: rest).length
        ((padded 4 y.natAbs).toList ++ '-' :: rest) = .ok (y.natAbs, '-' :: rest) :=
      readNumber_digits (padded_ne_nil 4 y.natAbs) (padded_digits 4 y.natAbs)
        (numeralFrom_padded 4 y.natAbs) (.inr ⟨by simp, rfl⟩)
    rw [String.toList_append, List.append_assoc]
    generalize (padded 4 y.natAbs).toList ++ '-' :: rest = cs at hn ⊢
    obtain ⟨n, habs⟩ : ∃ n, y.natAbs = n := ⟨_, rfl⟩
    rw [habs] at hn
    have hminus : isBlank '-' = false := by decide
    have hplus : isBlank '+' = false := by decide
    split
    · next hneg =>
      have : -(n : Int) = y := by omega
      simp [readYear, hminus, hn, bind, Except.bind, pure, Except.pure, this, boundedYear_of_kept h]
    · next hpos =>
      have : (n : Int) = y := by omega
      simp [readYear, hplus, hn, bind, Except.bind, pure, Except.pure, this, boundedYear_of_kept h]

/-- What stands behind the seconds and their fraction, if there is one, is no part of them. -/
def EndsClock (rest : List Char) : Prop := ∃ c cs, rest = c :: cs ∧ isDigit c = false ∧ c ≠ '.' ∧ isBlank c = false

/-- What stands behind a fraction, if anything does, is no part of it. -/
def EndsFraction (rest : List Char) : Prop := ∀ c ∈ rest.head?, isDigit c = false ∧ c ≠ '.'

theorem EndsClock.endsFraction {rest : List Char} (h : EndsClock rest) : EndsFraction rest := by
  obtain ⟨c, cs, rfl, digit, point, -⟩ := h
  intro d hd
  cases hd
  exact ⟨digit, point⟩

/-- A fraction is not written if it is zero, and else in three, six or nine digits. -/
theorem fractionText_cases {n : Nat} (h : n < 1000000000) :
    n = 0 ∧ fractionText n = "" ∨
      ∃ w m, n ≠ 0 ∧ (w = 3 ∨ w = 6 ∨ w = 9) ∧ m < 10 ^ w ∧ m * 10 ^ (9 - w) = n ∧
        fractionText n = "." ++ padded w m := by
  unfold fractionText
  by_cases h0 : n = 0
  · exact .inl ⟨h0, if_pos (by simpa using h0)⟩
  · right
    rw [if_neg (by simpa using h0)]
    by_cases h6 : n % 1000000 = 0
    · exact ⟨3, n / 1000000, h0, .inl rfl, by omega, by omega, if_pos (by simpa using h6)⟩
    · rw [if_neg (by simpa using h6)]
      by_cases h3 : n % 1000 = 0
      · exact ⟨6, n / 1000, h0, .inr (.inl rfl), by omega, by omega, if_pos (by simpa using h3)⟩
      · exact ⟨9, n, h0, .inr (.inr rfl), by omega, by omega, if_neg (by simpa using h3)⟩

/-- Up to nine digits are read as so many places of a fraction. -/
theorem readNanos_digits {n : Nat} {ds rest : List Char} (hne : ds ≠ []) (hd : ∀ c ∈ ds, isDigit c = true)
    (h9 : ds.length ≤ 9) (hn : numeralFrom 10 digit? 0 ds = some n) (hr : EndsFraction rest) :
    readNanos (ds ++ rest) = .ok (n * 10 ^ (9 - ds.length), rest) := by
  have stops : rest.head?.any isDigit = false := by
    cases rest with
    | nil => rfl
    | cons c cs => simpa using (hr c rfl).1
  have read : readNumber 9 (ds ++ rest) = .ok (n, rest) := readNumber_digits hne hd hn (.inr ⟨h9, stops⟩)
  have digits : (ds ++ rest).takeWhile isDigit = ds := by
    rw [List.takeWhile_append_of_pos hd]
    cases rest with
    | nil => simp
    | cons c cs => rw [List.takeWhile_cons_of_neg (by simp [(hr c rfl).1]), List.append_nil]
  unfold readNanos
  rw [read, digits]
  show Except.ok (n * 10 ^ (9 - ds.length), List.drop _ _) = _
  rw [List.drop_left]

/-- A fraction reads back. -/
theorem readNanos_padded {width n : Nat} (hw : 0 < width) (h9 : width ≤ 9) (h : n < 10 ^ width)
    {rest : List Char} (hr : EndsClock rest) :
    readNanos ((padded width n).toList ++ rest) = .ok (n * 10 ^ (9 - width), rest) := by
  have hlen := length_padded hw h
  rw [readNanos_digits (padded_ne_nil width n) (padded_digits width n) (by omega) (numeralFrom_padded width n)
    hr.endsFraction, hlen]

/-! ## Parts -/

theorem readParts_ok {p : Part} {ps : List Part} {f f' : Fields} {cs rest : List Char}
    (h : readPart p f cs = .ok (f', rest)) : readParts (p :: ps) f cs = readParts ps f' rest := by
  rw [readParts, h]
  rfl

theorem readParts_error {p : Part} {ps : List Part} {f : Fields} {cs : List Char} {e : MomentFault}
    (h : readPart p f cs = .error e) : readParts (p :: ps) f cs = .error e := by
  rw [readParts, h]
  rfl

section

variable (ps : List Part) (f : Fields) (rest : List Char)

theorem readParts_literal (c : Char) : readParts (.literal c :: ps) f (c :: rest) = readParts ps f rest :=
  readParts_ok (by simp [readPart])

theorem readParts_space {c : Char} (hc : isBlank c = false) :
    readParts (.space :: ps) f (c :: rest) = readParts ps f (c :: rest) :=
  readParts_ok (by simp [readPart, hc])

theorem readParts_year {y : Int} (h : Date.minYear ≤ y ∧ y ≤ Date.maxYear) :
    readParts (.year :: ps) f ((yearText y).toList ++ '-' :: rest) =
      readParts ps ⟨{ f.moment with date := { f.moment.date with year := y } }, f.offset⟩ ('-' :: rest) :=
  readParts_ok (by simp [readPart, readYear_yearText h, bind, Except.bind, pure, Except.pure])

theorem readParts_month {n : Nat} (h : 1 ≤ n ∧ n ≤ 12) :
    readParts (.month :: ps) f ((padded 2 n).toList ++ rest) =
      readParts ps ⟨{ f.moment with date := { f.moment.date with month := n } }, f.offset⟩ rest :=
  readParts_ok (by
    simp [readPart, readBetween_padded h.1 h.2 (by omega), bind, Except.bind, pure, Except.pure])

theorem readParts_day {n : Nat} (h : 1 ≤ n ∧ n ≤ 31) :
    readParts (.day :: ps) f ((padded 2 n).toList ++ rest) =
      readParts ps ⟨{ f.moment with date := { f.moment.date with day := n } }, f.offset⟩ rest :=
  readParts_ok (by
    simp [readPart, readBetween_padded h.1 h.2 (by omega), bind, Except.bind, pure, Except.pure])

theorem readParts_hour {n : Nat} (h : n ≤ 23) :
    readParts (.hour :: ps) f ((padded 2 n).toList ++ rest) =
      readParts ps ⟨{ f.moment with hour := n }, f.offset⟩ rest :=
  readParts_ok (by
    simp [readPart, readBetween_padded (Nat.zero_le n) h (by omega), bind, Except.bind, pure, Except.pure])

theorem readParts_minute {n : Nat} (h : n ≤ 59) :
    readParts (.minute :: ps) f ((padded 2 n).toList ++ rest) =
      readParts ps ⟨{ f.moment with minute := n }, f.offset⟩ rest :=
  readParts_ok (by
    simp [readPart, readBetween_padded (Nat.zero_le n) h (by omega), bind, Except.bind, pure, Except.pure])

theorem readParts_second {n : Nat} (h : n ≤ 60) :
    readParts (.second :: ps) f ((padded 2 n).toList ++ rest) =
      readParts ps ⟨{ f.moment with second := n }, f.offset⟩ rest :=
  readParts_ok (by
    simp [readPart, readBetween_padded (Nat.zero_le n) h (by omega), bind, Except.bind, pure, Except.pure])

/-- Of the parts that are numbers of two digits, the least and the largest that is taken. -/
def Part.range : Part → Option (Nat × Nat)
  | .month => some (1, 12)
  | .day => some (1, 31)
  | .hour => some (0, 23)
  | .minute => some (0, 59)
  | .second => some (0, 60)
  | _ => none

theorem readParts_outOfRange {p : Part} {lo hi n : Nat} (hp : p.range = some (lo, hi)) (hout : ¬ (lo ≤ n ∧ n ≤ hi))
    (h : n < 100) : readParts (p :: ps) f ((padded 2 n).toList ++ rest) = .error .outOfRange := by
  refine readParts_error ?_
  cases p <;> cases hp <;> simp only [readPart, readBetween_outOfRange hout h rest] <;> rfl

/-- Where no fraction is written, none is read: the fields keep their zero. -/
theorem readParts_fraction {n : Nat} (h : n < 1000000000) (hf : f.moment.nano = 0) (hr : EndsClock rest) :
    readParts (.fraction :: ps) f ((fractionText n).toList ++ rest) =
      readParts ps ⟨{ f.moment with nano := n }, f.offset⟩ rest := by
  rcases fractionText_cases h with ⟨rfl, none⟩ | ⟨w, m, -, hw, hm, rfl, written⟩
  · obtain ⟨c, cs, rfl, -, point, -⟩ := hr
    refine readParts_ok ?_
    rw [none, ← hf]
    simp [readPart, point]
  · have width : 0 < w ∧ w ≤ 9 := by omega
    refine readParts_ok ?_
    rw [written]
    simp [readPart, readNanos_padded width.1 width.2 hm hr, bind, Except.bind, pure, Except.pure]

end

/-! ## The text of a moment -/

/-- The characters of a moment in front of a zone. -/
theorem toList_text (t : Moment) (zone : List Char) :
    t.text.toList ++ zone =
      (yearText t.date.year).toList ++ '-' :: ((padded 2 t.date.month).toList ++ '-' ::
        ((padded 2 t.date.day).toList ++ 'T' :: ((padded 2 t.hour).toList ++ ':' ::
          ((padded 2 t.minute).toList ++ ':' :: ((padded 2 t.second).toList ++
            ((fractionText t.nano).toList ++ zone)))))) := by
  unfold text
  simp [String.toList_append]

/-- The offset of universal time. -/
def noOffset : List Char := ['+', '0', '0', ':', '0', '0']

theorem endsClock_noOffset : EndsClock noOffset := ⟨'+', _, rfl, by decide, by decide, by decide⟩

theorem toList_offsetText (t : Moment) : t.offsetText.toList = t.text.toList ++ noOffset := by
  unfold offsetText
  rw [String.toList_append]
  rfl

section

variable {t : Moment} (h : t.IsReal) (ps : List Part)

include h

theorem readParts_date (rest : List Char) :
    readParts (datePattern ++ ps) noFields
        ((yearText t.date.year).toList ++ '-' :: ((padded 2 t.date.month).toList ++ '-' ::
          ((padded 2 t.date.day).toList ++ rest))) =
      readParts ps ⟨⟨t.date, 0, 0, 0, 0⟩, none⟩ rest := by
  obtain ⟨hyear, hmonth, hday⟩ := (Date.isValid_iff t.date).1 h.date
  have := Date.daysIn_le t.date.year t.date.month
  show readParts (.year :: .literal '-' :: .month :: .literal '-' :: .day :: ps) _ _ = _
  rw [readParts_year _ _ _ hyear, readParts_literal, readParts_month _ _ _ hmonth, readParts_literal,
    readParts_day _ _ _ (by omega)]
  rfl

theorem readParts_minutes (f : Fields) (rest : List Char) :
    readParts (.hour :: .literal ':' :: .minute :: ps) f
        ((padded 2 t.hour).toList ++ ':' :: ((padded 2 t.minute).toList ++ rest)) =
      readParts ps ⟨{ f.moment with hour := t.hour, minute := t.minute }, f.offset⟩ rest := by
  have := h.hour
  have := h.minute
  rw [readParts_hour _ _ _ (by omega), readParts_literal, readParts_minute _ _ _ (by omega)]

theorem readParts_seconds {f : Fields} (hf : f.moment.nano = 0) {rest : List Char} (hr : EndsClock rest) :
    readParts (.literal ':' :: .second :: .fraction :: ps) f
        (':' :: ((padded 2 t.second).toList ++ ((fractionText t.nano).toList ++ rest))) =
      readParts ps ⟨{ f.moment with second := t.second, nano := t.nano }, f.offset⟩ rest := by
  rw [readParts_literal, readParts_second _ _ _ h.second, readParts_fraction _ _ _ h.nano _ hr]
  exact hf

/-- In front of the divider, every form has read the date. -/
theorem readParts_dated :
    readParts (datePattern ++ ps) noFields t.offsetText.toList =
      readParts ps ⟨⟨t.date, 0, 0, 0, 0⟩, none⟩ ('T' :: ((padded 2 t.hour).toList ++ ':' ::
        ((padded 2 t.minute).toList ++ ':' :: ((padded 2 t.second).toList ++
          ((fractionText t.nano).toList ++ noOffset))))) := by
  rw [toList_offsetText, toList_text, readParts_date h]

/-- The divided forms go on behind the minutes. -/
theorem readParts_divided :
    readParts (datePattern ++ .literal 'T' :: .hour :: .literal ':' :: .minute :: ps) noFields
        t.offsetText.toList =
      readParts ps ⟨⟨t.date, t.hour, t.minute, 0, 0⟩, none⟩ (':' :: ((padded 2 t.second).toList ++
        ((fractionText t.nano).toList ++ noOffset))) := by
  rw [readParts_dated h, readParts_literal, readParts_minutes h]

/-- The divided forms with seconds go on in front of the zone. -/
theorem readParts_clock :
    readParts (datePattern ++ .literal 'T' :: (clockPattern ++ ps)) noFields t.offsetText.toList =
      readParts ps ⟨t, none⟩ noOffset := by
  show readParts (datePattern ++ .literal 'T' :: .hour :: .literal ':' :: .minute ::
    .literal ':' :: .second :: .fraction :: ps) _ _ = _
  rw [readParts_divided h, readParts_seconds h _ rfl endsClock_noOffset]

end

/-! ## Universal time -/

theorem universal_of_isReal {t : Moment} (h : t.IsReal) :
    (⟨t, some 0⟩ : Fields).universal = .ok t := by
  unfold Fields.universal Fields.localMoment
  simp [h.date, bind, Except.bind, addMinutes_zero h]

/-! ## Reading it -/

/-- What a text in the exchange format states: a date and a time of day, and how far they are ahead
of universal time. -/
def readStamp (text : String) : Except MomentFault Fields := do
  let (f, cs) ← readParts relaxedDate noFields text.toList
  let cs ← readDivider cs
  let (f, cs) ← readParts relaxedClock f cs
  let (offset, rest) ← readNamedZone cs
  if (rest.dropWhile isBlank).isEmpty then .ok ⟨f.moment, some offset⟩ else .error .tooLong

/-- What a text states is then put into universal time. -/
theorem parseRelaxed_eq (text : String) : parseRelaxed text = readStamp text >>= Fields.universal := by
  unfold parseRelaxed readStamp
  simp only [bind, Except.bind]
  cases readParts relaxedDate noFields text.toList with
  | error e => rfl
  | ok date =>
    dsimp only
    cases readDivider date.2 with
    | error e => rfl
    | ok cs =>
      dsimp only
      cases readParts relaxedClock date.1 cs with
      | error e => rfl
      | ok clock =>
        dsimp only
        cases readNamedZone clock.2 with
        | error e => rfl
        | ok zone =>
          dsimp only
          split <;> rfl

/-- A moment and its zone read back from their text. -/
theorem readStamp_text {t : Moment} (h : t.IsReal) {text : String} {zone : List Char} {offset : Int}
    (htext : text.toList = t.text.toList ++ zone) (hends : EndsClock zone)
    (hzone : readNamedZone zone = .ok (offset, [])) : readStamp text = .ok ⟨t, some offset⟩ := by
  obtain ⟨hyear, hmonth, hday⟩ := (Date.isValid_iff t.date).1 h.date
  have hd := Date.daysIn_le t.date.year t.date.month
  have hhour := h.hour
  have hminute := h.minute
  have hdash : isBlank '-' = false := by decide
  have hcolon : isBlank ':' = false := by decide
  have hdate : readParts relaxedDate noFields text.toList =
      .ok (⟨⟨t.date, 0, 0, 0, 0⟩, none⟩, 'T' :: ((padded 2 t.hour).toList ++ ':' ::
        ((padded 2 t.minute).toList ++ ':' :: ((padded 2 t.second).toList ++
          ((fractionText t.nano).toList ++ zone))))) := by
    rw [htext, toList_text]
    unfold relaxedDate
    rw [readParts_year _ _ _ hyear, readParts_space _ _ _ hdash, readParts_literal,
      readParts_month _ _ _ hmonth, readParts_space _ _ _ hdash, readParts_literal,
      readParts_day _ _ _ (by omega)]
    rfl
  have hclock : readParts relaxedClock ⟨⟨t.date, 0, 0, 0, 0⟩, none⟩ ((padded 2 t.hour).toList ++ ':' ::
        ((padded 2 t.minute).toList ++ ':' :: ((padded 2 t.second).toList ++
          ((fractionText t.nano).toList ++ zone)))) =
      .ok (⟨t, none⟩, zone) := by
    unfold relaxedClock
    rw [readParts_hour _ _ _ (by omega), readParts_space _ _ _ hcolon, readParts_literal,
      readParts_minute _ _ _ (by omega), readParts_space _ _ _ hcolon, readParts_seconds h _ rfl hends]
    obtain ⟨c, cs, rfl, -, -, hblank⟩ := hends
    rw [readParts_space _ _ _ hblank]
    rfl
  have hdivider : ∀ cs, readDivider ('T' :: cs) = .ok cs := fun cs => rfl
  unfold readStamp
  simp only [bind, Except.bind, hdate, hdivider, hclock, hzone]
  rfl

/-- A moment reads back from its text with any zone of universal time behind it. -/
theorem parseRelaxed_text {t : Moment} (h : t.IsReal) {text : String} {zone : List Char}
    (htext : text.toList = t.text.toList ++ zone) (hends : EndsClock zone)
    (hzone : readNamedZone zone = .ok (0, [])) : parseRelaxed text = .ok t := by
  rw [parseRelaxed_eq, readStamp_text h htext hends hzone]
  exact universal_of_isReal h

theorem parseRelaxed_offsetText {t : Moment} (h : t.IsReal) : parseRelaxed t.offsetText = .ok t :=
  parseRelaxed_text h (toList_offsetText t) endsClock_noOffset rfl

theorem parseRelaxed_zuluText {t : Moment} (h : t.IsReal) : parseRelaxed t.zuluText = .ok t := by
  have ends : EndsClock ['Z'] := ⟨'Z', [], rfl, by decide, by decide, by decide⟩
  refine parseRelaxed_text h ?_ ends rfl
  unfold zuluText
  rw [String.toList_append]
  rfl

/-- A form that does not get to the end of a text gives no moment. -/
theorem ofForm?_eq_none {form : List Part} {text : String}
    (h : ∀ f, readParts form noFields text.toList ≠ .ok (f, [])) : ofForm? text form = none := by
  have : ∀ f, readFields form text ≠ .ok f := by
    intro f hf
    unfold readFields at hf
    cases hr : readParts form noFields text.toList with
    | error e =>
      rw [hr] at hf
      cases hf
    | ok x =>
      obtain ⟨f', rest⟩ := x
      rw [hr] at hf
      cases rest with
      | nil => exact h f' hr
      | cons c cs => cases hf
  unfold ofForm?
  cases hf : readFields form text with
  | error e => rfl
  | ok f => exact absurd hf (this f)

theorem ofForm?_of_readParts {form : List Part} {text : String} {t : Moment} (h : t.IsReal)
    (hr : readParts form noFields text.toList = .ok (⟨t, some 0⟩, [])) : ofForm? text form = some t := by
  have hf : readFields form text = .ok ⟨t, some 0⟩ := by
    unfold readFields
    rw [hr]
    rfl
  unfold ofForm?
  rw [hf]
  simp [universal_of_isReal h, Except.toOption]

/-- Of the forms besides the strict one, a moment has the last. -/
theorem storedForms_offsetText {t : Moment} (h : t.IsReal) :
    storedForms.findSome? (ofForm? t.offsetText) = some t := by
  -- A form with a blank for the divider looks for an hour where the divider stands.
  have blank : ∀ ps, ofForm? t.offsetText (datePattern ++ [.space] ++ .hour :: ps) = none := by
    intro ps
    refine ofForm?_eq_none fun f hf => ?_
    rw [List.append_assoc, readParts_dated h, List.singleton_append, readParts_space _ _ _ (by decide),
      readParts_error (e := .invalid) rfl] at hf
    cases hf
  -- A form without seconds stops at the colon in front of them.
  have short : ∀ ps, (∀ f f' cs, readParts ps f (':' :: cs) ≠ .ok (f', [])) →
      ofForm? t.offsetText (datePattern ++ [.literal 'T'] ++ .hour :: .literal ':' :: .minute :: ps) = none := by
    intro ps hps
    refine ofForm?_eq_none fun f hf => ?_
    rw [List.append_assoc, List.singleton_append, readParts_divided h] at hf
    exact hps _ _ _ hf
  have long : ∀ ps, (∀ f f', readParts ps f noOffset ≠ .ok (f', [])) →
      ofForm? t.offsetText (datePattern ++ [.literal 'T'] ++ (clockPattern ++ ps)) = none := by
    intro ps hps
    refine ofForm?_eq_none fun f hf => ?_
    rw [List.append_assoc, List.singleton_append, readParts_clock h] at hf
    exact hps _ _ hf
  have last : ofForm? t.offsetText
      (datePattern ++ [.literal 'T'] ++ (clockPattern ++ [.zone false false])) = some t := by
    refine ofForm?_of_readParts h ?_
    rw [List.append_assoc, List.singleton_append, readParts_clock h]
    rfl
  have skip : ∀ {form forms}, ofForm? t.offsetText form = none →
      forms.findSome? (ofForm? t.offsetText) = some t →
      (form :: forms).findSome? (ofForm? t.offsetText) = some t := by
    intro form forms hform hforms
    rw [List.findSome?_cons, hform]
    exact hforms
  have stop : ∀ {p : Part} {ps f f' cs}, readPart p f cs = .error .invalid →
      readParts (p :: ps) f cs ≠ .ok (f', []) := by
    intro p ps f f' cs hp hf
    rw [readParts_error hp] at hf
    cases hf
  unfold storedForms
  refine skip (blank _) (skip (blank _) (skip (blank _) (skip (blank _) (skip (blank _) (skip (blank _) ?_)))))
  refine skip (short [] fun _ _ _ hf => nomatch hf) ?_
  refine skip (short [.literal 'Z'] fun _ _ _ => stop rfl) ?_
  refine skip (short [.zone false false] fun _ _ _ => stop rfl) ?_
  refine skip (long [] fun _ _ hf => nomatch hf) ?_
  refine skip (long [.literal 'Z'] fun _ _ => stop rfl) ?_
  rw [List.findSome?_singleton]
  exact last

/-- What the storage keeps of a moment reads back as it. -/
theorem ofStored?_offsetText {t : Moment} (h : t.IsReal) : ofStored? t.offsetText = some t := by
  have hs : parseStrict t.offsetText = none ∨ parseStrict t.offsetText = some t := by
    unfold parseStrict
    rw [parseRelaxed_offsetText h]
    split
    · split
      · exact .inr rfl
      · exact .inl rfl
    · exact .inl rfl
  unfold ofStored?
  rw [storedForms_offsetText h]
  rcases hs with hs | hs <;> rw [hs] <;> rfl

end QueryGateway.Moment
