import QueryGateway.Proofs.Moment.Reading
import QueryGateway.Proofs.Moment.Stored

/-!
# Instants

The same instant has another date and time of day in each zone. Counting the days of the
calendar makes them comparable: a timestamp that is read is put into universal time by taking its
offset off, and there no two moments are the same instant.
-/

namespace QueryGateway

/-! ## Counting days -/

namespace Date

/-- The calendar has the day, in whatever year. -/
structure IsDay (d : Date) : Prop where
  month : 1 ≤ d.month ∧ d.month ≤ 12
  day : 1 ≤ d.day ∧ d.day ≤ daysIn d.year d.month

theorem isDay_of_isValid {d : Date} (h : d.isValid = true) : d.IsDay :=
  have parts := (isValid_iff d).1 h
  ⟨parts.2.1, parts.2.2⟩

/-- How many days stand in front of a year. -/
def yearStart (year : Int) : Int := 365 * year + (year - 1) / 4 - (year - 1) / 100 + (year - 1) / 400

/-- How many days of a year stand in front of a month. -/
def monthStart (year : Int) : Nat → Nat
  | 0 => 0
  | 1 => 0
  | m + 2 => monthStart year (m + 1) + daysIn year (m + 1)

/-- The place of a day among all days. -/
def number (d : Date) : Int := yearStart d.year + monthStart d.year d.month + d.day

theorem yearStart_succ (year : Int) : yearStart (year + 1) = yearStart year + if isLeap year then 366 else 365 := by
  unfold yearStart isLeap
  by_cases leap : year % 4 = 0 ∧ (year % 100 ≠ 0 ∨ year % 400 = 0)
  · rw [if_pos (by simpa using leap)]
    omega
  · rw [if_neg (by simpa using leap)]
    omega

theorem yearStart_le {y z : Int} (h : y ≤ z) : yearStart y ≤ yearStart z := by
  unfold yearStart
  rcases Int.lt_or_eq_of_le h with h | rfl
  · omega
  · exact Int.le_refl _

theorem monthStart_succ (year : Int) {month : Nat} (h : 1 ≤ month) :
    monthStart year (month + 1) = monthStart year month + daysIn year month := by
  cases month with
  | zero => omega
  | succ month => rfl

theorem monthStart_le (year : Int) {m n : Nat} (h : 1 ≤ m) (hlt : m < n) :
    monthStart year m + daysIn year m ≤ monthStart year n := by
  induction n with
  | zero => omega
  | succ n ih =>
    rcases Nat.lt_or_eq_of_le (Nat.le_of_lt_succ hlt) with hlt | rfl
    · rw [monthStart_succ year (by omega)]
      exact Nat.le_trans (ih hlt) (Nat.le_add_right _ _)
    · exact Nat.le_of_eq (monthStart_succ year h).symm

/-- The months fill the year. -/
theorem monthStart_end (year : Int) :
    monthStart year 12 + daysIn year 12 = if isLeap year then 366 else 365 := by
  simp only [monthStart, daysIn]
  cases isLeap year <;> rfl

theorem yearStart_next (year : Int) :
    yearStart (year + 1) = yearStart year + (monthStart year 12 + daysIn year 12 : Nat) := by
  rw [yearStart_succ, monthStart_end]
  split <;> rfl

theorem number_bounds {d : Date} (h : d.IsDay) : yearStart d.year < d.number ∧ d.number ≤ yearStart (d.year + 1) := by
  have upTo : monthStart d.year d.month + daysIn d.year d.month ≤ monthStart d.year 12 + daysIn d.year 12 := by
    rcases Nat.lt_or_eq_of_le h.month.2 with before | last
    · exact Nat.le_trans (monthStart_le d.year h.month.1 before) (Nat.le_add_right _ _)
    · exact Nat.le_of_eq (by rw [last])
  have day := h.day
  rw [yearStart_next]
  unfold number
  omega

/-- An earlier year, or in one year an earlier month, or in one month an earlier day. -/
def Before (d e : Date) : Prop :=
  d.year < e.year ∨ d.year = e.year ∧ (d.month < e.month ∨ d.month = e.month ∧ d.day < e.day)

theorem before_total (d e : Date) : d.Before e ∨ d = e ∨ e.Before d := by
  obtain ⟨y, m, n⟩ := d
  obtain ⟨y', m', n'⟩ := e
  unfold Before
  rw [Date.mk.injEq]
  dsimp only
  omega

theorem Before.number_lt {d e : Date} (h : d.Before e) (hd : d.IsDay) (he : e.IsDay) : d.number < e.number := by
  have last := hd.day.2
  have first := he.day.1
  rcases h with year | ⟨year, month | ⟨month, day⟩⟩
  · have := yearStart_le (Int.add_one_le_of_lt year)
    have := (number_bounds hd).2
    have := (number_bounds he).1
    omega
  · have := monthStart_le d.year hd.month.1 month
    unfold number
    rw [← year]
    omega
  · unfold number
    rw [← year, ← month]
    omega

/-- Days are counted in the order of the calendar. -/
theorem number_lt_iff {d e : Date} (hd : d.IsDay) (he : e.IsDay) : d.number < e.number ↔ d.Before e := by
  refine ⟨fun h => ?_, fun h => h.number_lt hd he⟩
  rcases before_total d e with before | rfl | behind
  · exact before
  · exact absurd h (Int.lt_irrefl _)
  · have := behind.number_lt he hd
    omega

/-- No two days have the same place. -/
theorem number_injective {d e : Date} (hd : d.IsDay) (he : e.IsDay) (h : d.number = e.number) : d = e := by
  rcases before_total d e with before | same | behind
  · have := before.number_lt hd he
    omega
  · exact same
  · have := behind.number_lt he hd
    omega

theorem number_next {d : Date} (h : d.IsDay) : d.next.number = d.number + 1 := by
  obtain ⟨month, day⟩ := h
  unfold next
  split
  · unfold number
    dsimp only
    omega
  · next lastDay =>
    split
    · have := monthStart_succ d.year month.1
      unfold number
      dsimp only
      omega
    · -- The year begins behind the end of December.
      have last : d.month = 12 := by omega
      have first : monthStart (d.year + 1) 1 = 0 := rfl
      rw [last] at day lastDay
      unfold number
      dsimp only
      rw [last, yearStart_next, first]
      omega

theorem number_previous {d : Date} (h : d.IsDay) : d.previous.number = d.number - 1 := by
  obtain ⟨month, day⟩ := h
  unfold previous
  split
  · unfold number
    dsimp only
    omega
  · split
    · have before : 1 ≤ d.month - 1 := by omega
      have step := monthStart_succ d.year before
      rw [Nat.sub_add_cancel month.1] at step
      unfold number
      dsimp only
      omega
    · have first : d.month = 1 := by omega
      have start := yearStart_next (d.year - 1)
      have december : daysIn (d.year - 1) 12 = 31 := rfl
      have none : monthStart d.year 1 = 0 := rfl
      rw [Int.sub_add_cancel] at start
      unfold number
      dsimp only
      rw [first, start, none]
      omega

end Date

namespace Moment

open Text

/-! ## Counting minutes -/

/-- The place of the minute of a moment among all minutes. -/
def minutes (t : Moment) : Int := t.date.number * 1440 + (t.hour * 60 + t.minute : Nat)

/-- A moment is known by its minute, its second and its nanosecond. -/
theorem eq_of_minutes {s t : Moment} (hs : s.IsReal) (ht : t.IsReal) (minutes : s.minutes = t.minutes)
    (second : s.second = t.second) (nano : s.nano = t.nano) : s = t := by
  have h₁ := hs.hour
  have h₂ := hs.minute
  have h₃ := ht.hour
  have h₄ := ht.minute
  unfold Moment.minutes at minutes
  have date : s.date = t.date :=
    Date.number_injective (Date.isDay_of_isValid hs.date) (Date.isDay_of_isValid ht.date) (by omega)
  have hour : s.hour = t.hour := by
    rw [date] at minutes
    omega
  have minute : s.minute = t.minute := by
    rw [date] at minutes
    omega
  cases s
  cases t
  simp_all

/-- Later by so many minutes is at another place by as many. -/
theorem minutes_addMinutes {t u : Moment} {delta : Int} (ht : t.IsReal) (hlo : -1440 ≤ delta) (hhi : delta ≤ 1440)
    (h : t.addMinutes delta = some u) :
    u.minutes = t.minutes + delta ∧ u.second = t.second ∧ u.nano = t.nano := by
  have day := Date.isDay_of_isValid ht.date
  have hhour := ht.hour
  have hminute := ht.minute
  have clock : ∀ {date : Date} {m : Int}, 0 ≤ m → m < 1440 →
      date.number * 1440 + m = t.minutes + delta →
      (if date.isValid then some ⟨date, m.toNat / 60, m.toNat % 60, t.second, t.nano⟩ else none) = some u →
      u.minutes = t.minutes + delta ∧ u.second = t.second ∧ u.nano = t.nano := by
    intro date m low high place hu
    split at hu
    · cases hu
      refine ⟨?_, rfl, rfl⟩
      rw [← place]
      unfold Moment.minutes
      dsimp only
      omega
    · cases hu
  unfold addMinutes at h
  dsimp only at h
  split at h
  · refine clock (by omega) (by omega) ?_ h
    rw [Date.number_previous day]
    unfold Moment.minutes
    omega
  · split at h
    · refine clock (by omega) (by omega) ?_ h
      rw [Date.number_next day]
      unfold Moment.minutes
      omega
    · refine clock (by omega) (by omega) ?_ h
      unfold Moment.minutes
      dsimp only
      omega

/-! ## Timestamps -/

/-- Two timestamps state the same instant: their minutes, seconds and nanoseconds agree once the
offset of each, which is in seconds, is taken off. -/
def Fields.SameInstant (f g : Fields) : Prop :=
  ∃ a b, f.offset = some a ∧ g.offset = some b ∧ f.moment.minutes * 60 - a = g.moment.minutes * 60 - b ∧
    f.moment.second = g.moment.second ∧ f.moment.nano = g.moment.nano

theorem bounded_of_readStamp {text : String} {f : Fields} (h : readStamp text = .ok f) : f.Bounded := by
  obtain ⟨⟨date, cs⟩, hdate, h⟩ := bind_eq_ok h
  obtain ⟨cs', -, h⟩ := bind_eq_ok h
  obtain ⟨⟨clock, cs''⟩, hclock, h⟩ := bind_eq_ok h
  obtain ⟨⟨offset, rest⟩, -, h⟩ := bind_eq_ok h
  have bounded := readParts_bounded (readParts_bounded noFields_bounded hdate) hclock
  dsimp only at h
  split at h
  · cases h
    exact ⟨bounded.hour, bounded.minute, bounded.second, bounded.nano⟩
  · cases h

/-- In universal time, the offset is taken off the minutes. -/
theorem Fields.Bounded.minutes_universal {f : Fields} {u : Moment} {offset : Int} (hf : f.Bounded)
    (hoffset : f.offset = some offset) (h : f.universal = .ok u) :
    u.minutes = f.moment.minutes - offset / 60 ∧ u.second = f.moment.second ∧ u.nano = f.moment.nano := by
  unfold Fields.universal at h
  rw [hoffset] at h
  obtain ⟨t, shown, h⟩ := bind_eq_ok h
  have real := hf.isReal_localMoment shown
  have same : f.moment = t := by
    unfold Fields.localMoment at shown
    split at shown
    · exact Except.ok.inj shown
    · cases shown
  split at h
  · next bounds =>
    have bounds : -86400 < offset ∧ offset < 86400 := by simpa using bounds
    split at h
    · next moved =>
      cases h
      rw [same]
      exact minutes_addMinutes real (by omega) (by omega) moved
    · cases h
  · cases h

/-- Timestamps that state the same instant are read as the same moment, whatever their offsets. -/
theorem eq_of_sameInstant {a b : String} {f g : Fields} {s t : Moment} (ha : readStamp a = .ok f)
    (hb : readStamp b = .ok g) (same : f.SameInstant g) (hs : parseRelaxed a = .ok s)
    (ht : parseRelaxed b = .ok t) : s = t := by
  obtain ⟨x, y, hx, hy, minutes, second, nano⟩ := same
  have realS := isReal_of_parseRelaxed hs
  have realT := isReal_of_parseRelaxed ht
  rw [parseRelaxed_eq, ha] at hs
  rw [parseRelaxed_eq, hb] at ht
  obtain ⟨sMinutes, sSecond, sNano⟩ := (bounded_of_readStamp ha).minutes_universal hx hs
  obtain ⟨tMinutes, tSecond, tNano⟩ := (bounded_of_readStamp hb).minutes_universal hy ht
  refine eq_of_minutes realS realT ?_ ?_ ?_
  · omega
  · rw [sSecond, second, tSecond]
  · rw [sNano, nano, tNano]

/-! ## Offsets -/

/-- An offset in minutes, as timestamps write it. -/
def zoneText (offset : Int) : String :=
  (if offset < 0 then "-" else "+") ++ padded 2 (offset.natAbs / 60) ++ ":" ++ padded 2 (offset.natAbs % 60)

/-- A moment in a zone that is so many minutes ahead of universal time. -/
def stampText (t : Moment) (offset : Int) : String := t.text ++ zoneText offset

/-- Two digits are taken as they are written. -/
theorem twoDigits_padded {n : Nat} (h : n < 100) :
    ∃ a b, (padded 2 n).toList = [a, b] ∧ isDigit a = true ∧
      ∀ rest, twoDigits (a :: b :: rest) = .ok (n / 10, n % 10) := by
  have digits : ∀ n, n < 100 → (padded 2 n).toList = [Nat.digitChar (n / 10), Nat.digitChar (n % 10)] ∧
      digit? (Nat.digitChar (n / 10)) = some (n / 10) ∧ digit? (Nat.digitChar (n % 10)) = some (n % 10) := by
    decide
  obtain ⟨text, tens, ones⟩ := digits n h
  refine ⟨_, _, text, padded_digits 2 n _ (by rw [text]; exact List.mem_cons_self), fun rest => ?_⟩
  rw [twoDigits, tens, ones]

/-- The hours of an offset behind its sign, and then its minutes. -/
theorem readZone_hours {sign : Char} {negative : Bool} (hsign : ∀ cs, zoneSign (sign :: cs) = .ok (negative, cs))
    (letter : sign ≠ 'Z' ∧ sign ≠ 'z') {bareHours : Bool} {hours minutes : Nat} (hh : hours < 100)
    {cs rest : List Char}
    (hm : zoneMinutes bareHours (cs.dropWhile fun c => c == ':' || isBlank c) = .ok (minutes, rest)) :
    readZone true bareHours (sign :: ((padded 2 hours).toList ++ cs)) =
      .ok (if negative then -((hours * 3600 + minutes * 60 : Nat) : Int) else (hours * 3600 + minutes * 60 : Nat),
        rest) := by
  obtain ⟨a, b, digits, -, readHours⟩ := twoDigits_padded hh
  have value : hours / 10 * 10 + hours % 10 = hours := Nat.div_add_mod' hours 10
  rw [digits]
  unfold readZone
  split
  · next heq _ => exact absurd (List.cons.inj heq).1 letter.1
  · next heq _ => exact absurd (List.cons.inj heq).1 letter.2
  · rw [hsign]
    show (twoDigits (a :: b :: cs) >>= _) = _
    rw [readHours]
    show (zoneMinutes bareHours (cs.dropWhile fun c => c == ':' || isBlank c) >>= _) = _
    rw [hm]
    show Except.ok (if negative then _ else _, _) = _
    rw [value]

/-- Two digits behind the colon are the minutes of an offset. -/
theorem zoneMinutes_padded (bareHours : Bool) {minutes : Nat} (h : minutes < 60) :
    zoneMinutes bareHours ((':' :: (padded 2 minutes).toList).dropWhile fun c => c == ':' || isBlank c) =
      .ok (minutes, []) := by
  obtain ⟨c, d, digits, digit, readMinutes⟩ := twoDigits_padded (n := minutes) (by omega)
  have colon : ((':' :: c :: d :: []).dropWhile fun c => c == ':' || isBlank c) = [c, d] := by
    have other : (c == ':' || isBlank c) = false := by
      rw [isBlank_of_isDigit digit, Bool.or_false, beq_eq_false_iff_ne]
      rintro rfl
      exact absurd digit (by decide)
    rw [List.dropWhile_cons_of_pos (by decide), List.dropWhile_cons_of_neg (by simpa using other)]
  rw [digits, colon]
  unfold zoneMinutes
  rw [readMinutes]
  dsimp only
  rw [if_pos (by omega), Nat.div_add_mod']
  rfl

theorem toList_zoneText (offset : Int) :
    (zoneText offset).toList = (if offset < 0 then '-' else '+') ::
      ((padded 2 (offset.natAbs / 60)).toList ++ ':' :: (padded 2 (offset.natAbs % 60)).toList) := by
  unfold zoneText
  split <;> simp

/-- An offset of less than a day reads back. -/
theorem readNamedZone_zoneText {offset : Int} (h : offset.natAbs < 1440) :
    readNamedZone (zoneText offset).toList = .ok (offset * 60, []) := by
  have unnamed : ∀ sign cs, upperChar sign ≠ 'U' → readNamedZone (sign :: cs) = readZone true false (sign :: cs) := by
    intro sign cs hsign
    exact if_neg (by simp [hsign])
  rw [toList_zoneText]
  by_cases behind : offset < 0
  · rw [if_pos behind, unnamed _ _ (by decide),
      readZone_hours (fun _ => rfl) (by decide) (by omega) (zoneMinutes_padded false (Nat.mod_lt _ (by decide)))]
    refine congrArg (fun seconds : Int => Except.ok (seconds, [])) ?_
    rw [if_pos rfl]
    omega
  · rw [if_neg behind, unnamed _ _ (by decide),
      readZone_hours (fun _ => rfl) (by decide) (by omega) (zoneMinutes_padded false (Nat.mod_lt _ (by decide)))]
    refine congrArg (fun seconds : Int => Except.ok (seconds, [])) ?_
    rw [if_neg (by decide)]
    omega

/-- A timestamp states its moment and its offset. -/
theorem readStamp_stampText {t : Moment} (ht : t.IsReal) {offset : Int} (h : offset.natAbs < 1440) :
    readStamp (stampText t offset) = .ok ⟨t, some (offset * 60)⟩ := by
  refine readStamp_text ht String.toList_append ?_ (readNamedZone_zoneText h)
  rw [toList_zoneText]
  refine ⟨_, _, rfl, ?_⟩
  split
  · exact ⟨by decide, by decide, by decide⟩
  · exact ⟨by decide, by decide, by decide⟩

end Moment

end QueryGateway
