import QueryGateway.Moment

/-!
# Clocks

The moments that a clock can show, and how it goes on from one to the next.
-/

namespace QueryGateway

/-! ## Dates -/

namespace Date

theorem isValid_iff (d : Date) :
    d.isValid = true ↔ (minYear ≤ d.year ∧ d.year ≤ maxYear) ∧ (1 ≤ d.month ∧ d.month ≤ 12) ∧
      1 ≤ d.day ∧ d.day ≤ daysIn d.year d.month := by
  unfold isValid
  simp [and_assoc]

theorem one_le_daysIn (year : Int) (month : Nat) : 1 ≤ daysIn year month := by
  unfold daysIn
  split
  · split <;> omega
  · split <;> omega

theorem daysIn_le (year : Int) (month : Nat) : daysIn year month ≤ 31 := by
  unfold daysIn
  split
  · split <;> omega
  · split <;> omega

theorem isValid_next {d : Date} (h : d.isValid = true) (hyear : d.next.year ≤ maxYear) :
    d.next.isValid = true := by
  obtain ⟨⟨hmin, hmax⟩, hmonth, hday⟩ := (isValid_iff d).1 h
  rw [isValid_iff]
  unfold next at hyear ⊢
  split
  · exact ⟨⟨hmin, hmax⟩, hmonth, by dsimp only; omega⟩
  · split
    · have := one_le_daysIn d.year (d.month + 1)
      exact ⟨⟨hmin, hmax⟩, by dsimp only; omega, by dsimp only; omega⟩
    · next h1 h2 =>
      rw [if_neg h1, if_neg h2] at hyear
      have := one_le_daysIn (d.year + 1) 1
      exact ⟨⟨by dsimp only; omega, hyear⟩, by dsimp only; omega, by dsimp only; omega⟩

theorem isValid_previous {d : Date} (h : d.isValid = true) (hyear : minYear ≤ d.previous.year) :
    d.previous.isValid = true := by
  obtain ⟨⟨hmin, hmax⟩, hmonth, hday⟩ := (isValid_iff d).1 h
  rw [isValid_iff]
  unfold previous at hyear ⊢
  split
  · exact ⟨⟨hmin, hmax⟩, hmonth, by dsimp only; omega⟩
  · split
    · have := one_le_daysIn d.year (d.month - 1)
      exact ⟨⟨hmin, hmax⟩, by dsimp only; omega, by dsimp only; omega⟩
    · next h1 h2 =>
      rw [if_neg h1, if_neg h2] at hyear
      have december : daysIn (d.year - 1) 12 = 31 := rfl
      exact ⟨⟨hyear, by dsimp only; omega⟩, by dsimp only; omega, by dsimp only; omega⟩

theorem year_next (d : Date) : d.year ≤ d.next.year ∧ d.next.year ≤ d.year + 1 := by
  unfold next
  split
  · dsimp only
    omega
  · split <;> dsimp only <;> omega

theorem year_previous (d : Date) : d.year - 1 ≤ d.previous.year ∧ d.previous.year ≤ d.year := by
  unfold previous
  split
  · dsimp only
    omega
  · split <;> dsimp only <;> omega

end Date

namespace Moment

/-! ## Moments -/

/-- A moment that a clock can show: a day of the calendar, in a year that is kept, and a
time of day, perhaps in a leap second. -/
structure IsReal (t : Moment) : Prop where
  date : t.date.isValid = true
  hour : t.hour < 24
  minute : t.minute < 60
  second : t.second ≤ 60
  nano : t.nano < 1000000000

theorem IsReal.year_le {t : Moment} (h : t.IsReal) : t.date.year ≤ Date.maxYear :=
  ((Date.isValid_iff t.date).1 h.date).1.2

/-- A clock goes on from one moment to the next, up to the last year that is kept. -/
theorem IsReal.tick {t : Moment} (h : t.IsReal) (hyear : t.tick.date.year ≤ Date.maxYear) : t.tick.IsReal := by
  obtain ⟨hdate, hhour, hminute, hsecond, hnano⟩ := h
  unfold Moment.tick at hyear ⊢
  split
  · exact ⟨hdate, hhour, hminute, by dsimp only; omega, hnano⟩
  · split
    · exact ⟨hdate, hhour, by dsimp only; omega, Nat.zero_le _, hnano⟩
    · split
      · exact ⟨hdate, by dsimp only; omega, Nat.zero_lt_succ _, Nat.zero_le _, hnano⟩
      · next h1 h2 h3 =>
        rw [if_neg h1, if_neg h2, if_neg h3] at hyear
        exact ⟨Date.isValid_next hdate hyear, Nat.zero_lt_succ _, Nat.zero_lt_succ _, Nat.zero_le _, hnano⟩

theorem addMinutes_zero {t : Moment} (h : t.IsReal) : t.addMinutes 0 = some t := by
  have hhour := h.hour
  have hminute := h.minute
  have hlo : ¬ ((t.hour * 60 + t.minute : Nat) : Int) < 0 := by omega
  have hhi : ¬ ((t.hour * 60 + t.minute : Nat) : Int) ≥ 1440 := by omega
  have hh : (t.hour * 60 + t.minute) / 60 = t.hour := by omega
  have hm : (t.hour * 60 + t.minute) % 60 = t.minute := by omega
  unfold addMinutes
  dsimp only
  rw [Int.add_zero, if_neg hlo, if_neg hhi]
  dsimp only
  rw [if_pos h.date, Int.toNat_natCast, hh, hm]

/-- Less than a day away from a moment there is a moment, but for the first and the last year that
are kept. -/
theorem addMinutes_of_year {t : Moment} (h : t.IsReal) (delta : Int)
    (hyear : Date.minYear < t.date.year ∧ t.date.year < Date.maxYear) :
    ∃ u, t.addMinutes delta = some u ∧ t.date.year - 1 ≤ u.date.year ∧ u.date.year ≤ t.date.year + 1 := by
  have next := t.date.year_next
  have previous := t.date.year_previous
  unfold addMinutes
  dsimp only
  split
  · rw [if_pos (Date.isValid_previous h.date (by omega))]
    exact ⟨_, rfl, by dsimp only; omega, by dsimp only; omega⟩
  · split
    · rw [if_pos (Date.isValid_next h.date (by omega))]
      exact ⟨_, rfl, by dsimp only; omega, by dsimp only; omega⟩
    · rw [if_pos h.date]
      exact ⟨_, rfl, by dsimp only; omega, by dsimp only; omega⟩

/-! ## Order -/

theorem partsLe_refl (as : List Int) : partsLe as as = true := by
  induction as with
  | nil => rfl
  | cons a as ih => simp [partsLe, ih]

theorem partsLe_trans {as bs cs : List Int} (hlen : as.length = bs.length) (h : partsLe as bs = true)
    (h' : partsLe bs cs = true) : partsLe as cs = true := by
  induction as generalizing bs cs with
  | nil => rfl
  | cons a as ih =>
    match bs, cs with
    | b :: bs, [] => rfl
    | b :: bs, c :: cs =>
      simp only [partsLe, Bool.or_eq_true, Bool.and_eq_true, decide_eq_true_eq, beq_iff_eq] at h h' ⊢
      rcases h with h | ⟨rfl, h⟩ <;> rcases h' with h' | ⟨rfl, h'⟩
      · exact .inl (by omega)
      · exact .inl h
      · exact .inl h'
      · exact .inr ⟨rfl, ih (by simpa using hlen) h h'⟩

theorem le_refl (t : Moment) : t.le t = true := partsLe_refl t.parts

theorem le_trans {s t u : Moment} (h : s.le t = true) (h' : t.le u = true) : s.le u = true :=
  @partsLe_trans s.parts t.parts u.parts rfl h h'

/-- A clock goes forward. -/
theorem le_tick (t : Moment) : t.le t.tick = true := by
  have later (n : Nat) : (n : Int) < n + 1 := Int.lt_succ n
  unfold tick Date.next
  split
  · simp [le, parts, partsLe, later]
  · split
    · simp [le, parts, partsLe, later]
    · split
      · simp [le, parts, partsLe, later]
      · split
        · simp [le, parts, partsLe, later]
        · split
          · simp [le, parts, partsLe, later]
          · simp [le, parts, partsLe, Int.lt_succ t.date.year]

theorem year_le_of_le {s t : Moment} (h : s.le t = true) : s.date.year ≤ t.date.year := by
  simp only [le, parts, partsLe, Bool.or_eq_true, Bool.and_eq_true, decide_eq_true_eq, beq_iff_eq] at h
  omega

end Moment

end QueryGateway
