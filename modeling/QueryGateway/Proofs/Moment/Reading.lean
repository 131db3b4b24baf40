import QueryGateway.Moment.Stored
import QueryGateway.Proofs.Moment.Clock
import QueryGateway.Proofs.Outcome
import QueryGateway.Proofs.Text.Numerals

/-!
# Moments that are read are real

Whatever text a moment is read from, it is one that a clock can show: the numbers are bounded
where they are read, and the date is looked up in the calendar at the end.
-/

namespace QueryGateway.Moment

open Text

/-! ## Numbers -/

/-- A number that is read has the value of its digits in front. -/
theorem readNumber_lt {width n : Nat} {cs rest : List Char} (h : readNumber width cs = .ok (n, rest)) :
    n < 10 ^ ((cs.take width).takeWhile isDigit).length := by
  cases cs with
  | nil => cases h
  | cons c cs =>
    rw [readNumber] at h
    split at h
    · cases h
      cases hn : numeralFrom 10 digit? 0 (((c :: cs).take width).takeWhile isDigit) with
      | none => exact Nat.pow_pos (by decide)
      | some n => simpa using numeralFrom_lt_pow digit?_lt hn
    · cases h

theorem readBetween_bounds {lo hi n : Nat} {cs rest : List Char} (h : readBetween lo hi cs = .ok (n, rest)) :
    lo ≤ n ∧ n ≤ hi := by
  obtain ⟨⟨m, after⟩, -, h⟩ := bind_eq_ok h
  dsimp only at h
  split at h
  · next bounds =>
    cases h
    simpa using bounds
  · cases h

/-- Nine digits count at most, and fewer are filled up with zeros. -/
theorem readNanos_lt {n : Nat} {cs rest : List Char} (h : readNanos cs = .ok (n, rest)) : n < 1000000000 := by
  obtain ⟨⟨m, after⟩, read, h⟩ := bind_eq_ok h
  cases h
  have hm := readNumber_lt read
  rw [← List.take_takeWhile, List.length_take] at hm
  calc m * 10 ^ (9 - (cs.takeWhile isDigit).length)
      < 10 ^ min 9 (cs.takeWhile isDigit).length * 10 ^ (9 - (cs.takeWhile isDigit).length) :=
        Nat.mul_lt_mul_of_pos_right hm (Nat.pow_pos (by decide))
    _ = 10 ^ 9 := by
        rw [← Nat.pow_add]
        congr 1
        omega

/-! ## Fields -/

/-- The time of day of the fields is one of a clock. -/
structure Fields.Bounded (f : Fields) : Prop where
  hour : f.moment.hour < 24
  minute : f.moment.minute < 60
  second : f.moment.second ≤ 60
  nano : f.moment.nano < 1000000000

theorem noFields_bounded : noFields.Bounded :=
  ⟨Nat.zero_lt_succ _, Nat.zero_lt_succ _, Nat.zero_le _, Nat.zero_lt_succ _⟩

/-- Every part of a pattern leaves the time of day one of a clock. -/
theorem readPart_bounded {part : Part} {f f' : Fields} {cs rest : List Char} (hf : f.Bounded)
    (h : readPart part f cs = .ok (f', rest)) : f'.Bounded := by
  cases part with
  | year | month | day | zone =>
    obtain ⟨_, -, h⟩ := bind_eq_ok h
    cases h
    exact ⟨hf.hour, hf.minute, hf.second, hf.nano⟩
  | hour =>
    obtain ⟨_, read, h⟩ := bind_eq_ok h
    cases h
    exact ⟨Nat.lt_succ_of_le (readBetween_bounds read).2, hf.minute, hf.second, hf.nano⟩
  | minute =>
    obtain ⟨_, read, h⟩ := bind_eq_ok h
    cases h
    exact ⟨hf.hour, Nat.lt_succ_of_le (readBetween_bounds read).2, hf.second, hf.nano⟩
  | second =>
    obtain ⟨_, read, h⟩ := bind_eq_ok h
    cases h
    exact ⟨hf.hour, hf.minute, (readBetween_bounds read).2, hf.nano⟩
  | fraction =>
    unfold readPart at h
    dsimp only at h
    split at h
    · obtain ⟨_, read, h⟩ := bind_eq_ok h
      cases h
      exact ⟨hf.hour, hf.minute, hf.second, readNanos_lt read⟩
    · cases h
      exact hf
  | space =>
    cases h
    exact hf
  | literal c =>
    unfold readPart at h
    dsimp only at h
    split at h
    · cases h
    · split at h
      · cases h
        exact hf
      · cases h

theorem readParts_bounded {parts : List Part} {f f' : Fields} {cs rest : List Char} (hf : f.Bounded)
    (h : readParts parts f cs = .ok (f', rest)) : f'.Bounded := by
  induction parts generalizing f cs with
  | nil =>
    cases h
    exact hf
  | cons p ps ih =>
    obtain ⟨_, read, h⟩ := bind_eq_ok h
    exact ih (readPart_bounded hf read) h

/-! ## Moments -/

theorem Fields.Bounded.isReal_localMoment {f : Fields} {t : Moment} (hf : f.Bounded) (h : f.localMoment = .ok t) :
    t.IsReal := by
  unfold Fields.localMoment at h
  split at h
  · next valid =>
    cases h
    exact ⟨valid, hf.hour, hf.minute, hf.second, hf.nano⟩
  · cases h

/-- A clock shows a moment in another zone too, if the calendar has the day there. -/
theorem isReal_of_addMinutes {t u : Moment} {delta : Int} (ht : t.IsReal) (hlo : -1440 ≤ delta)
    (hhi : delta ≤ 1440) (h : t.addMinutes delta = some u) : u.IsReal := by
  have hhour := ht.hour
  have hminute := ht.minute
  have clock : ∀ {date : Date} {m : Int}, 0 ≤ m → m < 1440 →
      (if date.isValid then some ⟨date, m.toNat / 60, m.toNat % 60, t.second, t.nano⟩ else none) = some u →
      u.IsReal := by
    intro date m hm hday hu
    split at hu
    · next valid =>
      cases hu
      exact ⟨valid, by dsimp only; omega, Nat.mod_lt _ (by decide), ht.second, ht.nano⟩
    · cases hu
  unfold addMinutes at h
  dsimp only at h
  split at h
  · exact clock (by omega) (by omega) h
  · split at h
    · exact clock (by omega) (by omega) h
    · exact clock (by omega) (by omega) h

theorem Fields.Bounded.isReal_universal {f : Fields} {t : Moment} (hf : f.Bounded) (h : f.universal = .ok t) :
    t.IsReal := by
  unfold Fields.universal at h
  split at h
  · cases h
  · next offset _ =>
    obtain ⟨u, shown, h⟩ := bind_eq_ok h
    split at h
    · next bounds =>
      have bounds : -86400 < offset ∧ offset < 86400 := by simpa using bounds
      split at h
      · next moved =>
        cases h
        exact isReal_of_addMinutes (hf.isReal_localMoment shown) (by omega) (by omega) moved
      · cases h
    · cases h

/-- What is read leniently is a moment that a clock can show. -/
theorem isReal_of_parseRelaxed {text : String} {t : Moment} (h : parseRelaxed text = .ok t) : t.IsReal := by
  obtain ⟨⟨f, cs⟩, date, h⟩ := bind_eq_ok h
  obtain ⟨cs', -, h⟩ := bind_eq_ok h
  obtain ⟨⟨f', cs''⟩, clock, h⟩ := bind_eq_ok h
  obtain ⟨⟨offset, rest⟩, -, h⟩ := bind_eq_ok h
  have bounded : (⟨f'.moment, some offset⟩ : Fields).Bounded := by
    have := readParts_bounded (readParts_bounded noFields_bounded date) clock
    exact ⟨this.hour, this.minute, this.second, this.nano⟩
  dsimp only at h
  split at h
  · exact bounded.isReal_universal h
  · cases h

theorem readFields_bounded {pattern : List Part} {text : String} {f : Fields} (h : readFields pattern text = .ok f) :
    f.Bounded := by
  obtain ⟨⟨f', rest⟩, read, h⟩ := bind_eq_ok h
  dsimp only at h
  split at h
  · cases h
    exact readParts_bounded noFields_bounded read
  · cases h

theorem isReal_of_ofForm? {text : String} {form : List Part} {t : Moment} (h : ofForm? text form = some t) :
    t.IsReal := by
  unfold ofForm? at h
  split at h
  · next f read =>
    have bounded := readFields_bounded read
    rcases Option.or_eq_some_iff.1 h with h | ⟨-, h⟩
    · exact bounded.isReal_universal (toOption_eq_some h)
    · exact bounded.isReal_localMoment (toOption_eq_some h)
  · cases h

/-- What is read from the storage is a moment that a clock can show. -/
theorem isReal_of_ofStored? {text : String} {t : Moment} (h : ofStored? text = some t) : t.IsReal := by
  rcases Option.or_eq_some_iff.1 h with h | ⟨-, h⟩
  · unfold parseStrict at h
    split at h
    · split at h
      · exact isReal_of_parseRelaxed (toOption_eq_some h)
      · cases h
    · cases h
  · obtain ⟨form, -, h⟩ := List.exists_of_findSome?_eq_some h
    exact isReal_of_ofForm? h

end QueryGateway.Moment
