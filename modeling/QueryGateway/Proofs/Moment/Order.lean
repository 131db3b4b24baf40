import QueryGateway.Proofs.Moment.Instants
import QueryGateway.Proofs.Text.Order

/-!
# The order of stored moments

The storage sorts moments by their texts. In years of four digits these are in the order of the
instants, although a fraction may be missing or have three, six or nine digits: behind it stands
the sign of the offset, which is smaller than the point, and the point is smaller than any digit.
Main statement: `offsetText_lt_iff`.
-/

namespace QueryGateway.Moment

open Text

/-! ## Instants -/

/-- One moment is before another: in an earlier minute, or in one minute at an earlier second, or
in one second at an earlier nanosecond. -/
def Before (s t : Moment) : Prop :=
  s.minutes < t.minutes ∨
    s.minutes = t.minutes ∧ (s.second < t.second ∨ s.second = t.second ∧ s.nano < t.nano)

/-- The place of a moment among all nanoseconds, where no second is a leap second. -/
def instant (t : Moment) : Int := (t.minutes * 60 + t.second) * 1000000000 + t.nano

theorem before_iff_instant {s t : Moment} (hs : s.IsReal) (ht : t.IsReal) (hs60 : s.second < 60)
    (ht60 : t.second < 60) : s.Before t ↔ s.instant < t.instant := by
  have := hs.nano
  have := ht.nano
  unfold Before instant
  omega

/-- Outside leap seconds, no two moments are one instant. -/
theorem eq_of_instant {s t : Moment} (hs : s.IsReal) (ht : t.IsReal) (hs60 : s.second < 60) (ht60 : t.second < 60)
    (h : s.instant = t.instant) : s = t := by
  have := hs.nano
  have := ht.nano
  unfold instant at h
  exact eq_of_minutes hs ht (by omega) (by omega) (by omega)

/-- Moments are in the order of their parts. -/
theorem before_iff_parts {s t : Moment} (hs : s.IsReal) (ht : t.IsReal) : s.Before t ↔ s.parts < t.parts := by
  have sDay := Date.isDay_of_isValid hs.date
  have tDay := Date.isDay_of_isValid ht.date
  have hour := hs.hour
  have minute := hs.minute
  have hour' := ht.hour
  have minute' := ht.minute
  have clock : s.minutes < t.minutes ↔ s.date.number < t.date.number ∨
      s.date.number = t.date.number ∧ (s.hour < t.hour ∨ s.hour = t.hour ∧ s.minute < t.minute) := by
    unfold minutes
    omega
  have sameClock : s.minutes = t.minutes ↔
      s.date.number = t.date.number ∧ s.hour = t.hour ∧ s.minute = t.minute := by
    unfold minutes
    omega
  have sameDay : s.date.number = t.date.number ↔
      s.date.year = t.date.year ∧ s.date.month = t.date.month ∧ s.date.day = t.date.day := by
    refine ⟨fun h => ?_, fun ⟨year, month, day⟩ => by unfold Date.number; rw [year, month, day]⟩
    rw [Date.number_injective sDay tDay h]
    exact ⟨rfl, rfl, rfl⟩
  unfold Before parts
  rw [clock, sameClock, Date.number_lt_iff sDay tDay, sameDay]
  -- Both sides are now the same cases, the first part in which the moments differ.
  simp only [Date.Before, List.cons_lt_cons_iff, Int.natCast_inj, Int.ofNat_lt, lt_self_iff_false, and_false, or_false,
    and_or_left, or_assoc, and_assoc]

/-! ## Texts -/

/-- Fractions are in the order of their texts, in front of a character that is smaller than the
point. -/
theorem fractionText_lt {m n : Nat} (hm : m < 1000000000) (hn : n < 1000000000) (h : m < n) {stop : Char}
    (hstop : stop < '.') (zone : List Char) :
    (fractionText m).toList ++ stop :: zone < (fractionText n).toList ++ stop :: zone := by
  rcases fractionText_cases hn with ⟨rfl, -⟩ | ⟨w', b, -, hw', hb, rfl, later⟩
  · exact absurd h (Nat.not_lt_zero m)
  rw [later, String.toList_append]
  rcases fractionText_cases hm with ⟨rfl, none⟩ | ⟨w, a, -, hw, ha, rfl, earlier⟩
  · rw [none]
    exact List.cons_lt_cons_iff.2 (.inl hstop)
  · have width : (padded w a).toList.length = w := length_padded (by omega) ha
    have width' : (padded w' b).toList.length = w' := length_padded (by omega) hb
    rw [earlier, String.toList_append]
    show '.' :: ((padded w a).toList ++ stop :: zone) < '.' :: ((padded w' b).toList ++ stop :: zone)
    have digits : (padded w a).toList ++ stop :: zone < (padded w' b).toList ++ stop :: zone :=
      fractions_lt (w := 9) (lt_trans hstop (by decide)) (by omega) (by omega) (numeralFrom_padded w a)
        (numeralFrom_padded w' b) (by rwa [width, width'])
    exact List.cons_lt_cons_iff.2 (.inr ⟨rfl, digits⟩)

theorem fractionText_lt_iff {m n : Nat} (hm : m < 1000000000) (hn : n < 1000000000) {stop : Char}
    (hstop : stop < '.') (zone : List Char) :
    (fractionText m).toList ++ stop :: zone < (fractionText n).toList ++ stop :: zone ↔ m < n := by
  refine ⟨fun h => ?_, fun h => fractionText_lt hm hn h hstop zone⟩
  rcases Nat.lt_trichotomy m n with less | rfl | more
  · exact less
  · exact absurd h (lt_irrefl _)
  · exact absurd h (lt_asymm (fractionText_lt hn hm more hstop zone))

/-- A moment in a year of four digits. -/
structure IsPlain (t : Moment) : Prop where
  real : t.IsReal
  year : 0 ≤ t.date.year ∧ t.date.year ≤ 9999

/-- Texts of moments are in the order of the parts, in front of a character that is smaller than the
point. -/
theorem text_lt_iff {s t : Moment} (hs : s.IsPlain) (ht : t.IsPlain) {stop : Char} (hstop : stop < '.')
    (zone : List Char) :
    s.text.toList ++ stop :: zone < t.text.toList ++ stop :: zone ↔ s.parts < t.parts := by
  have sYear := hs.year
  have tYear := ht.year
  have years : s.date.year.toNat < t.date.year.toNat ↔ s.date.year < t.date.year := by omega
  have sameYear : s.date.year.toNat = t.date.year.toNat ↔ s.date.year = t.date.year := by omega
  obtain ⟨-, sMonth, sDay⟩ := (Date.isValid_iff s.date).1 hs.real.date
  obtain ⟨-, tMonth, tDay⟩ := (Date.isValid_iff t.date).1 ht.real.date
  have := Date.daysIn_le s.date.year s.date.month
  have := Date.daysIn_le t.date.year t.date.month
  have two : ∀ {m n : Nat} {xs ys : List Char}, m < 100 → n < 100 →
      ((padded 2 m).toList ++ xs < (padded 2 n).toList ++ ys ↔ m < n ∨ m = n ∧ xs < ys) :=
    fun hm hn => padded_lt_iff (by decide) hm hn _ _
  have mark : ∀ {c : Char} {xs ys : List Char}, c :: xs < c :: ys ↔ xs < ys := by simp
  have := hs.real.hour
  have := ht.real.hour
  have := hs.real.minute
  have := ht.real.minute
  have := hs.real.second
  have := ht.real.second
  rw [toList_text, toList_text, yearText_of_plain sYear, yearText_of_plain tYear,
    padded_lt_iff (by decide) (by omega) (by omega), years, sameYear,
    mark, two (by omega) (by omega), mark, two (by omega) (by omega), mark, two (by omega) (by omega), mark,
    two (by omega) (by omega), mark, two (by omega) (by omega),
    fractionText_lt_iff hs.real.nano ht.real.nano hstop]
  unfold parts
  simp only [List.cons_lt_cons_iff, Int.natCast_inj, Int.ofNat_lt]
  simp

theorem plus_lt_of_isDigit {c : Char} (h : isDigit c = true) : '+' < c := by
  have zero : '0' ≤ c := by
    unfold isDigit at h
    simp only [Bool.and_eq_true, decide_eq_true_eq] at h
    exact h.1
  exact lt_of_lt_of_le (by decide) zero

theorem plus_lt_of_mem_padded {width n : Nat} : ∀ c ∈ (padded width n).toList, '+' < c :=
  fun c hc => plus_lt_of_isDigit (padded_digits width n c hc)

theorem plus_lt_of_mem_fractionText {n : Nat} (h : n < 1000000000) : ∀ c ∈ (fractionText n).toList, '+' < c := by
  rcases fractionText_cases h with ⟨-, none⟩ | ⟨w, m, -, -, -, -, some⟩
  · rw [none]
    exact fun c hc => nomatch hc
  · rw [some, String.toList_append]
    exact List.forall_mem_append.2 ⟨List.forall_mem_singleton.2 (by decide), plus_lt_of_mem_padded⟩

/-- Everything in the text of a moment is greater than the sign of an offset. -/
theorem plus_lt_of_mem_text {t : Moment} (h : t.IsPlain) : ∀ c ∈ t.text.toList, '+' < c := by
  rw [← List.append_nil t.text.toList, toList_text, yearText_of_plain h.year]
  have mark : ∀ {d : Char} {cs : List Char}, '+' < d → (∀ c ∈ cs, '+' < c) → ∀ c ∈ d :: cs, '+' < c :=
    fun hd hcs => List.forall_mem_cons.2 ⟨hd, hcs⟩
  have number : ∀ {width n : Nat} {cs : List Char}, (∀ c ∈ cs, '+' < c) →
      ∀ c ∈ (padded width n).toList ++ cs, '+' < c :=
    fun hcs => List.forall_mem_append.2 ⟨plus_lt_of_mem_padded, hcs⟩
  refine number (mark (by decide) (number (mark (by decide) (number (mark (by decide) (number (mark (by decide)
    (number (mark (by decide) (number ?_))))))))))
  rw [List.append_nil]
  exact plus_lt_of_mem_fractionText h.real.nano

/-- Texts of moments without an offset are in the order of the moments. -/
theorem text_lt_iff_before {s t : Moment} (hs : s.IsPlain) (ht : t.IsPlain) : s.text < t.text ↔ s.Before t := by
  rw [String.lt_iff_toList_lt, ← append_stop_lt_iff (plus_lt_of_mem_text hs) (plus_lt_of_mem_text ht) [],
    text_lt_iff hs ht (by decide), before_iff_parts hs.real ht.real]

/-- The texts that the storage keeps are in the order of the moments. -/
theorem offsetText_lt_iff {s t : Moment} (hs : s.IsPlain) (ht : t.IsPlain) :
    s.offsetText < t.offsetText ↔ s.Before t := by
  rw [before_iff_parts hs.real ht.real, ← text_lt_iff hs ht (show '+' < '.' by decide) _, String.lt_iff_toList_lt,
    toList_offsetText, toList_offsetText]
  exact Iff.rfl

/-- No two moments have one text. -/
theorem eq_of_offsetText {s t : Moment} (hs : s.IsReal) (ht : t.IsReal) (h : s.offsetText = t.offsetText) : s = t := by
  have read := ofStored?_offsetText hs
  rw [h, ofStored?_offsetText ht] at read
  exact (Option.some.inj read).symm

end QueryGateway.Moment
