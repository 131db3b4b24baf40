import QueryGateway.Postgres.Cell
import QueryGateway.Proofs.Text.Numerals

/-!
# Integers of the server

A cell of an integer column is the integer that its text writes in decimal digits, if that has 64
bits, and else the text. Main statement: these are exactly the texts that become integers, and each
becomes just the integer it writes, however many digits it takes for that.
-/

namespace QueryGateway.Text

/-! ## Decimal texts -/

/-- One digit or more. -/
def IsDecimal (cs : List Char) : Prop := cs ≠ [] ∧ ∀ c ∈ cs, isDigit c = true

/-- The text writes an integer: its digits, behind a sign or not. -/
inductive WritesInt : List Char → Int → Prop
  | plain {ds : List Char} : IsDecimal ds → WritesInt ds (Nat.ofDigitChars 10 ds 0)
  | plus {ds : List Char} : IsDecimal ds → WritesInt ('+' :: ds) (Nat.ofDigitChars 10 ds 0)
  | minus {ds : List Char} : IsDecimal ds → WritesInt ('-' :: ds) (-(Nat.ofDigitChars 10 ds 0 : Int))

/-- A character is a digit if it has a value as one. -/
theorem isDigit_of_digit? {c : Char} {d : Nat} (h : digit? c = some d) : isDigit c = true := by
  unfold digit? at h
  split at h
  · next bounds => exact bounds
  · cases h

/-- Nothing but digits is a number. -/
theorem numeralFrom_eq_some_iff {acc n : Nat} {cs : List Char} :
    numeralFrom 10 digit? acc cs = some n ↔
      (∀ c ∈ cs, isDigit c = true) ∧ Nat.ofDigitChars 10 cs acc = n := by
  constructor
  · intro h
    have digits : ∀ c ∈ cs, isDigit c = true := by
      induction cs generalizing acc with
      | nil => simp
      | cons c cs ih =>
        rw [numeralFrom] at h
        split at h
        · next d digit => exact List.forall_mem_cons.2 ⟨isDigit_of_digit? digit, ih h⟩
        · cases h
    rw [numeralFrom_of_digits digits] at h
    exact ⟨digits, Option.some.inj h⟩
  · rintro ⟨digits, rfl⟩
    exact numeralFrom_of_digits digits acc

theorem decimal?_eq_some_iff {cs : List Char} {n : Nat} :
    decimal? cs = some n ↔ IsDecimal cs ∧ Nat.ofDigitChars 10 cs 0 = n := by
  cases cs with
  | nil => simp [decimal?, IsDecimal]
  | cons c cs =>
    have some : c :: cs ≠ [] := List.cons_ne_nil c cs
    rw [decimal?, numeralFrom_eq_some_iff, IsDecimal, and_iff_right some]
    exact some

/-! ## Integers of 64 bits -/

theorem fitInt64?_eq_some_iff {m n : Int} : fitInt64? m = some n ↔ m = n ∧ IsInt64 n := by
  unfold fitInt64? IsInt64
  split
  · next fits =>
    have fits : minInt64 ≤ m ∧ m ≤ maxInt64 := by simpa using fits
    constructor
    · intro h
      cases h
      exact ⟨rfl, fits⟩
    · rintro ⟨rfl, -⟩
      rfl
  · next large =>
    refine iff_of_false (fun h => by cases h) ?_
    rintro ⟨rfl, fits⟩
    exact large (by simpa using fits)

/-- The integer that digits give behind a sign has to fit. -/
theorem bind_fitInt64?_eq_some_iff {cs : List Char} {f : Nat → Int} {n : Int} :
    ((decimal? cs).bind fun m => fitInt64? (f m)) = some n ↔
      (IsDecimal cs ∧ f (Nat.ofDigitChars 10 cs 0) = n) ∧ IsInt64 n := by
  rw [Option.bind_eq_some_iff]
  constructor
  · rintro ⟨m, hm, fits⟩
    obtain ⟨digits, rfl⟩ := decimal?_eq_some_iff.1 hm
    obtain ⟨same, range⟩ := fitInt64?_eq_some_iff.1 fits
    exact ⟨⟨digits, same⟩, range⟩
  · rintro ⟨⟨digits, same⟩, range⟩
    exact ⟨_, decimal?_eq_some_iff.2 ⟨digits, rfl⟩, fitInt64?_eq_some_iff.2 ⟨same, range⟩⟩

theorem not_isDecimal_sign {c : Char} (hc : isDigit c = false) (cs : List Char) : ¬ IsDecimal (c :: cs) := by
  intro h
  have digit := h.2 c List.mem_cons_self
  rw [hc] at digit
  cases digit

/-- A text is read as an integer exactly if it writes it and it has 64 bits. -/
theorem int64?_eq_some_iff {cs : List Char} {n : Int} : int64? cs = some n ↔ WritesInt cs n ∧ IsInt64 n := by
  unfold int64?
  split
  · next ds =>
    rw [bind_fitInt64?_eq_some_iff]
    refine and_congr_left fun _ => ⟨?_, fun h => ?_⟩
    · rintro ⟨digits, rfl⟩
      exact .minus digits
    · cases h with
      | plain digits => exact absurd digits (not_isDecimal_sign rfl ds)
      | minus digits => exact ⟨digits, rfl⟩
  · next ds =>
    rw [bind_fitInt64?_eq_some_iff]
    refine and_congr_left fun _ => ⟨?_, fun h => ?_⟩
    · rintro ⟨digits, rfl⟩
      exact .plus digits
    · cases h with
      | plain digits => exact absurd digits (not_isDecimal_sign rfl ds)
      | plus digits => exact ⟨digits, rfl⟩
  · next minus plus =>
    rw [bind_fitInt64?_eq_some_iff]
    refine and_congr_left fun _ => ⟨?_, fun h => ?_⟩
    · rintro ⟨digits, rfl⟩
      exact .plain digits
    · cases h with
      | plain digits => exact ⟨digits, rfl⟩
      | plus => exact absurd rfl (plus _)
      | minus => exact absurd rfl (minus _)

end QueryGateway.Text

namespace QueryGateway.Postgres

open Text

/-! ## Cells -/

/-- The types of integers. -/
def integerTypes : List String := ["INT2", "INT4", "INT8", "OID"]

/-- All types of integers are read alike. -/
theorem cellValue_integer {type : String} (h : type ∈ integerTypes) (text : String) :
    cellValue type text = orVerbatim text (intCell text) := by
  simp only [integerTypes, List.mem_cons, List.not_mem_nil, or_false] at h
  rcases h with rfl | rfl | rfl | rfl <;> rfl

theorem intCell_eq_some_iff {text : String} {v : Json.Value} :
    intCell text = some v ↔ ∃ n, v = .int n ∧ WritesInt text.toList n ∧ IsInt64 n := by
  unfold intCell
  rw [Option.map_eq_some_iff]
  constructor
  · rintro ⟨n, read, rfl⟩
    exact ⟨n, rfl, int64?_eq_some_iff.1 read⟩
  · rintro ⟨n, rfl, writes⟩
    exact ⟨n, int64?_eq_some_iff.2 writes, rfl⟩

/-- (1) The cell is an integer exactly if the text is digits, perhaps behind one sign, that write this
integer, and it has 64 bits. (2) Every other text becomes itself, as a string. (3) So the decimal text
of each integer of 64 bits becomes the integer. -/
theorem integer_cells_exact (type : String) (h : type ∈ integerTypes) (text : String) :
    (∀ n : Int, cellValue type text = .int n ↔ WritesInt text.toList n ∧ IsInt64 n) ∧
    ((¬ ∃ n : Int, WritesInt text.toList n ∧ IsInt64 n) → cellValue type text = .string text) ∧
    ∀ n : Int, IsInt64 n → cellValue type (toString n) = .int n := by
  simp only [cellValue_integer h]
  refine ⟨fun n => ?_, fun none => ?_, fun n range => ?_⟩
  · -- A text writes one integer at most, so what was read is what it writes.
    cases read : intCell text with
    | none =>
      refine iff_of_false (fun h => by cases h) fun writes => ?_
      rw [intCell_eq_some_iff.2 ⟨n, rfl, writes⟩] at read
      cases read
    | some v =>
      obtain ⟨m, rfl, writes⟩ := intCell_eq_some_iff.1 read
      constructor
      · intro same
        cases same
        exact writes
      · intro others
        rw [← read, intCell_eq_some_iff.2 ⟨n, rfl, others⟩]
        rfl
  · cases read : intCell text with
    | none => rfl
    | some v =>
      obtain ⟨m, -, writes⟩ := intCell_eq_some_iff.1 read
      exact absurd ⟨m, writes⟩ none
  · have read : int64? (toString n).toList = some n := int64?_toString range
    rw [intCell, read]
    rfl

/-- The least integer of 64 bits, digits behind a sign and zeros, and one that is too large by one. -/
theorem least_integer_kept :
    "INT8" ∈ integerTypes ∧ cellValue "INT8" "-9223372036854775808" = .int minInt64 ∧
      cellValue "INT8" "+0042" = .int 42 ∧
      cellValue "INT8" "9223372036854775808" = .string "9223372036854775808" := by
  have type : "INT8" ∈ integerTypes := by decide
  have least : toString minInt64 = "-9223372036854775808" := by decide +kernel
  have decimal : IsDecimal "0042".toList := ⟨by decide, List.all_eq_true.1 (by decide)⟩
  have kept := (integer_cells_exact "INT8" type "").2.2 minInt64 ⟨by decide, by decide⟩
  rw [least] at kept
  refine ⟨type, kept,
    ((integer_cells_exact "INT8" type "+0042").1 42).2 ⟨.plus decimal, by decide, by decide⟩,
    (integer_cells_exact "INT8" type "9223372036854775808").2.1 ?_⟩
  rintro ⟨n, writes, range⟩
  have read : int64? "9223372036854775808".toList = some n := int64?_eq_some_iff.2 ⟨writes, range⟩
  have unread : int64? "9223372036854775808".toList = none := by decide
  rw [unread] at read
  cases read

end QueryGateway.Postgres
