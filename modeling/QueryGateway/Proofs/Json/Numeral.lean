import QueryGateway.Json.Node
import QueryGateway.Proofs.Text.Numerals

/-!
# Integers read back

The decimal digits of an integer of 64 bits are a numeral, and its number is that integer.
What follows must not go on with the numeral: no digit, no point, no exponent.
-/

namespace QueryGateway.Json

open Text

/-- Nothing in front of the text can be part of a numeral. -/
def EndsNumeral (rest : List Char) : Prop :=
  ∀ c ∈ rest.head?, isDigit c = false ∧ c ≠ '.' ∧ c ≠ 'e' ∧ c ≠ 'E'

/-! ## Digits -/

theorem takeDigits_append {ds rest : List Char} (hd : ∀ c ∈ ds, isDigit c = true)
    (hr : ∀ c ∈ rest.head?, isDigit c = false) (mark : Mark) :
    takeDigits ⟨mark, ds ++ rest⟩ = (ds, ⟨mark + ds.length, rest⟩) := by
  have stops : rest.takeWhile isDigit = [] ∧ rest.dropWhile isDigit = rest := by
    cases rest with
    | nil => exact ⟨rfl, rfl⟩
    | cons c cs => simp [hr c rfl]
  unfold takeDigits
  dsimp only
  rw [List.takeWhile_append_of_pos hd, List.dropWhile_append_of_pos hd, stops.1, stops.2, List.append_nil]

theorem scanWhole_toDigits (n : Nat) {rest : List Char} (h : EndsNumeral rest) (mark : Mark) :
    scanWhole ⟨mark, Nat.toDigits 10 n ++ rest⟩ =
      .ok (Nat.toDigits 10 n, ⟨mark + (Nat.toDigits 10 n).length, rest⟩) := by
  have digits : ∀ c ∈ Nat.toDigits 10 n, isDigit c = true := fun c hc => isDigit_of_mem_toDigits hc
  have taken := takeDigits_append digits (fun c hc => (h c hc).1) mark
  unfold scanWhole
  rw [taken]
  split
  · next nil => exact absurd (congrArg Prod.fst nil) Nat.toDigits_ne_nil
  · next c cs _ zero =>
    -- More digits behind a zero would make a number that is not zero.
    have digits : Nat.toDigits 10 n = '0' :: c :: cs := congrArg Prod.fst zero
    obtain rfl := head_toDigits n (by rw [digits]; rfl)
    simp at digits
  · next eq => rw [← eq]

/-- Each digit only adds to a number. -/
theorem le_ofDigitChars (cs : List Char) (m : Nat) : m ≤ Nat.ofDigitChars 10 cs m := by
  induction cs generalizing m with
  | nil => exact Nat.le_refl m
  | cons c cs ih =>
    rw [Nat.ofDigitChars_cons]
    exact Nat.le_trans (by omega) (ih _)

/-- Digits that fit 64 bits are taken as they are. -/
theorem significand_of_fits {cs : List Char} (hd : ∀ c ∈ cs, isDigit c = true) (m : Nat)
    (fits : Nat.ofDigitChars 10 cs m ≤ maxWord64) :
    significand m cs = (Nat.ofDigitChars 10 cs m, 0) := by
  induction cs generalizing m with
  | nil => rfl
  | cons c cs ih =>
    have value : digitValue c = c.toNat - '0'.toNat := by
      have hc : '0' ≤ c ∧ c ≤ '9' := by simpa [isDigit] using hd c List.mem_cons_self
      simp [digitValue, digit?, hc]
    rw [Nat.ofDigitChars_cons, Nat.mul_comm, ← value] at fits ⊢
    have := le_ofDigitChars cs (m * 10 + digitValue c)
    rw [significand, if_neg (by omega)]
    exact ih (fun d hd' => hd d (List.mem_cons_of_mem c hd')) _ fits

/-! ## Numerals -/

/-- The numeral of an integer. -/
def intNumeral (i : Int) : Numeral := ⟨decide (i < 0), Nat.toDigits 10 i.natAbs, none, none⟩

/-- The digits of an integer, with its sign, are its numeral. -/
theorem scanNumeral_int (i : Int) {rest : List Char} (h : EndsNumeral rest) (mark : Mark) :
    ∃ stop, scanNumeral ⟨mark, (toString i).toList ++ rest⟩ = .ok (intNumeral i, ⟨stop, rest⟩) := by
  have noFraction (m : Mark) : scanFraction ⟨m, rest⟩ = .ok (none, ⟨m, rest⟩) := by
    unfold scanFraction
    split
    · next cs point =>
      obtain rfl : rest = '.' :: cs := point
      exact absurd rfl (h '.' rfl).2.1
    · rfl
  have noExponent (m : Mark) : scanExponent ⟨m, rest⟩ = .ok (none, ⟨m, rest⟩) := by
    unfold scanExponent
    cases rest with
    | nil => rfl
    | cons c cs =>
      have hc := h c rfl
      simp [hc.2.2.1, hc.2.2.2]
  rw [toList_toString_int]
  by_cases negative : i < 0
  · refine ⟨mark + 1 + (Nat.toDigits 10 i.natAbs).length, ?_⟩
    rw [if_pos negative]
    simp only [scanNumeral, List.cons_append, List.nil_append]
    rw [scanWhole_toDigits _ h]
    simp only [bind, Except.bind, noFraction, noExponent]
    simp [intNumeral, negative, pure, Except.pure]
  · refine ⟨mark + (Nat.toDigits 10 i.natAbs).length, ?_⟩
    rw [if_neg negative, List.nil_append]
    unfold scanNumeral
    dsimp only
    split
    · next cs minus =>
      have front : (Nat.toDigits 10 i.natAbs).head? = some '-' := by
        have := congrArg List.head? minus
        rwa [List.head?_append, Option.or_of_isSome (by simp [Nat.toDigits_ne_nil])] at this
      exact absurd (isDigit_of_mem_toDigits (List.mem_of_head? front)) (by decide)
    · dsimp only
      rw [scanWhole_toDigits _ h]
      simp only [bind, Except.bind, noFraction, noExponent]
      simp [intNumeral, negative, pure, Except.pure]

/-- The numeral of an integer of 64 bits, signed or not, is that integer. -/
theorem value_intNumeral {i : Int} (low : minInt64 ≤ i) (high : i ≤ maxWord64) (stop : Mark) :
    (intNumeral i).value stop = .ok (.int i) := by
  have number : Nat.ofDigitChars 10 (Nat.toDigits 10 i.natAbs) 0 = i.natAbs := Nat.ofDigitChars_ten_toDigits
  have taken : significand 0 (Nat.toDigits 10 i.natAbs) = (i.natAbs, 0) := by
    rw [significand_of_fits (fun c hc => isDigit_of_mem_toDigits hc) 0, number]
    rw [number]
    unfold minInt64 at low
    unfold maxWord64 at high ⊢
    omega
  have signed : integerNumber (decide (i < 0)) i.natAbs = some (.int i) := by
    unfold minInt64 at low
    unfold integerNumber
    by_cases negative : i < 0
    · have large : ¬ ((i.natAbs == 0 || i.natAbs > Nat.pow 2 63) = true) := by
        have small : ¬ i.natAbs > Nat.pow 2 63 := by
          show ¬ i.natAbs > 2 ^ 63
          omega
        have nonzero : i.natAbs ≠ 0 := by omega
        rw [Bool.or_eq_true, beq_iff_eq, decide_eq_true_iff]
        exact not_or.2 ⟨nonzero, small⟩
      have back : -(i.natAbs : Int) = i := by omega
      rw [decide_eq_true negative, if_neg (by decide), if_neg large, back]
    · have back : (i.natAbs : Int) = i := by omega
      rw [decide_eq_false negative, if_pos (by decide), back]
  simp [Numeral.value, intNumeral, taken, signed]

/-! ## Nodes -/

theorem valueNode_number {c : Char} (hc : c = '-' ∨ isDigit c = true) (fuel : Nat) (mark : Mark) (cs : List Char) :
    valueNode (fuel + 1) ⟨mark, c :: cs⟩ = numberNode ⟨mark, c :: cs⟩ := by
  have other {d : Char} (minus : d ≠ '-') (hd : isDigit d = false) : c ≠ d := by
    rintro rfl
    rcases hc with rfl | hc
    · exact minus rfl
    · rw [hc] at hd
      cases hd
  rw [valueNode.eq_2]
  dsimp only
  split
  case h_1 h => cases h
  case h_8 h =>
    cases h
    rw [if_pos (by simpa using hc)]
  all_goals
    next h =>
      cases h
      exact absurd rfl (other (by decide) rfl)

end QueryGateway.Json
