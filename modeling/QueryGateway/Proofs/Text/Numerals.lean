import Mathlib.Algebra.Group.Nat.Defs
import QueryGateway.Text

/-!
# Numerals

A number written in digits reads back as itself, whatever zeros stand in front of it.
-/

namespace QueryGateway.Text

theorem isDigit_iff (c : Char) : isDigit c = true ↔ c.isDigit = true := by
  unfold isDigit Char.isDigit
  simp only [Bool.and_eq_true, decide_eq_true_eq]
  exact Iff.rfl

/-- Digits are a number. -/
theorem numeralFrom_of_digits {cs : List Char} (h : ∀ c ∈ cs, isDigit c = true) (acc : Nat) :
    numeralFrom 10 digit? acc cs = some (Nat.ofDigitChars 10 cs acc) := by
  induction cs generalizing acc with
  | nil => rfl
  | cons c cs ih =>
    have hc : '0' ≤ c ∧ c ≤ '9' := by simpa [isDigit] using h c List.mem_cons_self
    rw [numeralFrom, digit?, if_pos (by simpa using hc), Nat.ofDigitChars_cons, Nat.mul_comm 10 acc]
    exact ih (fun d hd => h d (List.mem_cons_of_mem c hd)) _

theorem isDigit_of_mem_toDigits {n : Nat} {c : Char} (h : c ∈ Nat.toDigits 10 n) : isDigit c = true :=
  (isDigit_iff c).2 (Nat.isDigit_of_mem_toDigits (by decide) (by decide) h)

/-- Only zero starts with a zero. -/
theorem head_toDigits (n : Nat) (h : (Nat.toDigits 10 n).head? = some '0') : n = 0 := by
  induction n using Nat.strongRecOn with
  | _ n ih =>
    rw [Nat.toDigits_eq_if (by decide)] at h
    split at h
    · exact Nat.digitChar_eq_zero.1 (by simpa using h)
    · next large =>
      have front : (Nat.toDigits 10 (n / 10)).head? = some '0' := by
        rwa [List.head?_append, Option.or_of_isSome (by simp [Nat.toDigits_ne_nil])] at h
      have := ih (n / 10) (by omega) front
      omega

/-! ## Padded numerals -/

theorem toList_padded (width n : Nat) :
    (padded width n).toList =
      List.replicate (width - (Nat.toDigits 10 n).length) '0' ++ Nat.toDigits 10 n := by
  have hs : (toString n).toList = Nat.toDigits 10 n := Nat.toList_repr
  unfold padded
  dsimp only
  rw [String.toList_append, String.toList_ofList, hs, ← String.length_toList, hs]

theorem padded_digits (width n : Nat) : ∀ c ∈ (padded width n).toList, isDigit c = true := by
  intro c hc
  rw [toList_padded] at hc
  rcases List.mem_append.1 hc with hc | hc
  · rw [List.eq_of_mem_replicate hc]
    rfl
  · exact isDigit_of_mem_toDigits hc

theorem padded_ne_nil (width n : Nat) : (padded width n).toList ≠ [] := by
  rw [toList_padded]
  have := Nat.toDigits_ne_nil (n := n) (b := 10)
  simp [this]

/-- A number below the power takes just the width. -/
theorem length_padded {width n : Nat} (hw : 0 < width) (h : n < 10 ^ width) :
    (padded width n).toList.length = width := by
  have : (Nat.toDigits 10 n).length ≤ width := (Nat.length_toDigits_le_iff (by decide) hw).2 h
  rw [toList_padded, List.length_append, List.length_replicate]
  omega

@[simp] theorem numeralFrom_padded (width n : Nat) :
    numeralFrom 10 digit? 0 (padded width n).toList = some n := by
  rw [numeralFrom_of_digits (padded_digits width n), toList_padded, Nat.ofDigitChars_append,
    Nat.ofDigitChars_replicate_zero, Nat.mul_zero, Nat.ofDigitChars_ten_toDigits]

/-! ## Integers -/

/-- An integer of 64 bits. -/
def IsInt64 (n : Int) : Prop := minInt64 ≤ n ∧ n ≤ maxInt64

theorem toList_toString_int (i : Int) :
    (toString i).toList = (if i < 0 then ['-'] else []) ++ Nat.toDigits 10 i.natAbs := by
  cases i with
  | ofNat n =>
    rw [if_neg (by simp)]
    exact Nat.toList_repr
  | negSucc n =>
    rw [if_pos (Int.negSucc_lt_zero n)]
    show ("-" ++ Nat.repr (n + 1)).toList = _
    rw [String.toList_append, Nat.toList_repr]
    rfl

theorem decimal?_toDigits (n : Nat) : decimal? (Nat.toDigits 10 n) = some n := by
  have number : numeralFrom 10 digit? 0 (Nat.toDigits 10 n) = some n := by
    rw [numeralFrom_of_digits fun c hc => isDigit_of_mem_toDigits hc, Nat.ofDigitChars_ten_toDigits]
  cases digits : Nat.toDigits 10 n with
  | nil => exact absurd digits Nat.toDigits_ne_nil
  | cons c cs =>
    rw [digits] at number
    exact number

/-- The text of an integer of 64 bits reads back as it. -/
theorem int64?_toString {n : Int} (h : IsInt64 n) : int64? (toString n).toList = some n := by
  have fits : fitInt64? n = some n := by
    unfold fitInt64?
    rw [if_pos (by simpa [IsInt64] using h)]
  rw [toList_toString_int]
  by_cases negative : n < 0
  · have back : -(n.natAbs : Int) = n := by omega
    rw [if_pos negative]
    show ((decimal? (Nat.toDigits 10 n.natAbs)).bind fun m => fitInt64? (-(m : Int))) = _
    rw [decimal?_toDigits, Option.bind_some, back, fits]
  · have back : (n.natAbs : Int) = n := by omega
    rw [if_neg negative, List.nil_append]
    have digits : ∀ c ∈ Nat.toDigits 10 n.natAbs, isDigit c = true := fun c hc => isDigit_of_mem_toDigits hc
    unfold int64?
    split
    · next minus => exact absurd (digits '-' (by rw [minus]; exact List.mem_cons_self)) (by decide)
    · next plus => exact absurd (digits '+' (by rw [plus]; exact List.mem_cons_self)) (by decide)
    · rw [decimal?_toDigits, Option.bind_some, back, fits]

/-! ## How large numbers are -/

/-- So many digits of a base write a number below that power of the base. -/
theorem numeralFrom_lt_pow {base : Nat} {digit : Char → Option Nat} (hdigit : ∀ c d, digit c = some d → d < base)
    {ds : List Char} {acc n : Nat} (h : numeralFrom base digit acc ds = some n) :
    n < (acc + 1) * base ^ ds.length := by
  induction ds generalizing acc with
  | nil =>
    cases h
    simp
  | cons c cs ih =>
    rw [numeralFrom] at h
    cases hd : digit c with
    | none => simp [hd] at h
    | some d =>
      have small : d < base := hdigit c d hd
      rw [hd] at h
      have next : acc * base + d + 1 ≤ (acc + 1) * base := by
        rw [Nat.add_mul, Nat.one_mul]
        omega
      calc n < (acc * base + d + 1) * base ^ cs.length := ih h
        _ ≤ ((acc + 1) * base) * base ^ cs.length := Nat.mul_le_mul_right _ next
        _ = (acc + 1) * base ^ (c :: cs).length := by rw [List.length_cons, Nat.pow_succ', Nat.mul_assoc]

theorem digit?_lt (c : Char) (d : Nat) (h : digit? c = some d) : d < 10 := by
  have bounds : ('0' ≤ c ∧ c ≤ '9') ∧ c.toNat - 48 = d := by simpa [digit?] using h
  have : c.toNat ≤ 57 := UInt32.le_iff_toNat_le.1 bounds.1.2
  omega

theorem hexDigit?_lt (c : Char) (d : Nat) (h : hexDigit? c = some d) : d < 16 := by
  unfold hexDigit? at h
  split at h
  · next bounds =>
    simp only [Bool.and_eq_true, decide_eq_true_eq] at bounds
    have : c.toNat ≤ 57 := UInt32.le_iff_toNat_le.1 bounds.2
    cases h
    omega
  · split at h
    · next bounds =>
      simp only [Bool.and_eq_true, decide_eq_true_eq] at bounds
      have : c.toNat ≤ 102 := UInt32.le_iff_toNat_le.1 bounds.2
      cases h
      omega
    · split at h
      · next bounds =>
        simp only [Bool.and_eq_true, decide_eq_true_eq] at bounds
        have : c.toNat ≤ 70 := UInt32.le_iff_toNat_le.1 bounds.2
        cases h
        omega
      · cases h

/-! ## Hexadecimal digits -/

theorem numeralFrom_append (base : Nat) (digit : Char → Option Nat) (acc : Nat) (cs ds : List Char) :
    numeralFrom base digit acc (cs ++ ds) =
      (numeralFrom base digit acc cs).bind fun n => numeralFrom base digit n ds := by
  induction cs generalizing acc with
  | nil => rfl
  | cons c cs ih =>
    rw [List.cons_append, numeralFrom, numeralFrom]
    cases digit c with
    | none => rfl
    | some d => exact ih (acc * base + d)

theorem hexDigit?_digitChar {d : Nat} (h : d < 16) : hexDigit? d.digitChar = some d := by
  have all : ∀ d, d < 16 → hexDigit? d.digitChar = some d := by decide
  exact all d h

theorem isHexDigit_of_mem_toDigits {n : Nat} {c : Char} (h : c ∈ Nat.toDigits 16 n) : isHexDigit c = true := by
  induction n using Nat.strongRecOn with
  | ind n ih =>
    have digit : ∀ {d}, d < 16 → isHexDigit d.digitChar = true := fun hd => by
      rw [isHexDigit, hexDigit?_digitChar hd]
      rfl
    rw [Nat.toDigits_eq_if (by decide)] at h
    split at h
    · next small =>
      rw [List.mem_singleton.1 h]
      exact digit small
    · rcases List.mem_append.1 h with h | h
      · exact ih (n / 16) (by omega) h
      · rw [List.mem_singleton.1 h]
        exact digit (by omega)

/-- The hexadecimal digits of a number read as it. -/
theorem hexadecimal?_toDigits (n : Nat) : hexadecimal? (Nat.toDigits 16 n) = some n := by
  have number : numeralFrom 16 hexDigit? 0 (Nat.toDigits 16 n) = some n := by
    induction n using Nat.strongRecOn with
    | ind n ih =>
      rw [Nat.toDigits_eq_if (by decide)]
      split
      · next small =>
        rw [numeralFrom, hexDigit?_digitChar small]
        simp [numeralFrom]
      · have digit : hexDigit? (n % 16).digitChar = some (n % 16) := hexDigit?_digitChar (by omega)
        rw [numeralFrom_append, ih (n / 16) (by omega), Option.bind_some, numeralFrom, digit]
        show some (n / 16 * 16 + n % 16) = some n
        rw [Nat.div_add_mod']
  cases digits : Nat.toDigits 16 n with
  | nil => exact absurd digits Nat.toDigits_ne_nil
  | cons c cs =>
    rw [digits] at number
    exact number

end QueryGateway.Text
