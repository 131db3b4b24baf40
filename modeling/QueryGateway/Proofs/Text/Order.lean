import Mathlib.Data.List.Lex
import Mathlib.Data.String.Basic
import QueryGateway.Proofs.Text.Numerals

/-!
# The order of texts

Texts are in the order of the code points of their characters, and so they are in the order
of the bytes of their UTF-8 form: no form of a character begins that of another, and the
first byte in which two forms differ is the larger for the later character. Numerals of one
width are in the order of their numbers, and so are the digits of fractions in front of a
character that is smaller than any digit. The first digits of a numeral and the others are
what division by a power of ten leaves.
-/

namespace QueryGateway.Text

/-! ## Code points -/

theorem charsLt_iff (as bs : List Char) : charsLt as bs = true ↔ as < bs := by
  induction as generalizing bs with
  | nil =>
    cases bs with
    | nil => simp [charsLt]
    | cons b bs => simp [charsLt]
  | cons a as ih =>
    cases bs with
    | nil => simp [charsLt]
    | cons b bs =>
      rw [List.cons_lt_cons_iff, ← ih bs]
      simp [charsLt, Char.lt_def, UInt32.lt_iff_toNat_lt]

/-- Texts are in the order of their code points. -/
theorem lt_iff (a b : String) : lt a b = true ↔ a < b := charsLt_iff a.toList b.toList

/-! ## Bytes -/

/-- The bytes of two characters, whatever stands behind them, are in the order of the
characters. -/
theorem utf8Char_append_lt {a b : Char} (h : a.toNat < b.toNat) (x y : List Nat) :
    utf8Char a ++ x < utf8Char b ++ y := by
  unfold utf8Char
  dsimp only
  -- One case for each pair of widths; the wider form is not that of the smaller character.
  split_ifs <;> first | omega | skip
  all_goals
    simp only [List.cons_append, List.nil_append, List.cons_lt_cons_iff]
    omega

theorem utf8_strictMono : StrictMono utf8 := by
  intro as bs h
  induction as generalizing bs with
  | nil =>
    cases bs with
    | nil => exact absurd h (lt_irrefl _)
    | cons b bs =>
      show [] < utf8Char b ++ utf8 bs
      unfold utf8Char
      dsimp only
      split_ifs <;> exact List.nil_lt_cons _ _
  | cons a as ih =>
    cases bs with
    | nil => cases h
    | cons b bs =>
      show utf8Char a ++ utf8 as < utf8Char b ++ utf8 bs
      rcases List.cons_lt_cons_iff.1 h with hab | ⟨rfl, hs⟩
      · exact utf8Char_append_lt hab _ _
      · exact List.append_left_lt (ih hs)

/-- Two texts are in the order of their bytes. -/
theorem utf8_lt_iff (a b : String) : utf8 a.toList < utf8 b.toList ↔ a < b := utf8_strictMono.lt_iff_lt

/-! ## Ends -/

/-- A character smaller than all of theirs behind two texts does not change their order. -/
theorem append_stop_lt_iff {stop : Char} {xs ys : List Char} (hx : ∀ c ∈ xs, stop < c) (hy : ∀ c ∈ ys, stop < c)
    (rest : List Char) : xs ++ stop :: rest < ys ++ stop :: rest ↔ xs < ys := by
  induction xs generalizing ys with
  | nil =>
    cases ys with
    | nil => exact iff_of_false (lt_irrefl _) (lt_irrefl _)
    | cons y ys =>
      exact iff_of_true (List.cons_lt_cons_iff.2 (.inl (hy y List.mem_cons_self))) (List.nil_lt_cons _ _)
  | cons x xs ih =>
    cases ys with
    | nil =>
      have later : stop < x := hx x List.mem_cons_self
      refine iff_of_false (fun h => ?_) (List.not_lt_nil _)
      rcases List.cons_lt_cons_iff.1 h with h | ⟨rfl, -⟩
      · exact lt_asymm h later
      · exact lt_irrefl _ later
    | cons y ys =>
      rw [List.cons_append, List.cons_append, List.cons_lt_cons_iff, List.cons_lt_cons_iff,
        ih (fun c hc => hx c (List.mem_cons_of_mem x hc)) fun c hc => hy c (List.mem_cons_of_mem y hc)]

/-! ## Digits -/

theorem zero_le_of_digit? {c : Char} {x : Nat} (h : digit? c = some x) : '0' ≤ c ∧ c.toNat - 48 = x := by
  have digit : ('0' ≤ c ∧ c ≤ '9') ∧ c.toNat - 48 = x := by simpa [digit?] using h
  exact ⟨digit.1.1, digit.2⟩

theorem toNat_of_digit? {c : Char} {x : Nat} (h : digit? c = some x) : c.toNat = 48 + x := by
  obtain ⟨zero, value⟩ := zero_le_of_digit? h
  have : 48 ≤ c.toNat := UInt32.le_iff_toNat_le.1 zero
  omega

/-- Digits are in the order of their values. -/
theorem digit_lt_iff {c d : Char} {x y : Nat} (hc : digit? c = some x) (hd : digit? d = some y) : c < d ↔ x < y := by
  have order : c < d ↔ c.toNat < d.toNat := UInt32.lt_iff_toNat_lt
  rw [order, toNat_of_digit? hc, toNat_of_digit? hd]
  omega

theorem eq_of_digit? {c d : Char} {x : Nat} (hc : digit? c = some x) (hd : digit? d = some x) : c = d :=
  Char.toNat_inj.1 ((toNat_of_digit? hc).trans (toNat_of_digit? hd).symm)

/-- One digit in front makes a numeral of what is left. -/
theorem numeralFrom_cons {c : Char} {cs : List Char} {acc n : Nat} (h : numeralFrom 10 digit? acc (c :: cs) = some n) :
    ∃ x, digit? c = some x ∧ numeralFrom 10 digit? (acc * 10 + x) cs = some n := by
  rw [numeralFrom] at h
  cases hc : digit? c with
  | none => simp [hc] at h
  | some x => exact ⟨x, rfl, by simpa [hc] using h⟩

/-- More digits do not make a number less than the zeros in their place. -/
theorem le_of_numeralFrom {cs : List Char} {acc n : Nat} (h : numeralFrom 10 digit? acc cs = some n) :
    acc * 10 ^ cs.length ≤ n := by
  induction cs generalizing acc with
  | nil =>
    cases h
    simp
  | cons c cs ih =>
    obtain ⟨x, -, h⟩ := numeralFrom_cons h
    calc acc * 10 ^ (c :: cs).length = acc * 10 * 10 ^ cs.length := by
          rw [List.length_cons, Nat.pow_succ', Nat.mul_assoc]
      _ ≤ (acc * 10 + x) * 10 ^ cs.length := Nat.mul_le_mul_right _ (Nat.le_add_right _ _)
      _ ≤ n := ih h

/-- The first digit in which two numerals of one length differ decides. -/
theorem lt_of_digit_lt {cs ds : List Char} {acc x y m n : Nat} (hlen : cs.length = ds.length) (hxy : x < y)
    (hm : numeralFrom 10 digit? (acc * 10 + x) cs = some m)
    (hn : numeralFrom 10 digit? (acc * 10 + y) ds = some n) : m < n :=
  calc m < (acc * 10 + x + 1) * 10 ^ cs.length := numeralFrom_lt_pow digit?_lt hm
    _ ≤ (acc * 10 + y) * 10 ^ ds.length := by
      rw [hlen]
      exact Nat.mul_le_mul_right _ (by omega)
    _ ≤ n := le_of_numeralFrom hn

/-- Texts that begin with numerals of one length are in the order of the numbers, and where these
agree in that of what follows them. -/
theorem numerals_lt_iff {cs ds xs ys : List Char} {acc m n : Nat} (hlen : cs.length = ds.length)
    (hm : numeralFrom 10 digit? acc cs = some m) (hn : numeralFrom 10 digit? acc ds = some n) :
    cs ++ xs < ds ++ ys ↔ m < n ∨ m = n ∧ xs < ys := by
  induction cs generalizing ds acc with
  | nil =>
    cases ds with
    | cons d ds => cases hlen
    | nil =>
      cases hm
      cases hn
      simp
  | cons c cs ih =>
    cases ds with
    | nil => cases hlen
    | cons d ds =>
      obtain ⟨x, hx, hm⟩ := numeralFrom_cons hm
      obtain ⟨y, hy, hn⟩ := numeralFrom_cons hn
      have hlen : cs.length = ds.length := Nat.succ.inj hlen
      rw [List.cons_append, List.cons_append, List.cons_lt_cons_iff]
      rcases Nat.lt_trichotomy x y with less | rfl | more
      · have hlt : m < n := lt_of_digit_lt hlen less hm hn
        exact iff_of_true (.inl ((digit_lt_iff hx hy).2 less)) (.inl hlt)
      · rw [eq_of_digit? hx hy]
        simpa using ih hlen hm hn
      · have hlt : n < m := lt_of_digit_lt hlen.symm more hn hm
        have later : d < c := (digit_lt_iff hy hx).2 more
        refine iff_of_false ?_ (by omega)
        rintro (h | ⟨rfl, -⟩)
        · exact lt_asymm h later
        · exact lt_irrefl _ later

/-- One number has one numeral of a length. -/
theorem eq_of_numeralFrom {cs ds : List Char} {acc n : Nat} (hlen : cs.length = ds.length)
    (hc : numeralFrom 10 digit? acc cs = some n) (hd : numeralFrom 10 digit? acc ds = some n) : cs = ds := by
  have notBefore {es fs : List Char} (hlen : es.length = fs.length) (he : numeralFrom 10 digit? acc es = some n)
      (hf : numeralFrom 10 digit? acc fs = some n) : ¬ es < fs := by
    rw [← List.append_nil es, ← List.append_nil fs, numerals_lt_iff hlen he hf]
    simp
  exact le_antisymm (not_lt.1 (notBefore hlen.symm hd hc)) (not_lt.1 (notBefore hlen hc hd))

/-- Numbers padded to one width are in their order. -/
theorem padded_lt_iff {width m n : Nat} (hw : 0 < width) (hm : m < 10 ^ width) (hn : n < 10 ^ width)
    (xs ys : List Char) :
    (padded width m).toList ++ xs < (padded width n).toList ++ ys ↔ m < n ∨ m = n ∧ xs < ys :=
  numerals_lt_iff ((length_padded hw hm).trans (length_padded hw hn).symm) (numeralFrom_padded width m)
    (numeralFrom_padded width n)

/-- Digits behind a point, perhaps fewer of the smaller number and perhaps more, in front of a
character that is smaller than any digit, are in the order of the fractions. -/
theorem fractions_lt {cs ds xs ys : List Char} {w acc m n : Nat} {stop : Char} (hstop : stop < '0')
    (hcs : cs.length ≤ w) (hds : ds.length ≤ w) (hm : numeralFrom 10 digit? acc cs = some m)
    (hn : numeralFrom 10 digit? acc ds = some n)
    (h : m * 10 ^ (w - cs.length) < n * 10 ^ (w - ds.length)) :
    cs ++ stop :: xs < ds ++ stop :: ys := by
  induction cs generalizing ds acc w with
  | nil =>
    cases hm
    cases ds with
    | nil =>
      cases hn
      exact absurd h (lt_irrefl _)
    | cons d ds =>
      obtain ⟨y, hy, -⟩ := numeralFrom_cons hn
      exact List.cons_lt_cons_iff.2 (.inl (lt_of_lt_of_le hstop (zero_le_of_digit? hy).1))
  | cons c cs ih =>
    obtain ⟨x, hx, hm'⟩ := numeralFrom_cons hm
    cases ds with
    | nil =>
      -- The shorter one has zeros for the digits of the longer one.
      cases hn
      have least := Nat.mul_le_mul_right (10 ^ (w - (c :: cs).length)) (le_of_numeralFrom hm)
      rw [Nat.mul_assoc, ← Nat.pow_add, Nat.add_sub_cancel' hcs] at least
      exact absurd h (not_lt.2 least)
    | cons d ds =>
      obtain ⟨y, hy, hn'⟩ := numeralFrom_cons hn
      obtain ⟨v, rfl⟩ : ∃ v, w = v + 1 := ⟨w - 1, by simp only [List.length_cons] at hcs; omega⟩
      simp only [List.length_cons, Nat.add_le_add_iff_right, Nat.add_sub_add_right] at hcs hds h
      rw [List.cons_append, List.cons_append, List.cons_lt_cons_iff]
      rcases Nat.lt_trichotomy x y with less | rfl | more
      · exact .inl ((digit_lt_iff hx hy).2 less)
      · exact .inr ⟨eq_of_digit? hx hy, ih hcs hds hm' hn' h⟩
      · refine absurd h (not_lt.2 (Nat.le_of_lt ?_))
        calc n * 10 ^ (v - ds.length) < (acc * 10 + y + 1) * 10 ^ ds.length * 10 ^ (v - ds.length) :=
              Nat.mul_lt_mul_of_pos_right (numeralFrom_lt_pow digit?_lt hn') (Nat.pow_pos (by decide))
          _ = (acc * 10 + y + 1) * 10 ^ v := by rw [Nat.mul_assoc, ← Nat.pow_add, Nat.add_sub_cancel' hds]
          _ ≤ (acc * 10 + x) * 10 ^ v := Nat.mul_le_mul_right _ (by omega)
          _ = (acc * 10 + x) * 10 ^ cs.length * 10 ^ (v - cs.length) := by
              rw [Nat.mul_assoc, ← Nat.pow_add, Nat.add_sub_cancel' hcs]
          _ ≤ m * 10 ^ (v - cs.length) := Nat.mul_le_mul_right _ (le_of_numeralFrom hm')

/-! ## Parts of a numeral -/

/-- A numeral is its first digits, which count the powers of ten of the others, and the others. -/
theorem numeralFrom_take_drop {ds : List Char} (hd : ∀ c ∈ ds, isDigit c = true) {n : Nat}
    (hn : numeralFrom 10 digit? 0 ds = some n) (w : Nat) :
    numeralFrom 10 digit? 0 (ds.take w) = some (n / 10 ^ (ds.length - w)) ∧
      numeralFrom 10 digit? 0 (ds.drop w) = some (n % 10 ^ (ds.length - w)) := by
  have front := numeralFrom_of_digits (fun c hc => hd c (List.mem_of_mem_take (i := w) hc)) 0
  have back := numeralFrom_of_digits (fun c hc => hd c (List.mem_of_mem_drop (i := w) hc)) 0
  have small := numeralFrom_lt_pow digit?_lt back
  rw [Nat.zero_add, Nat.one_mul, List.length_drop] at small
  have whole : n = 10 ^ (ds.length - w) * Nat.ofDigitChars 10 (ds.take w) 0 + Nat.ofDigitChars 10 (ds.drop w) 0 := by
    rw [← List.length_drop, ← Nat.ofDigitChars_eq_ofDigitChars_zero, ← Nat.ofDigitChars_append, List.take_append_drop]
    exact (Option.some.inj ((numeralFrom_of_digits hd 0).symm.trans hn)).symm
  have positive : 0 < 10 ^ (ds.length - w) := Nat.pow_pos (by decide)
  rw [front, back, whole, Nat.mul_add_div positive, Nat.div_eq_of_lt small, Nat.mul_add_mod, Nat.mod_eq_of_lt small]
  exact ⟨rfl, rfl⟩

/-- Only zeros make zero. -/
theorem all_zero_iff {ds : List Char} {n : Nat} (hn : numeralFrom 10 digit? 0 ds = some n) :
    ds.all (· == '0') = true ↔ n = 0 := by
  have zeros (k : Nat) : numeralFrom 10 digit? 0 (List.replicate k '0') = some 0 := by
    rw [numeralFrom_of_digits (fun c hc => by rw [List.eq_of_mem_replicate hc]; rfl), Nat.ofDigitChars_replicate_zero,
      Nat.mul_zero]
  constructor
  · intro h
    have same : ds = List.replicate ds.length '0' := List.eq_replicate_iff.2 ⟨rfl, by simpa using h⟩
    rw [same, zeros] at hn
    exact (Option.some.inj hn).symm
  · rintro rfl
    rw [eq_of_numeralFrom (by simp) hn (zeros ds.length)]
    simp

end QueryGateway.Text
