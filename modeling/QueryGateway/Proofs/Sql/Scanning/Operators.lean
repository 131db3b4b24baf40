import QueryGateway.Proofs.Sql.Scanning.Strings

/-!
# Numbers and operators in front of a line break

A number and an operator go on for as long as characters of theirs follow. A line break is none
of these, so what is read ends where the text did.
-/

namespace QueryGateway.Sql

open Text

variable {cs more : List Char}

/-! ## Numbers -/

theorem spanDigits_followed {digit : Char → Bool} (h : digit '\n' = false) (cs : List Char) :
    spanDigits digit (cs ++ '\n' :: more) = followed more (spanDigits digit cs) := by
  induction cs with
  | nil => simp [spanDigits, h]
  | cons c cs ih =>
    cases cs with
    | nil =>
      have : isHexDigit '\n' = false := by decide
      simp only [List.nil_append, List.cons_append, spanDigits, this, h, Bool.and_false, Bool.or_false]
      split <;> rfl
    | cons d ds =>
      simp only [List.cons_append] at ih ⊢
      rw [spanDigits, ih, spanDigits]
      dsimp only
      split <;> rfl

theorem spanDigits_length (digit : Char → Bool) (cs : List Char) : (spanDigits digit cs).2.length ≤ cs.length := by
  fun_induction spanDigits digit cs with
  | case1 => exact Nat.le_refl _
  | case2 c cs separates hc ds rest taken ih =>
    rw [taken] at ih
    exact Nat.le_succ_of_le ih
  | case3 => exact Nat.le_refl _

/-- The sign of an exponent, if there is one. -/
def signPart : List Char → List Char × List Char
  | '+' :: ds => (['+'], ds)
  | '-' :: ds => (['-'], ds)
  | ds => ([], ds)

theorem exponentPart_cons (e : Char) (cs : List Char) :
    exponentPart (e :: cs) =
      if e == 'e' || e == 'E' then
        match spanChars isDigit (signPart cs).2 with
        | ([], _) => ([], e :: cs)
        | (ds, rest) => (e :: (signPart cs).1 ++ ds, rest)
      else ([], e :: cs) :=
  rfl

theorem signPart_followed (cs : List Char) : signPart (cs ++ '\n' :: more) = followed more (signPart cs) := by
  fun_cases signPart cs <;> simp_all [signPart, append_break_eq_cons_iff]

theorem signPart_length (cs : List Char) : (signPart cs).2.length ≤ cs.length := by
  fun_cases signPart cs <;> simp

theorem exponentPart_followed (cs : List Char) :
    exponentPart (cs ++ '\n' :: more) = followed more (exponentPart cs) := by
  cases cs with
  | nil => rfl
  | cons e cs =>
    rw [List.cons_append, exponentPart_cons, exponentPart_cons, signPart_followed]
    dsimp only [followed]
    rw [spanChars_followed (by decide)]
    obtain ⟨ds, rest⟩ := spanChars isDigit (signPart cs).2
    cases ds <;> split <;> rfl

theorem exponentPart_length (cs : List Char) : (exponentPart cs).2.length ≤ cs.length := by
  cases cs with
  | nil => exact Nat.le_refl _
  | cons e cs =>
    have sign := signPart_length cs
    have shorter := spanChars_length isDigit (signPart cs).2
    rw [exponentPart_cons]
    split
    · split
      · exact Nat.le_refl _
      · next read =>
        rw [read] at shorter
        exact Nat.le_succ_of_le (Nat.le_trans shorter sign)
    · exact Nat.le_refl _

theorem finishNumber_followed (digits cs : List Char) :
    finishNumber digits (cs ++ '\n' :: more) = followed more (finishNumber digits cs) := by
  fun_cases finishNumber digits cs <;> simp_all [finishNumber, append_break_eq_cons_iff]

theorem finishNumber_length (digits cs : List Char) : (finishNumber digits cs).2.length ≤ cs.length := by
  fun_cases finishNumber digits cs <;> simp

/-- The period of a number, if there is one. -/
def pointPart : List Char → List Char × List Char
  | '.' :: ds => (['.'], ds)
  | ds => ([], ds)

/-- What stands behind the fraction of a number that is no lone period. -/
def finishFraction (digits cs : List Char) : Token × List Char :=
  if digits == ['.'] then (.mark ".", cs)
  else finishNumber (digits ++ (exponentPart cs).1) (exponentPart cs).2

theorem scanFraction_eq (whole cs : List Char) :
    scanFraction whole cs =
      finishFraction (whole ++ (pointPart cs).1 ++ (spanDigits isDigit (pointPart cs).2).1)
        (spanDigits isDigit (pointPart cs).2).2 :=
  rfl

theorem pointPart_followed (cs : List Char) : pointPart (cs ++ '\n' :: more) = followed more (pointPart cs) := by
  fun_cases pointPart cs <;> simp_all [pointPart, append_break_eq_cons_iff]

theorem pointPart_length (cs : List Char) : (pointPart cs).2.length ≤ cs.length := by
  fun_cases pointPart cs <;> simp

theorem finishFraction_followed (digits cs : List Char) :
    finishFraction digits (cs ++ '\n' :: more) = followed more (finishFraction digits cs) := by
  unfold finishFraction
  split
  · rfl
  · rw [exponentPart_followed]
    exact finishNumber_followed _ _

theorem finishFraction_length (digits cs : List Char) : (finishFraction digits cs).2.length ≤ cs.length := by
  unfold finishFraction
  split
  · exact Nat.le_refl _
  · exact Nat.le_trans (finishNumber_length _ _) (exponentPart_length cs)

theorem scanFraction_followed (whole cs : List Char) :
    scanFraction whole (cs ++ '\n' :: more) = followed more (scanFraction whole cs) := by
  rw [scanFraction_eq, scanFraction_eq, pointPart_followed]
  dsimp only [followed]
  rw [spanDigits_followed (by decide)]
  exact finishFraction_followed _ _

theorem scanFraction_length (whole cs : List Char) : (scanFraction whole cs).2.length ≤ cs.length := by
  rw [scanFraction_eq]
  exact Nat.le_trans (Nat.le_trans (finishFraction_length _ _) (spanDigits_length _ _)) (pointPart_length cs)

/-- What stands behind the first digits of a number. -/
def finishWhole (whole : List Char) : List Char → Token × List Char
  | 'x' :: ds =>
    if whole == ['0'] then (.literal .hex (String.ofList (spanDigits isHexDigit ds).1), (spanDigits isHexDigit ds).2)
    else scanFraction whole ('x' :: ds)
  | rest => scanFraction whole rest

theorem scanNumber_eq (cs : List Char) :
    scanNumber cs = finishWhole (spanDigits isDigit cs).1 (spanDigits isDigit cs).2 := by
  unfold scanNumber
  obtain ⟨whole, rest⟩ := spanDigits isDigit cs
  fun_cases finishWhole whole rest with
  | case1 ds zero => exact if_pos zero
  | case2 ds other => exact if_neg other
  | case3 rest other =>
    dsimp only
    split
    · exact (other _ rfl).elim
    · rfl

theorem finishWhole_followed (whole cs : List Char) :
    finishWhole whole (cs ++ '\n' :: more) = followed more (finishWhole whole cs) := by
  fun_cases finishWhole whole cs with
  | case1 ds zero => simp [finishWhole, zero, spanDigits_followed (show isHexDigit '\n' = false by decide)]
  | case2 ds other =>
    rw [← scanFraction_followed]
    simp [finishWhole, other]
  | case3 cs other => rw [finishWhole.eq_2 _ _ (no_cons_followed (by decide) other), scanFraction_followed]

theorem finishWhole_length (whole cs : List Char) : (finishWhole whole cs).2.length ≤ cs.length := by
  fun_cases finishWhole whole cs with
  | case1 ds zero => exact Nat.le_succ_of_le (spanDigits_length isHexDigit ds)
  | case2 | case3 => exact scanFraction_length whole _

theorem scanNumber_followed (cs : List Char) :
    scanNumber (cs ++ '\n' :: more) = followed more (scanNumber cs) := by
  rw [scanNumber_eq, scanNumber_eq, spanDigits_followed (by decide)]
  exact finishWhole_followed _ _

/-- A number takes its first character, be that a digit or a period. -/
theorem scanNumber_length {c : Char} (hc : isDigit c ∨ c = '.') (cs : List Char) :
    (scanNumber (c :: cs)).2.length ≤ cs.length := by
  rw [scanNumber_eq]
  rcases hc with hc | rfl
  · have taken : spanDigits isDigit (c :: cs) = (c :: (spanDigits isDigit cs).1, (spanDigits isDigit cs).2) := by
      simp [spanDigits, hc]
    rw [taken]
    exact Nat.le_trans (finishWhole_length _ _) (spanDigits_length isDigit cs)
  · have left : spanDigits isDigit ('.' :: cs) = ([], '.' :: cs) := rfl
    rw [left]
    show (scanFraction [] ('.' :: cs)).2.length ≤ _
    rw [scanFraction_eq]
    exact Nat.le_trans (finishFraction_length _ _) (spanDigits_length isDigit cs)

/-! ## Operators -/

theorem binop_followed (spelling : String) (cs : List Char) :
    binop spelling (cs ++ '\n' :: more) = followed more (binop spelling cs) := by
  unfold binop
  rw [spanChars_followed (by decide)]
  obtain ⟨taken, rest⟩ := spanChars isOperatorChar cs
  cases taken <;> rfl

theorem binop_length (spelling : String) (cs : List Char) : (binop spelling cs).2.length ≤ cs.length := by
  have shorter := spanChars_length isOperatorChar cs
  unfold binop
  split <;> next read => rwa [read] at shorter

theorem binopOnly_followed {spelling : String} {r : Token × List Char} (h : binopOnly spelling cs = .ok r) :
    binopOnly spelling (cs ++ '\n' :: more) = .ok (followed more r) := by
  unfold binopOnly at h ⊢
  rw [spanChars_followed (by decide)]
  split at h
  · cases h
  · next taken left some read =>
    cases h
    rw [read]
    cases taken with
    | nil => exact (some rfl).elim
    | cons => rfl

theorem binopOnly_length {spelling : String} {r : Token × List Char} (h : binopOnly spelling cs = .ok r) :
    r.2.length ≤ cs.length := by
  have shorter := spanChars_length isOperatorChar cs
  unfold binopOnly at h
  split at h
  · cases h
  · next read =>
    cases h
    rwa [read] at shorter

/-! Each of these looks at one or two characters and reads an operator behind them. -/

section

local grind_pattern binop_length => binop spelling cs
attribute [local grind →] binopOnly_length

variable {r : Token × List Char}

theorem scanBar_followed : scanBar cs = .ok r → scanBar (cs ++ '\n' :: more) = .ok (followed more r) := by
  fun_cases scanBar cs <;> intro h <;> try cases h
  all_goals simp_all [scanBar, append_break_eq_cons_iff, binop_followed, binopOnly_followed]

theorem scanBar_length : scanBar cs = .ok r → r.2.length ≤ cs.length := by
  fun_cases scanBar cs <;> grind

theorem scanLess_followed : scanLess cs = .ok r → scanLess (cs ++ '\n' :: more) = .ok (followed more r) := by
  fun_cases scanLess cs <;> intro h <;> try cases h
  all_goals simp_all [scanLess, append_break_eq_cons_iff, binop_followed, binopOnly_followed]

theorem scanLess_length : scanLess cs = .ok r → r.2.length ≤ cs.length := by
  fun_cases scanLess cs <;> grind

theorem scanAt_followed : scanAt cs = .ok r → scanAt (cs ++ '\n' :: more) = .ok (followed more r) := by
  fun_cases scanAt cs <;> intro h <;> try cases h
  all_goals simp_all [scanAt, append_break_eq_cons_iff, binop_followed, binopOnly_followed]

theorem scanAt_length : scanAt cs = .ok r → r.2.length ≤ cs.length := by
  fun_cases scanAt cs <;> grind

theorem scanBang_followed (cs : List Char) : scanBang (cs ++ '\n' :: more) = followed more (scanBang cs) := by
  fun_cases scanBang cs <;> simp_all [scanBang, append_break_eq_cons_iff]

theorem scanBang_length (cs : List Char) : (scanBang cs).2.length ≤ cs.length := by
  fun_cases scanBang cs <;> grind

theorem scanTilde_followed (cs : List Char) : scanTilde (cs ++ '\n' :: more) = followed more (scanTilde cs) := by
  fun_cases scanTilde cs <;> simp_all [scanTilde, append_break_eq_cons_iff, binop_followed]

theorem scanTilde_length (cs : List Char) : (scanTilde cs).2.length ≤ cs.length := by
  fun_cases scanTilde cs <;> grind

theorem scanHash_followed (cs : List Char) : scanHash (cs ++ '\n' :: more) = followed more (scanHash cs) := by
  fun_cases scanHash cs <;> simp_all [scanHash, append_break_eq_cons_iff, binop_followed]

theorem scanHash_length (cs : List Char) : (scanHash cs).2.length ≤ cs.length := by
  fun_cases scanHash cs <;> grind

theorem scanQuestion_followed (cs : List Char) :
    scanQuestion (cs ++ '\n' :: more) = followed more (scanQuestion cs) := by
  fun_cases scanQuestion cs <;> simp_all [scanQuestion, append_break_eq_cons_iff]

theorem scanQuestion_length (cs : List Char) : (scanQuestion cs).2.length ≤ cs.length := by
  fun_cases scanQuestion cs <;> grind

theorem scanGreater_followed (cs : List Char) :
    scanGreater (cs ++ '\n' :: more) = followed more (scanGreater cs) := by
  fun_cases scanGreater cs <;> simp_all [scanGreater, append_break_eq_cons_iff, binop_followed]

theorem scanGreater_length (cs : List Char) : (scanGreater cs).2.length ≤ cs.length := by
  fun_cases scanGreater cs <;> grind

theorem scanAmpersand_length (cs : List Char) : (scanAmpersand cs).2.length ≤ cs.length := by
  fun_cases scanAmpersand cs <;> grind

theorem scanMark_length {c : Char} : scanMark c cs = .ok r → r.2.length ≤ cs.length := by
  fun_cases scanMark c cs
  all_goals grind [→ scanBar_length, → scanLess_length, → scanAt_length, scanBang_length, scanTilde_length,
    scanHash_length, scanQuestion_length, scanGreater_length, scanAmpersand_length]

end

end QueryGateway.Sql
