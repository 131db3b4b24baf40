import QueryGateway.Proofs.Json.Grammar

/-!
# Every JSON text has an outline

The grammar says which texts are JSON, and an outline what such a text says. Each text of the
grammar is laid out from some outline, however large its numbers are and whatever stands in its
strings. So what is known of outlines is known of all texts from which something is read.
-/

namespace QueryGateway.Json

open Text

/-! ## Strings -/

theorem exists_unescape {e : Char} (h : e ∈ escapeLetters) : ∃ c, unescape? e = some c := by
  simp only [escapeLetters, List.mem_cons, List.not_mem_nil, or_false] at h
  rcases h with rfl | rfl | rfl | rfl | rfl | rfl | rfl | rfl <;> exact ⟨_, rfl⟩

theorem exists_hexUnit {a b c d : Char} (h : ∀ x ∈ [a, b, c, d], isHexDigit x = true) :
    ∃ n, hexUnit? a b c d = some n := by
  have all : ∀ (cs : List Char) (acc : Nat), (∀ x ∈ cs, isHexDigit x = true) →
      ∃ n, numeralFrom 16 hexDigit? acc cs = some n := by
    intro cs
    induction cs with
    | nil => exact fun acc _ => ⟨acc, rfl⟩
    | cons y ys ih =>
      intro acc h
      obtain ⟨digit, more⟩ := List.forall_mem_cons.1 h
      obtain ⟨v, value⟩ := Option.isSome_iff_exists.1 digit
      obtain ⟨n, rest⟩ := ih (acc * 16 + v) more
      exact ⟨n, by rw [numeralFrom, value]; exact rest⟩
  exact all _ 0 h

/-- Whatever stands between quotes is made of pieces. -/
theorem IsContent.cut {t : List Char} (h : IsContent t) : ∃ ps, Cut t ps := by
  induction h with
  | nil => exact ⟨[], .nil⟩
  | plain control quote backslash _ ih =>
    obtain ⟨ps, cut⟩ := ih
    exact ⟨_, cut.plain control quote backslash⟩
  | escaped letter _ ih =>
    obtain ⟨ps, cut⟩ := ih
    obtain ⟨c, letter⟩ := exists_unescape letter
    exact ⟨_, cut.escaped letter⟩
  | unit digits _ ih =>
    obtain ⟨ps, cut⟩ := ih
    obtain ⟨n, digits⟩ := exists_hexUnit digits
    exact ⟨_, cut.unit digits⟩

theorem IsContent.quotes {t : List Char} (h : IsContent t) : ∃ s, Quotes t s := by
  obtain ⟨ps, cut⟩ := h.cut
  exact ⟨piecesText ps, ps, cut, rfl⟩

/-! ## Numbers -/

/-- No digit stands in front of the text. -/
def EndsDigits (rest : List Char) : Prop := ∀ c ∈ rest.head?, isDigit c = false

theorem endsDigits_nil : EndsDigits [] := by simp [EndsDigits]

theorem scanSome_digits {ds rest : List Char} (h : IsDigits ds) (hr : EndsDigits rest) (mark : Mark) :
    scanSome ⟨mark, ds ++ rest⟩ = .ok (ds, ⟨mark + ds.length, rest⟩) := by
  unfold scanSome
  rw [takeDigits_append h.2 hr]
  split
  · next none => exact absurd (congrArg Prod.fst none) h.1
  · next same => rw [← same]

theorem scanWhole_digits {ds rest : List Char} (h : IsWhole ds) (hr : EndsDigits rest) (mark : Mark) :
    scanWhole ⟨mark, ds ++ rest⟩ = .ok (ds, ⟨mark + ds.length, rest⟩) := by
  unfold scanWhole
  rw [takeDigits_append h.1.2 hr]
  split
  · next none => exact absurd (congrArg Prod.fst none) h.1.1
  · next c cs _ zero =>
    -- Behind a zero in front there are no digits.
    obtain rfl : ds = '0' :: c :: cs := congrArg Prod.fst zero
    have single := h.2 rfl
    simp at single
  · next same => rw [← same]

theorem IsExponent.head {t : List Char} (h : IsExponent t) : ∀ c ∈ t.head?, c = 'e' ∨ c = 'E' := by
  rcases h with rfl | ⟨e, sign, ds, rfl, letter, -⟩
  · simp
  · intro c hc
    cases hc
    exact letter

theorem IsExponent.endsDigits {t : List Char} (h : IsExponent t) : EndsDigits t := by
  intro c hc
  rcases h.head c hc with rfl | rfl <;> rfl

theorem scanFraction_of {fraction rest : List Char} (h : IsFraction fraction) (hr : IsExponent rest) (mark : Mark) :
    ∃ x stop, scanFraction ⟨mark, fraction ++ rest⟩ = .ok (x, ⟨stop, rest⟩) := by
  rcases h with rfl | ⟨ds, rfl, digits⟩
  · -- No fraction begins here, since an exponent begins with its letter.
    refine ⟨none, mark, ?_⟩
    unfold scanFraction
    split
    · next cs point =>
      obtain rfl : rest = '.' :: cs := point
      rcases hr.head '.' rfl with letter | letter <;> cases letter
    · rfl
  · refine ⟨some ds, mark + 1 + ds.length, ?_⟩
    show (scanSome ⟨mark + 1, ds ++ rest⟩).map _ = _
    rw [scanSome_digits digits hr.endsDigits]
    rfl

theorem scanSign_of {sign ds : List Char} (h : sign = [] ∨ sign = ['+'] ∨ sign = ['-']) (digits : IsDigits ds)
    (mark : Mark) : ∃ negative stop, scanSign ⟨mark, sign ++ ds⟩ = (negative, ⟨stop, ds⟩) := by
  rcases h with rfl | rfl | rfl
  · obtain ⟨d, ds, rfl⟩ := List.exists_cons_of_ne_nil digits.1
    have digit := digits.2 d List.mem_cons_self
    refine ⟨false, mark, ?_⟩
    unfold scanSign
    split
    · next heq =>
      cases heq
      cases digit
    · next heq =>
      cases heq
      cases digit
    · rfl
  · exact ⟨false, mark + 1, rfl⟩
  · exact ⟨true, mark + 1, rfl⟩

theorem scanExponent_of {t : List Char} (h : IsExponent t) (mark : Mark) :
    ∃ x stop, scanExponent ⟨mark, t⟩ = .ok (x, ⟨stop, []⟩) := by
  rcases h with rfl | ⟨e, sign, ds, rfl, letter, isSign, digits⟩
  · exact ⟨none, mark, rfl⟩
  · obtain ⟨negative, stop, signed⟩ := scanSign_of isSign digits (mark + 1)
    have scanned := scanSome_digits digits endsDigits_nil stop
    rw [List.append_nil] at scanned
    refine ⟨some (negative, ds), stop + ds.length, ?_⟩
    have letters : (e == 'e' || e == 'E') = true := by simpa using letter
    unfold scanExponent
    dsimp only
    rw [if_pos letters, signed]
    dsimp only
    rw [scanned]
    rfl

theorem scanUnsigned_of {t : List Char} (h : IsUnsignedNumeral t) (negative : Bool) (mark : Mark) :
    ∃ n stop, scanUnsigned negative ⟨mark, t⟩ = .ok (n, ⟨stop, []⟩) := by
  obtain ⟨whole, fraction, exponent, rfl, isWhole, isFraction, isExponent⟩ := h
  have ends : EndsDigits (fraction ++ exponent) := by
    rcases isFraction with rfl | ⟨ds, rfl, -⟩
    · exact isExponent.endsDigits
    · intro c hc
      cases hc
      rfl
  obtain ⟨x, stop₁, scanned₁⟩ := scanFraction_of isFraction isExponent (mark + whole.length)
  obtain ⟨y, stop₂, scanned₂⟩ := scanExponent_of isExponent stop₁
  refine ⟨⟨negative, whole, x, y⟩, stop₂, ?_⟩
  unfold scanUnsigned
  rw [scanWhole_digits isWhole ends]
  show (scanFraction ⟨mark + whole.length, fraction ++ exponent⟩ >>= _) = _
  rw [scanned₁]
  show (scanExponent ⟨stop₁, exponent⟩ >>= _) = _
  rw [scanned₂]
  rfl

theorem IsNumeral.numbers {t : List Char} (h : IsNumeral t) : ∃ n, Numbers t n := by
  have scans : ∃ n stop, scanNumeral ⟨0, t⟩ = .ok (n, ⟨stop, []⟩) := by
    rcases h with unsigned | ⟨ds, rfl, unsigned⟩
    · -- A digit stands first, so no sign is taken from it.
      obtain ⟨whole, fraction, exponent, rfl, ⟨⟨some, digits⟩, -⟩, -⟩ := id unsigned
      obtain ⟨d, ds, rfl⟩ := List.exists_cons_of_ne_nil some
      have minus : d ≠ '-' := by
        rintro rfl
        cases digits '-' List.mem_cons_self
      obtain ⟨n, stop, scanned⟩ := scanUnsigned_of unsigned false 0
      exact ⟨n, stop, (scanNumeral_unsigned minus 0 _).trans scanned⟩
    · exact scanUnsigned_of unsigned true 1
  obtain ⟨n, stop, scanned⟩ := scans
  exact ⟨_, n, stop, scanned, rfl⟩

/-! ## Values -/

mutual

/-- A text of the grammar is laid out from an outline. -/
theorem IsValue.laidOut : ∀ {t : List Char}, IsValue t → ∃ o : Outline, o.LaidOut t
  | _, .nullWord => ⟨.null, rfl⟩
  | _, .trueWord => ⟨.bool true, rfl⟩
  | _, .falseWord => ⟨.bool false, rfl⟩
  | _, .number h => by
    obtain ⟨n, numbers⟩ := h.numbers
    exact ⟨.number n, numbers⟩
  | _, .string ⟨u, text, content⟩ => by
    obtain ⟨s, quotes⟩ := content.quotes
    exact ⟨.string s, u, text, quotes⟩
  | _, @IsValue.array blanks t blank items => by
    obtain ⟨os, laidOut⟩ := items.laidOut
    exact ⟨.array os, blanks, t, rfl, blank, laidOut⟩
  | _, @IsValue.object blanks t blank members => by
    obtain ⟨ms, laidOut⟩ := members.laidOut
    exact ⟨.object ms, blanks, t, rfl, blank, laidOut⟩

theorem IsItems.laidOut : ∀ {first : Bool} {t : List Char}, IsItems first t → ∃ os, ItemsLaidOut first os t
  | _, _, .nil => ⟨[], rfl⟩
  | _, _, @IsItems.cons _ lead u blanks w leads value blank more => by
    obtain ⟨o, first⟩ := value.laidOut
    obtain ⟨os, rest⟩ := more.laidOut
    exact ⟨o :: os, lead, u, blanks, w, rfl, leads, first, blank, rest⟩

theorem IsMembers.laidOut : ∀ {first : Bool} {t : List Char}, IsMembers first t → ∃ ms, MembersLaidOut first ms t
  | _, _, .nil => ⟨[], rfl⟩
  | _, _, @IsMembers.cons _ lead _ b₁ b₂ u b₃ w leads ⟨k, text, content⟩ blank₁ blank₂ value blank₃ more => by
    obtain ⟨s, quotes⟩ := content.quotes
    obtain ⟨o, first⟩ := value.laidOut
    obtain ⟨ms, rest⟩ := more.laidOut
    exact ⟨(s, o) :: ms, lead, k, b₁, b₂, u, b₃, w, by simp [text], leads, quotes, blank₁, blank₂, first, blank₃,
      rest⟩

end

/-- JSON says something. -/
theorem IsJson.saidBy {text : String} (h : IsJson text.toList) : ∃ o : Outline, o.SaidBy text := by
  obtain ⟨front, t, back, same, blankFront, value, blankBack⟩ := h
  obtain ⟨o, laidOut⟩ := value.laidOut
  exact ⟨o, front, t, back, same, blankFront, laidOut, blankBack⟩

end QueryGateway.Json
