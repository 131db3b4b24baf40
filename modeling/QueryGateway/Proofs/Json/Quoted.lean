import QueryGateway.Json.Node
import QueryGateway.Proofs.Outcome

/-!
# Strings read back

A string may be spelled in many ways: a character by itself, behind a backslash, or by its
code units in hexadecimal digits. It is cut into the same pieces wherever it stands, and they are its
characters whichever way is chosen for each of them, and so they are for the spelling that the writer
chooses.
-/

namespace QueryGateway.Json

open Text

/-! ## Spellings -/

/-- The text between the quotes spells the characters. A code unit that is half of a pair
needs the other half behind it. -/
inductive Spells : List Char → List Char → Prop
  | nil : Spells [] []
  | plain {c : Char} {t cs : List Char} (control : 0x20 ≤ c.toNat) (quote : c ≠ '"') (backslash : c ≠ '\\') :
      Spells t cs → Spells (c :: t) (c :: cs)
  | escaped {e c : Char} {t cs : List Char} (letter : unescape? e = some c) :
      Spells t cs → Spells ('\\' :: e :: t) (c :: cs)
  | unit {x₁ x₂ x₃ x₄ : Char} {n : Nat} {t cs : List Char} (digits : hexUnit? x₁ x₂ x₃ x₄ = some n)
      (leading : isLeading n = false) (trailing : isTrailing n = false) :
      Spells t cs → Spells ('\\' :: 'u' :: x₁ :: x₂ :: x₃ :: x₄ :: t) (Char.ofNat n :: cs)
  | pair {x₁ x₂ x₃ x₄ y₁ y₂ y₃ y₄ : Char} {hi lo : Nat} {t cs : List Char}
      (first : hexUnit? x₁ x₂ x₃ x₄ = some hi) (leading : isLeading hi = true)
      (second : hexUnit? y₁ y₂ y₃ y₄ = some lo) (trailing : isTrailing lo = true) :
      Spells t cs → Spells
        ('\\' :: 'u' :: x₁ :: x₂ :: x₃ :: x₄ :: '\\' :: 'u' :: y₁ :: y₂ :: y₃ :: y₄ :: t)
        (pairChar hi lo :: cs)

/-! ## Pieces -/

/-- The text between the quotes of a string is made of the pieces. -/
inductive Cut : List Char → List Piece → Prop
  | nil : Cut [] []
  | plain {c : Char} {t : List Char} {ps : List Piece} (control : 0x20 ≤ c.toNat) (quote : c ≠ '"')
      (backslash : c ≠ '\\') : Cut t ps → Cut (c :: t) (.plain c :: ps)
  | escaped {e c : Char} {t : List Char} {ps : List Piece} (letter : unescape? e = some c) :
      Cut t ps → Cut ('\\' :: e :: t) (.escaped c :: ps)
  | unit {x₁ x₂ x₃ x₄ : Char} {n : Nat} {t : List Char} {ps : List Piece}
      (digits : hexUnit? x₁ x₂ x₃ x₄ = some n) :
      Cut t ps → Cut ('\\' :: 'u' :: x₁ :: x₂ :: x₃ :: x₄ :: t) (.unit n :: ps)

/-- The text that pieces spell, wherever they stand. -/
def piecesText (ps : List Piece) : Option String := (Quoted.decode ⟨ps.map fun p => (p, 0), .closed, 0⟩).toOption

/-- What stands between the quotes is read as a string, or else it is none. -/
def Quotes (t : List Char) (s : Option String) : Prop := ∃ ps, Cut t ps ∧ piecesText ps = s

/-- Whether pieces are a text does not depend on where they stand. -/
theorem toOption_decodePieces (ps : List (Piece × Mark)) (mark : Mark) :
    (decodePieces .closed mark ps).toOption =
      (decodePieces .closed 0 (ps.map fun p => (p.1, 0))).toOption := by
  fun_induction decodePieces .closed mark ps with
  | case1 => rfl
  | case2 _ h => cases h
  | case3 c _ ps ih => simp [decodePieces, toOption_map, ih]
  | case4 c _ ps ih => simp [decodePieces, toOption_map, ih]
  | case5 n m ps trailing =>
    rw [List.map_cons, decodePieces.eq_def]
    simp only [trailing, if_true]
    rfl
  | case6 n m trailing leading =>
    rw [List.map_cons, decodePieces.eq_def]
    simp only [trailing, leading, if_true]
    rfl
  | case7 n m trailing leading n2 m2 ps second ih =>
    rw [toOption_map, ih, ← toOption_map, List.map_cons, List.map_cons, decodePieces.eq_def _ _ (_ :: _)]
    simp only [trailing, leading, second, if_true]
    rfl
  | case8 n m trailing leading n2 m2 ps second =>
    rw [List.map_cons, List.map_cons, decodePieces.eq_def]
    simp only [trailing, leading, second, if_true]
    rfl
  | case9 n m trailing leading p m2 ps other =>
    rw [List.map_cons, List.map_cons, decodePieces.eq_def]
    simp only [trailing, leading, if_true]
    cases p with
    | unit n => exact absurd rfl (other n)
    | _ => rfl
  | case10 n m ps trailing leading ih =>
    rw [toOption_map, ih, ← toOption_map, List.map_cons, decodePieces.eq_def _ _ (_ :: _)]
    simp only [trailing, leading]
    rfl

theorem decode_of_pieces {q : Quoted} {ps : List Piece} (closed : q.ending = .closed)
    (pieces : q.pieces.map Prod.fst = ps) : q.decode.toOption = piecesText ps := by
  unfold piecesText Quoted.decode
  rw [toOption_map, toOption_map, closed, toOption_decodePieces, ← pieces, List.map_map]
  rfl

/-! ## Cutting -/

theorem scanString_plain {c : Char} (control : 0x20 ≤ c.toNat) (quote : c ≠ '"') (backslash : c ≠ '\\')
    (mark : Mark) (cs : List Char) :
    scanString mark (c :: cs) = withPiece (.plain c) mark (scanString (mark + utf8Width c) cs) := by
  rw [scanString.eq_7 mark c cs quote (fun h _ => backslash h) (fun _ _ _ _ _ h _ => backslash h)
    (fun _ h _ => backslash h) (fun _ _ h _ => backslash h), if_neg (by omega)]

theorem scanString_escaped {e c : Char} (letter : unescape? e = some c) (mark : Mark) (cs : List Char) :
    scanString mark ('\\' :: e :: cs) = withPiece (.escaped c) mark (scanString (mark + 2) cs) := by
  have notUnit : e ≠ 'u' := by
    rintro rfl
    cases letter
  rw [scanString.eq_6 mark e cs (fun _ _ _ _ _ h _ => notUnit h) notUnit, letter]

theorem scanString_unit {x₁ x₂ x₃ x₄ : Char} {n : Nat} (digits : hexUnit? x₁ x₂ x₃ x₄ = some n) (mark : Mark)
    (cs : List Char) :
    scanString mark ('\\' :: 'u' :: x₁ :: x₂ :: x₃ :: x₄ :: cs) =
      withPiece (.unit n) mark (scanString (mark + 6) cs) := by
  rw [scanString, digits]

/-- A text between quotes is cut into its pieces, whatever follows. -/
theorem scanString_cut {t : List Char} {ps : List Piece} (h : Cut t ps) (mark : Mark) (rest : List Char) :
    ∃ q : Quoted, scanString mark (t ++ '"' :: rest) = (q, rest) ∧ q.ending = .closed ∧
      q.pieces.map Prod.fst = ps := by
  induction h generalizing mark with
  | nil => exact ⟨⟨[], .closed, mark⟩, by simp [scanString], rfl, rfl⟩
  | @plain c t ps control quote backslash _ ih =>
    obtain ⟨q, hq, closed, pieces⟩ := ih (mark + utf8Width c)
    refine ⟨⟨(.plain c, mark) :: q.pieces, q.ending, q.mark⟩, ?_, closed, congrArg (_ :: ·) pieces⟩
    rw [List.cons_append, scanString_plain control quote backslash, hq]
    rfl
  | @escaped e c t ps letter _ ih =>
    obtain ⟨q, hq, closed, pieces⟩ := ih (mark + 2)
    refine ⟨⟨(.escaped c, mark) :: q.pieces, q.ending, q.mark⟩, ?_, closed, congrArg (_ :: ·) pieces⟩
    rw [List.cons_append, List.cons_append, scanString_escaped letter, hq]
    rfl
  | @unit x₁ x₂ x₃ x₄ n t ps digits _ ih =>
    obtain ⟨q, hq, closed, pieces⟩ := ih (mark + 6)
    refine ⟨⟨(.unit n, mark) :: q.pieces, q.ending, q.mark⟩, ?_, closed, congrArg (_ :: ·) pieces⟩
    simp only [List.cons_append]
    rw [scanString_unit digits, hq]
    rfl

theorem isTrailing_of_isLeading {n : Nat} (h : isLeading n = true) : isTrailing n = false := by
  simp only [isLeading, isTrailing, Bool.and_eq_true, Bool.and_eq_false_iff, decide_eq_true_eq,
    decide_eq_false_iff_not] at h ⊢
  omega

/-- The pieces of a spelling are its characters. -/
theorem Spells.cut {t cs : List Char} (h : Spells t cs) :
    ∃ ps, Cut t ps ∧ decodePieces .closed 0 (ps.map fun p => (p, 0)) = .ok cs := by
  induction h with
  | nil => exact ⟨[], .nil, rfl⟩
  | plain control quote backslash _ ih =>
    obtain ⟨ps, cut, decoded⟩ := ih
    exact ⟨_, cut.plain control quote backslash, by simp [decodePieces, decoded, Except.map]⟩
  | escaped letter _ ih =>
    obtain ⟨ps, cut, decoded⟩ := ih
    exact ⟨_, cut.escaped letter, by simp [decodePieces, decoded, Except.map]⟩
  | unit digits leading trailing _ ih =>
    obtain ⟨ps, cut, decoded⟩ := ih
    refine ⟨_, cut.unit digits, ?_⟩
    rw [List.map_cons, decodePieces.eq_def]
    simp [trailing, leading, decoded, Except.map]
  | pair first leading second trailing _ ih =>
    obtain ⟨ps, cut, decoded⟩ := ih
    refine ⟨_, (cut.unit second).unit first, ?_⟩
    rw [List.map_cons, List.map_cons, decodePieces.eq_def]
    simp [isTrailing_of_isLeading leading, leading, trailing, decoded, Except.map]

theorem Spells.quotes {t : List Char} {s : String} (h : Spells t s.toList) : Quotes t (some s) := by
  obtain ⟨ps, cut, decoded⟩ := h.cut
  refine ⟨ps, cut, ?_⟩
  simp [piecesText, Quoted.decode, decoded, Except.map, Except.toOption]

/-! ## The spelling of the writer -/

/-- A control character is written by a code unit with two digits of its own. -/
theorem hexUnit_control : ∀ n < 32,
    hexUnit? '0' '0' (hexChar false (n / 16)) (hexChar false (n % 16)) = some n ∧
      isLeading n = false ∧ isTrailing n = false := by
  decide

theorem spells_escapeChar (c : Char) {t cs : List Char} (h : Spells t cs) :
    Spells ((escapeChar c).toList ++ t) (c :: cs) := by
  unfold escapeChar
  split
  · exact .escaped (e := '"') rfl h
  · exact .escaped (e := '\\') rfl h
  · exact .escaped (e := 'b') rfl h
  · exact .escaped (e := 'f') rfl h
  · exact .escaped (e := 'n') rfl h
  · exact .escaped (e := 'r') rfl h
  · exact .escaped (e := 't') rfl h
  · next quote backslash _ _ _ _ _ =>
    split
    · next control =>
      obtain ⟨digits, leading, trailing⟩ := hexUnit_control c.toNat control
      have spelled := Spells.unit digits leading trailing h
      rw [Char.ofNat_toNat] at spelled
      simpa using spelled
    · next control => simpa using Spells.plain (Nat.le_of_not_lt control) quote backslash h

/-- What the writer puts between quotes spells the text. -/
theorem toList_quote (s : String) : ∃ t, (quote s).toList = '"' :: (t ++ ['"']) ∧ Spells t s.toList := by
  refine ⟨s.toList.flatMap fun c => (escapeChar c).toList, ?_, ?_⟩
  · simp [quote, List.flatMap_map]
  · induction s.toList with
    | nil => exact .nil
    | cons c cs ih =>
      rw [List.flatMap_cons]
      exact spells_escapeChar c ih

end QueryGateway.Json
