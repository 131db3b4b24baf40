import QueryGateway.Proofs.Sql.Scanning.Pieces

/-!
# The tokens of texts put together

Which tokens a text has depends neither on where it stands nor, once a line is broken behind
it, on what follows. So two texts with a semicolon on a line of its own between them have the
tokens of the one, a semicolon, and the tokens of the other.
-/

namespace QueryGateway.Sql

/-! ## The tokens of a text -/

/-- The tokens among pieces. -/
def tokensOf (ps : List (Piece × Place)) : List Token := ps.filterMap fun p => p.1.token?

theorem tokensOf_cons (piece : Piece) (place : Place) (ps : List (Piece × Place)) :
    tokensOf ((piece, place) :: ps) = piece.token?.toList ++ tokensOf ps := by
  unfold tokensOf
  cases h : piece.token? <;> simp [h]

theorem map_token_attachBlanks (ps : List (Piece × Place)) : (attachBlanks ps).map Lexeme.token = tokensOf ps := by
  fun_induction attachBlanks ps with
  | case1 => rfl
  | case2 _ _ _ ih => rw [ih, tokensOf_cons]; rfl
  | case3 t _ _ _ ih => rw [List.map_cons, ih, tokensOf_cons]; rfl

/-- A text is cut into tokens, wherever it stands. `afterWord` tells that a word stands before it. -/
def Cuts (afterWord : Bool) (cs : List Char) (ts : List Token) : Prop :=
  ∀ fuel place, cs.length ≤ fuel → ∃ ps, pieces fuel place afterWord cs = .ok ps ∧ tokensOf ps = ts

variable {afterWord : Bool} {c : Char} {cs rest more : List Char} {piece : Piece} {ts : List Token}

theorem Cuts.nil : Cuts afterWord [] [] := by
  intro fuel place _
  cases fuel <;> exact ⟨[], rfl, rfl⟩

/-- A text is cut into its first piece and the tokens of the rest. -/
theorem Cuts.cons (read : scanPiece afterWord c cs = .ok (piece, rest)) (h : Cuts piece.isWord rest ts) :
    Cuts afterWord (c :: cs) (piece.token?.toList ++ ts) := by
  intro fuel place enough
  have shorter := (scanPiece_behind read).1
  cases fuel with
  | zero => cases enough
  | succ fuel =>
    obtain ⟨ps, hps, rfl⟩ := h fuel (place.advance ((c :: cs).take ((c :: cs).length - rest.length)))
      (Nat.le_trans shorter (Nat.le_of_succ_le_succ enough))
    refine ⟨(piece, place) :: ps, ?_, tokensOf_cons piece place ps⟩
    rw [pieces, read]
    dsimp only
    rw [hps]
    rfl

/-- The lexer has one piece more where it has pieces. -/
theorem pieces_cons_eq_ok {fuel : Nat} {place : Place} {ps : List (Piece × Place)}
    (h : pieces (fuel + 1) place afterWord (c :: cs) = .ok ps) :
    ∃ piece rest place' qs, scanPiece afterWord c cs = .ok (piece, rest) ∧
      pieces fuel place' piece.isWord rest = .ok qs ∧ ps = (piece, place) :: qs := by
  rw [pieces] at h
  split at h
  · cases h
  · next piece rest read =>
    obtain ⟨qs, hqs, h⟩ := bind_eq_ok h
    cases h
    exact ⟨piece, rest, _, qs, read, hqs, rfl⟩

theorem Piece.isWord_eq_of_token? {p q : Piece} (h : p.token? = q.token?) : p.isWord = q.isWord := by
  cases p <;> cases q <;> simp_all [Piece.token?, Piece.isWord]

/-- What a text is cut into, with more behind the line break that follows it. -/
theorem cuts_followed {fuel : Nat} {place : Place} {ps : List (Piece × Place)}
    (h : pieces fuel place afterWord cs = .ok ps) (enough : cs.length ≤ fuel) (hm : ∀ afterWord, Cuts afterWord more ts) :
    Cuts afterWord (cs ++ '\n' :: more) (tokensOf ps ++ ts) := by
  have break' afterWord : Cuts afterWord ('\n' :: more) ts :=
    Cuts.cons (show scanPiece afterWord '\n' more = .ok (.blank "\n", more) from rfl) (hm _)
  induction fuel generalizing place afterWord cs ps with
  | zero =>
    cases h
    cases List.eq_nil_of_length_eq_zero (Nat.le_zero.1 enough)
    exact break' _
  | succ fuel ih =>
    cases cs with
    | nil =>
      cases h
      exact break' _
    | cons c cs =>
      obtain ⟨piece, rest, place', qs, read, hqs, rfl⟩ := pieces_cons_eq_ok h
      have ⟨shorter, same⟩ := scanPiece_behind read
      obtain ⟨piece', rest', read', token, behind⟩ := same more
      rw [tokensOf_cons, List.append_assoc, ← token]
      refine Cuts.cons read' ?_
      rw [Piece.isWord_eq_of_token? token]
      -- The next piece starts where it did, unless the first took the line break at the end.
      rcases behind with rfl | ⟨rfl, rfl⟩
      · exact ih hqs (Nat.le_trans shorter (Nat.le_of_succ_le_succ enough))
      · cases fuel <;> cases hqs <;> exact hm _

theorem cuts_of_pieces {fuel : Nat} {place : Place} {ps : List (Piece × Place)}
    (h : pieces fuel place afterWord cs = .ok ps) (enough : cs.length ≤ fuel) : Cuts afterWord cs (tokensOf ps) := by
  induction fuel generalizing place afterWord cs ps with
  | zero =>
    cases h
    cases List.eq_nil_of_length_eq_zero (Nat.le_zero.1 enough)
    exact .nil
  | succ fuel ih =>
    cases cs with
    | nil =>
      cases h
      exact .nil
    | cons c cs =>
      obtain ⟨piece, rest, place', qs, read, hqs, rfl⟩ := pieces_cons_eq_ok h
      have shorter := (scanPiece_behind read).1
      rw [tokensOf_cons]
      exact Cuts.cons read (ih hqs (Nat.le_trans shorter (Nat.le_of_succ_le_succ enough)))

theorem lexemes_eq_ok {text : String} {ls : List Lexeme} (h : lexemes text = .ok ls) :
    ∃ ps, pieces text.toList.length Place.start false text.toList = .ok ps ∧ ls.map Lexeme.token = tokensOf ps := by
  obtain ⟨ps, hps, rfl⟩ := map_eq_ok h
  exact ⟨ps, hps, map_token_attachBlanks ps⟩

/-! ## Two texts -/

/-- Two texts with a semicolon on a line of its own between them. -/
def joined (a b : String) : String := a ++ "\n;\n" ++ b

/-- Two texts put together have the tokens of the one, a semicolon, and the tokens of the other. -/
theorem lexemes_joined {a b : String} {as bs : List Lexeme} (ha : lexemes a = .ok as) (hb : lexemes b = .ok bs) :
    ∃ ls, lexemes (joined a b) = .ok ls ∧
      ls.map Lexeme.token = as.map Lexeme.token ++ .mark ";" :: bs.map Lexeme.token := by
  obtain ⟨ps, hps, tokensA⟩ := lexemes_eq_ok ha
  obtain ⟨qs, hqs, tokensB⟩ := lexemes_eq_ok hb
  have second : Cuts false b.toList (tokensOf qs) := cuts_of_pieces hqs (Nat.le_refl _)
  have broken : Cuts false ('\n' :: b.toList) (tokensOf qs) :=
    Cuts.cons (show scanPiece false '\n' b.toList = .ok (.blank "\n", b.toList) from rfl) second
  have separated afterWord : Cuts afterWord (';' :: '\n' :: b.toList) (.mark ";" :: tokensOf qs) :=
    Cuts.cons (show scanPiece afterWord ';' _ = .ok (.token (.mark ";"), '\n' :: b.toList) from rfl) broken
  have text : (joined a b).toList = a.toList ++ '\n' :: (';' :: '\n' :: b.toList) := by
    simp [joined, String.toList_append]
  obtain ⟨rs, hrs, tokens⟩ := cuts_followed hps (Nat.le_refl _) separated (joined a b).toList.length Place.start
    (Nat.le_of_eq (by rw [text]))
  refine ⟨attachBlanks rs, ?_, by rw [map_token_attachBlanks, tokens, tokensA, tokensB]⟩
  unfold lexemes
  dsimp only
  rw [← text] at hrs
  rw [hrs]
  rfl

end QueryGateway.Sql
