import QueryGateway.Proofs.Sql.Scanning.Operators

/-!
# Pieces in front of a line break

The first piece of a text takes a character, so the lexer comes to the end of the text. With a
line break and more text behind, the first piece is the same token, or white space still, and
the same is left, except that the line break may go with it: to a comment that ran to the end,
to a carriage return, or to the operator `&>`.
-/

namespace QueryGateway.Sql

open Text

variable {cs more : List Char}

/-! ## What may take the line break -/

/-- What is left with a line break and more text behind it: what was left before and the line break, or
else nothing was left and the line break is taken too. -/
def Behind (more rest rest' : List Char) : Prop := rest' = rest ++ '\n' :: more ∨ rest = [] ∧ rest' = more

/-- `&>` takes the character behind it. -/
theorem scanAmpersand_behind {t : Token} {rest : List Char} (h : scanAmpersand cs = (t, rest)) (more : List Char) :
    ∃ rest', scanAmpersand (cs ++ '\n' :: more) = (t, rest') ∧ Behind more rest rest' := by
  revert h
  fun_cases scanAmpersand cs with
  | case1 cs =>
    rintro ⟨⟩
    cases cs with
    | nil => exact ⟨more, rfl, .inr ⟨rfl, rfl⟩⟩
    | cons c cs => exact ⟨_, rfl, .inl rfl⟩
  | _ =>
    intro h
    refine ⟨_, ?_, .inl rfl⟩
    simp_all [scanAmpersand, append_break_eq_cons_iff, binop_followed]

theorem scanMark_behind {c : Char} {t : Token} {rest : List Char} (h : scanMark c cs = .ok (t, rest))
    (more : List Char) :
    ∃ rest', scanMark c (cs ++ '\n' :: more) = .ok (t, rest') ∧ Behind more rest rest' := by
  revert h
  fun_cases scanMark c cs <;> intro h
  case case17 =>
    obtain ⟨rest', same, behind⟩ := scanAmpersand_behind (Except.ok.inj h) more
    exact ⟨rest', congrArg Except.ok same, behind⟩
  case case7 => exact ⟨_, scanBar_followed h, .inl rfl⟩
  case case12 => exact ⟨_, scanLess_followed h, .inl rfl⟩
  case case22 => exact ⟨_, scanAt_followed h, .inl rfl⟩
  all_goals refine ⟨_, ?_, .inl rfl⟩
  all_goals simp_all [scanMark, append_break_eq_cons_iff, binop_followed, scanBang_followed, scanGreater_followed,
    scanTilde_followed, scanHash_followed, scanQuestion_followed]

/-! ## Comments and words -/

theorem stable_commentText (depth : Nat) : Stable (commentText depth) := by
  intro cs s rest h
  fun_induction commentText depth cs generalizing s with
  | case1 => cases h
  | case2 depth cs ih | case4 depth cs ih =>
    obtain ⟨⟨s, rest⟩, hs, he⟩ := Option.map_eq_some_iff.1 h
    cases he
    have ⟨shorter, same⟩ := ih hs
    exact ⟨by grind, fun more => by simp [commentText, same]⟩
  | case3 cs => cases h; exact ⟨by grind, fun _ => rfl⟩
  | case5 depth c cs opens closes closes' ih =>
    obtain ⟨⟨s, rest⟩, hs, he⟩ := Option.map_eq_some_iff.1 h
    cases he
    have ⟨shorter, same⟩ := ih hs
    refine ⟨Nat.le_succ_of_le shorter, fun more => ?_⟩
    rw [List.cons_append, commentText.eq_5, same]
    · rfl
    · exact fun ds hc => no_cons_followed (by decide) (fun ds => opens ds hc) ds
    · exact fun ds hd hc => no_cons_followed (by decide) (fun ds => closes ds hd hc) ds
    · exact fun d ds hd hc => no_cons_followed (by decide) (fun ds => closes' d ds hd hc) ds

theorem scanWord_followed (c : Char) (cs : List Char) :
    scanWord c (cs ++ '\n' :: more) = followed more (scanWord c cs) := by
  unfold scanWord
  rw [spanChars_followed (by decide)]
  rfl

theorem scanWord_length (c : Char) (cs : List Char) : (scanWord c cs).2.length ≤ cs.length :=
  spanChars_length isWordChar cs

/-- A string behind its opening quote. -/
theorem stable_scanString {kind : Literal} {reader : List Char → Option (List Char × List Char)} (hr : Stable reader)
    (quote : Char) : StableScan fun cs => scanString kind reader (quote :: cs) := by
  intro cs t rest h
  dsimp only [scanString] at h ⊢
  split at h
  · next s left read =>
    cases h
    have ⟨shorter, same⟩ := hr read
    simp only [List.tail_cons] at shorter same ⊢
    exact ⟨shorter, fun more => by rw [same]⟩
  · cases h

theorem stable_scanQuotedWord (quote : Char) : StableScan fun cs => scanQuotedWord (quote :: cs) := by
  intro cs t rest h
  dsimp only [scanQuotedWord] at h ⊢
  split at h
  · next s left read =>
    cases h
    have ⟨shorter, same⟩ := stable_quotedText (by decide) read
    simp only [List.tail_cons] at shorter same ⊢
    exact ⟨shorter, fun more => by rw [same]⟩
  · cases h

theorem stable_scanNumber {c : Char} (hc : isDigit c ∨ c = '.') :
    StableScan fun cs => .ok (scanNumber (c :: cs)) := by
  intro cs t rest h
  have shorter := scanNumber_length hc cs
  rw [Except.ok.inj h] at shorter
  refine ⟨shorter, fun more => ?_⟩
  dsimp only
  rw [← List.cons_append, scanNumber_followed, Except.ok.inj h]
  rfl

/-- Whatever string a letter announces, its reader is stable. -/
theorem stable_literalOf {c : Char} {kind : Literal} {reader : List Char → Option (List Char × List Char)}
    (h : literalOf c = some (kind, reader)) : Stable reader := by
  have quoted : Stable (quotedText '\'') := stable_quotedText (by decide)
  have hex : Stable (backslashText '\'') := stable_backslashText (by decide)
  have escaped : Stable fun cs => escapeText (cs.length + 1) cs := fun cs a rest h => by
    have ⟨shorter, same⟩ := escapeText_stable h
    refine ⟨shorter, fun more => ?_⟩
    have : (cs ++ '\n' :: more).length + 1 = cs.length + 1 + (more.length + 1) := by simp; omega
    dsimp only
    rw [this]
    exact same more _
  revert h
  fun_cases literalOf c <;> rintro ⟨⟩ <;> assumption

/-- What starts with a letter and is no string is a word. -/
theorem scanLetter_word {c : Char} {t : Token} {rest : List Char} (h : scanWord c cs = (t, rest))
    (word : ∀ more, scanLetter c (cs ++ '\n' :: more) = .ok (scanWord c (cs ++ '\n' :: more))) :
    rest.length ≤ cs.length ∧ ∀ more, scanLetter c (cs ++ '\n' :: more) = .ok (t, rest ++ '\n' :: more) := by
  have shorter := scanWord_length c cs
  rw [h] at shorter
  exact ⟨shorter, fun more => by rw [word, scanWord_followed, h]; rfl⟩

theorem stable_scanLetter (c : Char) : StableScan (scanLetter c) := by
  intro cs t rest h
  revert h
  fun_cases scanLetter c cs with
  | case1 body reader announced s left read =>
    intro h
    cases h
    have ⟨shorter, same⟩ := stable_literalOf announced read
    exact ⟨Nat.le_succ_of_le shorter, fun more => by simp [scanLetter, announced, same]⟩
  | case2 => intro h; cases h
  | case3 body kind reader other announced =>
    intro h
    have ⟨shorter, same⟩ := stable_scanString (stable_literalOf announced) _ h
    refine ⟨Nat.le_succ_of_le shorter, fun more => ?_⟩
    rw [← same]
    simp [scanLetter, announced]
  | case4 body plain => exact fun h => scanLetter_word (Except.ok.inj h) fun more => by simp [scanLetter, plain]
  | case5 tail bytes =>
    intro h
    have ⟨shorter, same⟩ := stable_scanString (stable_quotedText (by decide)) _ h
    refine ⟨Nat.le_succ_of_le shorter, fun more => ?_⟩
    rw [← same]
    exact if_pos bytes
  | case6 tail other => exact fun h => scanLetter_word (Except.ok.inj h) fun more => if_neg other
  | case7 body unicode =>
    intro h
    obtain ⟨⟨s, left⟩, read, h⟩ := bind_eq_ok h
    cases h
    have ⟨shorter, same⟩ := unicodeText_stable read
    refine ⟨by grind, fun more => ?_⟩
    have : (body ++ '\n' :: more).length + 1 = body.length + 1 + (more.length + 1) := by simp; omega
    have same := same more (more.length + 1)
    simp only [List.cons_append, scanLetter]
    rw [if_pos unicode, this, same]
    rfl
  | case8 body other => exact fun h => scanLetter_word (Except.ok.inj h) fun more => if_neg other
  | case9 cs noQuote noDouble noUnicode =>
    refine fun h => scanLetter_word (Except.ok.inj h) fun more => ?_
    rw [scanLetter.eq_4 _ _ (no_cons_followed (by decide) noQuote) (no_cons_followed (by decide) noDouble)]
    intro body h
    obtain ⟨es, rfl, hes⟩ := (append_break_eq_cons_iff (show '&' ≠ '\n' by decide) _).1 h
    obtain ⟨ds, rfl, -⟩ := (append_break_eq_cons_iff (show '\'' ≠ '\n' by decide) _).1 hes.symm
    exact noUnicode ds rfl

/-! ## Pieces -/

/-- The token a piece is. -/
def Piece.token? : Piece → Option Token
  | .token t => some t
  | .blank _ => none

/-- The characters of a comment that ends with its line. -/
def lineText (cs : List Char) : List Char × List Char := spanChars (fun d => d != '\n' && d != '\r') cs

theorem scanPiece_line (afterWord : Bool) (ds : List Char) :
    scanPiece afterWord '-' ('-' :: ds) =
      .ok (.blank (String.ofList ('-' :: '-' :: (lineText ds).1 ++ (lineText ds).2.take 1)), (lineText ds).2.drop 1) :=
  rfl

theorem scanPiece_block (afterWord : Bool) (ds : List Char) :
    scanPiece afterWord '/' ('*' :: ds) =
      match commentText 0 ds with
      | some (text, rest) => .ok (.blank ("/*" ++ String.ofList text ++ "*/"), rest)
      | none => .error ⟨"Unexpected EOF while in a multi-line comment", 0⟩ :=
  rfl

/-- Where the first piece is the token of a stable reader, it is the same in front of a line break. -/
theorem scanPiece_of_stable {read : Scan Token} (hr : StableScan read) {afterWord : Bool} {c : Char} {piece : Piece}
    {rest : List Char} (h : (do let (t, rest) ← read cs; return (.token t, rest)) = Except.ok (piece, rest))
    (same : ∀ more, scanPiece afterWord c (cs ++ '\n' :: more) =
      (do let (t, rest) ← read (cs ++ '\n' :: more); return (.token t, rest))) :
    rest.length ≤ cs.length ∧
      ∀ more, ∃ piece' rest', scanPiece afterWord c (cs ++ '\n' :: more) = .ok (piece', rest') ∧
        piece'.token? = piece.token? ∧ Behind more rest rest' := by
  obtain ⟨⟨t, left⟩, token, h⟩ := bind_eq_ok h
  cases h
  have ⟨shorter, stays⟩ := hr token
  refine ⟨shorter, fun more => ⟨.token t, _, ?_, rfl, .inl rfl⟩⟩
  rw [same, stays]
  rfl

/-- The first piece of a text takes a character, and is the same in front of a line break. -/
theorem scanPiece_behind {afterWord : Bool} {c : Char} {piece : Piece} {rest : List Char} :
    scanPiece afterWord c cs = .ok (piece, rest) →
      rest.length ≤ cs.length ∧
        ∀ more, ∃ piece' rest', scanPiece afterWord c (cs ++ '\n' :: more) = .ok (piece', rest') ∧
          piece'.token? = piece.token? ∧ Behind more rest rest' := by
  fun_cases scanPiece afterWord c cs with
  | case1 c cs blank =>
    rintro ⟨⟩
    exact ⟨Nat.le_refl _, fun more => ⟨_, _, if_pos blank, rfl, .inl rfl⟩⟩
  | case2 c noBlank cr ds =>
    rintro ⟨⟩
    refine ⟨Nat.le_succ _, fun more => ⟨_, _, ?_, rfl, .inl rfl⟩⟩
    simp [scanPiece, noBlank, cr]
  | case3 c noBlank cr ds alone =>
    rintro ⟨⟩
    refine ⟨Nat.le_refl _, fun more => ?_⟩
    unfold scanPiece
    rw [if_neg noBlank, if_pos cr]
    -- The line break goes with a carriage return in front of it.
    cases cs with
    | nil => exact ⟨_, _, rfl, rfl, .inr ⟨rfl, rfl⟩⟩
    | cons d ds =>
      refine ⟨.blank "\n", _, ?_, rfl, .inl rfl⟩
      split
      · next h => exact (alone _ (by rw [(List.cons.inj h).1])).elim
      · rfl
  | case4 c cs noBlank noCr quote =>
    refine fun h => scanPiece_of_stable (stable_scanString (stable_quotedText (by decide)) c) h fun more => ?_
    unfold scanPiece
    rw [if_neg noBlank, if_neg noCr, if_pos quote]
  | case5 c cs noBlank noCr noQuote double =>
    refine fun h => scanPiece_of_stable (stable_scanQuotedWord c) h fun more => ?_
    unfold scanPiece
    rw [if_neg noBlank, if_neg noCr, if_neg noQuote, if_pos double]
  | case6 c cs noBlank noCr noQuote noDouble letter =>
    refine fun h => scanPiece_of_stable (stable_scanLetter c) h fun more => ?_
    unfold scanPiece
    rw [if_neg noBlank, if_neg noCr, if_neg noQuote, if_neg noDouble, if_pos letter]
  | case7 c cs noBlank noCr noQuote noDouble noLetter digit t left read =>
    refine fun h => scanPiece_of_stable (stable_scanNumber (.inl digit)) (by dsimp only; rw [read]; exact h)
      fun more => ?_
    unfold scanPiece
    rw [if_neg noBlank, if_neg noCr, if_neg noQuote, if_neg noDouble, if_neg noLetter, if_pos digit]
    rfl
  | case8 c noBlank noCr noQuote noDouble noLetter noDigit period tail behindWord =>
    rintro ⟨⟩
    refine ⟨Nat.le_refl _, fun more => ⟨.token (.mark "."), _, ?_, rfl, .inl rfl⟩⟩
    unfold scanPiece
    rw [if_neg noBlank, if_neg noCr, if_neg noQuote, if_neg noDouble, if_neg noLetter, if_neg noDigit, if_pos period]
    exact if_pos behindWord
  | case9 => rintro ⟨⟩
  | case10 c cs noBlank noCr noQuote noDouble noLetter noDigit period t left read bare =>
    refine fun h => scanPiece_of_stable (stable_scanNumber (.inr (beq_iff_eq.1 period))) h fun more => ?_
    unfold scanPiece
    rw [if_neg noBlank, if_neg noCr, if_neg noQuote, if_neg noDouble, if_neg noLetter, if_neg noDigit, if_pos period]
    split
    · next h => exact absurd h (no_cons_followed (by decide) bare _)
    · rfl
  | case11 c cs noBlank noCr noQuote noDouble noLetter noDigit noPeriod dollar =>
    refine fun h => scanPiece_of_stable stable_scanDollar h fun more => ?_
    unfold scanPiece
    rw [if_neg noBlank, if_neg noCr, if_neg noQuote, if_neg noDouble, if_neg noLetter, if_neg noDigit,
      if_neg noPeriod, if_pos dollar]
  | case12 ds text left read =>
    rintro ⟨⟩
    have shorter := spanChars_length (fun d => d != '\n' && d != '\r') ds
    have same more : lineText (ds ++ '\n' :: more) = followed more (lineText ds) := spanChars_followed (by decide) ds
    have read : lineText ds = (text, left) := read
    rw [show spanChars _ ds = _ from read] at shorter
    refine ⟨by grind, fun more => ⟨_, _, scanPiece_line afterWord (ds ++ '\n' :: more), rfl, ?_⟩⟩
    rw [same, read]
    -- A comment that runs to the end of the text takes the line break.
    cases left with
    | nil => exact .inr ⟨rfl, rfl⟩
    | cons l left => exact .inl rfl
  | case13 ds text left read =>
    rintro ⟨⟩
    have ⟨shorter, same⟩ := stable_commentText 0 read
    refine ⟨Nat.le_succ_of_le shorter, fun more => ⟨_, _, ?_, rfl, .inl rfl⟩⟩
    rw [List.cons_append, scanPiece_block, same]
  | case14 ds noText => rintro ⟨⟩
  | case15 c cs noBlank noCr noQuote noDouble noLetter noDigit noPeriod noDollar noLine noBlock =>
    intro h
    obtain ⟨⟨t, left⟩, read, result⟩ := bind_eq_ok h
    cases result
    clear h
    refine ⟨scanMark_length read, fun more => ?_⟩
    obtain ⟨rest', same, behind⟩ := scanMark_behind read more
    refine ⟨.token t, rest', ?_, rfl, behind⟩
    unfold scanPiece
    rw [if_neg noBlank, if_neg noCr, if_neg noQuote, if_neg noDouble, if_neg noLetter, if_neg noDigit,
      if_neg noPeriod, if_neg noDollar]
    split
    · next ds h => exact absurd h (no_cons_followed (by decide) (fun ds => noLine ds rfl) _)
    · next ds h => exact absurd h (no_cons_followed (by decide) (fun ds => noBlock ds rfl) _)
    · rw [same]
      rfl

end QueryGateway.Sql
