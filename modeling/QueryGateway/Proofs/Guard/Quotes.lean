import Mathlib.Data.List.Chain
import QueryGateway.Proofs.Guard.Rereading

/-!
# What stands between quotes

A text between quotes is written with each quote in it doubled, and reading undoes just
that. Printing doubles a quote only if it stands neither behind a backslash nor next to
another quote, since it takes those for quotes that are escaped already. So a literal or a
name is sent as it was read if no quote in it stands so, and otherwise what is sent reads
as another text, or does not end where it did.
-/

namespace QueryGateway.Sql

/-! ## Quotes doubled -/

/-- A text with each quote in it doubled. -/
def doubled (quote : Char) : List Char → List Char
  | [] => []
  | c :: cs => if c == quote then c :: c :: doubled quote cs else c :: doubled quote cs

/-- A text between quotes, as the standard wants it written. -/
def standardQuoted (quote : Char) (s : String) : String :=
  String.ofList (quote :: doubled quote s.toList ++ [quote])

variable {quote before c : Char} {s t cs rest : List Char}

@[simp] theorem doubled_quote : doubled quote (quote :: cs) = quote :: quote :: doubled quote cs := by
  simp [doubled]

@[simp] theorem doubled_other (h : c ≠ quote) : doubled quote (c :: cs) = c :: doubled quote cs := by
  simp [doubled, h]

/-- What is written with doubled quotes reads back, if no quote follows. -/
theorem quotedText_doubled (s : List Char) (h : rest.head? ≠ some quote) :
    quotedText quote (doubled quote s ++ quote :: rest) = some (s, rest) := by
  induction s with
  | nil =>
    cases rest with
    | nil => simp [doubled, quotedText]
    | cons d ds =>
      have hd : d ≠ quote := by simpa using h
      simp [doubled, quotedText, hd]
  | cons c cs ih =>
    by_cases hc : c = quote
    · subst hc
      simp [quotedText, ih]
    · rw [doubled_other hc, List.cons_append, quotedText.eq_def]
      simp [hc, ih]

/-- What reads as a text is that text with its quotes doubled. -/
theorem doubled_of_quotedText (h : quotedText quote t = some (s, rest)) :
    t = doubled quote s ++ quote :: rest := by
  fun_induction quotedText quote t generalizing s rest with
  | case1 => cases h
  | case2 c hc =>
    obtain rfl := beq_iff_eq.1 hc
    cases h
    rfl
  | case3 c hc d ds hd ih =>
    obtain rfl := beq_iff_eq.1 hc
    obtain rfl := beq_iff_eq.1 hd
    obtain ⟨⟨s', rest'⟩, hs, he⟩ := Option.map_eq_some_iff.1 h
    cases he
    rw [ih hs]
    simp
  | case4 c hc d ds hd =>
    obtain rfl := beq_iff_eq.1 hc
    cases h
    rfl
  | case5 c cs hc ih =>
    obtain ⟨⟨s', rest'⟩, hs, he⟩ := Option.map_eq_some_iff.1 h
    cases he
    rw [ih hs, doubled_other (by simpa using hc)]
    rfl

/-! ## Quotes printed -/

/-- A quote is not directly behind a backslash or another quote. -/
def Apart (quote before c : Char) : Prop := c = quote → before ≠ '\\' ∧ before ≠ quote

instance (quote before c : Char) : Decidable (Apart quote before c) := inferInstanceAs (Decidable (_ → _))

/-- Each quote in the text stands by itself. -/
def QuotesApart (quote : Char) (s : String) : Prop := s.toList.IsChain (Apart quote)

instance (quote : Char) (s : String) : Decidable (QuotesApart quote s) :=
  inferInstanceAs (Decidable (List.IsChain _ _))

theorem length_escapeQuote_le (quote before : Char) (cs : List Char) :
    (escapeQuote quote before cs).length ≤ (doubled quote cs).length := by
  fun_induction escapeQuote quote before cs with
  | case1 => simp [doubled]
  | case2 before c cs hc hb ih =>
    obtain rfl := beq_iff_eq.1 hc
    simp only [doubled_quote, List.length_cons]
    omega
  | case3 before c hc hb => simp [doubled, hc]
  | case4 before c hc hb d ds hd ih =>
    obtain rfl := beq_iff_eq.1 hc
    obtain rfl := beq_iff_eq.1 hd
    simp only [doubled_quote, List.length_cons]
    omega
  | case5 before c hc hb d ds hd ih =>
    obtain rfl := beq_iff_eq.1 hc
    simp only [doubled_quote, List.length_cons] at ih ⊢
    omega
  | case6 before c cs hc ih =>
    rw [doubled_other (by simpa using hc)]
    simpa using ih

/-- The quotes are printed doubled just if each stands by itself. -/
theorem escapeQuote_eq_doubled_iff (quote before : Char) (cs : List Char) :
    escapeQuote quote before cs = doubled quote cs ↔
      cs.IsChain (Apart quote) ∧ (before = '\\' → cs.head? ≠ some quote) := by
  fun_induction escapeQuote quote before cs with
  | case1 => simp [doubled]
  | case2 before c cs hc hb ih =>
    -- One quote where there should be two, and the rest does not make up for it.
    obtain rfl := beq_iff_eq.1 hc
    have := length_escapeQuote_le c before cs
    refine iff_of_false (fun h => ?_) (fun h => h.2 (by simpa using hb) rfl)
    have := congrArg List.length h
    simp only [doubled_quote, List.length_cons] at this
    omega
  | case3 before c hc hb => simp_all [doubled]
  | case4 before c hc hb d ds hd ih =>
    obtain rfl := beq_iff_eq.1 hc
    obtain rfl := beq_iff_eq.1 hd
    have := length_escapeQuote_le d d ds
    refine iff_of_false (fun h => ?_) (fun h => ((List.isChain_cons_cons.1 h.1).1 rfl).2 rfl)
    have := congrArg List.length h
    simp only [doubled_quote, List.length_cons] at this
    omega
  | case5 before c hc hb d ds hd ih =>
    obtain rfl := beq_iff_eq.1 hc
    have hd : d ≠ c := by simpa using hd
    have step : c :: c :: escapeQuote c c (d :: ds) = doubled c (c :: d :: ds) ↔
        escapeQuote c c (d :: ds) = doubled c (d :: ds) := by simp
    rw [step, ih, List.isChain_cons_cons]
    have apart : Apart c c d := fun h => absurd h hd
    have other : (d :: ds).head? ≠ some c := by simpa using hd
    have front : before ≠ '\\' := by simpa using hb
    exact ⟨fun h => ⟨⟨apart, h.1⟩, fun hb => absurd hb front⟩, fun h => ⟨h.1.2, fun _ => other⟩⟩
  | case6 before c cs hc ih =>
    have hc : c ≠ quote := by simpa using hc
    rw [doubled_other hc, List.cons_inj_right, ih]
    have front : before = '\\' → (c :: cs).head? ≠ some quote := fun _ => by simpa using hc
    rw [and_iff_left front]
    cases cs with
    | nil => simp
    | cons d ds =>
      rw [List.isChain_cons_cons, and_comm]
      refine and_congr_left fun _ => ?_
      simp only [Apart, List.head?_cons, ne_eq, Option.some.injEq]
      exact ⟨fun h hd => ⟨fun hb => h hb hd, hc⟩, fun h hb hd => (h hd).1 hb⟩

/-! ## Printed and read again -/

theorem toList_tail_quoteText (quote : Char) (s : String) :
    (quoteText quote s).toList.tail = escapeQuote quote (Char.ofNat 0) s.toList ++ [quote] := by
  simp [quoteText]

/-- A text prints between quotes as the standard wants it just if its quotes are apart. -/
theorem quoteText_eq_standardQuoted_iff (quote : Char) (s : String) :
    quoteText quote s = standardQuoted quote s ↔ QuotesApart quote s := by
  have apart := escapeQuote_eq_doubled_iff quote (Char.ofNat 0) s.toList
  rw [and_iff_left (fun h => absurd h (by decide))] at apart
  rw [QuotesApart, ← apart, quoteText, standardQuoted, String.ofList_inj]
  simp

/-- A text reads back from its print just if its quotes are apart. -/
theorem quotedText_quoteText_iff (quote : Char) (s : String) :
    quotedText quote (quoteText quote s).toList.tail = some (s.toList, []) ↔ QuotesApart quote s := by
  rw [← quoteText_eq_standardQuoted_iff, toList_tail_quoteText, quoteText, standardQuoted, String.ofList_inj]
  constructor
  · intro h
    rw [List.cons_append, doubled_of_quotedText h]
    rfl
  · intro h
    rw [List.cons_append, List.cons_append, List.cons_inj_right] at h
    rw [h]
    exact quotedText_doubled s.toList (by simp)

/-! ## A query for one literal or one name -/

/-- The token that a text between quotes is. -/
def quotedToken (quote : Char) (s : String) : Token :=
  if quote == '\'' then .literal .plain s else .word (.quote s)

/-- One more piece of a text. -/
theorem pieces_cons (fuel : Nat) (place : Place) {afterWord : Bool} {c : Char} {cs rest : List Char}
    {piece : Piece} (h : scanPiece afterWord c cs = .ok (piece, rest)) :
    ∃ p, pieces (fuel + 1) place afterWord (c :: cs) =
      (pieces fuel p piece.isWord rest).map ((piece, place) :: ·) := by
  rw [pieces, h]
  exact ⟨_, rfl⟩

theorem scanPiece_quoted {quote : Char} (hq : quote = '\'' ∨ quote = '\"') (s : String) :
    scanPiece false quote (doubled quote s.toList ++ [quote]) = .ok (.token (quotedToken quote s), []) := by
  have read : quotedText quote (doubled quote s.toList ++ [quote]) = some (s.toList, []) :=
    quotedText_doubled s.toList (by simp)
  rcases hq with rfl | rfl
  · have scans (cs : List Char) : scanPiece false '\'' cs =
        (scanString .plain (quotedText '\'') ('\'' :: cs)).map fun x => (.token x.1, x.2) := rfl
    rw [scans, scanString, List.tail_cons, read]
    simp [quotedToken, Except.map]
  · have scans (cs : List Char) : scanPiece false '\"' cs =
        (scanQuotedWord ('\"' :: cs)).map fun x => (.token x.1, x.2) := rfl
    rw [scans, scanQuotedWord, List.tail_cons, read]
    simp [quotedToken, Except.map]

/-- The tokens of a query for what stands between quotes. -/
theorem lexemes_select {quote : Char} (hq : quote = '\'' ∨ quote = '\"') (s : String) :
    ∃ b p, lexemes ("SELECT " ++ standardQuoted quote s) =
      .ok [⟨.word (.plain "SELECT"), Place.start, b⟩, ⟨quotedToken quote s, p, none⟩] := by
  let body := doubled quote s.toList ++ [quote]
  have word : scanPiece false 'S' ("ELECT ".toList ++ quote :: body) =
      .ok (.token (.word (.plain "SELECT")), ' ' :: quote :: body) := rfl
  have blank : scanPiece true ' ' (quote :: body) = .ok (.blank " ", quote :: body) := rfl
  have last : scanPiece false quote body = .ok (.token (quotedToken quote s), []) := scanPiece_quoted hq s
  have text : ("SELECT " ++ standardQuoted quote s).toList = 'S' :: ("ELECT ".toList ++ quote :: body) := by
    simp [standardQuoted, body]
  have length : ("SELECT " ++ standardQuoted quote s).toList.length = body.length + 7 + 1 := by
    rw [text]
    simp
  obtain ⟨p₁, first⟩ := pieces_cons (body.length + 7) Place.start word
  obtain ⟨p₂, second⟩ := pieces_cons (body.length + 6) p₁ blank
  obtain ⟨p₃, third⟩ := pieces_cons (body.length + 5) p₂ last
  refine ⟨some (" ", p₁), p₂, ?_⟩
  unfold lexemes
  dsimp only
  rw [length, text, first]
  show ((pieces (body.length + 6 + 1) p₁ true (' ' :: quote :: body)).map _).map attachBlanks = _
  rw [second]
  show (((pieces (body.length + 5 + 1) p₂ false (quote :: body)).map _).map _).map attachBlanks = _
  rw [third]
  rfl

@[simp] theorem Phrase.render_append (a b : Phrase) : (a ++ b).render = a.render ++ b.render := rfl

/-- The query for one expression. -/
def selectOf (p : Phrase) : Query :=
  .ofBody (.select (.mk (.empty ++ .empty) (.word " " ++ .commas [p]) none .empty
    (.sepBy "" [] ++ (.opt " WHERE " none ++ (.empty ++ (.empty ++ (.empty ++ (.empty
      ++ (.opt " HAVING " none ++ .swapped .empty .empty)))))))))

theorem script_select {quote : Char} (hq : quote = '\'' ∨ quote = '\"') (s : String) (p₁ p₂ : Place)
    (b : Option (String × Place)) :
    script.run ⟨[⟨.word (.plain "SELECT"), p₁, b⟩, ⟨quotedToken quote s, p₂, none⟩], false⟩ =
      .ok ([.query (selectOf (.word (quoteText quote s)))], ⟨[], false⟩) := by
  rcases hq with rfl | rfl
  · rfl
  · rfl

end QueryGateway.Sql

namespace QueryGateway

open Sql

theorem parseSingle_select {quote : Char} (hq : quote = '\'' ∨ quote = '\"') (s : String) :
    parseSingle ("SELECT " ++ standardQuoted quote s) = .ok (.query (selectOf (.word (quoteText quote s)))) := by
  obtain ⟨b, p, tokens⟩ := lexemes_select hq s
  simp only [parseSingle, parseStatements, parseScript, tokens, script_select hq]
  rfl

/-- What is sent for such a query. -/
theorem guardSql_select {quote : Char} (hq : quote = '\'' ∨ quote = '\"') (s : String) :
    guardSql ("SELECT " ++ standardQuoted quote s) =
      .ok ⟨"SELECT " ++ quoteText quote s ++ " LIMIT 1000", true⟩ := by
  let q := selectOf (.word (quoteText quote s))
  have reads : q.OnlyReads := ((readOnlyQuery_eq_ok_iff (.query q) q).1 rfl).2
  refine (guardSql_eq_ok_iff _ _).2 ⟨q, parseSingle_select hq s, reads, ?_⟩
  have capped : capQuery q = (withRowCap 1000 q, true) := rfl
  have text : (withRowCap 1000 q).render = "SELECT " ++ quoteText quote s ++ " LIMIT 1000" := by
    have body : q.body.render = "SELECT" ++ (" " ++ quoteText quote s) := by
      simp [q, selectOf, Query.ofBody, Query.body, Body.render, Select.render, Phrase.commas, Phrase.sepBy,
        Phrase.opt, Phrase.render, clauseText]
    calc (withRowCap 1000 q).render
        = "" ++ q.body.render ++ "" ++ (" LIMIT " ++ "1000" ++ "") ++ "" ++ "" ++ "" := rfl
      _ = "SELECT" ++ (" " ++ quoteText quote s) ++ " LIMIT 1000" := by simp [body, String.append_assoc]
      _ = "SELECT " ++ quoteText quote s ++ " LIMIT 1000" := by rw [← String.append_assoc]; rfl
  rw [capped, text]

/-- A query for one literal or one quoted name is let through, and the text between the
quotes is printed anew. The text sent is the one received with a limit behind it just if
the quotes in it stand apart, and just then what is sent between the quotes reads as what
was received. -/
theorem quoted_sent_iff (quote : Char) (hq : quote = '\'' ∨ quote = '\"') (s : String) :
    guardSql ("SELECT " ++ standardQuoted quote s) =
        .ok ⟨"SELECT " ++ quoteText quote s ++ " LIMIT 1000", true⟩ ∧
      (guardSql ("SELECT " ++ standardQuoted quote s) =
        .ok ⟨"SELECT " ++ standardQuoted quote s ++ " LIMIT 1000", true⟩ ↔ QuotesApart quote s) ∧
      (quotedText quote (quoteText quote s).toList.tail = some (s.toList, []) ↔ QuotesApart quote s) := by
  have sent := guardSql_select hq s
  refine ⟨sent, ?_, quotedText_quoteText_iff quote s⟩
  rw [sent, ← quoteText_eq_standardQuoted_iff]
  simp

/-- Quotes by themselves and backslashes by themselves are kept. -/
theorem apart_quotes_kept :
    guardSql "SELECT 'it''s \\ -- ; /* \n'" = .ok ⟨"SELECT 'it''s \\ -- ; /* \n' LIMIT 1000", true⟩ ∧
      guardSql "SELECT \"a\"\"b'\"" = .ok ⟨"SELECT \"a\"\"b'\" LIMIT 1000", true⟩ :=
  ⟨(quoted_sent_iff '\'' (.inl rfl) "it's \\ -- ; /* \n").2.1.2 (by decide),
    (quoted_sent_iff '\"' (.inr rfl) "a\"b'").2.1.2 (by decide)⟩

/-- Behind a backslash a quote is no longer doubled, so that it ends the literal: what
follows it is a statement of its own. A pair of quotes is sent as one, in a literal and in
a name. -/
theorem literal_left_behind :
    (guardSql "SELECT '\\''; DROP TABLE t --'" = .ok ⟨"SELECT '\\'; DROP TABLE t --' LIMIT 1000", true⟩ ∧
      guardSql "SELECT '\\'; DROP TABLE t --' LIMIT 1000" = .error (.multiple 2)) ∧
    guardSql "SELECT ''''''" = .ok ⟨"SELECT '''' LIMIT 1000", true⟩ ∧
    guardSql "SELECT \"\"\"\"\"\"" = .ok ⟨"SELECT \"\"\"\" LIMIT 1000", true⟩ := by
  decide +kernel

end QueryGateway
