import Mathlib.Data.List.TakeWhile
import QueryGateway.Proofs.Guard.Rereading
import QueryGateway.Proofs.Sql.Joining
import QueryGateway.Proofs.Sql.Statements

/-!
# Scripts of two statements

The guard wants a text to be one statement. Of two texts that hold statements, with a semicolon
on a line of its own between them, it lets the whole through in two cases only, whatever else
stands in them: if the word `END` stands behind the first query, for what follows is not looked
at then; and if the first text ends in a `TABLE` body, for that takes the semicolon with it.
-/

namespace QueryGateway

open Sql

/-! ## Texts and their statements -/

/-- A text holds a statement, or several. -/
def HoldsStatement (text : String) : Prop := ∃ ss, parseStatements text = .ok ss ∧ ss ≠ []

instance (text : String) : Decidable (HoldsStatement text) :=
  decidable_of_iff ((parseStatements text).toOption.any (!·.isEmpty)) (by
    unfold HoldsStatement
    cases parseStatements text <;> simp [Except.toOption])

/-- The first statement of a text is a query, and this is left behind it. -/
def FirstQuery (text : String) (q : Query) (left : List Lexeme) : Prop :=
  ∃ ls t, lexemes text = .ok ls ∧ nextStatement ⟨trimmed ls, false⟩ = .ok (.query q, t) ∧ t.rest = left

theorem parseStatements_eq_ok {text : String} {ss : List Statement} (h : parseStatements text = .ok ss) :
    ∃ ls t, lexemes text = .ok ls ∧ script ⟨ls, false⟩ = .ok (ss, t) := by
  have h := mapError_eq_ok h
  unfold parseScript at h
  split at h
  · cases h
  · next ls hls =>
    obtain ⟨⟨ss', t⟩, hs, rfl⟩ := map_eq_ok h
    exact ⟨ls, t, hls, hs⟩

theorem parseStatements_of_script {text : String} {ls : List Lexeme} {ss : List Statement} {t : Input}
    (hls : lexemes text = .ok ls) (h : script ⟨ls, false⟩ = .ok (ss, t)) : parseStatements text = .ok ss := by
  unfold parseStatements parseScript
  rw [hls]
  show ((script ⟨ls, false⟩).map Prod.fst).mapError _ = _
  rw [h]
  rfl

theorem parseSingle_eq_ok_iff (text : String) (s : Statement) :
    parseSingle text = .ok s ↔ parseStatements text = .ok [s] := by
  unfold parseSingle
  constructor
  · intro h
    obtain ⟨ss, hss, h⟩ := bind_eq_ok h
    split at h
    · cases h
    · cases h; exact hss
    · cases h
  · intro h
    rw [h]
    rfl

/-- What the guard lets through, by the first query of a text and what is left behind it. -/
theorem admitted_iff_first_query (sql : String) :
    (∃ g, guardSql sql = .ok g) ↔ ∃ q left, FirstQuery sql q left ∧ q.OnlyReads ∧ EndsScript left := by
  constructor
  · rintro ⟨g, h⟩
    obtain ⟨q, hq, reads, -⟩ := (guardSql_eq_ok_iff sql g).1 h
    obtain ⟨ls, t, hls, hs⟩ := parseStatements_eq_ok ((parseSingle_eq_ok_iff _ _).1 hq)
    obtain ⟨u, first, ends⟩ := (script_single_iff _).1 ⟨t, hs⟩
    exact ⟨q, u.rest, ⟨ls, u, hls, first, rfl⟩, reads, ends⟩
  · rintro ⟨q, left, ⟨ls, u, hls, first, rfl⟩, reads, ends⟩
    obtain ⟨t, hs⟩ := (script_single_iff ⟨ls, false⟩).2 ⟨u, first, ends⟩
    have single := (parseSingle_eq_ok_iff _ _).2 (parseStatements_of_script hls hs)
    exact ⟨_, (guardSql_eq_ok_iff sql _).2 ⟨q, single, reads, rfl⟩⟩

theorem refused_iff_first_query (sql : String) :
    (∃ e, guardSql sql = .error e) ↔ ¬ ∃ q left, FirstQuery sql q left ∧ q.OnlyReads ∧ EndsScript left := by
  rw [← admitted_iff_first_query]
  cases guardSql sql <;> simp

/-! ## Two texts -/

/-- The tokens of a text. -/
def tokensIn (text : String) : List Token := ((lexemes text).toOption.getD []).map Lexeme.token

/-- What is left starts with the word `END`, which stands in the first text. -/
def StopsAtEnd (a b : String) (left : List Lexeme) : Prop :=
  ∃ w behind, Token.word w :: behind <:+ tokensIn a ∧ w.capitals = "END" ∧
    left.map Lexeme.token = .word w :: behind ++ .mark ";" :: tokensIn b

/-- The first text ends in a `TABLE` body, which takes the semicolon, and what it leaves of the
second text ends the script. -/
def TableTakesSemicolon (a b : String) (left : List Lexeme) : Prop :=
  EndsInTable (tokensIn a) ∧ left.map Lexeme.token <:+ tokensIn b ∧ EndsScript left

theorem tokensIn_of_lexemes {text : String} {ls : List Lexeme} (h : lexemes text = .ok ls) :
    tokensIn text = ls.map Lexeme.token := by
  unfold tokensIn
  rw [h]
  rfl

/-- Behind any semicolons, a text that holds a statement has a token that opens one. -/
theorem opening_of_holds {text : String} (h : HoldsStatement text) :
    ∃ ls, lexemes text = .ok ls ∧ ∃ t ts, (tokensIn text).dropWhile (· == .mark ";") = t :: ts ∧
      (t = .mark "(" ∨ ∃ w, t = .word w) := by
  obtain ⟨ss, hss, some⟩ := h
  obtain ⟨ls, u, hls, hs⟩ := parseStatements_eq_ok hss
  obtain ⟨x, v, first, -⟩ := first_of_script hs some
  obtain ⟨l, rest, hl, opening⟩ := rest_of_nextStatement first
  refine ⟨ls, hls, l.token, rest.map Lexeme.token, ?_, ?_⟩
  · rw [tokensIn_of_lexemes hls, ← map_token_trimmed, show trimmed ls = l :: rest from hl]
    rfl
  · rw [Lexeme.isMark_eq, beq_iff_eq] at opening
    exact opening.imp_right Lexeme.word_of_isWord

/-- A text that holds a statement starts with no period and no closing parenthesis. -/
theorem first_token_of_holds {text : String} (h : HoldsStatement text) {t : Token}
    (first : (tokensIn text).head? = some t) : t ≠ .mark "." ∧ t ≠ .mark ")" := by
  obtain ⟨ls, -, u, us, opens, opening⟩ := opening_of_holds h
  obtain ⟨ts, hts⟩ := List.head?_eq_some_iff.1 first
  rw [hts, List.dropWhile_cons] at opens
  split at opens
  · next semicolon =>
    rw [beq_iff_eq.1 semicolon]
    decide
  · cases opens
    rcases opening with rfl | ⟨w, rfl⟩
    · decide
    · exact ⟨nofun, nofun⟩

/-- What the first query of the two texts leaves: the semicolon and what stands in front of it, or
less than the second text, if the first ends in a `TABLE` body. -/
theorem left_of_first_query {a b : String} {q : Query} {left : List Lexeme} (ha : HoldsStatement a)
    (hb : HoldsStatement b) (h : FirstQuery (joined a b) q left) :
    (∃ remaining, remaining <:+ tokensIn a ∧ left.map Lexeme.token = remaining ++ .mark ";" :: tokensIn b) ∨
      EndsInTable (tokensIn a) ∧ left.map Lexeme.token <:+ tokensIn b := by
  obtain ⟨as, has, u, us, opensA, -⟩ := opening_of_holds ha
  obtain ⟨bs, hbs, -⟩ := opening_of_holds hb
  have opensB : ∀ t, (tokensIn b).head? = some t → _ := fun t => first_token_of_holds hb
  obtain ⟨all, hall, tokens⟩ := lexemes_joined has hbs
  obtain ⟨ls, s, hls, first, rfl⟩ := h
  obtain rfl : all = ls := Except.ok.inj (hall.symm.trans hls)
  have taken : Reaches (trimmed all) s.rest := Advances.reaches (query_of_statement first)
  rw [← tokensIn_of_lexemes has, ← tokensIn_of_lexemes hbs] at tokens
  -- The tokens of the two texts, as lexemes of the whole.
  obtain ⟨as', behind, rfl, tokensA, h⟩ := List.map_eq_append_iff.1 tokens
  obtain ⟨j, bs', rfl, mark, tokensB⟩ := List.map_eq_cons_iff.1 h
  rw [← tokensA, ← map_token_trimmed] at opensA
  rw [← tokensA, ← tokensB]
  rw [← tokensB] at opensB
  have front : trimmed (as' ++ j :: bs') = trimmed as' ++ j :: bs' := by
    have : trimmed as' ≠ [] := fun nil => by rw [nil] at opensA; cases opensA
    exact trimmed_append this
  have opens : ∀ l, bs'.head? = some l → ¬ (l.isMark "." ∨ l.isMark ")") := by
    intro l hl
    have := opensB l.token (by simp [hl])
    simpa [Lexeme.isMark_eq] using this
  rw [front] at taken
  -- The reader stopped in front of the semicolon, or a `TABLE` body took it.
  rcases taken.across (by simp [Lexeme.isMark_eq, mark]) opens with ⟨remaining, suffix, left⟩ | ⟨table, suffix⟩
  · refine .inl ⟨remaining.map Lexeme.token, ?_, ?_⟩
    · exact (suffix.trans (List.dropWhile_suffix _)).map _
    · rw [left, List.map_append, List.map_cons, mark]
  · exact .inr ⟨table.of_suffix ((List.dropWhile_suffix _).map _), suffix.map _⟩

/-- What the first query of the two texts leaves ends the script in these cases only. -/
theorem endsScript_iff {a b : String} {q : Query} {left : List Lexeme} (ha : HoldsStatement a) (hb : HoldsStatement b)
    (h : FirstQuery (joined a b) q left) :
    EndsScript left ↔ StopsAtEnd a b left ∨ TableTakesSemicolon a b left := by
  constructor
  · intro ends
    rcases left_of_first_query ha hb h with ⟨remaining, suffix, tokens⟩ | ⟨table, suffix⟩
    · rcases ends with ended | ⟨l, there, word⟩
      · -- The second text has more than semicolons.
        obtain ⟨_, -, u, us, opens, opening⟩ := opening_of_holds hb
        have there : u ∈ tokensIn b := (List.dropWhile_suffix _).subset (opens ▸ List.mem_cons_self)
        have semicolons := map_token_trimmed left
        rw [ended, tokens] at semicolons
        have semicolon := List.dropWhile_eq_nil_iff.1 semicolons.symm u (by simp [there])
        rcases opening with rfl | ⟨w, rfl⟩
        · exact absurd semicolon (by decide)
        · cases beq_iff_eq.1 semicolon
      · obtain ⟨ls, rfl⟩ := List.head?_eq_some_iff.1 there
        obtain ⟨w, hw, capitals⟩ := Lexeme.word_of_isKeyword word
        rw [List.map_cons, hw] at tokens
        cases remaining with
        | nil => cases tokens
        | cons t behind =>
          obtain ⟨rfl, tokens⟩ := List.cons.inj tokens
          refine .inl ⟨w, behind, suffix, capitals, ?_⟩
          rw [List.map_cons, hw, tokens, List.cons_append]
    · exact .inr ⟨table, suffix, ends⟩
  · rintro (⟨w, behind, -, capitals, tokens⟩ | ⟨-, -, ends⟩)
    · obtain ⟨l, ls, rfl, token, -⟩ := List.map_eq_cons_iff.1 tokens
      exact .inr ⟨l, rfl, Lexeme.isKeyword_of_token token capitals⟩
    · exact ends

/-- So they are refused as one if the first has no word `END` in it and does not end in a `TABLE` body. -/
theorem joined_refused {a b : String} (ha : HoldsStatement a) (hb : HoldsStatement b)
    (noEnd : ∀ w, Token.word w ∈ tokensIn a → w.capitals ≠ "END") (noTable : ¬ EndsInTable (tokensIn a)) :
    ∃ e, guardSql (joined a b) = .error e := by
  rw [refused_iff_first_query]
  rintro ⟨q, left, first, -, ends⟩
  rcases (endsScript_iff ha hb first).1 ends with ⟨w, behind, suffix, capitals, -⟩ | ⟨table, -⟩
  · exact noEnd w (suffix.subset List.mem_cons_self) capitals
  · exact noTable table

/-- Two texts that hold statements are refused as one, unless the first statement is a query that
only reads and is followed by the word `END`, or ends in a `TABLE` body that takes the semicolon. -/
theorem joined_refused_iff (a b : String) (ha : HoldsStatement a) (hb : HoldsStatement b) :
    (∃ e, guardSql (joined a b) = .error e) ↔
      ¬ ∃ q left, FirstQuery (joined a b) q left ∧ q.OnlyReads ∧
        (StopsAtEnd a b left ∨ TableTakesSemicolon a b left) := by
  rw [refused_iff_first_query]
  refine not_congr (exists_congr fun q => exists_congr fun left => and_congr_right fun first => ?_)
  rw [endsScript_iff ha hb first]

/-- A plain script is refused. -/
theorem plain_script_refused :
    guardSql (joined "SELECT 1" "DROP TABLE t") = .error (.multiple 2) ∧
      ¬ ∃ q left, FirstQuery (joined "SELECT 1" "DROP TABLE t") q left ∧ q.OnlyReads ∧
        (StopsAtEnd "SELECT 1" "DROP TABLE t" left ∨ TableTakesSemicolon "SELECT 1" "DROP TABLE t" left) := by
  have refused : guardSql (joined "SELECT 1" "DROP TABLE t") = .error (.multiple 2) := by decide +kernel
  exact ⟨refused, (joined_refused_iff _ _ (by decide +kernel) (by decide +kernel)).1 ⟨_, refused⟩⟩

/-- Behind the word `END` a second statement is let through unseen, and so is one in front of which
a `TABLE` body took the semicolon. -/
theorem second_statement_unseen :
    (HoldsStatement "SELECT 1 END" ∧ HoldsStatement "DROP TABLE t" ∧
      guardSql (joined "SELECT 1 END" "DROP TABLE t") = .ok ⟨"SELECT 1 LIMIT 1000", true⟩) ∧
    HoldsStatement "SELECT 1 UNION TABLE t" ∧ HoldsStatement "COMMIT" ∧
      guardSql (joined "SELECT 1 UNION TABLE t" "COMMIT") = .ok ⟨"SELECT 1 UNION TABLE t LIMIT 1000", true⟩ := by
  decide +kernel

end QueryGateway
