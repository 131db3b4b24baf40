import QueryGateway.Proofs.Guard.Rereading
import QueryGateway.Proofs.Sql.Taking.Basic

/-!
# What bounds the rows of a query

The database reads a limit that is null as no limit at all, whatever parentheses and casts
stand around the null, and it reads `FETCH` in the same way. The guard looks for the bare
word, and in a limit only. So what it sends is bounded except in two cases, and these are
all: a `FETCH` of null rows without a limit that counts, and a limit in which the null is
wrapped up.
-/

namespace QueryGateway.Sql

/-! ## Inside parentheses and casts -/

/-- The word opens a cast that is written as a call. -/
def isCastHead (word : String) : Bool := ["CAST(", "TRY_CAST(", "SAFE_CAST("].contains word

/-- The word begins with the given one. -/
def beginsWith (head word : String) : Bool := Text.startsWith head.toList word.toList

/-- What is left of an expression without the parentheses and casts around it. -/
def Phrase.bare : Phrase → Phrase
  | .seq (.word w) (.seq p (.seq (.word target) (.seq format (.word close)))) =>
    if isCastHead w && beginsWith " AS " target && close == ")" then p.bare
    else .seq (.word w) (.seq p (.seq (.word target) (.seq format (.word close))))
  | .seq (.word w) (.seq p (.word close)) =>
    if w == "(" && close == ")" then p.bare else .seq (.word w) (.seq p (.word close))
  | .seq p (.word w) => if beginsWith "::" w then p.bare else .seq p (.word w)
  | p => p

theorem beginsWith_append (head word : String) : beginsWith head (head ++ word) = true := by
  have go (hs cs : List Char) : Text.dropHead? hs (hs ++ cs) = some cs := by
    induction hs with
    | nil => rfl
    | cons h hs ih => simp [Text.dropHead?, ih]
  simp [beginsWith, Text.startsWith, go]

/-- Parentheses do not count. -/
theorem Phrase.bare_parens (p : Phrase) : p.parens.bare = p.bare := by
  show (Phrase.seq (.word "(") (.seq p (.word ")"))).bare = p.bare
  simp [Phrase.bare]

/-- A cast behind an expression does not count. -/
theorem Phrase.bare_cast (p : Phrase) (t : DataType) : (p ++ Phrase.word ("::" ++ t.text)).bare = p.bare := by
  show (Phrase.seq p (.word ("::" ++ t.text))).bare = p.bare
  simp [Phrase.bare, beginsWith_append]

/-- A cast written as a call does not count. -/
theorem Phrase.bare_castForm {keyword : String} (h : keyword ∈ ["CAST", "TRY_CAST", "SAFE_CAST"])
    (p : Phrase) (t : DataType) (format : Phrase) :
    (Phrase.word (keyword ++ "(") ++ (p ++ (Phrase.word (" AS " ++ t.text) ++ (format ++ Phrase.word ")")))).bare
      = p.bare := by
  have head : isCastHead (keyword ++ "(") = true := by
    simp only [List.mem_cons, List.not_mem_nil, or_false] at h
    rcases h with rfl | rfl | rfl <;> decide
  show (Phrase.seq (.word (keyword ++ "(")) (.seq p (.seq (.word (" AS " ++ t.text))
    (.seq format (.word ")"))))).bare = p.bare
  simp [Phrase.bare, head, beginsWith_append]

/-! ## The parser reads parentheses and casts so -/

/-- A parenthesis is as bare as the query, the expression or the list in it. -/
theorem parenForm_bare {g : Grammar} {e : Operand} {s t : Input} (h : (parenForm g).run s = .ok (e, t)) :
    ∃ inner : Phrase, ((∃ q, inner = .query q) ∨ ∃ items, inner = .commas items) ∧
      e.phrase.bare = inner.bare := by
  unfold parenForm at h
  obtain ⟨isQuery, _, -, h⟩ := Parser.bind_ok h
  cases isQuery with
  | true =>
    obtain ⟨q, _, -, h⟩ := Parser.bind_ok h
    obtain ⟨-, _, -, h⟩ := Parser.bind_ok h
    cases h
    exact ⟨_, .inl ⟨q, rfl⟩, Phrase.bare_parens _⟩
  | false =>
    obtain ⟨items, _, -, h⟩ := Parser.bind_ok h
    obtain ⟨-, _, -, h⟩ := Parser.bind_ok h
    cases h
    exact ⟨_, .inr ⟨items, rfl⟩, Phrase.bare_parens _⟩

/-- An expression with a cast behind it is as bare as it was. -/
theorem operatorStep_bare {g : Grammar} {left e : Operand} {least : Nat} {l : Lexeme} {ls : List Lexeme}
    {column : Bool} {t : Input} (hl : l.token = .mark "::")
    (h : (operatorStep g left least).run ⟨l :: ls, column⟩ = .ok (e, t)) :
    e.phrase.bare = left.phrase.bare := by
  unfold operatorStep at h
  obtain ⟨_, _, hs, h⟩ := Parser.bind_ok h
  obtain ⟨_, _, hn, h⟩ := Parser.bind_ok h
  cases hs
  cases hn
  simp only [List.head?_cons, Option.map_some, hl] at h
  obtain ⟨type, _, -, h⟩ := Parser.bind_ok h
  cases h
  exact Phrase.bare_cast _ type

/-- A cast written as a call is as bare as the expression in it. -/
theorem castForm_bare {g : Grammar} {keyword : String} {s t : Input} {p : Phrase}
    (hk : keyword ∈ ["CAST", "TRY_CAST", "SAFE_CAST"]) (h : (castForm g keyword).run s = .ok (p, t)) :
    ∃ e a b, g.phrase.run a = .ok (e, b) ∧ p.bare = e.bare := by
  unfold castForm at h
  obtain ⟨-, a, -, h⟩ := Parser.bind_ok h
  obtain ⟨e, b, he, h⟩ := Parser.bind_ok h
  obtain ⟨-, _, -, h⟩ := Parser.bind_ok h
  obtain ⟨type, _, -, h⟩ := Parser.bind_ok h
  obtain ⟨formatted, _, -, h⟩ := Parser.bind_ok h
  refine ⟨e, a, b, he, ?_⟩
  -- Whatever format is read, the same two steps follow.
  have ends {format : Phrase} {c : Input}
      (h : (do
        mark ")"
        return Phrase.word (keyword ++ "(") ++
          (e ++ (Phrase.word (" AS " ++ type.text) ++ (format ++ Phrase.word ")"))) : Parser Phrase).run c
        = .ok (p, t)) : p.bare = e.bare := by
    obtain ⟨-, _, -, h⟩ := Parser.bind_ok h
    cases h
    exact Phrase.bare_castForm hk e type format
  cases formatted with
  | false => exact ends h
  | true =>
    obtain ⟨v, _, -, h⟩ := Parser.bind_ok h
    obtain ⟨zoned, _, -, h⟩ := Parser.bind_ok h
    cases zoned with
    | false => exact ends h
    | true =>
      obtain ⟨zone, _, -, h⟩ := Parser.bind_ok h
      exact ends h

/-! ## What counts as a bound -/

/-- A `FETCH` clause bounds the rows: it is for one row if it does not say, and for as many
as it says, unless that is null. -/
def Fetch.bounds (f : Fetch) : Bool := f.quantity != some "NULL"

/-- A limit bounds the rows: there is one, and it is not null inside its parentheses and
casts. -/
def Limit.bounds : Limit → Bool
  | .none => false
  | .offsetOnly _ => false
  | .atMost limit _ => !limit.bare.isNull
  | .commaPair _ limit => !limit.bare.isNull

/-- The database returns a bounded number of rows for the query. -/
def Query.Bounded (q : Query) : Prop := q.fetch.any Fetch.bounds || q.limit.bounds

instance (q : Query) : Decidable q.Bounded := inferInstanceAs (Decidable (_ = true))

/-- The limit is null inside parentheses or casts, but not the bare word. In a pair with a
comma the limit is not looked at. -/
def Limit.HidesNull : Limit → Prop
  | .none => False
  | .offsetOnly _ => False
  | .atMost limit _ => limit.bare = .null ∧ limit ≠ .null
  | .commaPair _ limit => limit.bare = .null

/-- The guard takes the query for bounded and it is not: null rows are fetched and there is
no limit that counts, or nothing is fetched and the limit hides a null. -/
def Query.PassesUnbounded (q : Query) : Prop :=
  (∃ f, q.fetch = some f ∧ f.quantity = some "NULL" ∧ q.limit.bounds = false) ∨
    (q.fetch = none ∧ q.limit.HidesNull)

theorem Phrase.isNull_iff (p : Phrase) : p.isNull = true ↔ p = .null := by
  cases p <;> simp [Phrase.isNull]

theorem Fetch.bounds_eq_false_iff (f : Fetch) : f.bounds = false ↔ f.quantity = some "NULL" := by
  simp [Fetch.bounds]

end QueryGateway.Sql

namespace QueryGateway

open Sql

/-! ## What the guard sees of it -/

/-- A limit that the guard takes for a bound and that is none hides a null. -/
theorem hidesNull_iff (w : Phrase) (b : Body) (o : Phrase) (l : Limit) (ls : List String) (g : String) :
    (hasRowCap (.mk w b o l none ls g) = true ∧ l.bounds = false) ↔ l.HidesNull := by
  cases l with
  | none => simp [hasRowCap, Query.fetch, Query.limit, Limit.HidesNull]
  | offsetOnly offset => simp [hasRowCap, Query.fetch, Query.limit, Limit.HidesNull]
  | atMost limit offset =>
    have passes : hasRowCap (.mk w b o (.atMost limit offset) none ls g) = true ↔ limit ≠ .null := by
      rw [Ne, ← Phrase.isNull_iff]
      simp [hasRowCap, Query.fetch, Query.limit]
    have bounds : (Limit.atMost limit offset).bounds = false ↔ limit.bare = .null := by
      rw [← Phrase.isNull_iff]
      simp [Limit.bounds]
    rw [passes, bounds]
    exact And.comm
  | commaPair offset limit =>
    simp [hasRowCap, Query.fetch, Query.limit, Limit.bounds, Limit.HidesNull, Phrase.isNull_iff]

/-- What the guard takes for bounded is bounded, but for the queries named above. -/
theorem passesUnbounded_iff (q : Query) : (hasRowCap q = true ∧ ¬ q.Bounded) ↔ q.PassesUnbounded := by
  obtain ⟨w, b, o, l, f, ls, g⟩ := q
  cases f with
  | none =>
    have unbounded : ¬ (Query.mk w b o l none ls g).Bounded ↔ l.bounds = false := by
      simp [Query.Bounded, Query.fetch, Query.limit]
    rw [unbounded, hidesNull_iff]
    simp [Query.PassesUnbounded, Query.fetch, Query.limit]
  | some f =>
    -- Any `FETCH` passes, so all depends on whether it or the limit bounds.
    have unbounded : ¬ (Query.mk w b o l (some f) ls g).Bounded ↔
        f.quantity = some "NULL" ∧ l.bounds = false := by
      rw [← f.bounds_eq_false_iff]
      simp [Query.Bounded, Query.fetch, Query.limit]
    rw [unbounded]
    simp [hasRowCap, Query.PassesUnbounded, Query.fetch, Query.limit]

/-- A limit that the guard sets is a bound. -/
theorem bounded_withRowCap (cap : Nat) (q : Query) : (withRowCap cap q).Bounded := by
  obtain ⟨w, b, o, l, f, ls, g⟩ := q
  have bounds : (capLimit cap l).bounds = true := by
    cases l <;> rfl
  simp [Query.Bounded, withRowCap, Query.withLimit, Query.limit, bounds]

/-- What is sent for a query is bounded unless the query passes for bounded and is not. -/
theorem bounded_capQuery_iff (q : Query) : (capQuery q).1.Bounded ↔ ¬ q.PassesUnbounded := by
  rw [← passesUnbounded_iff]
  unfold capQuery
  split
  · next h => simp [h]
  · next h => simp [h, bounded_withRowCap]

/-! ## What is sent -/

/-- The tree that the guard prints for a text, if it lets the text through. -/
def sentQuery (sql : String) : Option Query :=
  match parseSingle sql with
  | .error _ => none
  | .ok s => (readOnlyQuery s).toOption.map fun q => (capQuery q).1

theorem sentQuery_of_onlyReads {sql : String} {q : Query} (hp : parseSingle sql = .ok (.query q))
    (hq : q.OnlyReads) : sentQuery sql = some (capQuery q).1 := by
  unfold sentQuery
  rw [hp]
  show (readOnlyQuery (.query q)).toOption.map _ = _
  rw [(readOnlyQuery_eq_ok_iff _ q).2 ⟨rfl, hq⟩]
  rfl

/-- Of every text that the guard lets through, what it sends is the print of a tree whose
outermost query is bounded, unless the query of the text asks for null rows and has no limit
that counts, or has a limit that hides a null and no `FETCH`. -/
theorem sent_bounded_iff (sql : String) (g : GuardedQuery) (h : guardSql sql = .ok g) :
    ∃ q, parseSingle sql = .ok (.query q) ∧ q.OnlyReads ∧
      g = ⟨(capQuery q).1.render, (capQuery q).2⟩ ∧
      ((capQuery q).1.Bounded ↔ ¬ q.PassesUnbounded) := by
  obtain ⟨q, hp, hq, hg⟩ := (guardSql_eq_ok_iff sql g).1 h
  exact ⟨q, hp, hq, hg, bounded_capQuery_iff q⟩

/-- A limit of five rows counts. -/
theorem own_limit_bounded :
    guardSql "SELECT a FROM t LIMIT (5)" = .ok ⟨"SELECT a FROM t LIMIT (5)", false⟩ ∧
      ∃ q, parseSingle "SELECT a FROM t LIMIT (5)" = .ok (.query q) ∧ ¬ q.PassesUnbounded := by
  have sent : guardSql "SELECT a FROM t LIMIT (5)" = .ok ⟨"SELECT a FROM t LIMIT (5)", false⟩ := by
    decide +kernel
  obtain ⟨q, hp, hq, -, bounded⟩ := sent_bounded_iff _ _ sent
  have counts : ∃ tree ∈ sentQuery "SELECT a FROM t LIMIT (5)", tree.Bounded := by decide +kernel
  obtain ⟨tree, htree, hb⟩ := counts
  rw [sentQuery_of_onlyReads hp hq] at htree
  cases htree
  exact ⟨sent, q, hp, bounded.1 hb⟩

/-- A null in parentheses, behind a cast or in one, and a `FETCH` of null rows are let
through as they are, and what is sent is unbounded. -/
theorem null_limit_sent :
    (guardSql "SELECT a FROM t LIMIT (NULL)" = .ok ⟨"SELECT a FROM t LIMIT (NULL)", false⟩ ∧
      ∃ tree ∈ sentQuery "SELECT a FROM t LIMIT (NULL)", ¬ tree.Bounded) ∧
    (guardSql "SELECT a FROM t LIMIT NULL::INT" = .ok ⟨"SELECT a FROM t LIMIT NULL::INT", false⟩ ∧
      ∃ tree ∈ sentQuery "SELECT a FROM t LIMIT NULL::INT", ¬ tree.Bounded) ∧
    (guardSql "SELECT a FROM t LIMIT CAST((NULL) AS INT)" =
        .ok ⟨"SELECT a FROM t LIMIT CAST((NULL) AS INT)", false⟩ ∧
      ∃ tree ∈ sentQuery "SELECT a FROM t LIMIT CAST((NULL) AS INT)", ¬ tree.Bounded) ∧
    guardSql "SELECT a FROM t FETCH FIRST NULL ROWS ONLY" =
        .ok ⟨"SELECT a FROM t FETCH FIRST NULL ROWS ONLY", false⟩ ∧
      ∃ tree ∈ sentQuery "SELECT a FROM t FETCH FIRST NULL ROWS ONLY", ¬ tree.Bounded := by
  decide +kernel

end QueryGateway
