import QueryGateway.Proofs.Guard.Rereading
import QueryGateway.Proofs.Text.Numerals

/-!
# The first rows are kept

The tree that is sent differs from the one that was read in its limit at most. A query that
says how many rows it returns, by a `FETCH`, a limit other than the bare `NULL` or a pair with
a comma, is sent as it is; any other gets the limit 1000 and keeps its offset. So the database
returns for what is sent the first 1000 rows that it would have returned, and where these are
all, all of them. Main statement: `sent_query_keeps_first_rows`.

How the database reads a number out of an expression is not for the gateway to say. The
statements below hold for every reading in which `NULL` is no bound and a numeral is its own
value.
-/

namespace QueryGateway.Sql

/-! ## What may differ -/

/-- The query says how many rows it returns. -/
def Query.SaysHowMany (q : Query) : Prop :=
  q.fetch ≠ none ∨ (∃ l o, q.limit = .atMost l o ∧ l ≠ .null) ∨ ∃ o l, q.limit = .commaPair o l

/-- The limit bounds nothing: it is absent or the bare `NULL`. -/
def Limit.IsOpen (l : Limit) : Prop := l = .none ∨ (∃ o, l = .offsetOnly o) ∨ ∃ o, l = .atMost .null o

/-- The offset clause beside a limit, which may be empty. -/
def Limit.offset : Limit → Phrase
  | .none => .empty
  | .offsetOnly o => o
  | .atMost _ o => o
  | .commaPair o _ => o

/-- The queries have the same clauses and the same offset, and so differ in the limit at most. -/
def Query.SameButLimit : Query → Query → Prop
  | .mk w b o l f ls g, q => ∃ m, q = .mk w b o m f ls g ∧ m.offset = l.offset

/-! ## What a query returns -/

/-- How the database reads the numbers of a query: the value of an expression, where `NULL` has
none, how many rows an offset clause skips, and which of the rows it is given a `FETCH` returns. -/
structure Reading (α : Type) where
  count : Phrase → Option Nat
  skipped : Phrase → Nat
  fetched : Fetch → List α → List α
  count_null : count .null = none
  count_numeral : ∀ n : Nat, count (.word (toString n)) = some n
  skipped_empty : skipped .empty = 0

variable {α : Type}

/-- The first rows, as many as the count says, or all of them without one. -/
def firstOf : Option Nat → List α → List α
  | none, rows => rows
  | some n, rows => rows.take n

/-- What is left of the rows behind the limit and the offset, of which the offset comes first. -/
def Limit.yields (r : Reading α) : Limit → List α → List α
  | .none, rows => rows
  | .offsetOnly o, rows => rows.drop (r.skipped o)
  | .atMost l o, rows => firstOf (r.count l) (rows.drop (r.skipped o))
  | .commaPair o l, rows => firstOf (r.count l) (rows.drop ((r.count o).getD 0))

/-- What a query returns of the rows that its body and its ordering give. -/
def Query.yields (r : Reading α) (q : Query) (rows : List α) : List α :=
  match q.fetch with
  | none => q.limit.yields r rows
  | some f => r.fetched f (q.limit.yields r rows)

/-- A reading that knows numerals and nothing else. -/
def Reading.ofNumerals : Reading α where
  count
    | .word t => Text.decimal? t.toList
    | _ => none
  skipped
    | .seq _ (.word t) => (Text.decimal? t.toList).getD 0
    | _ => 0
  fetched f rows := firstOf (f.quantity.elim (some 1) fun t => Text.decimal? t.toList) rows
  count_null := rfl
  count_numeral n := by
    show Text.decimal? (toString n).toList = some n
    rw [Nat.toString_eq_ofList_toDigits, String.toList_ofList]
    exact Text.decimal?_toDigits n
  skipped_empty := rfl

/-- A limit that is set where there was none stands before the old offset. -/
theorem Limit.IsOpen.capLimit_eq {l : Limit} (h : l.IsOpen) (cap : Nat) :
    capLimit cap l = .atMost (.word (toString cap)) l.offset := by
  rcases h with rfl | ⟨o, rfl⟩ | ⟨o, rfl⟩ <;> rfl

/-- It takes the first rows of those there were without it. -/
theorem Limit.IsOpen.yields_capLimit {l : Limit} (h : l.IsOpen) (r : Reading α) (cap : Nat) (rows : List α) :
    (capLimit cap l).yields r rows = (l.yields r rows).take cap := by
  rcases h with rfl | ⟨o, rfl⟩ | ⟨o, rfl⟩
  · simp only [capLimit, Limit.yields, r.count_numeral, r.skipped_empty, List.drop_zero, firstOf]
  · simp only [capLimit, Limit.yields, r.count_numeral, firstOf]
  · simp only [capLimit, Limit.yields, r.count_numeral, r.count_null, firstOf]

end QueryGateway.Sql

namespace QueryGateway

open Sql

variable {α : Type}

/-! ## The two ways to send a query -/

theorem hasRowCap_iff_saysHowMany (q : Query) : hasRowCap q = true ↔ q.SaysHowMany := by
  obtain ⟨w, b, o, l, f, ls, g⟩ := q
  cases f with
  | some f => simp [hasRowCap, Query.SaysHowMany, Query.fetch]
  | none =>
    cases l with
    | none => simp [hasRowCap, Query.SaysHowMany, Query.fetch, Query.limit]
    | offsetOnly o => simp [hasRowCap, Query.SaysHowMany, Query.fetch, Query.limit]
    | commaPair o l => simp [hasRowCap, Query.SaysHowMany, Query.fetch, Query.limit]
    | atMost l o => cases l <;> simp [hasRowCap, Query.SaysHowMany, Query.fetch, Query.limit, Phrase.isNull]

/-- A query that does not say how many rows it returns has no `FETCH` and an open limit. -/
theorem isOpen_of_not_saysHowMany {q : Query} (h : ¬ q.SaysHowMany) : q.fetch = none ∧ q.limit.IsOpen := by
  obtain ⟨fetch, rest⟩ := not_or.1 h
  obtain ⟨limit, pair⟩ := not_or.1 rest
  refine ⟨Decidable.not_not.1 fetch, ?_⟩
  cases hl : q.limit with
  | none => exact .inl rfl
  | offsetOnly o => exact .inr (.inl ⟨o, rfl⟩)
  | commaPair o l => exact absurd ⟨o, l, hl⟩ pair
  | atMost l o =>
    have null : l = .null := Classical.byContradiction fun hne => limit ⟨l, o, hl, hne⟩
    exact .inr (.inr ⟨o, by rw [null]⟩)

theorem capQuery_of_saysHowMany {q : Query} (h : q.SaysHowMany) : capQuery q = (q, false) :=
  capQuery_of_hasRowCap ((hasRowCap_iff_saysHowMany q).2 h)

/-- Any other query has a limit set. -/
theorem capQuery_eq_withRowCap {q : Query} (h : ¬ q.SaysHowMany) : capQuery q = (withRowCap maxRows q, true) :=
  if_neg (mt (hasRowCap_iff_saysHowMany q).1 h)

theorem capQuery_of_not_saysHowMany {q : Query} (h : ¬ q.SaysHowMany) :
    capQuery q = (q.withLimit (.atMost (.word "1000") q.limit.offset), true) := by
  rw [capQuery_eq_withRowCap h, withRowCap, (isOpen_of_not_saysHowMany h).2.capLimit_eq]
  rfl

theorem sameButLimit_capQuery (q : Query) : q.SameButLimit (capQuery q).1 := by
  by_cases h : q.SaysHowMany
  · rw [capQuery_of_saysHowMany h]
    obtain ⟨w, b, o, l, f, ls, g⟩ := q
    exact ⟨l, rfl, rfl⟩
  · rw [capQuery_of_not_saysHowMany h]
    obtain ⟨w, b, o, l, f, ls, g⟩ := q
    exact ⟨_, rfl, rfl⟩

/-- Where a limit is set, the first 1000 rows are returned of those there were. -/
theorem yields_capQuery_of_not_saysHowMany {q : Query} (h : ¬ q.SaysHowMany) (r : Reading α) (rows : List α) :
    (capQuery q).1.yields r rows = (q.yields r rows).take maxRows := by
  obtain ⟨fetch, limit⟩ := isOpen_of_not_saysHowMany h
  rw [capQuery_eq_withRowCap h]
  obtain ⟨w, b, o, l, f, ls, g⟩ := q
  cases fetch
  exact limit.yields_capLimit r maxRows rows

/-! ## What is sent for a statement -/

/-- What the guard makes of a statement that only reads. The tree differs from the one read in
the limit at most: it is the same if the query says how many rows it returns, and otherwise its
limit becomes 1000. It passes again, is capped, and is capped no further. Whatever rows there
are before limit and offset, the database returns the same rows as before or, where a limit
was set, the first 1000 of them; so the first 1000 are returned in any case, and all if there
are no more. A text that is such a statement is sent as the print of that tree. -/
theorem sent_query_keeps_first_rows (s : Statement) (q : Query) (h : readOnlyQuery s = .ok q) :
    q.SameButLimit (capQuery q).1 ∧
      (q.SaysHowMany → capQuery q = (q, false)) ∧
      (¬ q.SaysHowMany → capQuery q = (q.withLimit (.atMost (.word "1000") q.limit.offset), true)) ∧
      readOnlyQuery (.query (capQuery q).1) = .ok (capQuery q).1 ∧
      hasRowCap (capQuery q).1 = true ∧
      capQuery (capQuery q).1 = ((capQuery q).1, false) ∧
      (∀ (α : Type) (r : Reading α) (rows : List α),
        ((capQuery q).2 = true → (capQuery q).1.yields r rows = (q.yields r rows).take 1000) ∧
        ((capQuery q).2 = false → (capQuery q).1.yields r rows = q.yields r rows) ∧
        (q.yields r rows).take 1000 <+: (capQuery q).1.yields r rows ∧
        ((q.yields r rows).length ≤ 1000 → (capQuery q).1.yields r rows = q.yields r rows)) ∧
      ∀ sql, parseSingle sql = .ok s → guardSql sql = .ok ⟨(capQuery q).1.render, (capQuery q).2⟩ := by
  have reads : q.OnlyReads := ((readOnlyQuery_eq_ok_iff s q).1 h).2
  refine ⟨sameButLimit_capQuery q, capQuery_of_saysHowMany, capQuery_of_not_saysHowMany,
    (readOnlyQuery_eq_ok_iff _ _).2 ⟨rfl, onlyReads_capQuery reads⟩, hasRowCap_capQuery q,
    capQuery_capQuery q, fun α r rows => ?_, fun sql hp => ?_⟩
  · by_cases hq : q.SaysHowMany
    · have same : capQuery q = (q, false) := capQuery_of_saysHowMany hq
      simp [same, List.take_prefix]
    · have first : (capQuery q).1.yields r rows = (q.yields r rows).take 1000 :=
        yields_capQuery_of_not_saysHowMany hq r rows
      have added : (capQuery q).2 = true := by rw [capQuery_eq_withRowCap hq]
      rw [first, added]
      exact ⟨fun _ => rfl, nofun, List.prefix_rfl, List.take_of_length_le⟩
  · rw [guardSql_of_parseSingle hp, h]
    rfl

/-- A null limit with an offset: the offset stays, and of 2000 rows the 1000 behind the first
two are returned. -/
theorem null_limit_keeps_offset :
    guardSql "SELECT a FROM t LIMIT NULL OFFSET 2" = .ok ⟨"SELECT a FROM t LIMIT 1000 OFFSET 2", true⟩ ∧
      ∃ q, q.limit = .atMost .null (.word " OFFSET " ++ .word "2") ∧
        (capQuery q).1.limit = .atMost (.word "1000") (.word " OFFSET " ++ .word "2") ∧
        (capQuery q).1.yields .ofNumerals (List.range 2000) = (List.range 2000).extract 2 1002 := by
  refine ⟨by decide +kernel, ?_⟩
  let q : Query := .mk .empty (.select (.mk .empty (.word "a") none (.word " FROM t") .empty)) .empty
    (.atMost .null (.word " OFFSET " ++ .word "2")) none [] ""
  have reads : readOnlyQuery (.query q) = .ok q := rfl
  have unsaid : ¬ q.SaysHowMany := by
    rw [← hasRowCap_iff_saysHowMany]
    decide
  obtain ⟨-, -, added, -, -, -, first, -⟩ := sent_query_keeps_first_rows _ _ reads
  have capped := added unsaid
  refine ⟨q, rfl, by rw [capped]; rfl, ?_⟩
  rw [(first Nat .ofNumerals (List.range 2000)).1 (by rw [capped])]
  rfl

end QueryGateway
