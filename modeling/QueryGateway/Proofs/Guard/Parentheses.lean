import QueryGateway.Proofs.Guard.RowCap

/-!
# A limit in parentheses

A query whose body is nothing but a query in parentheses is one query for the database, as deep
as the parentheses go, and it may have one limit in all of them. The guard looks for a limit on
the outermost of them and sets its own there. So it sends a second limit exactly if the limit of
a query stands further in.
-/

namespace QueryGateway.Sql

mutual

/-- A query, and the queries that stand in it with nothing but parentheses around them. -/
def Query.chain : Query → List Query
  | .mk ctes body order limit fetch locks format =>
    .mk ctes body order limit fetch locks format :: body.chain

/-- The chain of the query that a body puts in parentheses. -/
def Body.chain : Body → List Query
  | .nested q => q.chain
  | .select _ => []
  | .values _ _ => []
  | .table _ => []
  | .combined _ _ _ => []
  | .modifying => []

end

/-- A query has a `FETCH` or a limit of its own, whatever it is. -/
def Query.hasLimit (q : Query) : Bool :=
  q.fetch.isSome || match q.limit with
    | .none => false
    | .offsetOnly _ => false
    | .atMost _ _ => true
    | .commaPair _ _ => true

/-- How many queries of the chain have a limit. -/
def Query.limitCount (q : Query) : Nat := q.chain.countP Query.hasLimit

theorem Query.chain_eq (q : Query) : q.chain = q :: q.body.chain := by
  obtain ⟨w, b, o, l, f, ls, g⟩ := q
  rfl

theorem Query.limitCount_eq (q : Query) :
    q.limitCount = q.body.chain.countP Query.hasLimit + if q.hasLimit then 1 else 0 := by
  rw [limitCount, chain_eq, List.countP_cons]

end QueryGateway.Sql

namespace QueryGateway

open Sql

theorem hasLimit_of_hasRowCap {q : Query} (h : hasRowCap q = true) : q.hasLimit = true := by
  obtain ⟨w, b, o, l, f, ls, g⟩ := q
  cases f with
  | some f => rfl
  | none => cases l <;> simp_all [hasRowCap, Query.hasLimit, Query.fetch, Query.limit]

/-- A cap is set on the outermost query and leaves those in its parentheses. -/
theorem body_withRowCap (cap : Nat) (q : Query) : (withRowCap cap q).body = q.body := by
  obtain ⟨w, b, o, l, f, ls, g⟩ := q
  rfl

theorem capQuery_of_not_hasRowCap {q : Query} (h : hasRowCap q = false) :
    capQuery q = (withRowCap maxRows q, true) := by
  rw [capQuery, h]
  rfl

/-- A capped query has one limit more than there are in its parentheses. -/
theorem limitCount_withRowCap (cap : Nat) (q : Query) :
    (withRowCap cap q).limitCount = q.body.chain.countP Query.hasLimit + 1 := by
  rw [Query.limitCount_eq, body_withRowCap, if_pos (hasLimit_of_hasRowCap (hasRowCap_withRowCap cap q))]

/-- Of a query with at most one limit, the tree that is sent has at most one, unless a limit is
added to one further in. -/
theorem limitCount_capQuery_le_iff {q : Query} (h : q.limitCount ≤ 1) :
    (capQuery q).1.limitCount ≤ 1 ↔ ¬ ((capQuery q).2 = true ∧ ∃ inner ∈ q.body.chain, inner.hasLimit = true) := by
  cases hc : hasRowCap q with
  | true =>
    rw [capQuery_of_hasRowCap hc]
    exact iff_of_true h fun added => Bool.false_ne_true added.1
  | false =>
    rw [capQuery_of_not_hasRowCap hc, limitCount_withRowCap, ← List.countP_pos_iff]
    show _ ↔ ¬ (true = true ∧ _)
    rw [eq_self, true_and]
    omega

/-- Of every text that the guard lets through, if at most one query on the chain of parentheses has
a limit, at most one has one in the tree that is sent, unless a limit was added and there was one
further in. -/
theorem one_limit_sent_iff (sql : String) (g : GuardedQuery) (h : guardSql sql = .ok g) :
    ∃ q, parseSingle sql = .ok (.query q) ∧ q.OnlyReads ∧ g = ⟨(capQuery q).1.render, (capQuery q).2⟩ ∧
      (q.limitCount ≤ 1 →
        ((capQuery q).1.limitCount ≤ 1 ↔ ¬ (g.limitAdded = true ∧ ∃ inner ∈ q.body.chain, inner.hasLimit = true))) := by
  obtain ⟨q, hp, hq, rfl⟩ := (guardSql_eq_ok_iff sql g).1 h
  exact ⟨q, hp, hq, rfl, limitCount_capQuery_le_iff⟩

/-- The query that a text is, as it is read. -/
def readQuery (sql : String) : Option Query :=
  match parseSingle sql with
  | .ok (.query q) => some q
  | _ => none

/-- A limit outside of the parentheses is the only one that is sent. -/
theorem outer_limit_sent :
    guardSql "((SELECT a FROM t)) LIMIT 5" = .ok ⟨"((SELECT a FROM t)) LIMIT 5", false⟩ ∧
      ∃ q, parseSingle "((SELECT a FROM t)) LIMIT 5" = .ok (.query q) ∧ q.limitCount = 1 ∧
        (capQuery q).1.limitCount ≤ 1 := by
  have sent : guardSql "((SELECT a FROM t)) LIMIT 5" = .ok ⟨"((SELECT a FROM t)) LIMIT 5", false⟩ := by
    decide +kernel
  obtain ⟨q, hp, -, -, kept⟩ := one_limit_sent_iff _ _ sent
  have one : (readQuery "((SELECT a FROM t)) LIMIT 5").map Query.limitCount = some 1 := by decide +kernel
  rw [readQuery, hp] at one
  have single : q.limitCount = 1 := Option.some.inj one
  exact ⟨sent, q, hp, single, (kept (Nat.le_of_eq single)).2 fun added => Bool.false_ne_true added.1⟩

/-- Around a query with a limit in parentheses a second one is sent, whatever the limit is and
however deep it stands. -/
theorem inner_limit_doubled :
    (guardSql "(SELECT a FROM t LIMIT 5)" = .ok ⟨"(SELECT a FROM t LIMIT 5) LIMIT 1000", true⟩ ∧
      (readQuery "(SELECT a FROM t LIMIT 5)").map Query.limitCount = some 1 ∧
      (sentQuery "(SELECT a FROM t LIMIT 5)").map Query.limitCount = some 2) ∧
    guardSql "((SELECT a FROM t FETCH FIRST 5 ROWS ONLY)) ORDER BY a" =
        .ok ⟨"((SELECT a FROM t FETCH FIRST 5 ROWS ONLY)) ORDER BY a LIMIT 1000", true⟩ ∧
      (readQuery "((SELECT a FROM t FETCH FIRST 5 ROWS ONLY)) ORDER BY a").map Query.limitCount = some 1 ∧
      (sentQuery "((SELECT a FROM t FETCH FIRST 5 ROWS ONLY)) ORDER BY a").map Query.limitCount = some 2 := by
  decide +kernel

end QueryGateway
