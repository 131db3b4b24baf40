import QueryGateway.Guard

/-!
# Reading only

The guard searches the list `Query.queries` for the first fault. Here is what that
search decides: `Query.Holds` says, position by position, which queries stand in a
tree, `Query.Harms` what is wrong with one of them, and a query passes exactly if it
holds none that harms.
-/

namespace QueryGateway.Sql

/-! ## What stands in a tree -/

mutual

/-- A query stands somewhere in a phrase. -/
inductive Phrase.Holds : Phrase → Query → Prop
  | front {a b : Phrase} {n : Query} : Phrase.Holds a n → Phrase.Holds (.seq a b) n
  | back {a b : Phrase} {n : Query} : Phrase.Holds b n → Phrase.Holds (.seq a b) n
  | swappedFront {a b : Phrase} {n : Query} : Phrase.Holds a n → Phrase.Holds (.swapped a b) n
  | swappedBack {a b : Phrase} {n : Query} : Phrase.Holds b n → Phrase.Holds (.swapped a b) n
  | query {q n : Query} : Query.Holds q n → Phrase.Holds (.query q) n

/-- A query is this one or stands somewhere inside it: in a `WITH`, in the body, in the
ordering, or in the limit and offset. -/
inductive Query.Holds : Query → Query → Prop
  | self (q : Query) : Query.Holds q q
  | ctes {w : Phrase} {b : Body} {o : Phrase} {l : Limit} {f : Option Fetch} {ls : List String}
      {g : String} {n : Query} : Phrase.Holds w n → Query.Holds (.mk w b o l f ls g) n
  | body {w : Phrase} {b : Body} {o : Phrase} {l : Limit} {f : Option Fetch} {ls : List String}
      {g : String} {n : Query} : Body.Holds b n → Query.Holds (.mk w b o l f ls g) n
  | order {w : Phrase} {b : Body} {o : Phrase} {l : Limit} {f : Option Fetch} {ls : List String}
      {g : String} {n : Query} : Phrase.Holds o n → Query.Holds (.mk w b o l f ls g) n
  | limit {w : Phrase} {b : Body} {o : Phrase} {l : Limit} {f : Option Fetch} {ls : List String}
      {g : String} {n : Query} : Limit.Holds l n → Query.Holds (.mk w b o l f ls g) n

/-- A query stands somewhere in a body: in its select, in its parentheses, in a cell of
its rows, or in a branch of its set operations. -/
inductive Body.Holds : Body → Query → Prop
  | select {s : Select} {n : Query} : Select.Holds s n → Body.Holds (.select s) n
  | nested {q n : Query} : Query.Holds q n → Body.Holds (.nested q) n
  | values {k : String} {rows : Phrase} {n : Query} : Phrase.Holds rows n → Body.Holds (.values k rows) n
  | left {op : String} {a b : Body} {n : Query} : Body.Holds a n → Body.Holds (.combined op a b) n
  | right {op : String} {a b : Body} {n : Query} : Body.Holds b n → Body.Holds (.combined op a b) n

/-- A query stands somewhere in a select: in front of its columns, among them, among the
tables and joins, or in a clause behind those. -/
inductive Select.Holds : Select → Query → Prop
  | head {h c : Phrase} {i : Option String} {s t : Phrase} {n : Query} :
      Phrase.Holds h n → Select.Holds (.mk h c i s t) n
  | columns {h c : Phrase} {i : Option String} {s t : Phrase} {n : Query} :
      Phrase.Holds c n → Select.Holds (.mk h c i s t) n
  | sources {h c : Phrase} {i : Option String} {s t : Phrase} {n : Query} :
      Phrase.Holds s n → Select.Holds (.mk h c i s t) n
  | tail {h c : Phrase} {i : Option String} {s t : Phrase} {n : Query} :
      Phrase.Holds t n → Select.Holds (.mk h c i s t) n

/-- A query stands somewhere in a limit or its offset. -/
inductive Limit.Holds : Limit → Query → Prop
  | offsetOnly {o : Phrase} {n : Query} : Phrase.Holds o n → Limit.Holds (.offsetOnly o) n
  | limit {l o : Phrase} {n : Query} : Phrase.Holds l n → Limit.Holds (.atMost l o) n
  | offset {l o : Phrase} {n : Query} : Phrase.Holds o n → Limit.Holds (.atMost l o) n
  | pairOffset {o l : Phrase} {n : Query} : Phrase.Holds o n → Limit.Holds (.commaPair o l) n
  | pairLimit {o l : Phrase} {n : Query} : Phrase.Holds l n → Limit.Holds (.commaPair o l) n

end

/-! ## The list of queries has each of them -/

mutual

theorem Phrase.mem_queries : ∀ (p : Phrase) (n : Query), n ∈ p.queries ↔ p.Holds n
  | .empty, n => by
    simp only [Phrase.queries, List.not_mem_nil, false_iff]
    intro h; cases h
  | .word _, n => by
    simp only [Phrase.queries, List.not_mem_nil, false_iff]
    intro h; cases h
  | .null, n => by
    simp only [Phrase.queries, List.not_mem_nil, false_iff]
    intro h; cases h
  | .seq a b, n => by
    rw [Phrase.queries, List.mem_append, a.mem_queries n, b.mem_queries n]
    constructor
    · rintro (h | h)
      · exact .front h
      · exact .back h
    · rintro (h | h | _)
      · exact .inl h
      · exact .inr h
  | .swapped a b, n => by
    -- The list has the second phrase first.
    rw [Phrase.queries, List.mem_append, a.mem_queries n, b.mem_queries n]
    constructor
    · rintro (h | h)
      · exact .swappedBack h
      · exact .swappedFront h
    · intro h
      cases h with
      | swappedFront h => exact .inr h
      | swappedBack h => exact .inl h
  | .query q, n => by
    rw [Phrase.queries, q.mem_queries n]
    constructor
    · exact .query
    · intro h
      cases h with
      | query h => exact h

theorem Query.mem_queries : ∀ (q n : Query), n ∈ q.queries ↔ q.Holds n
  | .mk w b o l f ls g, n => by
    rw [Query.queries, List.mem_cons, List.mem_append, List.mem_append, List.mem_append,
      w.mem_queries n, b.mem_queries n, o.mem_queries n, l.mem_queries n]
    constructor
    · rintro (rfl | ((h | h) | h) | h)
      · exact .self _
      · exact .ctes h
      · exact .body h
      · exact .order h
      · exact .limit h
    · intro h
      cases h with
      | self => exact .inl rfl
      | ctes h => exact .inr (.inl (.inl (.inl h)))
      | body h => exact .inr (.inl (.inl (.inr h)))
      | order h => exact .inr (.inl (.inr h))
      | limit h => exact .inr (.inr h)

theorem Body.mem_queries : ∀ (b : Body) (n : Query), n ∈ b.queries ↔ b.Holds n
  | .select s, n => by
    rw [Body.queries, s.mem_queries n]
    constructor
    · exact .select
    · intro h
      cases h with
      | select h => exact h
  | .nested q, n => by
    rw [Body.queries, q.mem_queries n]
    constructor
    · exact .nested
    · intro h
      cases h with
      | nested h => exact h
  | .values _ rows, n => by
    rw [Body.queries, rows.mem_queries n]
    constructor
    · exact .values
    · intro h
      cases h with
      | values h => exact h
  | .table _, n => by
    simp only [Body.queries, List.not_mem_nil, false_iff]
    intro h; cases h
  | .combined _ a b, n => by
    rw [Body.queries, List.mem_append, a.mem_queries n, b.mem_queries n]
    constructor
    · rintro (h | h)
      · exact .left h
      · exact .right h
    · intro h
      cases h with
      | left h => exact .inl h
      | right h => exact .inr h
  | .modifying, n => by
    simp only [Body.queries, List.not_mem_nil, false_iff]
    intro h; cases h

theorem Select.mem_queries : ∀ (s : Select) (n : Query), n ∈ s.queries ↔ s.Holds n
  | .mk h c _ s t, n => by
    rw [Select.queries, List.mem_append, List.mem_append, List.mem_append, h.mem_queries n,
      c.mem_queries n, s.mem_queries n, t.mem_queries n]
    constructor
    · rintro (((h | h) | h) | h)
      · exact .head h
      · exact .columns h
      · exact .sources h
      · exact .tail h
    · intro h
      cases h with
      | head h => exact .inl (.inl (.inl h))
      | columns h => exact .inl (.inl (.inr h))
      | sources h => exact .inl (.inr h)
      | tail h => exact .inr h

theorem Limit.mem_queries : ∀ (l : Limit) (n : Query), n ∈ l.queries ↔ l.Holds n
  | .none, n => by
    simp only [Limit.queries, List.not_mem_nil, false_iff]
    intro h; cases h
  | .offsetOnly o, n => by
    rw [Limit.queries, o.mem_queries n]
    constructor
    · exact .offsetOnly
    · intro h
      cases h with
      | offsetOnly h => exact h
  | .atMost l o, n => by
    rw [Limit.queries, List.mem_append, l.mem_queries n, o.mem_queries n]
    constructor
    · rintro (h | h)
      · exact .limit h
      · exact .offset h
    · intro h
      cases h with
      | limit h => exact .inl h
      | offset h => exact .inr h
  | .commaPair o l, n => by
    rw [Limit.queries, List.mem_append, o.mem_queries n, l.mem_queries n]
    constructor
    · rintro (h | h)
      · exact .pairOffset h
      · exact .pairLimit h
    · intro h
      cases h with
      | pairOffset h => exact .inl h
      | pairLimit h => exact .inr h

end

/-! ## What harms -/

/-- A body is this one or a branch of its set operations, however deep. A query in
parentheses is no branch. -/
inductive Body.Branch : Body → Body → Prop
  | self (b : Body) : Body.Branch b b
  | left {op : String} {a b c : Body} : Body.Branch a c → Body.Branch (.combined op a b) c
  | right {op : String} {a b c : Body} : Body.Branch b c → Body.Branch (.combined op a b) c

/-- A body writes by itself: it is a `SELECT INTO`, or a change. -/
def Body.Writes : Body → Prop
  | .select s => s.into ≠ none
  | .modifying => True
  | .nested _ => False
  | .values .. => False
  | .table _ => False
  | .combined .. => False

/-- A query locks rows, or some branch of its body writes. -/
def Query.Harms (q : Query) : Prop :=
  q.locks ≠ [] ∨ ∃ b, q.body.Branch b ∧ b.Writes

/-- Nothing harms in a query: neither itself nor any query inside it. -/
def Query.OnlyReads (q : Query) : Prop := ∀ n, q.Holds n → ¬ n.Harms

/-- A statement that is a query in which nothing harms. -/
def Statement.OnlyReads (s : Statement) : Prop := ∃ q, s = .query q ∧ q.OnlyReads

theorem Body.no_branch_writes_combined (op : String) (a b : Body) :
    (∀ c, Branch (.combined op a b) c → ¬ c.Writes) ↔
      (∀ c, a.Branch c → ¬ c.Writes) ∧ ∀ c, b.Branch c → ¬ c.Writes := by
  constructor
  · intro h
    exact ⟨fun c hc => h c (.left hc), fun c hc => h c (.right hc)⟩
  · rintro ⟨ha, hb⟩ c hc
    cases hc with
    | self => exact id
    | left hc => exact ha c hc
    | right hc => exact hb c hc

/-- A body that is no set operation is its only branch. -/
theorem Body.no_branch_writes_leaf {b : Body} (h : ∀ c, b.Branch c → c = b) :
    (∀ c, b.Branch c → ¬ c.Writes) ↔ ¬ b.Writes := by
  constructor
  · intro hw
    exact hw b (.self b)
  · intro hw c hc
    rw [h c hc]
    exact hw

end QueryGateway.Sql

namespace QueryGateway

open Sql

/-! ## The search finds what harms -/

theorem bodyFault_eq_none_iff : ∀ b : Body, bodyFault b = none ↔ ∀ c, b.Branch c → ¬ c.Writes
  | .select s => by
    rw [Body.no_branch_writes_leaf (by intro c hc; cases hc; rfl)]
    cases hi : s.into <;> simp [bodyFault, Body.Writes, hi]
  | .nested q => by
    rw [Body.no_branch_writes_leaf (by intro c hc; cases hc; rfl)]
    simp [bodyFault, Body.Writes]
  | .values k rows => by
    rw [Body.no_branch_writes_leaf (by intro c hc; cases hc; rfl)]
    simp [bodyFault, Body.Writes]
  | .table t => by
    rw [Body.no_branch_writes_leaf (by intro c hc; cases hc; rfl)]
    simp [bodyFault, Body.Writes]
  | .modifying => by
    rw [Body.no_branch_writes_leaf (by intro c hc; cases hc; rfl)]
    simp [bodyFault, Body.Writes]
  | .combined op a b => by
    -- A set operation writes through its branches only.
    rw [Body.no_branch_writes_combined, ← bodyFault_eq_none_iff a, ← bodyFault_eq_none_iff b, bodyFault,
      Option.or_eq_none_iff]

theorem queryFault_eq_none_iff (q : Query) : queryFault q = none ↔ ¬ q.Harms := by
  unfold queryFault Query.Harms
  rw [not_or, not_exists]
  cases hl : q.locks with
  | nil =>
    simp only [List.isEmpty_nil, if_true, ne_eq, not_true_eq_false, not_false_eq_true, true_and]
    rw [bodyFault_eq_none_iff]
    exact forall_congr' fun b => not_and.symm
  | cons l ls => simp

theorem findSome_queryFault_eq_none_iff (q : Query) :
    q.queries.findSome? queryFault = none ↔ q.OnlyReads := by
  rw [List.findSome?_eq_none_iff]
  constructor
  · intro h n hn
    exact (queryFault_eq_none_iff n).1 (h n ((q.mem_queries n).2 hn))
  · intro h n hn
    exact (queryFault_eq_none_iff n).2 (h n ((q.mem_queries n).1 hn))

/-- A query that only reads is answered as it is. -/
theorem readOnlyQuery_eq_ok_iff (s : Statement) (q : Query) :
    readOnlyQuery s = .ok q ↔ s = .query q ∧ q.OnlyReads := by
  cases s with
  | query p =>
    simp only [readOnlyQuery, Statement.query.injEq]
    rw [← findSome_queryFault_eq_none_iff]
    cases h : p.queries.findSome? queryFault with
    | none =>
      simp only [Except.ok.injEq]
      constructor
      · rintro rfl; exact ⟨rfl, h⟩
      · exact fun h => h.1
    | some reason =>
      simp only [reduceCtorEq, false_iff]
      rintro ⟨rfl, h'⟩
      rw [h] at h'
      cases h'
  | command op => simp [readOnlyQuery]
  | explanation => simp [readOnlyQuery]

/-- Whatever else there is, is refused for a reason. -/
theorem readOnlyQuery_refuses_iff (s : Statement) :
    (∃ reason, readOnlyQuery s = .error (.notReadOnly reason)) ↔ ¬ s.OnlyReads := by
  have hok : s.OnlyReads ↔ ∃ q, readOnlyQuery s = .ok q :=
    exists_congr fun q => (readOnlyQuery_eq_ok_iff s q).symm
  rw [hok]
  cases s with
  | query p =>
    simp only [readOnlyQuery]
    cases h : p.queries.findSome? queryFault <;> simp
  | command op => simp [readOnlyQuery]
  | explanation => simp [readOnlyQuery]

/-! ## What the guard decides -/

/-- A text of one statement is decided by its statement alone. -/
theorem guardSql_of_parseSingle {sql : String} {s : Statement} (h : parseSingle sql = .ok s) :
    guardSql sql = (readOnlyQuery s).map fun q => ⟨(capQuery q).1.render, (capQuery q).2⟩ := by
  unfold guardSql
  rw [h]
  simp only [bind, Except.bind, pure, Except.pure]
  cases readOnlyQuery s <;> rfl

/-- A statement passes exactly if it is a query in which nothing harms, and a text of one
statement is let through or refused by the same rule. -/
theorem admitted_iff_only_reads :
    (∀ (s : Statement) (q : Query), readOnlyQuery s = .ok q ↔ s = .query q ∧ q.OnlyReads) ∧
      ∀ (sql : String) (s : Statement), parseSingle sql = .ok s →
        ((∃ sent, guardSql sql = .ok sent) ↔ s.OnlyReads) ∧
        ((∃ reason, guardSql sql = .error (.notReadOnly reason)) ↔ ¬ s.OnlyReads) := by
  refine ⟨readOnlyQuery_eq_ok_iff, fun sql s h => ?_⟩
  rw [guardSql_of_parseSingle h]
  constructor
  · unfold Statement.OnlyReads
    rw [← exists_congr (readOnlyQuery_eq_ok_iff s)]
    cases readOnlyQuery s <;> simp [Except.map]
  · rw [← readOnlyQuery_refuses_iff s]
    cases readOnlyQuery s <;> simp [Except.map]

/-- A lock in a subquery of a condition harms the whole. -/
theorem lock_in_subquery_refused :
    ∃ s, parseSingle "SELECT a FROM t WHERE b IN (SELECT c FROM u FOR UPDATE)" = .ok s ∧ ¬ s.OnlyReads := by
  have hp : (parseSingle "SELECT a FROM t WHERE b IN (SELECT c FROM u FOR UPDATE)").isOk = true := by
    decide +kernel
  have hg : guardSql "SELECT a FROM t WHERE b IN (SELECT c FROM u FOR UPDATE)" =
      .error (.notReadOnly "row locking clause") := by decide +kernel
  cases h : parseSingle "SELECT a FROM t WHERE b IN (SELECT c FROM u FOR UPDATE)" with
  | error e => rw [h] at hp; cases hp
  | ok s => exact ⟨s, rfl, ((admitted_iff_only_reads.2 _ s h).2).1 ⟨_, hg⟩⟩

end QueryGateway
