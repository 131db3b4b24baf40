import QueryGateway.Proofs.Guard.ReadOnly

/-!
# Reading again what is sent

The guard looks at a tree and sends a text. The tree it prints only reads and has a row
cap, whatever the guard was given, and guarding such a tree again changes nothing. So
guarding the text again gives the same text exactly if the text reads back as such a
tree and is its print. It does not always: two minus signs that stand one in the other
are printed side by side, and what follows them is a comment.
-/

namespace QueryGateway

open Sql

/-! ## The cap -/

theorem hasRowCap_withRowCap (cap : Nat) (q : Query) : hasRowCap (withRowCap cap q) = true := by
  obtain ⟨w, b, o, l, f, ls, g⟩ := q
  cases l <;> simp [hasRowCap, withRowCap, capLimit, Query.withLimit, Query.limit, Phrase.isNull]

/-- What is printed has a row cap. -/
theorem hasRowCap_capQuery (q : Query) : hasRowCap (capQuery q).1 = true := by
  unfold capQuery
  split
  · next h => exact h
  · exact hasRowCap_withRowCap maxRows q

theorem capQuery_of_hasRowCap {q : Query} (h : hasRowCap q = true) : capQuery q = (q, false) := by
  unfold capQuery
  rw [if_pos h]

/-- A capped query is left as it is. -/
theorem capQuery_capQuery (q : Query) : capQuery (capQuery q).1 = ((capQuery q).1, false) :=
  capQuery_of_hasRowCap (hasRowCap_capQuery q)

/-- The cap brings no query with it: what stands in a new limit stood in the old one. -/
theorem capLimit_holds {cap : Nat} {l : Limit} {n : Query} (h : (capLimit cap l).Holds n) : l.Holds n := by
  cases l with
  | none =>
    cases h with
    | limit h => cases h
    | offset h => cases h
  | offsetOnly o =>
    cases h with
    | limit h => cases h
    | offset h => exact .offsetOnly h
  | atMost l o =>
    cases h with
    | limit h => cases h
    | offset h => exact .offset h
  | commaPair o l =>
    cases h with
    | limit h => cases h
    | offset h => cases h

/-- A cap harms nothing. -/
theorem onlyReads_withRowCap {cap : Nat} {q : Query} (h : q.OnlyReads) : (withRowCap cap q).OnlyReads := by
  obtain ⟨w, b, o, l, f, ls, g⟩ := q
  intro n hn
  cases hn with
  | self =>
    -- What harms in a query itself is a lock or its body, and these are as before.
    show ¬ (Query.mk w b o l f ls g).Harms
    exact h _ (.self _)
  | ctes hn => exact h n (.ctes hn)
  | body hn => exact h n (.body hn)
  | order hn => exact h n (.order hn)
  | limit hn => exact h n (.limit (capLimit_holds hn))

theorem onlyReads_capQuery {q : Query} (h : q.OnlyReads) : (capQuery q).1.OnlyReads := by
  unfold capQuery
  split
  · exact h
  · exact onlyReads_withRowCap h

/-! ## What is sent -/

/-- The tree that the guard prints for a text. -/
def Sends (sql : String) (sent : Query) : Prop :=
  ∃ q, parseSingle sql = .ok (.query q) ∧ q.OnlyReads ∧ sent = (capQuery q).1

/-- The print of a tree reads back as one query that only reads, has a row cap, and prints
as that text. -/
def ReadsBack (sent : Query) : Prop :=
  ∃ q, parseSingle sent.render = .ok (.query q) ∧ q.OnlyReads ∧ hasRowCap q = true ∧ q.render = sent.render

/-- What the guard lets through, by the tree of the text. -/
theorem guardSql_eq_ok_iff (sql : String) (g : GuardedQuery) :
    guardSql sql = .ok g ↔
      ∃ q, parseSingle sql = .ok (.query q) ∧ q.OnlyReads ∧ g = ⟨(capQuery q).1.render, (capQuery q).2⟩ := by
  constructor
  · intro h
    cases hp : parseSingle sql with
    | error e =>
      unfold guardSql at h
      rw [hp] at h
      cases h
    | ok s =>
      rw [guardSql_of_parseSingle hp] at h
      cases hr : readOnlyQuery s with
      | error e =>
        rw [hr] at h
        cases h
      | ok q =>
        rw [hr] at h
        cases h
        obtain ⟨rfl, hq⟩ := (readOnlyQuery_eq_ok_iff s q).1 hr
        exact ⟨q, rfl, hq, rfl⟩
  · rintro ⟨q, hp, hq, rfl⟩
    rw [guardSql_of_parseSingle hp, (readOnlyQuery_eq_ok_iff _ q).2 ⟨rfl, hq⟩]
    rfl

theorem sends_of_guardSql {sql : String} {g : GuardedQuery} (h : guardSql sql = .ok g) :
    ∃ sent, Sends sql sent ∧ g.patchedSql = sent.render := by
  obtain ⟨q, hp, hq, rfl⟩ := (guardSql_eq_ok_iff sql g).1 h
  exact ⟨_, ⟨q, hp, hq, rfl⟩, rfl⟩

/-- A text that is guarded to itself without a new limit is the print of a capped query
that it reads as. -/
theorem guardSql_fixed_iff (sent : Query) :
    guardSql sent.render = .ok ⟨sent.render, false⟩ ↔ ReadsBack sent := by
  rw [guardSql_eq_ok_iff]
  constructor
  · rintro ⟨q, hp, hq, hg⟩
    cases hc : hasRowCap q with
    | true =>
      rw [capQuery_of_hasRowCap hc] at hg
      exact ⟨q, hp, hq, hc, (congrArg GuardedQuery.patchedSql hg).symm⟩
    | false =>
      unfold capQuery at hg
      rw [hc] at hg
      cases congrArg GuardedQuery.limitAdded hg
  · rintro ⟨q, hp, hq, hc, hr⟩
    refine ⟨q, hp, hq, ?_⟩
    rw [capQuery_of_hasRowCap hc, hr]

instance (sent : Query) : Decidable (ReadsBack sent) :=
  decidable_of_iff _ (guardSql_fixed_iff sent)

/-- What stands in the way of reading a text back: it is not one statement, or one in which
something harms, or a query without a row cap, or the query prints as another text. -/
theorem not_readsBack_iff (sent : Query) :
    ¬ ReadsBack sent ↔
      (∃ e, parseSingle sent.render = .error e) ∨
      (∃ s, parseSingle sent.render = .ok s ∧ ¬ s.OnlyReads) ∨
      (∃ q, parseSingle sent.render = .ok (.query q) ∧ q.OnlyReads ∧ hasRowCap q = false) ∨
      ∃ q, parseSingle sent.render = .ok (.query q) ∧ q.OnlyReads ∧ hasRowCap q = true ∧
        q.render ≠ sent.render := by
  constructor
  · intro h
    cases hp : parseSingle sent.render with
    | error e => exact .inl ⟨e, rfl⟩
    | ok s =>
      right
      by_cases hs : s.OnlyReads
      · right
        obtain ⟨q, rfl, hq⟩ := hs
        cases hc : hasRowCap q with
        | false => exact .inl ⟨q, rfl, hq, hc⟩
        | true => exact .inr ⟨q, rfl, hq, hc, fun hr => h ⟨q, hp, hq, hc, hr⟩⟩
      · exact .inl ⟨s, rfl, hs⟩
  · rintro h ⟨q, hp, hq, hc, hr⟩
    rw [hp] at h
    rcases h with ⟨e, h⟩ | ⟨s, h, hs⟩ | ⟨q', h, -, hc'⟩ | ⟨q', h, -, -, hr'⟩
    · cases h
    · cases h
      exact hs ⟨q, rfl, hq⟩
    · cases h
      rw [hc] at hc'
      cases hc'
    · cases h
      exact hr' hr

end QueryGateway
