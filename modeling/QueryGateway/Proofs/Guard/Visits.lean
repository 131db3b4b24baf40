import QueryGateway.Proofs.Guard.ReadOnly

/-!
# The order in which a tree is examined

`Query.visits` lists what the guard meets in a tree, each with its place: the way to it
from the root, as the numbers of the children taken. A query is met, and so is a change
that stands for a body, which a visitor of trees would refuse by itself. The places ascend
in dictionary order, in which a way comes before every way that goes on from it.

The first query that harms decides the refusal. A change never does: the query whose body
or branch it is harms, and stands above it.
-/

namespace QueryGateway.Sql

/-! ## What is met, and where -/

/-- Something the guard meets in a tree. -/
inductive Visit
  | query (n : Query)
  /-- An `INSERT`, `UPDATE`, `DELETE` or `MERGE` that stands for a query. -/
  | change

/-- What is met in a child, with its places seen from the parent. -/
def under (child : Nat) (met : List (List Nat × Visit)) : List (List Nat × Visit) :=
  met.map fun v => (child :: v.1, v.2)

mutual

/-- What is met in a phrase. The second part of `swapped` is its first child. -/
def Phrase.visits : Phrase → List (List Nat × Visit)
  | .empty => []
  | .word _ => []
  | .null => []
  | .seq front back => under 0 front.visits ++ under 1 back.visits
  | .swapped front back => under 0 back.visits ++ under 1 front.visits
  | .query q => q.visits

/-- What is met in a query: itself, then its `WITH` clause, its body, its ordering and its
limit. -/
def Query.visits : Query → List (List Nat × Visit)
  | .mk ctes body order limit fetch locks format =>
    ([], .query (.mk ctes body order limit fetch locks format)) ::
      (under 0 ctes.visits ++ under 1 body.visits ++ under 2 order.visits ++ under 3 limit.visits)

/-- What is met in a body, the left branch of a set operation before the right. What stands
inside a change is never reached. -/
def Body.visits : Body → List (List Nat × Visit)
  | .select s => s.visits
  | .nested q => q.visits
  | .values _ rows => rows.visits
  | .table _ => []
  | .combined _ left right => under 0 left.visits ++ under 1 right.visits
  | .modifying => [([], .change)]

/-- What is met in a select. -/
def Select.visits : Select → List (List Nat × Visit)
  | .mk head columns _ sources tail =>
    under 0 head.visits ++ under 1 columns.visits ++ under 2 sources.visits ++ under 3 tail.visits

/-- What is met in a limit and offset. -/
def Limit.visits : Limit → List (List Nat × Visit)
  | .none => []
  | .offsetOnly offset => under 0 offset.visits
  | .atMost limit offset => under 0 limit.visits ++ under 1 offset.visits
  | .commaPair offset limit => under 0 offset.visits ++ under 1 limit.visits

end

/-- The query that is met, if it is one. -/
def Visit.query? : Visit → Option Query
  | .query n => some n
  | .change => none

@[simp] theorem Visit.query?_query (n : Query) : (Visit.query n).query? = some n := rfl

@[simp] theorem Visit.query?_change : Visit.change.query? = none := rfl

/-! ## Each query is met -/

@[simp] theorem queries_under (i : Nat) (met : List (List Nat × Visit)) :
    (under i met).filterMap (·.2.query?) = met.filterMap (·.2.query?) := by
  rw [under, List.filterMap_map]
  rfl

mutual

theorem Phrase.queries_visits : ∀ p : Phrase, p.visits.filterMap (·.2.query?) = p.queries
  | .empty => by simp [Phrase.visits, Phrase.queries]
  | .word _ => by simp [Phrase.visits, Phrase.queries]
  | .null => by simp [Phrase.visits, Phrase.queries]
  | .seq a b => by simp [Phrase.visits, Phrase.queries, a.queries_visits, b.queries_visits]
  | .swapped a b => by simp [Phrase.visits, Phrase.queries, a.queries_visits, b.queries_visits]
  | .query q => by simp [Phrase.visits, Phrase.queries, q.queries_visits]

theorem Query.queries_visits : ∀ q : Query, q.visits.filterMap (·.2.query?) = q.queries
  | .mk w b o l f ls g => by
    simp [Query.visits, Query.queries, w.queries_visits, b.queries_visits,
      o.queries_visits, l.queries_visits]

theorem Body.queries_visits : ∀ b : Body, b.visits.filterMap (·.2.query?) = b.queries
  | .select s => by simp [Body.visits, Body.queries, s.queries_visits]
  | .nested q => by simp [Body.visits, Body.queries, q.queries_visits]
  | .values _ rows => by simp [Body.visits, Body.queries, rows.queries_visits]
  | .table _ => by simp [Body.visits, Body.queries]
  | .combined _ a b => by simp [Body.visits, Body.queries, a.queries_visits, b.queries_visits]
  | .modifying => by simp [Body.visits, Body.queries]

theorem Select.queries_visits : ∀ s : Select, s.visits.filterMap (·.2.query?) = s.queries
  | .mk h c _ s t => by
    simp [Select.visits, Select.queries, h.queries_visits, c.queries_visits, s.queries_visits,
      t.queries_visits]

theorem Limit.queries_visits : ∀ l : Limit, l.visits.filterMap (·.2.query?) = l.queries
  | .none => by simp [Limit.visits, Limit.queries]
  | .offsetOnly o => by simp [Limit.visits, Limit.queries, o.queries_visits]
  | .atMost l o => by simp [Limit.visits, Limit.queries, l.queries_visits, o.queries_visits]
  | .commaPair o l => by simp [Limit.visits, Limit.queries, o.queries_visits, l.queries_visits]

end

/-- The queries met in a tree are those that stand in it. -/
theorem Query.exists_visit_iff (q n : Query) : (∃ p, (p, Visit.query n) ∈ q.visits) ↔ q.Holds n := by
  rw [← q.mem_queries n, ← q.queries_visits, List.mem_filterMap]
  constructor
  · rintro ⟨p, hp⟩
    exact ⟨_, hp, rfl⟩
  · rintro ⟨⟨p, v⟩, hp, hv⟩
    cases v with
    | query m => cases hv; exact ⟨p, hp⟩
    | change => cases hv

/-! ## Places ascend -/

/-- The places of what is met ascend. -/
def Ascending (met : List (List Nat × Visit)) : Prop := met.Pairwise fun v w => v.1 < w.1

/-- Everything met is below the children from `k` on. -/
def BeforeChild (k : Nat) (met : List (List Nat × Visit)) : Prop := ∀ v ∈ met, ∃ i p, v.1 = i :: p ∧ i < k

theorem ascending_under {met : List (List Nat × Visit)} (i : Nat) (h : Ascending met) :
    Ascending (under i met) := by
  refine List.pairwise_map.2 (h.imp ?_)
  intro v w hvw
  exact List.cons_lt_cons_iff.2 (.inr ⟨rfl, hvw⟩)

theorem beforeChild_under (i : Nat) (met : List (List Nat × Visit)) : BeforeChild (i + 1) (under i met) := by
  intro v hv
  obtain ⟨w, -, rfl⟩ := List.mem_map.1 hv
  exact ⟨i, w.1, rfl, i.lt_succ_self⟩

theorem Ascending.append_under {met more : List (List Nat × Visit)} {i : Nat} (h : Ascending met)
    (hb : BeforeChild i met) (hm : Ascending more) : Ascending (met ++ under i more) := by
  refine List.pairwise_append.2 ⟨h, ascending_under i hm, ?_⟩
  intro v hv w hw
  obtain ⟨j, p, hp, hj⟩ := hb v hv
  obtain ⟨u, -, rfl⟩ := List.mem_map.1 hw
  rw [hp]
  exact List.cons_lt_cons_iff.2 (.inl hj)

theorem BeforeChild.append_under {met : List (List Nat × Visit)} {i : Nat} (hb : BeforeChild i met)
    (more : List (List Nat × Visit)) : BeforeChild (i + 1) (met ++ under i more) := by
  intro v hv
  rcases List.mem_append.1 hv with hv | hv
  · obtain ⟨j, p, hp, hj⟩ := hb v hv
    exact ⟨j, p, hp, Nat.lt_succ_of_lt hj⟩
  · exact beforeChild_under i more v hv

theorem ascending_children {a b c d : List (List Nat × Visit)} (ha : Ascending a) (hb : Ascending b)
    (hc : Ascending c) (hd : Ascending d) :
    Ascending (under 0 a ++ under 1 b ++ under 2 c ++ under 3 d) := by
  have h1 := beforeChild_under 0 a
  have h2 := h1.append_under b
  have h3 := h2.append_under c
  exact (((ascending_under 0 ha).append_under h1 hb).append_under h2 hc).append_under h3 hd

theorem ascending_two {a b : List (List Nat × Visit)} (ha : Ascending a) (hb : Ascending b) :
    Ascending (under 0 a ++ under 1 b) :=
  (ascending_under 0 ha).append_under (beforeChild_under 0 a) hb

mutual

theorem Phrase.visits_ascending : ∀ p : Phrase, Ascending p.visits
  | .empty => .nil
  | .word _ => .nil
  | .null => .nil
  | .seq a b => ascending_two a.visits_ascending b.visits_ascending
  | .swapped a b => ascending_two b.visits_ascending a.visits_ascending
  | .query q => q.visits_ascending

theorem Query.visits_ascending : ∀ q : Query, Ascending q.visits
  | .mk w b o l _ _ _ => by
    refine List.pairwise_cons.2 ⟨?_, ascending_children w.visits_ascending b.visits_ascending
      o.visits_ascending l.visits_ascending⟩
    -- The query is at the root, and everything else is at a child.
    intro v hv
    have hbefore := (((beforeChild_under 0 w.visits).append_under b.visits).append_under
      o.visits).append_under l.visits
    obtain ⟨i, p, hp, -⟩ := hbefore v hv
    rw [hp]
    exact List.nil_lt_cons i p

theorem Body.visits_ascending : ∀ b : Body, Ascending b.visits
  | .select s => s.visits_ascending
  | .nested q => q.visits_ascending
  | .values _ rows => rows.visits_ascending
  | .table _ => .nil
  | .combined _ a b => ascending_two a.visits_ascending b.visits_ascending
  | .modifying => List.pairwise_singleton _ _

theorem Select.visits_ascending : ∀ s : Select, Ascending s.visits
  | .mk h c _ s t => ascending_children h.visits_ascending c.visits_ascending s.visits_ascending
      t.visits_ascending

theorem Limit.visits_ascending : ∀ l : Limit, Ascending l.visits
  | .none => .nil
  | .offsetOnly o => ascending_under 0 o.visits_ascending
  | .atMost l o => ascending_two l.visits_ascending o.visits_ascending
  | .commaPair o l => ascending_two o.visits_ascending l.visits_ascending

end

/-- No two things are met at one place. -/
theorem Ascending.eq_or_lt {met : List (List Nat × Visit)} (h : Ascending met) {v w : List Nat × Visit}
    (hv : v ∈ met) (hw : w ∈ met) : v = w ∨ v.1 < w.1 ∨ w.1 < v.1 := by
  induction met with
  | nil => cases hv
  | cons u met ih =>
    obtain ⟨hu, hmet⟩ := List.pairwise_cons.1 h
    rcases List.mem_cons.1 hv with hvu | hv
    · rcases List.mem_cons.1 hw with hwu | hw
      · exact .inl (hvu.trans hwu.symm)
      · exact .inr (.inl (hvu ▸ hu w hw))
    · rcases List.mem_cons.1 hw with hwu | hw
      · exact .inr (.inr (hwu ▸ hu v hv))
      · exact ih hmet hv hw

/-! ## A query stands above each change -/

/-- What is met at a place below a child was met in the child. -/
theorem mem_under {i : Nat} {met : List (List Nat × Visit)} {p : List Nat} {v : Visit} :
    (p, v) ∈ under i met ↔ ∃ r, p = i :: r ∧ (r, v) ∈ met := by
  unfold under
  rw [List.mem_map]
  constructor
  · rintro ⟨w, hw, he⟩
    cases he
    exact ⟨w.1, rfl, hw⟩
  · rintro ⟨r, rfl, hr⟩
    exact ⟨(r, v), hr, rfl⟩

/-- At a place above `p`, a query is met that harms. -/
def HarmAbove (met : List (List Nat × Visit)) (p : List Nat) : Prop :=
  ∃ r n, (r, Visit.query n) ∈ met ∧ r <+: p ∧ r ≠ p ∧ n.Harms

/-- Above each change met, a query harms. -/
def Covered (met : List (List Nat × Visit)) : Prop := ∀ p, (p, Visit.change) ∈ met → HarmAbove met p

theorem HarmAbove.mono {met more : List (List Nat × Visit)} {p : List Nat} (h : HarmAbove met p)
    (hsub : met ⊆ more) : HarmAbove more p := by
  obtain ⟨r, n, hm, hrest⟩ := h
  exact ⟨r, n, hsub hm, hrest⟩

theorem HarmAbove.under {met : List (List Nat × Visit)} {p : List Nat} (i : Nat)
    (h : HarmAbove met p) : HarmAbove (under i met) (i :: p) := by
  obtain ⟨r, n, hm, hpre, hne, hn⟩ := h
  refine ⟨i :: r, n, mem_under.2 ⟨r, rfl, hm⟩, List.cons_prefix_cons.2 ⟨rfl, hpre⟩, ?_, hn⟩
  simpa using hne

/-- A place comes before those below it. -/
theorem lt_of_above {r p : List Nat} (h : r <+: p) (hne : r ≠ p) : r < p := by
  obtain ⟨rest, rfl⟩ := h
  induction r with
  | nil =>
    cases rest with
    | nil => exact absurd rfl hne
    | cons i p => exact List.nil_lt_cons i p
  | cons i r ih => exact List.cons_lt_cons_iff.2 (.inr ⟨rfl, ih (by simpa using hne)⟩)

theorem covered_nil : Covered [] := by
  intro p hp
  cases hp

theorem Covered.under {met : List (List Nat × Visit)} (i : Nat) (h : Covered met) :
    Covered (under i met) := by
  intro p hp
  obtain ⟨r, rfl, hr⟩ := mem_under.1 hp
  exact (h r hr).under i

theorem Covered.append {met more : List (List Nat × Visit)} (h : Covered met) (hm : Covered more) :
    Covered (met ++ more) := by
  intro p hp
  rcases List.mem_append.1 hp with hp | hp
  · exact (h p hp).mono (List.subset_append_left met more)
  · exact (hm p hp).mono (List.subset_append_right met more)

/-- The query above the root of a body is the one that covers its changes, so a body is
covered as long as its branches do not write. -/
theorem covered_mk {w : Phrase} {b : Body} {o : Phrase} {l : Limit} {f : Option Fetch}
    {ls : List String} {g : String} (hw : Covered w.visits)
    (hb : (∀ c, b.Branch c → ¬ c.Writes) → Covered b.visits) (ho : Covered o.visits)
    (hl : Covered l.visits) : Covered (Query.mk w b o l f ls g).visits := by
  rw [Query.visits]
  intro p hp
  rcases List.mem_cons.1 hp with hp | hp
  · cases hp
  by_cases hwrites : ∀ c, b.Branch c → ¬ c.Writes
  · have hin := ((hw.under 0).append ((hb hwrites).under 1)).append (ho.under 2)
    exact (hin.append (hl.under 3) p hp).mono (List.subset_cons_self _ _)
  · -- Some branch writes, so this query harms, and it is above everything.
    have hbranch : ∃ c, b.Branch c ∧ c.Writes := by simpa using hwrites
    refine ⟨[], _, List.mem_cons_self, List.nil_prefix, ?_, .inr hbranch⟩
    rintro rfl
    simp [mem_under] at hp

mutual

theorem Phrase.visits_covered : ∀ p : Phrase, Covered p.visits
  | .empty => covered_nil
  | .word _ => covered_nil
  | .null => covered_nil
  | .seq a b => (a.visits_covered.under 0).append (b.visits_covered.under 1)
  | .swapped a b => (b.visits_covered.under 0).append (a.visits_covered.under 1)
  | .query q => q.visits_covered

theorem Query.visits_covered : ∀ q : Query, Covered q.visits
  | .mk w b o l _ _ _ =>
    covered_mk w.visits_covered b.visits_covered o.visits_covered l.visits_covered

theorem Body.visits_covered : ∀ b : Body, (∀ c, b.Branch c → ¬ c.Writes) → Covered b.visits
  | .select s, _ => s.visits_covered
  | .nested q, _ => q.visits_covered
  | .values _ rows, _ => rows.visits_covered
  | .table _, _ => covered_nil
  | .combined op a b, h => by
    obtain ⟨ha, hb⟩ := (Body.no_branch_writes_combined op a b).1 h
    exact ((a.visits_covered ha).under 0).append ((b.visits_covered hb).under 1)
  | .modifying, h => absurd trivial (h .modifying (.self _))

theorem Select.visits_covered : ∀ s : Select, Covered s.visits
  | .mk h c _ s t =>
    (((h.visits_covered.under 0).append (c.visits_covered.under 1)).append
      (s.visits_covered.under 2)).append (t.visits_covered.under 3)

theorem Limit.visits_covered : ∀ l : Limit, Covered l.visits
  | .none => covered_nil
  | .offsetOnly o => o.visits_covered.under 0
  | .atMost l o => (l.visits_covered.under 0).append (o.visits_covered.under 1)
  | .commaPair o l => (o.visits_covered.under 0).append (l.visits_covered.under 1)

end

/-! ## The reason -/

/-- What a body that writes is refused for: its first branch that does decides. -/
inductive Body.Faulty : Body → String → Prop
  | into {s : Select} : s.into ≠ none → Body.Faulty (.select s) "SELECT INTO"
  | modifying : Body.Faulty .modifying "data-modifying query body"
  | left {op : String} {a b : Body} {reason : String} :
      Body.Faulty a reason → Body.Faulty (.combined op a b) reason
  | right {op : String} {a b : Body} {reason : String} :
      (∀ c, a.Branch c → ¬ c.Writes) → Body.Faulty b reason → Body.Faulty (.combined op a b) reason

/-- What a query that harms is refused for: its lock, else its body. -/
inductive Query.Faulty (q : Query) : String → Prop
  | lock : q.locks ≠ [] → Query.Faulty q "row locking clause"
  | body {reason : String} : q.locks = [] → q.body.Faulty reason → Query.Faulty q reason

/-- The first query of a tree that harms stands at a place. -/
structure Query.FirstHarm (q : Query) (place : List Nat) (n : Query) : Prop where
  met : (place, Visit.query n) ∈ q.visits
  harms : n.Harms
  first : ∀ p m, (p, Visit.query m) ∈ q.visits → p < place → ¬ m.Harms

end QueryGateway.Sql

namespace QueryGateway

open Sql

theorem faulty_of_bodyFault : ∀ (b : Body) {reason : String}, bodyFault b = some reason → b.Faulty reason
  | .select s, reason, h => by
    cases hi : s.into with
    | none => simp [bodyFault, hi] at h
    | some target =>
      have hr : "SELECT INTO" = reason := by simpa [bodyFault, hi] using h
      exact hr ▸ .into (by simp [hi])
  | .nested _, _, h => by cases h
  | .values .., _, h => by cases h
  | .table _, _, h => by cases h
  | .combined op a b, reason, h => by
    rw [bodyFault] at h
    cases ha : bodyFault a with
    | none =>
      rw [ha, Option.none_or] at h
      exact .right ((bodyFault_eq_none_iff a).1 ha) (faulty_of_bodyFault b h)
    | some r =>
      rw [ha, Option.some_or] at h
      exact .left (faulty_of_bodyFault a (ha.trans h))
  | .modifying, _, h => by
    cases h
    exact .modifying

theorem bodyFault_eq_some_iff (b : Body) (reason : String) :
    bodyFault b = some reason ↔ b.Faulty reason := by
  constructor
  · exact faulty_of_bodyFault b
  · intro h
    induction h with
    | into hs => simp [bodyFault, Option.isSome_iff_ne_none.2 hs]
    | modifying => rfl
    | left _ ih => rw [bodyFault, ih, Option.some_or]
    | right ha _ ih => rw [bodyFault, (bodyFault_eq_none_iff _).2 ha, ih, Option.none_or]

theorem queryFault_eq_some_iff (n : Query) (reason : String) :
    queryFault n = some reason ↔ n.Faulty reason := by
  unfold queryFault
  cases hl : n.locks with
  | nil =>
    simp only [List.isEmpty_nil, if_true]
    rw [bodyFault_eq_some_iff]
    constructor
    · exact .body hl
    · rintro (h | ⟨-, h⟩)
      · exact absurd hl h
      · exact h
  | cons l ls =>
    have hne : n.locks ≠ [] := by simp [hl]
    simp only [List.isEmpty_cons, Bool.false_eq_true, if_false, Option.some.injEq]
    constructor
    · rintro rfl
      exact .lock hne
    · rintro (h | ⟨h, -⟩)
      · rfl
      · exact absurd h hne

/-- A query harms exactly if it is at fault for some reason. -/
theorem harms_iff_faulty (n : Query) : n.Harms ↔ ∃ reason, n.Faulty reason := by
  constructor
  · intro harms
    cases hf : queryFault n with
    | none => exact absurd harms ((queryFault_eq_none_iff n).1 hf)
    | some reason => exact ⟨reason, (queryFault_eq_some_iff n reason).1 hf⟩
  · rintro ⟨reason, h⟩
    have hfault := (queryFault_eq_some_iff n reason).2 h
    apply Classical.byContradiction
    intro hn
    rw [(queryFault_eq_none_iff n).2 hn] at hfault
    cases hfault

/-! ## The first fault met -/

/-- There is but one first query that harms. -/
theorem Sql.Query.FirstHarm.unique {q n m : Query} {p r : List Nat} (hn : q.FirstHarm p n)
    (hm : q.FirstHarm r m) : n = m := by
  rcases q.visits_ascending.eq_or_lt hn.met hm.met with h | h | h
  · cases h
    rfl
  · exact absurd hn.harms (hm.first p n hn.met h)
  · exact absurd hm.harms (hn.first r m hm.met h)

/-- What is wrong with what is met. A change would be refused by itself. -/
def Sql.Visit.fault : Visit → Option String
  | .query n => queryFault n
  | .change => some "nested data-modifying statement"

/-- The verdict on a query by everything met in it, changes included. -/
def examine (q : Query) : Except GuardError Query :=
  match q.visits.findSome? (·.2.fault) with
  | some reason => .error (.notReadOnly reason)
  | none => .ok q

section FirstFault

/- A search through what is met, whatever it makes of changes. -/
variable (fault : Visit → Option String) (hquery : ∀ n, fault (.query n) = queryFault n) {q : Query}
  {reason : String}

include hquery

/-- What is found first is wrong with the first query that harms. -/
theorem firstHarm_of_fault (h : q.visits.findSome? (fun v => fault v.2) = some reason) :
    ∃ place n, q.FirstHarm place n ∧ n.Faulty reason := by
  obtain ⟨front, ⟨place, v⟩, back, hq, hv, hfront⟩ := List.findSome?_eq_some_iff.1 h
  have hmem : (place, v) ∈ q.visits := by simp [hq]
  -- What stands at an earlier place was met earlier, and nothing was wrong with it.
  have hearlier : ∀ p m, (p, Visit.query m) ∈ q.visits → p < place → ¬ m.Harms := by
    intro p m hm hp
    have hasc := q.visits_ascending
    rw [hq] at hm hasc
    have hback := List.pairwise_cons.1 (List.pairwise_append.1 hasc).2.1
    rcases List.mem_append.1 hm with hm | hm
    · have hnone := hfront _ hm
      rw [hquery] at hnone
      exact (queryFault_eq_none_iff m).1 hnone
    · rcases List.mem_cons.1 hm with he | hm
      · cases he
        exact absurd hp (List.lt_irrefl _)
      · exact absurd hp (List.lt_asymm (hback.1 _ hm))
  cases v with
  | query n =>
    have hfaulty := (queryFault_eq_some_iff n reason).1 ((hquery n).symm.trans hv)
    exact ⟨place, n, ⟨hmem, (harms_iff_faulty n).2 ⟨reason, hfaulty⟩, hearlier⟩, hfaulty⟩
  | change =>
    -- The query above the change was met before it, and harms.
    obtain ⟨r, n, hn, habove, hne, hharms⟩ := q.visits_covered place hmem
    exact absurd hharms (hearlier r n hn (lt_of_above habove hne))

theorem fault_eq_some_iff :
    q.visits.findSome? (fun v => fault v.2) = some reason ↔
      ∃ place n, q.FirstHarm place n ∧ n.Faulty reason := by
  constructor
  · exact firstHarm_of_fault fault hquery
  · rintro ⟨place, n, hfirst, hfaulty⟩
    have hn := (queryFault_eq_some_iff n reason).2 hfaulty
    cases hr : q.visits.findSome? (fun v => fault v.2) with
    | none =>
      have hnone := List.findSome?_eq_none_iff.1 hr _ hfirst.met
      rw [hquery, hn] at hnone
      cases hnone
    | some other =>
      obtain ⟨r, m, hm, hother⟩ := firstHarm_of_fault fault hquery hr
      have ho := (queryFault_eq_some_iff m other).2 hother
      rw [← hfirst.unique hm, hn] at ho
      exact ho.symm

end FirstFault

theorem queries_fault (q : Query) :
    q.queries.findSome? queryFault = q.visits.findSome? (fun v => v.2.query?.bind queryFault) := by
  rw [← q.queries_visits, ← List.head?_filterMap, List.filterMap_filterMap, List.head?_filterMap]

theorem queries_fault_eq_some_iff (q : Query) (reason : String) :
    q.queries.findSome? queryFault = some reason ↔
      ∃ place n, q.FirstHarm place n ∧ n.Faulty reason := by
  rw [queries_fault]
  exact fault_eq_some_iff (fun v => v.query?.bind queryFault) fun _ => rfl

/-- A query is refused for what is wrong with its first query that harms. -/
theorem readOnlyQuery_eq_error_iff (q : Query) (e : GuardError) :
    readOnlyQuery (.query q) = .error e ↔
      ∃ reason place n, e = .notReadOnly reason ∧ q.FirstHarm place n ∧ n.Faulty reason := by
  have hfault := fun reason => queries_fault_eq_some_iff q reason
  rw [readOnlyQuery]
  constructor
  · intro h
    split at h
    · rename_i reason hr
      cases h
      obtain ⟨place, n, hn⟩ := (hfault reason).1 hr
      exact ⟨reason, place, n, rfl, hn⟩
    · cases h
  · rintro ⟨reason, place, n, rfl, hn⟩
    rw [(hfault reason).2 ⟨place, n, hn⟩]

/-- The verdict is the same whatever a change by itself is refused for. -/
theorem readOnlyQuery_eq_examine (q : Query) : readOnlyQuery (.query q) = examine q := by
  have hsame : q.queries.findSome? queryFault = q.visits.findSome? (·.2.fault) := by
    refine Option.ext fun reason => ?_
    rw [queries_fault_eq_some_iff, fault_eq_some_iff Visit.fault fun _ => rfl]
  cases found : q.visits.findSome? (·.2.fault) with
  | none => simp [readOnlyQuery, examine, hsame, found]
  | some reason => simp [readOnlyQuery, examine, hsame, found]

theorem reason_of_bodyFaulty {b : Body} {reason : String} (h : b.Faulty reason) :
    reason = "SELECT INTO" ∨ reason = "data-modifying query body" := by
  induction h with
  | into _ => exact .inl rfl
  | modifying => exact .inr rfl
  | left _ ih => exact ih
  | right _ _ ih => exact ih

theorem reason_of_faulty {n : Query} {reason : String} (h : n.Faulty reason) :
    reason = "row locking clause" ∨ reason = "SELECT INTO" ∨ reason = "data-modifying query body" := by
  cases h with
  | lock _ => exact .inl rfl
  | body _ hb => exact .inr (reason_of_bodyFaulty hb)

/-- A query is refused exactly for what is wrong with the first query in it that harms. A
visitor that refuses changes too would come to the same verdict, and it never names a
change, since above each change a query harms. -/
theorem refused_for_first_harm (q : Query) :
    (∀ e, readOnlyQuery (.query q) = .error e ↔
      ∃ reason place n, e = .notReadOnly reason ∧ q.FirstHarm place n ∧ n.Faulty reason) ∧
    readOnlyQuery (.query q) = examine q ∧
    examine q ≠ .error (.notReadOnly "nested data-modifying statement") ∧
    ∀ place, (place, Visit.change) ∈ q.visits → HarmAbove q.visits place := by
  refine ⟨readOnlyQuery_eq_error_iff q, readOnlyQuery_eq_examine q, ?_, q.visits_covered⟩
  rw [← readOnlyQuery_eq_examine]
  intro h
  obtain ⟨reason, place, n, he, -, hn⟩ := (readOnlyQuery_eq_error_iff q _).1 h
  cases he
  rcases reason_of_faulty hn with h | h | h <;> simp at h

/-- The lock of the outer query is found before the change in its `WITH`. -/
example : guardSql "WITH d AS (DELETE FROM t RETURNING a) SELECT a FROM d FOR UPDATE" =
    .error (.notReadOnly "row locking clause") := by decide +kernel

end QueryGateway
