import Mathlib.Data.List.SplitBy
import QueryGateway.Proofs.Postgres.Grouping

/-!
# Runs of rows

Rows are grouped whatever their order is. Each run of rows of one table that follow each other
becomes a table, so that a table whose rows stand apart is found more than once, next to another
one each time. Only the last table is looked at while rows are grouped. What is known of it is
that it tells the run that is open.
-/

namespace QueryGateway

open Text

/-! ## Letters of either case -/

theorem Text.lowerChar_upperChar (c : Char) : lowerChar (upperChar c) = lowerChar c := by
  have letters : ∀ n, n < 123 → 97 ≤ n → lowerChar (Char.ofNat (n - 32)) = lowerChar (Char.ofNat n) := by decide
  rw [upperChar]
  split
  · next small =>
    obtain ⟨least, most⟩ := Bool.and_eq_true_iff.1 small
    have back := letters c.toNat (Nat.lt_succ_of_le (Char.le_def.1 (of_decide_eq_true most)))
      (Char.le_def.1 (of_decide_eq_true least))
    rwa [Char.ofNat_toNat] at back
  · rfl

theorem Text.upperChar_lowerChar (c : Char) : upperChar (lowerChar c) = upperChar c := by
  have letters : ∀ n, n < 91 → 65 ≤ n → upperChar (Char.ofNat (n + 32)) = upperChar (Char.ofNat n) := by decide
  rw [lowerChar]
  split
  · next capital =>
    obtain ⟨least, most⟩ := Bool.and_eq_true_iff.1 capital
    have back := letters c.toNat (Nat.lt_succ_of_le (Char.le_def.1 (of_decide_eq_true most)))
      (Char.le_def.1 (of_decide_eq_true least))
    rwa [Char.ofNat_toNat] at back
  · rfl

/-- Texts have the same capitals just if they differ in nothing but the case of ASCII letters. -/
theorem Text.upper_eq_iff (s t : String) : upper s = upper t ↔ lower s = lower t := by
  have folded (s : String) : lower (upper s) = lower s := by
    simp [lower, upper, Function.comp_def, lowerChar_upperChar]
  have raised (s : String) : upper (lower s) = upper s := by
    simp [lower, upper, Function.comp_def, upperChar_lowerChar]
  constructor
  · intro h
    rw [← folded s, h, folded]
  · intro h
    rw [← raised s, h, raised]

namespace Postgres

variable {r : IntrospectionRow} {rows run : List IntrospectionRow} {t : TableInfo}

/-! ## What a run tells -/

/-- The column a row tells of, if it has both a name and a type. -/
def IntrospectionRow.column? (r : IntrospectionRow) : Option ColumnInfo :=
  r.column.bind fun name => r.dataType.map fun dataType => ⟨name, dataType⟩

theorem IntrospectionRow.columns_eq (r : IntrospectionRow) : r.columns = r.column?.toList := by
  unfold IntrospectionRow.columns IntrospectionRow.column?
  cases r.column <;> cases r.dataType <;> rfl

/-- The table that a run of rows tells of: its first row gives the schema, the name and whether it
is a view, and each row that has a column gives the column. -/
structure Tells (run : List IntrospectionRow) (t : TableInfo) : Prop where
  first : ∃ r rest, run = r :: rest ∧ t.key = r.key ∧ (t.isView = true ↔ lower r.kind = lower "VIEW")
  columns : t.columns = run.filterMap IntrospectionRow.column?

/-- The rows cut where the table changes, and nowhere else. -/
structure AreRuns (rows : List IntrospectionRow) (runs : List (List IntrospectionRow)) : Prop where
  flatten : runs.flatten = rows
  ne_nil : ∀ run ∈ runs, run ≠ []
  same : ∀ run ∈ runs, ∀ r ∈ run, ∀ s ∈ run, r.key = s.key
  changes : runs.IsChain fun run next => ∀ r ∈ run, ∀ s ∈ next, r.key ≠ s.key

theorem tells_begin (r : IntrospectionRow) : Tells [r] r.begin := by
  refine ⟨⟨r, [], rfl, rfl, ?_⟩, ?_⟩
  · rw [← upper_eq_iff]
    exact beq_iff_eq
  · show r.columns = _
    rw [r.columns_eq]
    cases h : r.column? <;> simp [h]

/-- One more row of a table. -/
theorem Tells.snoc (h : Tells run t) (r : IntrospectionRow) :
    Tells (run ++ [r]) { t with columns := t.columns ++ r.columns } := by
  obtain ⟨first, rest, rfl, facts⟩ := h.first
  refine ⟨⟨first, rest ++ [r], rfl, facts⟩, ?_⟩
  show t.columns ++ r.columns = _
  rw [List.filterMap_append, ← h.columns, r.columns_eq]
  cases hr : r.column? <;> simp [hr]

theorem Tells.key_eq (h : Tells run t) (same : ∀ r ∈ run, ∀ s ∈ run, r.key = s.key) : ∀ r ∈ run, r.key = t.key := by
  obtain ⟨first, rest, rfl, hkey, -⟩ := h.first
  exact fun r hr => (same r hr first List.mem_cons_self).trans hkey.symm

/-! ## The runs of rows -/

/-- Rows of one table are one run. -/
theorem areRuns_singleton (ne : run ≠ []) (same : ∀ r ∈ run, ∀ s ∈ run, r.key = s.key) : AreRuns run [run] :=
  ⟨by simp, by simpa, by simpa, List.isChain_singleton run⟩

/-- A run in front of rows that start with another table. -/
theorem AreRuns.cons {next : List IntrospectionRow} {runs : List (List IntrospectionRow)}
    (h : AreRuns rows (next :: runs)) (ne : run ≠ []) (same : ∀ r ∈ run, ∀ s ∈ run, r.key = s.key)
    (changes : ∀ r ∈ run, ∀ s ∈ next, r.key ≠ s.key) : AreRuns (run ++ rows) (run :: next :: runs) where
  flatten := by rw [List.flatten_cons, h.flatten]
  ne_nil := List.forall_mem_cons.2 ⟨ne, h.ne_nil⟩
  same := List.forall_mem_cons.2 ⟨same, h.same⟩
  changes := List.isChain_cons_cons.2 ⟨changes, h.changes⟩

/-- There is but one way to cut rows so. -/
theorem AreRuns.eq_splitBy {runs : List (List IntrospectionRow)} (h : AreRuns rows runs) :
    runs = rows.splitBy fun r s => r.key == s.key := by
  symm
  rw [List.splitBy_eq_iff]
  refine ⟨h.flatten.symm, fun hnil => h.ne_nil [] hnil rfl, fun run hrun => ?_, ?_⟩
  · refine List.Pairwise.isChain (List.pairwise_of_forall_mem_list fun r hr s hs => ?_)
    exact beq_iff_eq.2 (h.same run hrun r hr s hs)
  · have ends : ∀ run ∈ runs, ∀ next ∈ runs, (∀ r ∈ run, ∀ s ∈ next, r.key ≠ s.key) →
        ∃ (hr : run ≠ []) (hs : next ≠ []), ((run.getLast hr).key == (next.head hs).key) = false :=
      fun run hrun next hnext changes => ⟨h.ne_nil run hrun, h.ne_nil next hnext,
        beq_eq_false_iff_ne.2 (changes _ (List.getLast_mem _) _ (List.head_mem _))⟩
    exact h.changes.imp_of_mem_imp fun run next hrun hnext => ends run hrun next hnext

/-- The tables of rows behind a run that is open: its table goes on as long as its rows do. -/
theorem groupFrom_runs (ht : Tells run t) (same : ∀ r ∈ run, ∀ s ∈ run, r.key = s.key)
    (rows : List IntrospectionRow) :
    ∃ more runs, AreRuns (run ++ rows) ((run ++ more) :: runs) ∧
      List.Forall₂ Tells ((run ++ more) :: runs) (groupFrom t rows) := by
  have ne : run ≠ [] := by
    obtain ⟨r, rest, rfl, -⟩ := ht.first
    exact List.cons_ne_nil r rest
  induction rows generalizing t run with
  | nil =>
    refine ⟨[], [], ?_, ?_⟩
    · rw [List.append_nil]
      exact areRuns_singleton ne same
    · rw [List.append_nil]
      exact .cons ht .nil
  | cons r rows ih =>
    unfold groupFrom
    -- The row goes on with the open run, or opens the next one.
    split
    · next hb =>
      have hkey : r.key = t.key := ((belongsTo_iff r t).1 hb).symm
      have joined : ∀ s ∈ run ++ [r], s.key = t.key := by
        intro s hs
        rcases List.mem_append.1 hs with hs | hs
        · exact ht.key_eq same s hs
        · rw [List.mem_singleton.1 hs, hkey]
      obtain ⟨more, runs, hruns, htells⟩ := ih (ht.snoc r)
        (fun s hs s' hs' => (joined s hs).trans (joined s' hs').symm) (by simp)
      rw [List.append_assoc] at hruns htells
      rw [List.append_assoc] at hruns
      exact ⟨r :: more, runs, hruns, htells⟩
    · next hb =>
      obtain ⟨more, runs, hruns, htells⟩ := ih (tells_begin r)
        (fun s hs s' hs' => by rw [List.mem_singleton.1 hs, List.mem_singleton.1 hs']) (by simp)
      have changes : ∀ s ∈ run, ∀ s' ∈ [r] ++ more, s.key ≠ s'.key := by
        intro s hs s' hs' heq
        have first := hruns.same _ List.mem_cons_self s' hs' r (by simp)
        exact hb ((belongsTo_iff r t).2 (((ht.key_eq same s hs).symm.trans heq).trans first))
      refine ⟨[], ([r] ++ more) :: runs, ?_, ?_⟩
      · rw [List.append_nil]
        exact hruns.cons ne same changes
      · rw [List.append_nil]
        exact .cons ht htells

theorem groupRows_runs (rows : List IntrospectionRow) :
    ∃ runs, AreRuns rows runs ∧ List.Forall₂ Tells runs (groupRows rows) := by
  cases rows with
  | nil => exact ⟨[], ⟨rfl, nofun, nofun, .nil⟩, .nil⟩
  | cons r rows =>
    obtain ⟨more, runs, hruns, htells⟩ := groupFrom_runs (tells_begin r)
      (fun s hs s' hs' => by rw [List.mem_singleton.1 hs, List.mem_singleton.1 hs']) rows
    exact ⟨_, hruns, htells⟩

/-! ## What follows for the tables -/

/-- Tables that neighbouring runs tell of are different ones. -/
theorem changes_of_runs {runs : List (List IntrospectionRow)} {tables : List TableInfo}
    (same : ∀ run ∈ runs, ∀ r ∈ run, ∀ s ∈ run, r.key = s.key)
    (changes : runs.IsChain fun run next => ∀ r ∈ run, ∀ s ∈ next, r.key ≠ s.key)
    (h : List.Forall₂ Tells runs tables) : tables.IsChain fun t u => t.key ≠ u.key := by
  induction h with
  | nil => exact .nil
  | @cons run t runs tables ht htells ih =>
    have rest := ih (List.forall_mem_cons.1 same).2 changes.tail
    cases htells with
    | nil => exact List.isChain_singleton t
    | @cons next u runs tables hu htells =>
      refine List.isChain_cons_cons.2 ⟨fun heq => ?_, rest⟩
      obtain ⟨r, _, rfl, hr, -⟩ := ht.first
      obtain ⟨s, _, rfl, hs, -⟩ := hu.first
      have differ := (List.isChain_cons_cons.1 changes).1 r List.mem_cons_self s List.mem_cons_self
      exact differ ((hr.symm.trans heq).trans hs)

/-- All columns together are those of all rows. -/
theorem columns_of_runs {runs : List (List IntrospectionRow)} {tables : List TableInfo}
    (h : List.Forall₂ Tells runs tables) :
    tables.flatMap TableInfo.columns = runs.flatten.filterMap IntrospectionRow.column? := by
  induction h with
  | nil => rfl
  | cons ht _ ih => rw [List.flatMap_cons, List.flatten_cons, List.filterMap_append, ih, ht.columns]

/-! ## Rows that stand together -/

/-- Between two rows of one table there are only rows of it. -/
def Contiguous (rows : List IntrospectionRow) : Prop :=
  ∀ r x s, List.Sublist [r, x, s] rows → r.key = s.key → x.key = r.key

theorem Contiguous.of_sublist {part : List IntrospectionRow} (h : Contiguous rows) (hp : part.Sublist rows) :
    Contiguous part :=
  fun r x s hs => h r x s (hs.trans hp)

/-- Rows in the order of an introspection stand together. -/
theorem contiguous_of_ordered (ordered : rows.Pairwise IntrospectionRow.Before) : Contiguous rows := by
  intro r x s hs hkey
  obtain ⟨front, back⟩ := List.pairwise_cons.1 (ordered.sublist hs)
  have rx := (before_iff r x).1 (front x (by simp))
  have xs := (before_iff x s).1 ((List.pairwise_cons.1 back).1 s (by simp))
  rcases rx with rx | rx
  · rcases xs with xs | xs
    · exact absurd hkey (rx.trans xs).key_ne
    · exact xs.trans hkey.symm
  · exact rx.symm

/-- If rows stand together, no table is begun twice. -/
theorem groupFrom_nodup {rows : List IntrospectionRow} (h : Contiguous (r :: rows)) (ht : t.key = r.key) :
    ((groupFrom t rows).map TableInfo.key).Nodup := by
  induction rows generalizing t r with
  | nil => exact List.nodup_singleton _
  | cons x rows ih =>
    unfold groupFrom
    split
    · next hb =>
      exact ih (h.of_sublist (List.sublist_cons_self r _)) ((belongsTo_iff x t).1 hb)
    · next hb =>
      have other : x.key ≠ r.key := fun heq => hb ((belongsTo_iff x t).2 (ht.trans heq.symm))
      refine List.nodup_cons.2 ⟨fun hmem => ?_, ih (h.of_sublist (List.sublist_cons_self r _)) rfl⟩
      obtain ⟨u, hu, hkey⟩ := List.mem_map.1 hmem
      rcases (exists_groupFrom_iff x.begin rows t.key).1 ⟨u, hu, hkey⟩ with heq | ⟨s, hs, heq⟩
      · exact other (heq.trans ht)
      · have between : List.Sublist [r, x, s] (r :: x :: rows) :=
          .cons_cons r (.cons_cons x (List.singleton_sublist.2 hs))
        exact other (h r x s between (heq.trans ht).symm)

theorem groupRows_nodup (h : Contiguous rows) : ((groupRows rows).map TableInfo.key).Nodup := by
  cases rows with
  | nil => exact .nil
  | cons r rows => exact groupFrom_nodup h rfl

/-- Whatever order rows have, each run of rows of one table is one table, in the order of the runs:
so neighbouring tables differ, and all columns together are those of all rows, in their order. If
the rows of each table stand together, each table that has a row is there exactly once. -/
theorem groupRows_by_runs (rows : List IntrospectionRow) :
    (∃ runs, AreRuns rows runs) ∧
    (∀ runs, AreRuns rows runs → List.Forall₂ Tells runs (groupRows rows)) ∧
    (groupRows rows).IsChain (fun t u => t.key ≠ u.key) ∧
    (groupRows rows).flatMap TableInfo.columns = rows.filterMap IntrospectionRow.column? ∧
    (Contiguous rows → ∀ r ∈ rows, ((groupRows rows).map TableInfo.key).count r.key = 1) := by
  obtain ⟨runs, hruns, htells⟩ := groupRows_runs rows
  refine ⟨⟨runs, hruns⟩, fun other hother => ?_, changes_of_runs hruns.same hruns.changes htells, ?_,
    fun together r hr => ?_⟩
  · rwa [hother.eq_splitBy, ← hruns.eq_splitBy]
  · rw [columns_of_runs htells, hruns.flatten]
  · obtain ⟨t, ht, hkey⟩ := (exists_groupRows_iff rows r.key).2 ⟨r, hr, rfl⟩
    exact List.count_eq_one_of_mem (groupRows_nodup together) (List.mem_map.2 ⟨t, ht, hkey⟩)

/-- A view of two columns and a table without columns. -/
theorem view_before_empty_table :
    ∃ rows : List IntrospectionRow, rows = [⟨"a", "t", "view", some "x", some "text"⟩,
        ⟨"a", "t", "view", some "y", some "int"⟩, ⟨"b", "t", "BASE TABLE", none, none⟩] ∧
      Contiguous rows ∧
      groupRows rows = [⟨"a", "t", true, [⟨"x", "text"⟩, ⟨"y", "int"⟩]⟩, ⟨"b", "t", false, []⟩] ∧
      ((groupRows rows).map TableInfo.key).count ("b", "t") = 1 := by
  refine ⟨_, rfl, ?_⟩
  have together : Contiguous [⟨"a", "t", "view", some "x", some "text"⟩,
      ⟨"a", "t", "view", some "y", some "int"⟩, ⟨"b", "t", "BASE TABLE", none, none⟩] :=
    contiguous_of_ordered (by decide)
  have once := (groupRows_by_runs _).2.2.2.2 together
  exact ⟨together, by decide, once ⟨"b", "t", "BASE TABLE", none, none⟩ (by decide)⟩

end Postgres

end QueryGateway
