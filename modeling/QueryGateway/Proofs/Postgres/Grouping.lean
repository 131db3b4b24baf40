import QueryGateway.Postgres.Introspection
import QueryGateway.Proofs.Catalog.Tables

/-!
# Rows of an introspection as tables

A database lists its columns by schema and name of their table, in the order of bytes. Rows
in this order are grouped into tables in the order in which the catalog shows them: the rows
of a table follow each other, so that no table begins twice.
-/

namespace QueryGateway

open Text

namespace TableInfo

variable {t u v : TableInfo}

theorem Precedes.trans (h : t.Precedes u) (h' : u.Precedes v) : t.Precedes v := by
  rcases h with h | ⟨h, hn⟩ <;> rcases h' with h' | ⟨h', hn'⟩
  · exact .inl (lt_trans h h')
  · exact .inl (h' ▸ h)
  · exact .inl (h ▸ h')
  · exact .inr ⟨h.trans h', lt_trans hn hn'⟩

theorem Precedes.key_ne (h : t.Precedes u) : t.key ≠ u.key := by
  intro hkey
  obtain ⟨hs, hn⟩ := Prod.mk.inj hkey
  rcases h with h | ⟨-, h⟩
  · exact h.ne hs
  · exact h.ne hn

/-- Whether one table stands before another depends on their schemas and names. -/
theorem Precedes.congr {t' u' : TableInfo} (h : t.Precedes u) (ht : t'.key = t.key) (hu : u'.key = u.key) :
    t'.Precedes u' := by
  obtain ⟨hs, hn⟩ := Prod.mk.inj ht
  obtain ⟨hs', hn'⟩ := Prod.mk.inj hu
  unfold Precedes
  rwa [hs, hn, hs', hn']

/-- Tables in strict order are in order. -/
theorem arranged_of_pairwise {tables : List TableInfo} (h : tables.Pairwise Precedes) : arranged tables = tables := by
  have distinct : (tables.map key).Nodup := List.pairwise_map.2 (h.imp Precedes.key_ne)
  refine (arranged_perm tables).eq_of_pairwise (fun t u _ _ htu hut => ?_) (arranged_pairwise distinct) h
  exact absurd rfl (htu.trans hut).key_ne

end TableInfo

namespace Postgres

/-! ## The order of rows -/

/-- What tells the table of a row from the others. -/
def IntrospectionRow.key (r : IntrospectionRow) : String × String := (r.schema, r.table)

/-- A row stands before another by the bytes of its schema, or in one schema by those of its
table, or it is of the same table. -/
def IntrospectionRow.Before (r s : IntrospectionRow) : Prop :=
  utf8 r.schema.toList < utf8 s.schema.toList ∨
    r.schema = s.schema ∧ (utf8 r.table.toList < utf8 s.table.toList ∨ r.table = s.table)

instance (r s : IntrospectionRow) : Decidable (r.Before s) :=
  inferInstanceAs (Decidable (_ ∨ _ ∧ (_ ∨ _)))

theorem belongsTo_iff (r : IntrospectionRow) (t : TableInfo) : r.belongsTo t = true ↔ t.key = r.key := by
  unfold IntrospectionRow.belongsTo IntrospectionRow.key TableInfo.key
  simp

theorem before_iff (r s : IntrospectionRow) :
    r.Before s ↔ r.begin.Precedes s.begin ∨ r.key = s.key := by
  unfold IntrospectionRow.Before TableInfo.Precedes IntrospectionRow.key
  rw [utf8_lt_iff, utf8_lt_iff, Prod.mk.injEq]
  show _ ↔ (r.schema < s.schema ∨ r.schema = s.schema ∧ r.table < s.table) ∨ _
  tauto

/-! ## The tables of rows -/

variable {t u : TableInfo} {rows : List IntrospectionRow}

/-- The tables are the one that is begun and those of the rows. -/
theorem exists_groupFrom_iff (t : TableInfo) (rows : List IntrospectionRow) (k : String × String) :
    (∃ u ∈ groupFrom t rows, u.key = k) ↔ t.key = k ∨ ∃ r ∈ rows, r.key = k := by
  induction rows generalizing t with
  | nil => simp [groupFrom]
  | cons r rows ih =>
    unfold groupFrom
    rw [List.exists_mem_cons_iff]
    split
    · next hb =>
      have hkey : t.key = r.key := (belongsTo_iff r t).1 hb
      rw [ih, ← hkey, ← or_assoc, or_self]
      rfl
    · rw [List.exists_mem_cons_iff, ih]
      rfl

/-- The rows go on behind a table: each is of it, or of one after it. -/
def Continues (t : TableInfo) (rows : List IntrospectionRow) : Prop :=
  ∀ r ∈ rows, t.Precedes r.begin ∨ t.key = r.key

theorem continues_of_before {r : IntrospectionRow} (h : ∀ s ∈ rows, r.Before s) : Continues r.begin rows :=
  fun s hs => (before_iff r s).1 (h s hs)

/-- From the first row that is not of the table on, no row is. -/
theorem Continues.precedes {r : IntrospectionRow} (h : Continues t (r :: rows)) (hr : ¬ r.belongsTo t = true)
    (ordered : (r :: rows).Pairwise IntrospectionRow.Before) : ∀ s ∈ r :: rows, t.Precedes s.begin := by
  have first : t.Precedes r.begin := (h r List.mem_cons_self).resolve_right (mt (belongsTo_iff r t).2 hr)
  intro s hs
  rcases List.mem_cons.1 hs with rfl | hs
  · exact first
  · rcases (before_iff r s).1 ((List.pairwise_cons.1 ordered).1 s hs) with later | same
    · exact first.trans later
    · exact first.congr rfl same.symm

/-- Behind the table that is begun, no table has its schema and name. -/
theorem Continues.groupFrom_precedes {r : IntrospectionRow} (h : Continues t (r :: rows))
    (hr : ¬ r.belongsTo t = true) (ordered : (r :: rows).Pairwise IntrospectionRow.Before) :
    ∀ u ∈ groupFrom r.begin rows, t.Precedes u := by
  have later := h.precedes hr ordered
  intro u hu
  rcases (exists_groupFrom_iff r.begin rows u.key).1 ⟨u, hu, rfl⟩ with hkey | ⟨s, hs, hkey⟩
  · exact (later r List.mem_cons_self).congr rfl hkey.symm
  · exact (later s (List.mem_cons_of_mem r hs)).congr rfl hkey.symm

/-- Rows in order are tables in strict order. -/
theorem groupFrom_pairwise (h : Continues t rows) (ordered : rows.Pairwise IntrospectionRow.Before) :
    (groupFrom t rows).Pairwise TableInfo.Precedes := by
  induction rows generalizing t with
  | nil => exact List.pairwise_singleton _ t
  | cons r rows ih =>
    obtain ⟨hr, hrows⟩ := List.pairwise_cons.1 ordered
    unfold groupFrom
    split
    · exact ih (fun s hs => h s (List.mem_cons_of_mem r hs)) hrows
    · next hne =>
      exact List.pairwise_cons.2 ⟨h.groupFrom_precedes hne ordered, ih (continues_of_before hr) hrows⟩

/-- The columns of the rows that are of a table, in the order of the rows. -/
def columnsOf (t : TableInfo) (rows : List IntrospectionRow) : List ColumnInfo :=
  (rows.filter (·.belongsTo t)).flatMap IntrospectionRow.columns

theorem columnsOf_cons (t : TableInfo) (r : IntrospectionRow) (rows : List IntrospectionRow) :
    columnsOf t (r :: rows) = (if t.key = r.key then r.columns else []) ++ columnsOf t rows := by
  unfold columnsOf
  rw [List.filter_cons]
  by_cases h : t.key = r.key
  · rw [if_pos ((belongsTo_iff r t).2 h), if_pos h, List.flatMap_cons]
  · rw [if_neg (mt (belongsTo_iff r t).1 h), if_neg h, List.nil_append]

theorem columnsOf_of_precedes (h : ∀ r ∈ rows, t.Precedes r.begin) : columnsOf t rows = [] := by
  have none : rows.filter (·.belongsTo t) = [] :=
    List.filter_eq_nil_iff.2 fun r hr hb => (h r hr).key_ne ((belongsTo_iff r t).1 hb)
  unfold columnsOf
  rw [none, List.flatMap_nil]

/-- A table has the columns of its rows behind those it was begun with. -/
theorem columns_of_groupFrom (h : Continues t rows) (ordered : rows.Pairwise IntrospectionRow.Before)
    (hu : u ∈ groupFrom t rows) :
    u.columns = (if u.key = t.key then t.columns else []) ++ columnsOf u rows := by
  induction rows generalizing t with
  | nil =>
    rw [List.mem_singleton.1 hu, if_pos rfl]
    exact (List.append_nil _).symm
  | cons r rows ih =>
    obtain ⟨hr, hrows⟩ := List.pairwise_cons.1 ordered
    rw [columnsOf_cons]
    unfold groupFrom at hu
    split at hu
    · next hb =>
      have hkey := (belongsTo_iff r t).1 hb
      have rest : Continues { t with columns := t.columns ++ r.columns } rows :=
        fun s hs => h s (List.mem_cons_of_mem r hs)
      rw [ih rest hrows hu, ← hkey]
      show (if u.key = t.key then t.columns ++ r.columns else []) ++ _ = _
      split
      · rw [List.append_assoc]
      · rfl
    · next hne =>
      rcases List.mem_cons.1 hu with rfl | hu
      · have later := h.precedes hne ordered
        rw [if_pos rfl, ← columnsOf_cons, columnsOf_of_precedes later, List.append_nil]
      · have hkey := (h.groupFrom_precedes hne ordered u hu).key_ne.symm
        rw [ih (continues_of_before hr) hrows hu, if_neg hkey, List.nil_append]
        rfl

theorem groupRows_pairwise (ordered : rows.Pairwise IntrospectionRow.Before) :
    (groupRows rows).Pairwise TableInfo.Precedes := by
  cases rows with
  | nil => exact .nil
  | cons r rows =>
    obtain ⟨hr, hrows⟩ := List.pairwise_cons.1 ordered
    exact groupFrom_pairwise (continues_of_before hr) hrows

theorem columns_of_groupRows (ordered : rows.Pairwise IntrospectionRow.Before) (hu : u ∈ groupRows rows) :
    u.columns = columnsOf u rows := by
  cases rows with
  | nil => cases hu
  | cons r rows =>
    obtain ⟨hr, hrows⟩ := List.pairwise_cons.1 ordered
    rw [columnsOf_cons]
    exact columns_of_groupFrom (continues_of_before hr) hrows hu

theorem exists_groupRows_iff (rows : List IntrospectionRow) (k : String × String) :
    (∃ u ∈ groupRows rows, u.key = k) ↔ ∃ r ∈ rows, r.key = k := by
  cases rows with
  | nil => simp [groupRows]
  | cons r rows =>
    rw [List.exists_mem_cons_iff]
    exact exists_groupFrom_iff r.begin rows k

end Postgres

end QueryGateway
