import QueryGateway.Proofs.Catalog.Changes
import QueryGateway.Proofs.Text.Order
import QueryGateway.Proofs.Wire.Records

/-!
# The tables of a connection

A connection is shown with its tables by schema and name. Tables that the catalog wrote
itself are shown as they were given, and only the connection they are of is concerned when
they are put in or taken out.
-/

namespace QueryGateway

/-! ## The order of tables -/

/-- A table stands before another by its schema, or in one schema by its name, in the order
of code points. -/
def TableInfo.Precedes (t u : TableInfo) : Prop :=
  t.schema < u.schema ∨ t.schema = u.schema ∧ t.name < u.name

namespace TableRow

theorem before_iff (r s : TableRow) :
    r.before s = true ↔ r.schema < s.schema ∨ r.schema = s.schema ∧ r.name ≤ s.name := by
  unfold before
  rw [Bool.or_eq_true, Bool.and_eq_true, Bool.or_eq_true, Text.lt_iff, Text.lt_iff, beq_iff_eq, beq_iff_eq,
    le_iff_lt_or_eq]

theorem before_total (r s : TableRow) : r.before s = true ∨ s.before r = true := by
  rw [before_iff, before_iff]
  rcases lt_trichotomy r.schema s.schema with h | h | h
  · exact .inl (.inl h)
  · exact (le_total r.name s.name).imp (fun hn => .inr ⟨h, hn⟩) fun hn => .inr ⟨h.symm, hn⟩
  · exact .inr (.inl h)

theorem before_trans (r s t : TableRow) (h : r.before s = true) (h' : s.before t = true) : r.before t = true := by
  rw [before_iff] at *
  rcases h with h | ⟨h, hn⟩ <;> rcases h' with h' | ⟨h', hn'⟩
  · exact .inl (lt_trans h h')
  · exact .inl (h' ▸ h)
  · exact .inl (h ▸ h')
  · exact .inr ⟨h.trans h', le_trans hn hn'⟩

/-- A table reads back from its row. -/
theorem read_ofTable (id : Int) (t : TableInfo) : (ofTable id t).read = .ok t := by
  unfold ofTable read
  rw [Wire.parseColumns_columnsText]

theorem mapM_read_ofTable (id : Int) (tables : List TableInfo) :
    (tables.map (ofTable id)).mapM read = .ok tables := by
  induction tables with
  | nil => rfl
  | cons t ts ih =>
    rw [List.map_cons, List.mapM_cons, read_ofTable, ih]
    rfl

end TableRow

namespace TableInfo

/-- Tables in their order. -/
def arranged (tables : List TableInfo) : List TableInfo :=
  sorted (fun t u => (TableRow.ofTable 0 t).before (TableRow.ofTable 0 u)) tables

theorem arranged_perm (tables : List TableInfo) : (arranged tables).Perm tables := sorted_perm _ tables

/-- Tables that are all different are in strict order. -/
theorem arranged_pairwise {tables : List TableInfo} (h : (tables.map key).Nodup) :
    (arranged tables).Pairwise Precedes := by
  have ordered : (arranged tables).Pairwise fun t u =>
      (TableRow.ofTable 0 t).before (TableRow.ofTable 0 u) = true :=
    sorted_pairwise (fun t u => (TableRow.ofTable 0 t).before_total (TableRow.ofTable 0 u))
      (fun t u v => (TableRow.ofTable 0 t).before_trans (TableRow.ofTable 0 u) (TableRow.ofTable 0 v)) tables
  have distinct : (arranged tables).Pairwise fun t u => t.key ≠ u.key :=
    List.pairwise_map.1 (((arranged_perm tables).map key).nodup_iff.2 h)
  refine (ordered.and distinct).imp fun {t u} htu => ?_
  rcases ((TableRow.ofTable 0 t).before_iff (TableRow.ofTable 0 u)).1 htu.1 with hs | ⟨hs, hn⟩
  · exact .inl hs
  · refine .inr ⟨hs, lt_of_le_of_ne hn fun he => htu.2 ?_⟩
    exact Prod.ext hs he

end TableInfo

namespace Catalog

variable {c : Catalog}

/-! ## Whose tables they are -/

theorem tablesOf_fill (c : Catalog) (id : Int) (tables : List TableInfo) :
    (c.fill id tables).tablesOf id = tables.map (TableRow.ofTable id) := by
  have old : (c.clearTables id).tables.filter (fun t => t.connectionId == id) = [] := by
    simp [clearTables, List.filter_filter]
  have new : (tables.map (TableRow.ofTable id)).filter (fun t => t.connectionId == id) =
      tables.map (TableRow.ofTable id) := by
    simp [TableRow.ofTable]
  unfold tablesOf fill
  rw [List.filter_append, old, new, List.nil_append]

theorem tablesOf_clearTables_ne (c : Catalog) {id i : Int} (h : i ≠ id) :
    (c.clearTables id).tablesOf i = c.tablesOf i := by
  unfold tablesOf clearTables
  rw [List.filter_filter]
  refine List.filter_congr fun t _ => ?_
  by_cases ht : t.connectionId = i
  · simp [ht, h]
  · simp [ht]

theorem tablesOf_fill_ne (c : Catalog) {id i : Int} (h : i ≠ id) (tables : List TableInfo) :
    (c.fill id tables).tablesOf i = c.tablesOf i := by
  have new : (tables.map (TableRow.ofTable id)).filter (fun t => t.connectionId == i) = [] := by
    simp [TableRow.ofTable, h.symm]
  rw [← tablesOf_clearTables_ne c h]
  unfold fill tablesOf
  rw [List.filter_append, new, List.append_nil]

/-- A connection whose tables the catalog wrote is shown with them in their order. -/
theorem metadata_of_tablesOf {id : Int} {tables : List TableInfo}
    (h : c.tablesOf id = tables.map (TableRow.ofTable id)) :
    c.metadata id = (c.get id).map fun x => ⟨x, TableInfo.arranged tables⟩ := by
  have rows : sorted TableRow.before (c.tablesOf id) =
      (TableInfo.arranged tables).map (TableRow.ofTable id) := by
    rw [h, sorted_map]
    rfl
  unfold metadata
  rw [rows, TableRow.mapM_read_ofTable]
  cases c.get id with
  | error e => rfl
  | ok x => rfl

end Catalog

end QueryGateway
