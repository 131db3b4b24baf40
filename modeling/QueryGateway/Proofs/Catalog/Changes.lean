import Mathlib.Data.List.Nodup
import QueryGateway.Catalog

/-!
# What the catalog does to its rows

Every operation of the catalog as the few ways it can end while the storage is open:
what it answers, and which rows stand behind it. While it is closed, nothing changes.
`Change` sums them up. An invariant of the rows splits on its cases and never opens an
operation.
-/

namespace QueryGateway

namespace ConnectionRow

/-- A row noted as synced at a time. -/
def stamped (now : Moment) (r : ConnectionRow) : ConnectionRow :=
  { r with lastSynced := some now.offsetText }

/-- A row under another name. -/
def named (name : Option String) (r : ConnectionRow) : ConnectionRow := { r with name }

@[simp] theorem stamped_id (now : Moment) (r : ConnectionRow) : (r.stamped now).id = r.id := rfl

@[simp] theorem named_id (name : Option String) (r : ConnectionRow) : (r.named name).id = r.id := rfl

/-- What an operation at a time makes of a row that it leaves in place. -/
inductive Follows (now : Moment) (p : ConnectionRow) : ConnectionRow → Prop
  | same : Follows now p p
  | stamped : Follows now p (p.stamped now)
  | named (name : Option String) : Follows now p (p.named name)

/-- A row in place keeps its id, its database and its time of registration. -/
theorem Follows.keeps {now : Moment} {p r : ConnectionRow} (h : p.Follows now r) :
    r.id = p.id ∧ r.url = p.url ∧ r.createdAt = p.createdAt := by
  cases h <;> exact ⟨rfl, rfl, rfl⟩

end ConnectionRow

/-- What tells a table of a connection from the others: its schema and its name. -/
def TableInfo.key (t : TableInfo) : String × String := (t.schema, t.name)

namespace TableRow

/-- What tells a table from all others. -/
def key (r : TableRow) : Int × String × String := (r.connectionId, r.schema, r.name)

theorem same_iff (r s : TableRow) : r.same s = true ↔ r.key = s.key := by
  simp [same, key, and_assoc]

end TableRow

namespace Catalog

open Text

/-! ## Rows in, rows out -/

/-- The catalog with the next id given out. -/
def issue (c : Catalog) : Catalog := { c with lastId := c.lastId + 1 }

/-- The row that a registration makes. -/
def newRow (url : String) (name : Option String) (now : Moment) (c : Catalog) : ConnectionRow :=
  ⟨c.lastId + 1, name, url, now.offsetText, none⟩

/-- The catalog with the next id given out to a new row. -/
def register (url : String) (name : Option String) (now : Moment) (c : Catalog) : Catalog :=
  { c.issue with connections := c.connections ++ [c.newRow url name now] }

/-- The catalog with other tables for a connection. -/
def fill (id : Int) (tables : List TableInfo) (c : Catalog) : Catalog :=
  { c with tables := (c.clearTables id).tables ++ tables.map (TableRow.ofTable id) }

/-- The catalog without a connection and its tables. -/
def remove (id : Int) (c : Catalog) : Catalog :=
  { c.clearTables id with connections := c.connections.filter fun r => r.id != id }

/-! ## The operations -/

variable {c c' : Catalog}

/-- A registration takes an id, if there is one left, and makes a row with it, if there
is none of the database. -/
theorem upsert_cases (url : String) (name : Option String) (now : Moment) (ho : c.isOpen = true) :
    (maxInt64 ≤ c.lastId ∧ c.upsert url name now = (.error (.writeFailed .idsExhausted), c)) ∨
    (c.lastId < maxInt64 ∧ ∃ r, c.findUrl? url = some r ∧ c.upsert url name now = (written r, c.issue)) ∨
    (c.lastId < maxInt64 ∧ c.findUrl? url = none ∧
      c.upsert url name now = (written (c.newRow url name now), c.register url name now)) := by
  unfold upsert
  rw [if_neg (by simp [ho])]
  by_cases hl : c.lastId ≥ maxInt64
  · left
    exact ⟨hl, if_pos hl⟩
  · right
    rw [if_neg hl]
    -- The id is taken before the look-up, which does not see ids.
    have hu : c.issue.findUrl? url = c.findUrl? url := rfl
    unfold issue at hu
    dsimp only
    rw [hu]
    cases c.findUrl? url with
    | some r => exact .inl ⟨by omega, r, rfl, rfl⟩
    | none => exact .inr ⟨by omega, rfl, rfl⟩

/-- A table has a row. -/
theorem any_same_iff (c : Catalog) (r : TableRow) :
    c.tables.any r.same = true ↔ r.key ∈ c.tables.map TableRow.key := by
  rw [List.any_eq_true, List.mem_map]
  exact exists_congr fun s => and_congr_right fun _ => (r.same_iff s).trans eq_comm

/-- Rows go in as a whole if no table has two, counting those that are there. -/
theorem insertTables_eq (rows : List TableRow) (c : Catalog) :
    c.insertTables rows =
      if (∀ r ∈ rows, r.key ∉ c.tables.map TableRow.key) ∧ (rows.map TableRow.key).Nodup then
        .ok { c with tables := c.tables ++ rows }
      else .error .duplicateTable := by
  induction rows generalizing c with
  | nil => simp [insertTables]
  | cons r rs ih =>
    have hany := any_same_iff c r
    unfold insertTables
    by_cases hr : r.key ∈ c.tables.map TableRow.key
    · rw [if_pos (hany.2 hr), if_neg]
      exact fun h => h.1 r List.mem_cons_self hr
    · -- What the first row adds is what the others have to differ from.
      have hcond : ((∀ q ∈ rs, q.key ∉ (c.tables ++ [r]).map TableRow.key) ∧ (rs.map TableRow.key).Nodup) ↔
          (∀ q ∈ r :: rs, q.key ∉ c.tables.map TableRow.key) ∧ ((r :: rs).map TableRow.key).Nodup := by
        simp only [List.map_append, List.map_cons, List.map_nil, List.mem_append, List.mem_singleton, not_or,
          List.forall_mem_cons, List.nodup_cons, List.mem_map, not_exists, not_and]
        constructor
        · rintro ⟨h, hn⟩
          exact ⟨⟨by simpa using hr, fun q hq => (h q hq).1⟩, fun q hq => (h q hq).2, hn⟩
        · rintro ⟨⟨-, h⟩, hne, hn⟩
          exact ⟨fun q hq => ⟨h q hq, hne q hq⟩, hn⟩
      rw [if_neg (mt hany.1 hr), ih]
      by_cases h : (∀ q ∈ r :: rs, q.key ∉ c.tables.map TableRow.key) ∧ ((r :: rs).map TableRow.key).Nodup
      · rw [if_pos h, if_pos (hcond.2 h), List.append_assoc]
        rfl
      · rw [if_neg h, if_neg (mt hcond.1 h)]

/-- The rows of tables of a connection are told apart as the tables are. -/
theorem nodup_keys_ofTable (id : Int) (tables : List TableInfo) :
    ((tables.map (TableRow.ofTable id)).map TableRow.key).Nodup ↔ (tables.map TableInfo.key).Nodup := by
  have hmap : (tables.map (TableRow.ofTable id)).map TableRow.key = (tables.map TableInfo.key).map (id, ·) := by
    simp [TableRow.key, TableRow.ofTable, TableInfo.key]
  rw [hmap]
  exact List.nodup_map_iff fun _ _ h => (Prod.mk.inj h).2

/-- The tables of a connection clash with none of another. -/
theorem key_not_mem_clearTables (c : Catalog) {id : Int} {tables : List TableInfo} {r : TableRow}
    (hr : r ∈ tables.map (TableRow.ofTable id)) : r.key ∉ (c.clearTables id).tables.map TableRow.key := by
  intro hmem
  obtain ⟨t, -, rfl⟩ := List.mem_map.1 hr
  obtain ⟨s, hs, hkey⟩ := List.mem_map.1 hmem
  have hid : s.connectionId ≠ id := by simpa using (List.mem_filter.1 hs).2
  exact hid (congrArg Prod.fst hkey)

/-- The rows of tables, put in behind those of other connections, clash only with each
other. -/
theorem insertTables_clearTables (id : Int) (tables : List TableInfo) (c : Catalog) :
    (c.clearTables id).insertTables (tables.map (TableRow.ofTable id)) =
      if (tables.map TableInfo.key).Nodup then .ok (c.fill id tables) else .error .duplicateTable := by
  rw [insertTables_eq]
  by_cases hd : (tables.map TableInfo.key).Nodup
  · rw [if_pos ⟨fun r => c.key_not_mem_clearTables, (nodup_keys_ofTable id tables).2 hd⟩, if_pos hd]
    rfl
  · rw [if_neg (fun h => hd ((nodup_keys_ofTable id tables).1 h.2)), if_neg hd]

/-- Tables are replaced if the connection is known and no two of them are one. -/
theorem replaceTables_cases (id : Int) (tables : List TableInfo) (ho : c.isOpen = true) :
    (c.find? id = none ∧ c.replaceTables id tables = (.error (.notFound id), c)) ∨
    ((c.find? id).isSome ∧ ¬ (tables.map TableInfo.key).Nodup ∧
      c.replaceTables id tables = (.error (.writeFailed .duplicateTable), c)) ∨
    ((c.find? id).isSome ∧ (tables.map TableInfo.key).Nodup ∧
      c.replaceTables id tables = (.ok (), c.fill id tables)) := by
  have hfind : (c.clearTables id).find? id = c.find? id := rfl
  unfold replaceTables transact
  dsimp only
  rw [if_neg (by simp [ho]), hfind, insertTables_clearTables]
  cases hf : c.find? id with
  | none => exact .inl ⟨rfl, rfl⟩
  | some r =>
    by_cases hd : (tables.map TableInfo.key).Nodup
    · rw [if_pos hd]
      exact .inr (.inr ⟨rfl, hd, rfl⟩)
    · rw [if_neg hd]
      exact .inr (.inl ⟨rfl, hd, rfl⟩)

section

variable {id : Int} {tables : List TableInfo} (ho : c.isOpen = true)

include ho

theorem replaceTables_ok_iff :
    (c.replaceTables id tables).1 = .ok () ↔ (c.find? id).isSome ∧ (tables.map TableInfo.key).Nodup := by
  rcases replaceTables_cases id tables ho with ⟨absent, h⟩ | ⟨-, twice, h⟩ | ⟨known, distinct, h⟩ <;> rw [h]
  · simp [absent]
  · exact iff_of_false nofun fun can => twice can.2
  · exact iff_of_true rfl ⟨known, distinct⟩

theorem replaceTables_of_absent (absent : c.find? id = none) :
    c.replaceTables id tables = (.error (.notFound id), c) := by
  rcases replaceTables_cases id tables ho with ⟨-, h⟩ | ⟨known, -⟩ | ⟨known, -⟩
  · exact h
  · simp [absent] at known
  · simp [absent] at known

theorem replaceTables_of_twice (known : (c.find? id).isSome) (twice : ¬ (tables.map TableInfo.key).Nodup) :
    c.replaceTables id tables = (.error (.writeFailed .duplicateTable), c) := by
  rcases replaceTables_cases id tables ho with ⟨absent, -⟩ | ⟨-, -, h⟩ | ⟨-, distinct, -⟩
  · simp [absent] at known
  · exact h
  · exact absurd distinct twice

/-- A replacement that succeeds puts the tables in. -/
theorem replaceTables_of_ok (h : (c.replaceTables id tables).1 = .ok ()) :
    (c.find? id).isSome ∧ (tables.map TableInfo.key).Nodup ∧ (c.replaceTables id tables).2 = c.fill id tables := by
  rcases replaceTables_cases id tables ho with ⟨-, hr⟩ | ⟨-, -, hr⟩ | ⟨known, distinct, hr⟩ <;> rw [hr] at h ⊢
  · cases h
  · cases h
  · exact ⟨known, distinct, rfl⟩

end

/-- A row is changed if it is there. -/
theorem update_cases (id : Int) (change : ConnectionRow → ConnectionRow) (ho : c.isOpen = true) :
    (c.find? id = none ∧ c.update id change = (.error (.notFound id), c)) ∨
    (∃ r, c.find? id = some r ∧ c.update id change = (written (change r), c.modify id change)) := by
  cases hf : c.find? id with
  | none => simp [update, ho, hf]
  | some r => simp [update, ho, hf]

theorem delete_cases (id : Int) (ho : c.isOpen = true) :
    (c.find? id = none ∧ c.delete id = (.error (.notFound id), c)) ∨
    ((c.find? id).isSome ∧ c.delete id = (.ok (), c.remove id)) := by
  cases hf : c.find? id with
  | none => simp [delete, ho, hf]
  | some r => simp [delete, remove, ho, hf]

/-! ## Closed storage -/

section

variable (hc : c.isOpen = false)

include hc

theorem upsert_of_closed (url : String) (name : Option String) (now : Moment) :
    c.upsert url name now = (.error (.writeFailed .closed), c) := by
  simp [upsert, hc]

theorem replaceTables_of_closed (id : Int) (tables : List TableInfo) :
    c.replaceTables id tables = (.error (.writeFailed .closed), c) := by
  simp [replaceTables, transact, hc]

theorem update_of_closed (id : Int) (change : ConnectionRow → ConnectionRow) :
    c.update id change = (.error (.writeFailed .closed), c) := by
  simp [update, hc]

theorem delete_of_closed (id : Int) : c.delete id = (.error (.writeFailed .closed), c) := by
  simp [delete, hc]

end

/-! ## Rows of tables -/

theorem upsert_tables (c : Catalog) (url : String) (name : Option String) (now : Moment) :
    (c.upsert url name now).2.tables = c.tables := by
  unfold upsert
  split
  · rfl
  · split
    · rfl
    · dsimp only
      split <;> rfl

theorem update_tables (c : Catalog) (id : Int) (change : ConnectionRow → ConnectionRow) :
    (c.update id change).2.tables = c.tables := by
  unfold update
  split
  · rfl
  · split <;> rfl

/-- No table is there behind a deletion that was not there before. -/
theorem tables_of_delete (c : Catalog) (id : Int) {r : TableRow} (hr : r ∈ (c.delete id).2.tables) : r ∈ c.tables := by
  unfold delete at hr
  split at hr
  · exact hr
  · split at hr
    · exact hr
    · exact (List.mem_filter.1 hr).1

/-- Behind a replacement there are tables that were there before, and those that it was
given. -/
theorem tables_of_replaceTables (c : Catalog) {id : Int} {tables : List TableInfo} {r : TableRow}
    (hr : r ∈ (c.replaceTables id tables).2.tables) : r ∈ c.tables ∨ ∃ t ∈ tables, r = TableRow.ofTable id t := by
  cases ho : c.isOpen with
  | false =>
    rw [replaceTables_of_closed ho] at hr
    exact .inl hr
  | true =>
    rcases replaceTables_cases id tables ho with ⟨-, h⟩ | ⟨-, -, h⟩ | ⟨-, -, h⟩ <;> rw [h] at hr
    · exact .inl hr
    · exact .inl hr
    · rcases List.mem_append.1 hr with hr | hr
      · exact .inl (List.mem_filter.1 hr).1
      · obtain ⟨t, ht, rfl⟩ := List.mem_map.1 hr
        exact .inr ⟨t, ht, rfl⟩

/-! ## Changes -/

/-- What one operation at a time does to the rows. -/
inductive Change (now : Moment) (c : Catalog) : Catalog → Prop
  | same : Change now c c
  /-- An id is taken for a database that is registered already. -/
  | issue (room : c.lastId < maxInt64) : Change now c c.issue
  | register (url : String) (name : Option String) (room : c.lastId < maxInt64)
      (new : c.findUrl? url = none) : Change now c (c.register url name now)
  | stamp (id : Int) (known : (c.find? id).isSome) : Change now c (c.modify id (.stamped now))
  | name (id : Int) (name : Option String) (known : (c.find? id).isSome) :
      Change now c (c.modify id (.named name))
  | fill (id : Int) (tables : List TableInfo) (known : (c.find? id).isSome)
      (distinct : (tables.map TableInfo.key).Nodup) : Change now c (c.fill id tables)
  | remove (id : Int) (known : (c.find? id).isSome) : Change now c (c.remove id)

theorem upsert_change (url : String) (name : Option String) (now : Moment) :
    Change now c (c.upsert url name now).2 := by
  cases ho : c.isOpen with
  | false =>
    rw [upsert_of_closed ho]
    exact .same
  | true =>
    rcases upsert_cases url name now ho with ⟨-, h⟩ | ⟨room, r, -, h⟩ | ⟨room, new, h⟩ <;> rw [h]
    · exact .same
    · exact .issue room
    · exact .register url name room new

theorem replaceTables_change (id : Int) (tables : List TableInfo) (now : Moment) :
    Change now c (c.replaceTables id tables).2 := by
  cases ho : c.isOpen with
  | false =>
    rw [replaceTables_of_closed ho]
    exact .same
  | true =>
    rcases replaceTables_cases id tables ho with ⟨-, h⟩ | ⟨-, -, h⟩ | ⟨known, distinct, h⟩ <;> rw [h]
    · exact .same
    · exact .same
    · exact .fill id tables known distinct

theorem touch_change (id : Int) (now : Moment) : Change now c (c.touch id now).2 := by
  unfold touch
  cases ho : c.isOpen with
  | false =>
    rw [update_of_closed ho]
    exact .same
  | true =>
    rcases update_cases id _ ho with ⟨-, h⟩ | ⟨r, known, h⟩ <;> rw [h]
    · exact .same
    · exact .stamp id (by rw [known]; rfl)

theorem rename_change (id : Int) (name : Option String) (now : Moment) :
    Change now c (c.rename id name).2 := by
  unfold rename
  cases ho : c.isOpen with
  | false =>
    rw [update_of_closed ho]
    exact .same
  | true =>
    rcases update_cases id _ ho with ⟨-, h⟩ | ⟨r, known, h⟩ <;> rw [h]
    · exact .same
    · exact .name id name (by rw [known]; rfl)

theorem delete_change (id : Int) (now : Moment) : Change now c (c.delete id).2 := by
  cases ho : c.isOpen with
  | false =>
    rw [delete_of_closed ho]
    exact .same
  | true =>
    rcases delete_cases id ho with ⟨-, h⟩ | ⟨known, h⟩ <;> rw [h]
    · exact .same
    · exact .remove id known

/-! ## Rows from elsewhere -/

theorem of_insertConnection? {r : ConnectionRow} (h : c.insertConnection? r = some c') :
    c.find? r.id = none ∧ c.findUrl? r.url = none ∧
      c' = { c with connections := c.connections ++ [r], lastId := max c.lastId r.id } := by
  unfold insertConnection? at h
  split at h
  · cases h
  · next hfree =>
    cases h
    simp only [Bool.or_eq_true, not_or, Option.not_isSome_iff_eq_none] at hfree
    exact ⟨hfree.1.2, hfree.2, rfl⟩

theorem of_insertTable? {r : TableRow} (h : c.insertTable? r = some c') :
    (c.find? r.connectionId).isSome ∧ r.key ∉ c.tables.map TableRow.key ∧
      c' = { c with tables := c.tables ++ [r] } := by
  unfold insertTable? at h
  split at h
  · cases h
  · next hfree =>
    cases h
    simp only [Bool.or_eq_true, not_or, Option.isNone_iff_eq_none] at hfree
    refine ⟨Option.isSome_iff_ne_none.2 hfree.1.2, fun hkey => hfree.2 ?_, rfl⟩
    exact (any_same_iff c r).2 hkey

/-! ## Rows by their ids -/

@[simp] theorem find?_issue (c : Catalog) (i : Int) : c.issue.find? i = c.find? i := rfl

@[simp] theorem find?_fill (c : Catalog) (id i : Int) (tables : List TableInfo) :
    (c.fill id tables).find? i = c.find? i := rfl

theorem find?_register (c : Catalog) (url : String) (name : Option String) (now : Moment) (i : Int) :
    (c.register url name now).find? i =
      (c.find? i).or (if c.lastId + 1 = i then some (c.newRow url name now) else none) := by
  unfold find? register
  rw [List.find?_append, List.find?_singleton]
  simp [newRow]

theorem find?_modify (c : Catalog) (id i : Int) (change : ConnectionRow → ConnectionRow)
    (hid : ∀ r, (change r).id = r.id) :
    (c.modify id change).find? i = (c.find? i).map fun r => if r.id = id then change r else r := by
  -- No id changes, so the search stops at the same row.
  have hsame : ((fun r : ConnectionRow => r.id == i) ∘ fun r => if r.id = id then change r else r) =
      fun r => r.id == i := by
    funext r
    show ((if r.id = id then change r else r).id == i) = (r.id == i)
    split
    · rw [hid r]
    · rfl
  unfold find? modify
  simp only [beq_iff_eq]
  rw [List.find?_map, hsame]

theorem find?_remove (c : Catalog) (id i : Int) :
    (c.remove id).find? i = if i = id then none else c.find? i := by
  unfold find? remove
  rw [List.find?_filter]
  by_cases h : i = id
  · subst h
    simp
  · rw [if_neg h]
    congr 1
    funext r
    by_cases hr : r.id = i
    · simp [hr, h]
    · simp [hr]

theorem mem_of_find? {i : Int} {r : ConnectionRow} (h : c.find? i = some r) :
    r ∈ c.connections ∧ r.id = i :=
  ⟨List.mem_of_find?_eq_some h, by simpa using List.find?_some h⟩

theorem find?_eq_none_iff (c : Catalog) (i : Int) :
    c.find? i = none ↔ ∀ r ∈ c.connections, r.id ≠ i := by
  unfold find?
  simp

/-! ## What every change keeps -/

variable {now : Moment}

theorem Change.isOpen (h : Change now c c') : c'.isOpen = c.isOpen := by
  cases h <;> rfl

theorem Change.lastId_le (h : Change now c c') : c.lastId ≤ c'.lastId := by
  cases h with
  | issue | register =>
    show c.lastId ≤ c.lastId + 1
    omega
  | _ => exact Int.le_refl _

/-- Every row of a connection is new, or follows a row that was there. -/
theorem Change.origin (h : Change now c c') {r : ConnectionRow} (hr : r ∈ c'.connections) :
    (∃ url name, r = c.newRow url name now ∧ c.findUrl? url = none ∧ c'.lastId = c.lastId + 1) ∨
    ∃ p ∈ c.connections, p.Follows now r := by
  cases h with
  | same => exact .inr ⟨r, hr, .same⟩
  | issue => exact .inr ⟨r, hr, .same⟩
  | register url name _ new =>
    rcases List.mem_append.1 hr with hr | hr
    · exact .inr ⟨r, hr, .same⟩
    · exact .inl ⟨url, name, List.mem_singleton.1 hr, new, rfl⟩
  | stamp id =>
    obtain ⟨p, hp, rfl⟩ := List.mem_map.1 hr
    refine .inr ⟨p, hp, ?_⟩
    split
    · exact .stamped
    · exact .same
  | name id name =>
    obtain ⟨p, hp, rfl⟩ := List.mem_map.1 hr
    refine .inr ⟨p, hp, ?_⟩
    split
    · exact .named name
    · exact .same
  | fill => exact .inr ⟨r, hr, .same⟩
  | remove => exact .inr ⟨r, (List.mem_filter.1 hr).1, .same⟩

/-- The row of an id goes, or is followed by another. -/
theorem Change.find?_of_some (h : Change now c c') {i : Int} {p : ConnectionRow} (hp : c.find? i = some p) :
    c'.find? i = none ∨ ∃ r, c'.find? i = some r ∧ p.Follows now r := by
  cases h with
  | same => exact .inr ⟨p, hp, .same⟩
  | issue =>
    rw [find?_issue]
    exact .inr ⟨p, hp, .same⟩
  | register url name =>
    rw [find?_register, hp]
    exact .inr ⟨p, rfl, .same⟩
  | stamp id =>
    rw [find?_modify _ _ _ _ (ConnectionRow.stamped_id now), hp]
    refine .inr ⟨_, rfl, ?_⟩
    dsimp only
    split
    · exact .stamped
    · exact .same
  | name id name =>
    rw [find?_modify _ _ _ _ (ConnectionRow.named_id name), hp]
    refine .inr ⟨_, rfl, ?_⟩
    dsimp only
    split
    · exact .named name
    · exact .same
  | fill =>
    rw [find?_fill]
    exact .inr ⟨p, hp, .same⟩
  | remove id =>
    rw [find?_remove]
    split
    · exact .inl rfl
    · exact .inr ⟨p, hp, .same⟩

end Catalog

end QueryGateway
