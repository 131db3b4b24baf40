import QueryGateway.Proofs.Catalog.Snapshots
import QueryGateway.Session

/-!
# Connections side by side

All connections share the two tables of the storage. An edit of a connection reads and writes
only what is its own there: its row and the rows of its tables. So edits leave all other
connections as they are, and edits of two connections can be made in either order.
-/

namespace QueryGateway

open Text

/-! ## Rows in the order of their times -/

namespace ConnectionRow

theorem newer_iff (r s : ConnectionRow) :
    r.newer s = true ↔ s.createdAt < r.createdAt ∨ r.createdAt = s.createdAt ∧ s.id ≤ r.id := by
  unfold newer
  simp [Text.lt_iff]

theorem newer_total (r s : ConnectionRow) : r.newer s = true ∨ s.newer r = true := by
  rw [newer_iff, newer_iff]
  rcases lt_trichotomy r.createdAt s.createdAt with h | h | h
  · exact .inr (.inl h)
  · exact (le_total r.id s.id).symm.imp (fun hid => .inr ⟨h, hid⟩) fun hid => .inr ⟨h.symm, hid⟩
  · exact .inl (.inl h)

theorem newer_trans (r s t : ConnectionRow) (h : r.newer s = true) (h' : s.newer t = true) : r.newer t = true := by
  rw [newer_iff] at *
  rcases h with h | ⟨h, hid⟩ <;> rcases h' with h' | ⟨h', hid'⟩
  · exact .inl (lt_trans h' h)
  · exact .inl (h' ▸ h)
  · exact .inl (h ▸ h')
  · exact .inr ⟨h.trans h', le_trans hid' hid⟩

end ConnectionRow

/-! ## Edits -/

/-- What can be done to a connection that is there. -/
inductive Edit
  | replace (tables : List TableInfo)
  | touch
  | rename (name : Option String)
  | delete

namespace Edit

/-- Makes an edit of a connection at a time. -/
def perform (id : Int) (now : Moment) (c : Catalog) : Edit → Answer × Catalog
  | .replace tables => (.done (c.replaceTables id tables).1, (c.replaceTables id tables).2)
  | .touch => (.connection (c.touch id now).1, (c.touch id now).2)
  | .rename name => (.connection (c.rename id name).1, (c.rename id name).2)
  | .delete => (.done (c.delete id).1, (c.delete id).2)

/-- What an edit answers that cannot be made. -/
def refused (e : CatalogError) : Edit → Answer
  | .replace _ | .delete => .done (.error e)
  | .touch | .rename _ => .connection (.error e)

/-- What an edit of a row answers. -/
def answer (now : Moment) (r : ConnectionRow) : Edit → Answer
  | .replace tables => .done (if (tables.map TableInfo.key).Nodup then .ok () else .error (.writeFailed .duplicateTable))
  | .touch => .connection (Catalog.written (r.stamped now))
  | .rename name => .connection (Catalog.written (r.named name))
  | .delete => .done (.ok ())

/-- The catalog behind an edit of a connection that is there. -/
def after (id : Int) (now : Moment) (c : Catalog) : Edit → Catalog
  | .replace tables => if (tables.map TableInfo.key).Nodup then c.fill id tables else c
  | .touch => c.modify id (.stamped now)
  | .rename name => c.modify id (.named name)
  | .delete => c.remove id

/-- An edit does nothing if the storage is closed or the connection is not there. -/
theorem perform_cases (e : Edit) (id : Int) (now : Moment) (c : Catalog) :
    (c.isOpen = false ∧ e.perform id now c = (e.refused (.writeFailed .closed), c)) ∨
    (c.isOpen = true ∧ c.find? id = none ∧ e.perform id now c = (e.refused (.notFound id), c)) ∨
    ∃ r, c.isOpen = true ∧ c.find? id = some r ∧ e.perform id now c = (e.answer now r, e.after id now c) := by
  cases ho : c.isOpen with
  | false =>
    left
    cases e with
    | replace tables => simp [perform, refused, Catalog.replaceTables_of_closed ho]
    | touch => simp [perform, refused, Catalog.touch, Catalog.update_of_closed ho]
    | rename name => simp [perform, refused, Catalog.rename, Catalog.update_of_closed ho]
    | delete => simp [perform, refused, Catalog.delete_of_closed ho]
  | true =>
    right
    cases e with
    | replace tables =>
      rcases Catalog.replaceTables_cases id tables ho with ⟨absent, h⟩ | ⟨known, twice, h⟩ | ⟨known, distinct, h⟩
      · exact .inl ⟨rfl, absent, by simp [perform, refused, h]⟩
      · obtain ⟨r, hr⟩ := Option.isSome_iff_exists.1 known
        exact .inr ⟨r, rfl, hr, by simp [perform, answer, after, h, twice]⟩
      · obtain ⟨r, hr⟩ := Option.isSome_iff_exists.1 known
        exact .inr ⟨r, rfl, hr, by simp [perform, answer, after, h, distinct]⟩
    | touch =>
      rcases Catalog.update_cases id (.stamped now) ho with ⟨absent, h⟩ | ⟨r, hr, h⟩
      · exact .inl ⟨rfl, absent, congrArg (fun o => (Answer.connection o.1, o.2)) h⟩
      · exact .inr ⟨r, rfl, hr, congrArg (fun o => (Answer.connection o.1, o.2)) h⟩
    | rename name =>
      rcases Catalog.update_cases id (.named name) ho with ⟨absent, h⟩ | ⟨r, hr, h⟩
      · exact .inl ⟨rfl, absent, congrArg (fun o => (Answer.connection o.1, o.2)) h⟩
      · exact .inr ⟨r, rfl, hr, congrArg (fun o => (Answer.connection o.1, o.2)) h⟩
    | delete =>
      rcases Catalog.delete_cases id ho with ⟨absent, h⟩ | ⟨known, h⟩
      · exact .inl ⟨rfl, absent, congrArg (fun o => (Answer.done o.1, o.2)) h⟩
      · obtain ⟨r, hr⟩ := Option.isSome_iff_exists.1 known
        exact .inr ⟨r, rfl, hr, congrArg (fun o => (Answer.done o.1, o.2)) h⟩

theorem perform_of_closed {c : Catalog} (ho : c.isOpen = false) (e : Edit) (id : Int) (now : Moment) :
    e.perform id now c = (e.refused (.writeFailed .closed), c) := by
  rcases e.perform_cases id now c with ⟨-, h⟩ | ⟨open_, -⟩ | ⟨r, open_, -⟩
  · exact h
  · cases ho.symm.trans open_
  · cases ho.symm.trans open_

/-- An edit is a change of the catalog. -/
theorem change (e : Edit) (id : Int) (now : Moment) (c : Catalog) : Catalog.Change now c (e.perform id now c).2 := by
  cases e with
  | replace tables => exact Catalog.replaceTables_change id tables now
  | touch => exact Catalog.touch_change id now
  | rename name => exact Catalog.rename_change id name now
  | delete => exact Catalog.delete_change id now

/-- What an edit makes of a row: that of its connection is written to or taken out. -/
def rowAt (id : Int) (now : Moment) (r : ConnectionRow) (e : Edit) : Option ConnectionRow :=
  if r.id = id then
    match e with
    | .replace _ => some r
    | .touch => some (r.stamped now)
    | .rename name => some (r.named name)
    | .delete => none
  else some r

theorem rowAt_of_ne {id : Int} {r : ConnectionRow} (h : r.id ≠ id) (e : Edit) (now : Moment) :
    e.rowAt id now r = some r := if_neg h

theorem id_of_rowAt {e : Edit} {id : Int} {now : Moment} {r q : ConnectionRow} (h : e.rowAt id now r = some q) :
    q.id = r.id := by
  unfold rowAt at h
  split at h
  · cases e <;> cases h <;> rfl
  · cases h
    rfl

/-- Edits of two connections make the same of a row in either order. -/
theorem rowAt_comm {a b : Int} (hab : a ≠ b) (e f : Edit) (t u : Moment) (r : ConnectionRow) :
    ((e.rowAt a t r).bind fun q => f.rowAt b u q) = (f.rowAt b u r).bind fun q => e.rowAt a t q := by
  by_cases ha : r.id = a
  · -- The other edit passes over the row, before and after it is written to.
    have hb : r.id ≠ b := fun h => hab (ha.symm.trans h)
    rw [rowAt_of_ne hb, Option.bind_some]
    cases he : e.rowAt a t r with
    | none => rfl
    | some q => exact rowAt_of_ne ((id_of_rowAt he).trans_ne hb) f u
  · rw [rowAt_of_ne ha, Option.bind_some]
    cases hf : f.rowAt b u r with
    | none => rfl
    | some q => exact (rowAt_of_ne ((id_of_rowAt hf).trans_ne ha) e t).symm

end Edit

namespace Catalog

variable {c c' c'' : Catalog} {a i : Int}

/-! ## Apart from a connection -/

/-- Two catalogs are the same apart from what belongs to a connection. -/
structure SameBut (a : Int) (c c' : Catalog) : Prop where
  isOpen : c'.isOpen = c.isOpen
  rows : (c'.connections.filter fun r => r.id != a) = c.connections.filter fun r => r.id != a
  tables : ∀ i, i ≠ a → c'.tablesOf i = c.tablesOf i

theorem SameBut.refl (a : Int) (c : Catalog) : SameBut a c c := ⟨rfl, rfl, fun _ _ => rfl⟩

theorem SameBut.trans (h : SameBut a c c') (h' : SameBut a c' c'') : SameBut a c c'' :=
  ⟨h'.isOpen.trans h.isOpen, h'.rows.trans h.rows, fun i hi => (h'.tables i hi).trans (h.tables i hi)⟩

/-- What belongs to a connection is the same in two catalogs. -/
structure SameAt (i : Int) (c c' : Catalog) : Prop where
  isOpen : c'.isOpen = c.isOpen
  row : c'.find? i = c.find? i
  tables : c'.tablesOf i = c.tablesOf i

theorem SameAt.symm (h : SameAt i c c') : SameAt i c' c := ⟨h.isOpen.symm, h.row.symm, h.tables.symm⟩

theorem SameAt.trans (h : SameAt i c c') (h' : SameAt i c' c'') : SameAt i c c'' :=
  ⟨h'.isOpen.trans h.isOpen, h'.row.trans h.row, h'.tables.trans h.tables⟩

theorem SameBut.at (h : SameBut a c c') (hi : i ≠ a) : SameAt i c c' := by
  refine ⟨h.isOpen, ?_, h.tables i hi⟩
  -- The search for another row does not notice that the rows of the connection are left out.
  have search : ∀ rows : List ConnectionRow,
      rows.find? (fun r => r.id == i) = (rows.filter fun r => r.id != a).find? fun r => r.id == i := by
    intro rows
    rw [List.find?_filter]
    congr 1
    funext r
    by_cases hr : r.id = i
    · simp [hr, hi]
    · simp [hr]
  unfold find?
  rw [search c'.connections, search c.connections, h.rows]

theorem SameAt.get (h : SameAt i c c') : c'.get i = c.get i := by
  unfold Catalog.get
  rw [h.isOpen, h.row]

theorem SameAt.metadata (h : SameAt i c c') : c'.metadata i = c.metadata i := by
  unfold Catalog.metadata
  rw [h.get, h.tables]

/-- What can be read of all rows can be read of those that are left. -/
theorem mapM_seen_filter (a : Int) {rows : List ConnectionRow} {xs : List Connection} (h : rows.mapM seen = .ok xs) :
    (rows.filter fun r => r.id != a).mapM seen = .ok (xs.filter fun x => x.id != a) := by
  induction rows generalizing xs with
  | nil =>
    cases h
    rfl
  | cons r rows ih =>
    rw [List.mapM_cons] at h
    obtain ⟨x, hx, h⟩ := bind_eq_ok h
    obtain ⟨ys, hys, h⟩ := bind_eq_ok h
    cases h
    have hid : x.id = r.id := (ConnectionRow.read_ok (mapError_eq_ok hx)).1
    rw [List.filter_cons, List.filter_cons, hid]
    split
    · rw [List.mapM_cons, hx, ih hys]
      rfl
    · exact ih hys

/-- The list of connections of timed rows. -/
theorem list_of_timed (ho : c.isOpen = true) (ht : c.Timed) :
    ∃ xs, c.list = .ok xs ∧ (sorted ConnectionRow.newer c.connections).mapM seen = .ok xs := by
  have readable : ∀ rows : List ConnectionRow, (∀ r ∈ rows, r.Timed) → ∃ xs, rows.mapM seen = .ok xs := by
    intro rows timed
    induction rows with
    | nil => exact ⟨[], rfl⟩
    | cons r rows ih =>
      obtain ⟨x, hx⟩ := (timed r List.mem_cons_self).read
      obtain ⟨xs, hxs⟩ := ih fun q hq => timed q (List.mem_cons_of_mem r hq)
      refine ⟨x :: xs, ?_⟩
      rw [List.mapM_cons, hxs]
      unfold seen
      rw [hx]
      rfl
  obtain ⟨xs, hxs⟩ := readable (sorted ConnectionRow.newer c.connections) fun r hr =>
    ht r ((sorted_perm ConnectionRow.newer c.connections).mem_iff.1 hr)
  refine ⟨xs, ?_, hxs⟩
  unfold list
  rw [if_neg (by simp [ho]), hxs]

/-- The list of connections without one of them is the same if all else is. -/
theorem SameBut.list (h : SameBut a c c') (ht : c.Timed) (ht' : c'.Timed) :
    (c'.list.map fun xs => xs.filter fun x => x.id != a) = c.list.map fun xs => xs.filter fun x => x.id != a := by
  have others : ∀ {k : Catalog}, k.isOpen = true → k.Timed →
      (k.list.map fun xs => xs.filter fun x => x.id != a) =
        (sorted ConnectionRow.newer (k.connections.filter fun r => r.id != a)).mapM seen := by
    intro k ho ht
    obtain ⟨xs, hlist, hread⟩ := list_of_timed ho ht
    rw [hlist, ← sorted_filter ConnectionRow.newer_total ConnectionRow.newer_trans, mapM_seen_filter a hread]
    rfl
  cases ho : c.isOpen with
  | true => rw [others ho ht, others (h.isOpen.trans ho) ht', h.rows]
  | false =>
    unfold Catalog.list
    rw [h.isOpen, ho]
    rfl

/-! ## An edit and the other connections -/

theorem modify_sameBut (c : Catalog) (id : Int) {change : ConnectionRow → ConnectionRow}
    (hid : ∀ r, (change r).id = r.id) : SameBut id c (c.modify id change) := by
  refine ⟨rfl, ?_, fun _ _ => rfl⟩
  show (c.connections.map fun r => if r.id == id then change r else r).filter _ = _
  induction c.connections with
  | nil => rfl
  | cons r rows ih =>
    rw [List.map_cons, List.filter_cons, List.filter_cons, ih]
    by_cases hr : r.id = id
    · simp [hr, hid]
    · simp [hr]

theorem remove_sameBut (c : Catalog) (id : Int) : SameBut id c (c.remove id) := by
  refine ⟨rfl, ?_, fun i hi => tablesOf_clearTables_ne c hi⟩
  show (c.connections.filter _).filter _ = _
  rw [List.filter_filter]
  simp

theorem fill_sameBut (c : Catalog) (id : Int) (tables : List TableInfo) : SameBut id c (c.fill id tables) :=
  ⟨rfl, rfl, fun _ hi => tablesOf_fill_ne c hi tables⟩

/-- An edit changes nothing but what belongs to its connection. -/
theorem perform_sameBut (e : Edit) (id : Int) (now : Moment) (c : Catalog) : SameBut id c (e.perform id now c).2 := by
  rcases e.perform_cases id now c with ⟨-, h⟩ | ⟨-, -, h⟩ | ⟨r, -, -, h⟩ <;> rw [h]
  · exact .refl id c
  · exact .refl id c
  · cases e with
    | replace tables =>
      show SameBut id c (if (tables.map TableInfo.key).Nodup then c.fill id tables else c)
      split
      · exact fill_sameBut c id tables
      · exact .refl id c
    | touch => exact modify_sameBut c id (ConnectionRow.stamped_id now)
    | rename name => exact modify_sameBut c id (ConnectionRow.named_id name)
    | delete => exact remove_sameBut c id

/-! ## An edit and its own connection -/

theorem tablesOf_remove (c : Catalog) (id : Int) : (c.remove id).tablesOf id = [] := by
  unfold tablesOf remove clearTables
  simp [List.filter_filter]

/-- An edit answers and leaves for its connection what follows from what belongs to it. -/
theorem perform_congr (h : SameAt i c c') (e : Edit) (now : Moment) :
    (e.perform i now c').1 = (e.perform i now c).1 ∧ SameAt i (e.perform i now c).2 (e.perform i now c').2 := by
  rcases e.perform_cases i now c with ⟨ho, hp⟩ | ⟨ho, hr, hp⟩ | ⟨r, ho, hr, hp⟩ <;>
    rcases e.perform_cases i now c' with ⟨ho', hp'⟩ | ⟨ho', hr', hp'⟩ | ⟨r', ho', hr', hp'⟩
  -- In both catalogs the same happens, since they have the same row.
  case inl.inl => exact ⟨by rw [hp, hp'], by rw [hp, hp']; exact h⟩
  case inr.inl.inr.inl => exact ⟨by rw [hp, hp'], by rw [hp, hp']; exact h⟩
  case inr.inr.inr.inr =>
    cases hr.symm.trans (h.row.symm.trans hr')
    refine ⟨by rw [hp, hp'], ?_⟩
    rw [hp, hp']
    cases e with
    | replace tables =>
      show SameAt i (if (tables.map TableInfo.key).Nodup then c.fill i tables else c)
        (if (tables.map TableInfo.key).Nodup then c'.fill i tables else c')
      split
      · exact ⟨h.isOpen, h.row, by rw [tablesOf_fill, tablesOf_fill]⟩
      · exact h
    | touch =>
      refine ⟨h.isOpen, ?_, h.tables⟩
      show (c'.modify i (.stamped now)).find? i = (c.modify i (.stamped now)).find? i
      rw [find?_modify _ _ _ _ (ConnectionRow.stamped_id now), find?_modify _ _ _ _ (ConnectionRow.stamped_id now), h.row]
    | rename name =>
      refine ⟨h.isOpen, ?_, h.tables⟩
      show (c'.modify i (.named name)).find? i = (c.modify i (.named name)).find? i
      rw [find?_modify _ _ _ _ (ConnectionRow.named_id name), find?_modify _ _ _ _ (ConnectionRow.named_id name), h.row]
    | delete =>
      refine ⟨h.isOpen, ?_, ?_⟩
      · show (c'.remove i).find? i = (c.remove i).find? i
        rw [find?_remove, find?_remove, if_pos rfl, if_pos rfl]
      · show (c'.remove i).tablesOf i = (c.remove i).tablesOf i
        rw [tablesOf_remove, tablesOf_remove]
  all_goals
    have := h.isOpen
    have := h.row
    simp_all

/-! ## Two edits -/

/-- An edit goes over the rows one by one. -/
theorem connections_perform (e : Edit) (id : Int) (now : Moment) (ho : c.isOpen = true) :
    (e.perform id now c).2.connections = c.connections.filterMap fun r => e.rowAt id now r := by
  have written : ∀ {rows : List ConnectionRow} (change : ConnectionRow → ConnectionRow),
      (∀ r, r.id = id → e.rowAt id now r = some (change r)) →
      (rows.map fun r => if r.id == id then change r else r) = rows.filterMap fun r => e.rowAt id now r := by
    intro rows change h
    rw [← List.filterMap_eq_map]
    refine List.filterMap_congr fun r _ => ?_
    by_cases hr : r.id = id
    · simp [hr, h r hr]
    · simp [hr, Edit.rowAt_of_ne hr]
  rcases e.perform_cases id now c with ⟨closed, -⟩ | ⟨-, absent, h⟩ | ⟨r, -, -, h⟩
  · cases ho.symm.trans closed
  · rw [h]
    have none_of_id := (find?_eq_none_iff c id).1 absent
    refine (List.filterMap_some.symm.trans (List.filterMap_congr fun r hr => ?_))
    exact (Edit.rowAt_of_ne (none_of_id r hr) e now).symm
  · rw [h]
    cases e with
    | replace tables =>
      have same : ((Edit.replace tables).after id now c).connections = c.connections := by
        show (if (tables.map TableInfo.key).Nodup then c.fill id tables else c).connections = c.connections
        split <;> rfl
      rw [same, ← written (fun r => r) fun r hr => if_pos hr]
      simp
    | touch => exact written (.stamped now) fun r hr => if_pos hr
    | rename name => exact written (.named name) fun r hr => if_pos hr
    | delete =>
      show c.connections.filter _ = _
      rw [← List.filterMap_eq_filter]
      refine List.filterMap_congr fun r _ => ?_
      by_cases hr : r.id = id
      · simp [hr, Edit.rowAt]
      · simp [hr, Edit.rowAt_of_ne hr]

/-- Edits of two connections, each at its time, give the same answers in either order, and leave
the same rows and for every connection the same. -/
theorem perform_comm {b : Int} (hab : a ≠ b) (e f : Edit) (t u : Moment) (c : Catalog) :
    let behind_e := (e.perform a t c).2
    let behind_f := (f.perform b u c).2
    (e.perform a t behind_f).1 = (e.perform a t c).1 ∧ (f.perform b u behind_e).1 = (f.perform b u c).1 ∧
      (f.perform b u behind_e).2.connections = (e.perform a t behind_f).2.connections ∧
      ∀ i, SameAt i (e.perform a t behind_f).2 (f.perform b u behind_e).2 := by
  intro behind_e behind_f
  have by_e : SameBut a c behind_e := perform_sameBut e a t c
  have by_f : SameBut b c behind_f := perform_sameBut f b u c
  have by_ef := perform_sameBut f b u behind_e
  have by_fe := perform_sameBut e a t behind_f
  obtain ⟨answer_e, at_a⟩ := perform_congr (by_f.at hab) e t
  obtain ⟨answer_f, at_b⟩ := perform_congr (by_e.at hab.symm) f u
  refine ⟨answer_e, answer_f, ?_, fun i => ?_⟩
  · cases ho : c.isOpen with
    | true =>
      rw [connections_perform f b u (by_e.isOpen.trans ho), connections_perform e a t (by_f.isOpen.trans ho),
        connections_perform e a t ho, connections_perform f b u ho, List.filterMap_filterMap, List.filterMap_filterMap]
      exact List.filterMap_congr fun r _ => Edit.rowAt_comm hab e f t u r
    | false =>
      have still_e : behind_e = c := congrArg Prod.snd (Edit.perform_of_closed ho e a t)
      have still_f : behind_f = c := congrArg Prod.snd (Edit.perform_of_closed ho f b u)
      rw [still_e, still_f, Edit.perform_of_closed ho, Edit.perform_of_closed ho]
  · by_cases ha : i = a
    · subst ha
      exact at_a.symm.trans (by_ef.at hab)
    · by_cases hb : i = b
      · subst hb
        exact (by_fe.at ha).symm.trans at_b
      · exact ((by_f.at hb).trans (by_fe.at ha)).symm.trans ((by_e.at ha).trans (by_ef.at hb))

end Catalog

end QueryGateway
