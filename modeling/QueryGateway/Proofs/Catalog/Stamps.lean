import QueryGateway.Proofs.Catalog.Isolation

/-!
# Up to the clock

A touch writes the time into the row of its connection. Two catalogs are alike if they differ
only in such times. Edits cannot tell them apart, and what is read of them differs only in
the times of the last sync.
-/

namespace QueryGateway

/-! ## Times of syncs put out of sight -/

/-- A connection with the time of its last sync, if there is one, replaced by that of its
registration. -/
def Connection.unstamped (x : Connection) : Connection :=
  { x with lastSynced := x.lastSynced.map fun _ => x.createdAt }

/-- An answer without the times of syncs. -/
def Answer.unstamped : Answer → Answer
  | .connection r => .connection (r.map Connection.unstamped)
  | .connections r => .connections (r.map (List.map Connection.unstamped))
  | .metadata r => .metadata (r.map fun m => { m with connection := m.connection.unstamped })
  | a => a

namespace ConnectionRow

/-- A row with the time of its last sync, if there is one, replaced by that of its
registration. -/
def unstamped (r : ConnectionRow) : ConnectionRow :=
  { r with lastSynced := r.lastSynced.map fun _ => r.createdAt }

variable {r q : ConnectionRow}

theorem read_unstamped (h : r.Timed) : r.unstamped.read = r.read.map Connection.unstamped := by
  obtain ⟨x, hx⟩ := h.read
  obtain ⟨t, ht, hat⟩ := h.created
  obtain ⟨created, synced, hparts⟩ := read_parts hx
  have hcreated : x.createdAt = t := by
    rw [hat, readMoment_offsetText _ ht] at created
    exact (Except.ok.inj created).symm
  have again : readMoment "last_synced" r.createdAt = .ok x.createdAt := by
    rw [hat, hcreated]
    exact readMoment_offsetText "last_synced" ht
  rw [hx]
  show r.unstamped.read = .ok x.unstamped
  rcases mapM_eq_ok synced with ⟨hnone, hx'⟩ | ⟨text, u, hsome, -, hx'⟩
  · rw [hparts, hx']
    unfold ConnectionRow.read unstamped Connection.unstamped
    simp [bind, Except.bind, created, hnone, pure, Except.pure]
  · rw [hparts, hx']
    unfold ConnectionRow.read unstamped Connection.unstamped
    simp [bind, Except.bind, created, hsome, mapM_some_eq_ok again]

@[simp] theorem unstamped_unstamped (r : ConnectionRow) : r.unstamped.unstamped = r.unstamped := by
  simp [unstamped, Function.comp_def]

theorem unstamped_stamped (h : r.unstamped = q.unstamped) (t u : Moment) :
    (r.stamped t).unstamped = (q.stamped u).unstamped := by
  simp only [unstamped, ConnectionRow.mk.injEq] at h
  obtain ⟨hid, hname, hurl, hat, -⟩ := h
  simp [unstamped, stamped, hid, hname, hurl, hat]

theorem unstamped_named (h : r.unstamped = q.unstamped) (name : Option String) :
    (r.named name).unstamped = (q.named name).unstamped :=
  congrArg (named name) h

/-- What an edit makes of two rows that differ in the times of syncs differs in such times. -/
theorem unstamped_rowAt (h : r.unstamped = q.unstamped) (e : Edit) (id : Int) (t u : Moment) :
    (e.rowAt id t r).map unstamped = (e.rowAt id u q).map unstamped := by
  have hid : r.id = q.id := by
    show r.unstamped.id = q.unstamped.id
    rw [h]
  unfold Edit.rowAt
  rw [hid]
  split
  · cases e with
    | replace => exact congrArg some h
    | touch => exact congrArg some (unstamped_stamped h t u)
    | rename name => exact congrArg some (unstamped_named h name)
    | delete => rfl
  · exact congrArg some h

/-- What an edit makes of rows depends on the times of syncs only in such times. -/
theorem unstamped_filterMap {rows rows' : List ConnectionRow}
    (h : rows'.map unstamped = rows.map unstamped) (e : Edit) (id : Int) (t u : Moment) :
    (rows'.filterMap fun r => e.rowAt id t r).map unstamped = (rows.filterMap fun r => e.rowAt id u r).map unstamped := by
  have out : ∀ (rows : List ConnectionRow) (v : Moment), (rows.filterMap fun r => e.rowAt id v r).map unstamped =
      (rows.map unstamped).filterMap fun r => (e.rowAt id t r).map unstamped := by
    intro rows v
    rw [List.map_filterMap, List.filterMap_map]
    exact List.filterMap_congr fun r _ => unstamped_rowAt (unstamped_unstamped r).symm e id v t
  rw [out, out, h]

end ConnectionRow

namespace Catalog

variable {c c' : Catalog} {i : Int}

theorem seen_unstamped {r : ConnectionRow} (h : r.Timed) : seen r.unstamped = (seen r).map Connection.unstamped := by
  obtain ⟨x, hx⟩ := h.read
  unfold seen
  rw [ConnectionRow.read_unstamped h, hx]
  rfl

theorem written_unstamped {r : ConnectionRow} (h : r.Timed) :
    written r.unstamped = (written r).map Connection.unstamped := by
  obtain ⟨x, hx⟩ := h.read
  unfold written
  rw [ConnectionRow.read_unstamped h, hx]
  rfl

/-- Two timed rows that differ in the times of syncs are answered as connections that differ in
these. -/
theorem written_congr {r q : ConnectionRow} (hr : r.Timed) (hq : q.Timed) (h : r.unstamped = q.unstamped) :
    (written r).map Connection.unstamped = (written q).map Connection.unstamped := by
  rw [← written_unstamped hr, ← written_unstamped hq, h]

theorem mapM_seen_unstamped {rows : List ConnectionRow} (h : ∀ r ∈ rows, r.Timed) :
    (rows.map ConnectionRow.unstamped).mapM seen = (rows.mapM seen).map (List.map Connection.unstamped) := by
  induction rows with
  | nil => rfl
  | cons r rows ih =>
    rw [List.map_cons, List.mapM_cons, List.mapM_cons, seen_unstamped (h r List.mem_cons_self),
      ih fun q hq => h q (List.mem_cons_of_mem r hq)]
    cases seen r with
    | error e => rfl
    | ok x => cases rows.mapM seen <;> rfl

/-! ## Catalogs that are alike -/

/-- Two catalogs differ, if at all, in the times of syncs. -/
structure Alike (c c' : Catalog) : Prop where
  isOpen : c'.isOpen = c.isOpen
  rows : c'.connections.map ConnectionRow.unstamped = c.connections.map ConnectionRow.unstamped
  tables : ∀ i, c'.tablesOf i = c.tablesOf i

theorem Alike.refl (c : Catalog) : Alike c c := ⟨rfl, rfl, fun _ => rfl⟩

theorem Alike.find? (h : Alike c c') (i : Int) :
    (c'.find? i).map ConnectionRow.unstamped = (c.find? i).map ConnectionRow.unstamped := by
  have search : ∀ k : Catalog, (k.connections.map ConnectionRow.unstamped).find? (fun r => r.id == i) =
      (k.find? i).map ConnectionRow.unstamped := by
    intro k
    rw [List.find?_map]
    rfl
  rw [← search, ← search, h.rows]

/-- An edit puts in and takes out the same tables in both. -/
theorem Alike.tables_after (h : Alike c c') (e : Edit) (id : Int) (t u : Moment) (i : Int) :
    (e.after id u c').tablesOf i = (e.after id t c).tablesOf i := by
  cases e with
  | replace tables =>
    show (if (tables.map TableInfo.key).Nodup then c'.fill id tables else c').tablesOf i =
      (if (tables.map TableInfo.key).Nodup then c.fill id tables else c).tablesOf i
    split
    · by_cases hi : i = id
      · rw [hi, tablesOf_fill, tablesOf_fill]
      · rw [tablesOf_fill_ne c' hi, tablesOf_fill_ne c hi, h.tables i]
    · exact h.tables i
  | touch => exact h.tables i
  | rename name => exact h.tables i
  | delete =>
    by_cases hi : i = id
    · rw [hi]
      exact (tablesOf_remove c' id).trans (tablesOf_remove c id).symm
    · exact (((remove_sameBut c' id).tables i hi).trans (h.tables i)).trans ((remove_sameBut c id).tables i hi).symm

/-- An edit of a row that is there answers for two such catalogs the same, but for the times of
syncs. -/
theorem answer_congr (ht : c.Timed) (ht' : c'.Timed) {r q : ConnectionRow} (hr : r ∈ c.connections) (hq : q ∈ c'.connections)
    (same : q.unstamped = r.unstamped) (e : Edit) {t u : Moment} (real : t.IsReal) (real' : u.IsReal) :
    (e.answer u q).unstamped = (e.answer t r).unstamped := by
  have timed := ht r hr
  have timed' := ht' q hq
  cases e with
  | replace tables => rfl
  | touch =>
    exact congrArg Answer.connection (written_congr (timed'.stamped real') (timed.stamped real)
      (ConnectionRow.unstamped_stamped same u t))
  | rename name =>
    have named : (r.named name).Timed := ⟨timed.created, timed.synced⟩
    have named' : (q.named name).Timed := ⟨timed'.created, timed'.synced⟩
    exact congrArg Answer.connection (written_congr named' named (ConnectionRow.unstamped_named same name))
  | delete => rfl

section

variable (h : Alike c c') (ht : c.Timed) (ht' : c'.Timed)

include h ht ht'

theorem Alike.list : c'.list.map (List.map Connection.unstamped) = c.list.map (List.map Connection.unstamped) := by
  have read : ∀ k : Catalog, k.isOpen = true → k.Timed → k.list.map (List.map Connection.unstamped) =
      (sorted ConnectionRow.newer (k.connections.map ConnectionRow.unstamped)).mapM seen := by
    intro k ho ht
    have timed : ∀ r ∈ sorted ConnectionRow.newer k.connections, r.Timed := fun r hr =>
      ht r ((sorted_perm ConnectionRow.newer k.connections).mem_iff.1 hr)
    -- The order of two rows does not depend on when they were synced.
    rw [sorted_map]
    show _ = ((sorted ConnectionRow.newer k.connections).map ConnectionRow.unstamped).mapM seen
    rw [mapM_seen_unstamped timed]
    unfold Catalog.list
    rw [if_neg (by simp [ho])]
  cases ho : c.isOpen with
  | true => rw [read c ho ht, read c' (h.isOpen.trans ho) ht', h.rows]
  | false =>
    unfold Catalog.list
    rw [h.isOpen, ho]
    rfl

theorem Alike.get (i : Int) : (c'.get i).map Connection.unstamped = (c.get i).map Connection.unstamped := by
  have row := h.find? i
  unfold Catalog.get
  rw [h.isOpen]
  split
  · rfl
  · cases hr : c.find? i with
    | none =>
      rw [hr, Option.map_none, Option.map_eq_none_iff] at row
      rw [row]
    | some r =>
      rw [hr, Option.map_some] at row
      obtain ⟨q, hq, same⟩ := Option.map_eq_some_iff.1 row
      rw [hq]
      dsimp only
      rw [← seen_unstamped (ht r (mem_of_find? hr).1), ← seen_unstamped (ht' q (mem_of_find? hq).1), same]

theorem Alike.metadata (i : Int) :
    (Answer.metadata (c'.metadata i)).unstamped = (Answer.metadata (c.metadata i)).unstamped := by
  have read : ∀ k : Catalog, (Answer.metadata (k.metadata i)).unstamped =
      .metadata (((k.get i).map Connection.unstamped).bind fun x =>
        (((sorted TableRow.before (k.tablesOf i)).mapM TableRow.read).mapError .readFailed).map (⟨x, ·⟩)) := by
    intro k
    unfold Catalog.metadata Answer.unstamped
    cases k.get i with
    | error e => rfl
    | ok x => cases (sorted TableRow.before (k.tablesOf i)).mapM TableRow.read <;> rfl
  rw [read, read, h.get ht ht' i, h.tables i]

/-- An edit cannot tell such catalogs apart, nor the time at which it is made. -/
theorem Alike.perform (e : Edit) (id : Int) {t u : Moment} (real : t.IsReal) (real' : u.IsReal) :
    (e.perform id u c').1.unstamped = (e.perform id t c).1.unstamped ∧
      Alike (e.perform id t c).2 (e.perform id u c').2 := by
  have row := h.find? id
  rcases e.perform_cases id t c with ⟨ho, hp⟩ | ⟨ho, hr, hp⟩ | ⟨r, ho, hr, hp⟩ <;>
    rcases e.perform_cases id u c' with ⟨ho', hp'⟩ | ⟨ho', hr', hp'⟩ | ⟨q, ho', hr', hp'⟩
  -- In both catalogs the same happens, since they have alike rows.
  case inl.inl => exact ⟨by rw [hp, hp'], by rw [hp, hp']; exact h⟩
  case inr.inl.inr.inl => exact ⟨by rw [hp, hp'], by rw [hp, hp']; exact h⟩
  case inr.inr.inr.inr =>
    rw [hr, hr'] at row
    have same : q.unstamped = r.unstamped := Option.some.inj row
    refine ⟨?_, ?_, ?_, fun i => ?_⟩
    · rw [hp, hp']
      exact answer_congr ht ht' (mem_of_find? hr).1 (mem_of_find? hr').1 same e real real'
    · exact ((e.change id u c').isOpen.trans h.isOpen).trans (e.change id t c).isOpen.symm
    · rw [connections_perform e id u ho', connections_perform e id t ho]
      exact ConnectionRow.unstamped_filterMap h.rows e id u t
    · rw [hp, hp']
      exact h.tables_after e id t u i
  all_goals
    have := h.isOpen
    simp_all

end

end Catalog

end QueryGateway
