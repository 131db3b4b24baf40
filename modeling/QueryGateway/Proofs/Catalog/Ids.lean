import QueryGateway.Proofs.Catalog.Changes
import QueryGateway.Proofs.Moment.Reading
import QueryGateway.Proofs.Moment.Stored
import QueryGateway.Proofs.Outcome

/-!
# Ids and rows over time

An id is given out once. As long as its row is there, it is of the same database and the
same time of registration; once the row is gone, it never comes back. And the rows that
the catalog itself makes can always be read.
-/

namespace QueryGateway

/-! ## Rows that can be read -/

namespace ConnectionRow

/-- The times of a row are moments of a clock, as the storage writes them. -/
structure Timed (r : ConnectionRow) : Prop where
  created : ∃ t : Moment, t.IsReal ∧ r.createdAt = t.offsetText
  synced : ∀ text, r.lastSynced = some text → ∃ t : Moment, t.IsReal ∧ text = t.offsetText

theorem readMoment_offsetText (column : String) {t : Moment} (h : t.IsReal) :
    readMoment column t.offsetText = .ok t := by
  unfold readMoment
  rw [Moment.ofStored?_offsetText h]

/-- A row that can be read has times that can be, and the connection is of these and of what
else is in the row. -/
theorem read_parts {r : ConnectionRow} {x : Connection} (h : r.read = .ok x) :
    readMoment "created_at" r.createdAt = .ok x.createdAt ∧
      r.lastSynced.mapM (readMoment "last_synced") = .ok x.lastSynced ∧
      x = ⟨r.id, r.name, r.url, x.createdAt, x.lastSynced⟩ := by
  obtain ⟨createdAt, created, h⟩ := bind_eq_ok h
  obtain ⟨lastSynced, synced, h⟩ := bind_eq_ok h
  cases h
  exact ⟨created, synced, rfl⟩

/-- A connection is of the id, the database and the time of its row, and synced if that is. -/
theorem read_ok {r : ConnectionRow} {x : Connection} (h : r.read = .ok x) :
    x.id = r.id ∧ x.connectionUrl = r.url ∧ readMoment "created_at" r.createdAt = .ok x.createdAt ∧
      x.lastSynced.isSome = r.lastSynced.isSome := by
  obtain ⟨created, synced, hx⟩ := read_parts h
  refine ⟨by rw [hx], by rw [hx], created, ?_⟩
  rcases mapM_eq_ok synced with ⟨hr, hx⟩ | ⟨text, t, hr, -, hx⟩ <;> rw [hr, hx] <;> rfl

theorem isReal_of_readMoment {column text : String} {t : Moment} (h : readMoment column text = .ok t) : t.IsReal := by
  unfold readMoment at h
  split at h
  · next read =>
    cases h
    exact Moment.isReal_of_ofStored? read
  · cases h

/-- The times of a connection are moments that a clock can show, whatever the row holds. -/
theorem read_isReal {r : ConnectionRow} {x : Connection} (h : r.read = .ok x) :
    x.createdAt.IsReal ∧ ∀ t ∈ x.lastSynced, t.IsReal := by
  obtain ⟨created, synced, -⟩ := read_parts h
  refine ⟨isReal_of_readMoment created, fun t ht => ?_⟩
  rcases mapM_eq_ok synced with ⟨-, hx⟩ | ⟨text, u, -, hu, hx⟩ <;> rw [hx] at ht <;> cases ht
  exact isReal_of_readMoment hu

/-- A row that can be read can be read with the note that it is synced now. -/
theorem read_stamped {r : ConnectionRow} {x : Connection} {now : Moment} (h : r.read = .ok x)
    (hnow : now.IsReal) : (r.stamped now).read = .ok { x with lastSynced := some now } := by
  obtain ⟨created, -, hx⟩ := read_parts h
  have synced : readMoment "last_synced" now.offsetText = .ok now := readMoment_offsetText "last_synced" hnow
  rw [hx]
  unfold ConnectionRow.read
  simp [bind, Except.bind, ConnectionRow.stamped, created, mapM_some_eq_ok synced]

/-- A row with times of a clock is a connection. -/
theorem Timed.read {r : ConnectionRow} (h : r.Timed) : ∃ x, r.read = .ok x := by
  obtain ⟨t, ht, hat⟩ := h.created
  have created : readMoment "created_at" r.createdAt = .ok t := by
    rw [hat]
    exact readMoment_offsetText "created_at" ht
  have synced : ∃ lastSynced, r.lastSynced.mapM (readMoment "last_synced") = .ok lastSynced := by
    cases hs : r.lastSynced with
    | none => exact ⟨none, rfl⟩
    | some text =>
      obtain ⟨u, hu, rfl⟩ := h.synced text hs
      exact ⟨some u, mapM_some_eq_ok (readMoment_offsetText "last_synced" hu)⟩
  obtain ⟨lastSynced, synced⟩ := synced
  refine ⟨⟨r.id, r.name, r.url, t, lastSynced⟩, ?_⟩
  unfold ConnectionRow.read
  simp [bind, Except.bind, created, synced]

theorem Timed.stamped {r : ConnectionRow} {now : Moment} (h : r.Timed) (hnow : now.IsReal) :
    (r.stamped now).Timed :=
  ⟨h.created, fun _ htext => ⟨now, hnow, (Option.some.inj htext).symm⟩⟩

end ConnectionRow

namespace Catalog

variable {c c' : Catalog} {now : Moment} {i : Int}

/-! ## Ids -/

/-- The ids of the rows have been given out. -/
structure Counted (c : Catalog) : Prop where
  nonneg : 0 ≤ c.lastId
  rows : ∀ r ∈ c.connections, 1 ≤ r.id ∧ r.id ≤ c.lastId

/-- No row has an id larger than the last that was given out. -/
def Issued (c : Catalog) : Prop := ∀ r ∈ c.connections, r.id ≤ c.lastId

theorem Counted.issued (h : c.Counted) : c.Issued := fun r hr => (h.rows r hr).2

theorem Change.issued (h : Change now c c') (hc : c.Issued) : c'.Issued := by
  intro r hr
  rcases h.origin hr with ⟨url, name, rfl, -, hl⟩ | ⟨p, hp, hrp⟩
  · exact Int.le_of_eq hl.symm
  · rw [hrp.keeps.1]
    exact Int.le_trans (hc p hp) h.lastId_le

theorem Change.counted (h : Change now c c') (hc : c.Counted) : c'.Counted := by
  have hle := h.lastId_le
  refine ⟨Int.le_trans hc.nonneg hle, fun r hr => ?_⟩
  rcases h.origin hr with ⟨url, name, rfl, -, hl⟩ | ⟨p, hp, hrp⟩
  · have := hc.nonneg
    show 1 ≤ c.lastId + 1 ∧ c.lastId + 1 ≤ c'.lastId
    omega
  · have := hc.rows p hp
    rw [hrp.keeps.1]
    omega

/-- An id that was given out and has no row. -/
structure Gone (i : Int) (c : Catalog) : Prop where
  issued : i ≤ c.lastId
  absent : c.find? i = none

/-- What is gone stays gone: a new row takes a larger id than any before. -/
theorem Change.gone (h : Change now c c') (hg : Gone i c) : Gone i c' := by
  refine ⟨Int.le_trans hg.issued h.lastId_le, (find?_eq_none_iff c' i).2 fun r hr => ?_⟩
  have absent := (find?_eq_none_iff c i).1 hg.absent
  rcases h.origin hr with ⟨url, name, rfl, -, -⟩ | ⟨p, hp, hrp⟩
  · have := hg.issued
    show c.lastId + 1 ≠ i
    omega
  · rw [hrp.keeps.1]
    exact absent p hp

/-! ## Rows -/

/-- An id has a row of a database that was registered at a time, as the storage writes
it. -/
def Denotes (i : Int) (url createdAt : String) (c : Catalog) : Prop :=
  ∃ r, c.find? i = some r ∧ r.url = url ∧ r.createdAt = createdAt

/-- The row of an id stays of one database and one time of registration until it is
gone. -/
theorem Change.denotes {url createdAt : String} (h : Change now c c') (hc : c.Counted)
    (hd : Denotes i url createdAt c) : Denotes i url createdAt c' ∨ Gone i c' := by
  obtain ⟨r, hr, rfl, rfl⟩ := hd
  obtain ⟨hmem, rfl⟩ := mem_of_find? hr
  rcases h.find?_of_some hr with absent | ⟨r', hr', hfollows⟩
  · exact .inr ⟨Int.le_trans (hc.rows r hmem).2 h.lastId_le, absent⟩
  · exact .inl ⟨r', hr', hfollows.keeps.2⟩

/-! ## Times -/

/-- The times of every row are moments of a clock, as the storage writes them. -/
def Timed (c : Catalog) : Prop := ∀ r ∈ c.connections, r.Timed

theorem Change.timed (h : Change now c c') (hnow : now.IsReal) (hc : c.Timed) : c'.Timed := by
  intro r hr
  rcases h.origin hr with ⟨url, name, rfl, -, -⟩ | ⟨p, hp, hrp⟩
  · exact ⟨⟨now, hnow, rfl⟩, nofun⟩
  · have timed := hc p hp
    cases hrp with
    | same => exact timed
    | stamped => exact timed.stamped hnow
    | named => exact ⟨timed.created, timed.synced⟩

/-- The look-up of a timed row reads it. -/
theorem get_of_timed {r : ConnectionRow} (ho : c.isOpen = true) (hr : c.find? i = some r) (ht : r.Timed) :
    ∃ x, c.get i = .ok x ∧ r.read = .ok x := by
  obtain ⟨x, hread⟩ := ht.read
  refine ⟨x, ?_, hread⟩
  unfold get seen
  simp [ho, hr, hread, Except.mapError]

/-- The look-up of an id that denotes a database gives it, with its time of registration. -/
theorem get_of_denotes {url createdAt : String} (ho : c.isOpen = true) (hc : c.Timed)
    (hd : Denotes i url createdAt c) :
    ∃ x, c.get i = .ok x ∧ x.connectionUrl = url ∧ readMoment "created_at" createdAt = .ok x.createdAt := by
  obtain ⟨r, hr, rfl, rfl⟩ := hd
  obtain ⟨x, hx, hread⟩ := get_of_timed ho hr (hc r (mem_of_find? hr).1)
  obtain ⟨-, hurl, hat, -⟩ := ConnectionRow.read_ok hread
  exact ⟨x, hx, hurl, hat⟩

/-- What a look-up gives is what the id denotes. -/
theorem denotes_of_get {x : Connection} (ho : c.isOpen = true) (hc : c.Timed) (h : c.get i = .ok x) :
    ∃ createdAt, Denotes i x.connectionUrl createdAt c ∧
      readMoment "created_at" createdAt = .ok x.createdAt := by
  cases hf : c.find? i with
  | none =>
    unfold get at h
    simp [ho, hf] at h
  | some r =>
    have hd : Denotes i r.url r.createdAt c := ⟨r, hf, rfl, rfl⟩
    obtain ⟨y, hy, hurl, hat⟩ := get_of_denotes ho hc hd
    cases h.symm.trans hy
    exact ⟨r.createdAt, hurl ▸ hd, hat⟩

/-! ## Operations on what is gone -/

theorem get_of_absent (ho : c.isOpen = true) (h : c.find? i = none) : c.get i = .error (.notFound i) := by
  unfold get
  simp [ho, h]

theorem metadata_of_absent (ho : c.isOpen = true) (h : c.find? i = none) :
    c.metadata i = .error (.notFound i) := by
  unfold metadata
  rw [get_of_absent ho h]
  rfl

section

variable (ho : c.isOpen = true) (hg : Gone i c)

include ho hg

theorem get_of_gone : c.get i = .error (.notFound i) := get_of_absent ho hg.absent

theorem metadata_of_gone : c.metadata i = .error (.notFound i) := metadata_of_absent ho hg.absent

theorem replaceTables_of_gone (tables : List TableInfo) :
    c.replaceTables i tables = (.error (.notFound i), c) := replaceTables_of_absent ho hg.absent

theorem update_of_gone (change : ConnectionRow → ConnectionRow) :
    c.update i change = (.error (.notFound i), c) := by
  rcases update_cases i change ho with ⟨-, h⟩ | ⟨r, known, -⟩
  · exact h
  · simp [hg.absent] at known

theorem delete_of_gone : c.delete i = (.error (.notFound i), c) := by
  rcases delete_cases i ho with ⟨-, h⟩ | ⟨known, -⟩
  · exact h
  · simp [hg.absent] at known

end

/-- What is taken out is gone. -/
theorem gone_of_delete (ho : c.isOpen = true) (hc : c.Counted) (h : (c.delete i).1 = .ok ()) :
    Gone i (c.delete i).2 := by
  rcases delete_cases i ho with ⟨-, hd⟩ | ⟨known, hd⟩
  · rw [hd] at h
    cases h
  · obtain ⟨r, hr⟩ := Option.isSome_iff_exists.1 known
    obtain ⟨hmem, rfl⟩ := mem_of_find? hr
    rw [hd]
    refine ⟨(hc.rows r hmem).2, ?_⟩
    rw [find?_remove, if_pos rfl]

end Catalog

end QueryGateway
