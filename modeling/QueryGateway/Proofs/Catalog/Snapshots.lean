import QueryGateway.Proofs.Catalog.Keys

/-!
# Snapshots

What a look into a database found is kept as a whole and shown as it was found. Only the
next look into that database changes it, and it goes with its connection: whatever else is
registered, named or taken out does not touch it.
-/

namespace QueryGateway.Catalog

open Text

variable {c c' : Catalog} {now : Moment}

/-! ## Connections of timed rows -/

theorem read_of_written {r : ConnectionRow} {x : Connection} (h : written r = .ok x) : r.read = .ok x :=
  mapError_eq_ok h

theorem written_ok {r : ConnectionRow} {x : Connection} (h : written r = .ok x) : x.id = r.id :=
  (ConnectionRow.read_ok (read_of_written h)).1

theorem written_stamped {r : ConnectionRow} {x : Connection} (h : written r = .ok x) (hnow : now.IsReal) :
    written (r.stamped now) = .ok { x with lastSynced := some now } := by
  unfold written
  rw [ConnectionRow.read_stamped (read_of_written h) hnow]
  rfl

/-- A look-up shows what the change of the row answered. -/
theorem get_of_written {i : Int} {r : ConnectionRow} {x : Connection} (ho : c.isOpen = true) (hr : c.find? i = some r)
    (h : written r = .ok x) : c.get i = .ok x := by
  unfold get seen
  simp [ho, hr, read_of_written h, Except.mapError]

theorem written_of_timed {r : ConnectionRow} (h : r.Timed) : ∃ x, written r = .ok x := by
  obtain ⟨x, hread⟩ := h.read
  unfold written
  exact ⟨x, by rw [hread]; rfl⟩

/-! ## What is shown -/

/-- The catalog shows of a connection what a look into its database found, or that there was
no look. -/
structure Shows (c : Catalog) (r : ConnectionRow) (found : Option (List TableInfo)) : Prop where
  tables : c.tablesOf r.id = (found.getD []).map (TableRow.ofTable r.id)
  distinct : ((found.getD []).map TableInfo.key).Nodup
  synced : r.lastSynced.isSome = found.isSome

/-- What is shown of a timed row: the tables in their order, and whether there was a look. -/
theorem Shows.metadata {r : ConnectionRow} {found : Option (List TableInfo)} (h : c.Shows r found)
    (ho : c.isOpen = true) (hr : c.find? r.id = some r) (ht : r.Timed) :
    ∃ x, c.get r.id = .ok x ∧ c.metadata r.id = .ok ⟨x, TableInfo.arranged (found.getD [])⟩ ∧
      x.connectionUrl = r.url ∧ x.lastSynced.isSome = found.isSome := by
  obtain ⟨x, hx, hread⟩ := get_of_timed ho hr ht
  obtain ⟨-, hurl, -, hsynced⟩ := ConnectionRow.read_ok hread
  refine ⟨x, hx, ?_, hurl, hsynced.trans h.synced⟩
  rw [metadata_of_tablesOf h.tables, hx]
  rfl

/-! ## Changes without a look -/

/-- How a row comes through a change that no look into its database belongs to: it shows what
it showed, or it is new and shows nothing. -/
inductive Kept (c c' : Catalog) (r : ConnectionRow) : Prop
  | old (p : ConnectionRow) (mem : p ∈ c.connections) (id : r.id = p.id) (url : r.url = p.url)
      (synced : r.lastSynced.isSome = p.lastSynced.isSome) (tables : c'.tablesOf r.id = c.tablesOf r.id)
  | new (fresh : c.lastId < r.id) (synced : r.lastSynced = none) (tables : c'.tablesOf r.id = [])

theorem Kept.refl {r : ConnectionRow} (h : r ∈ c.connections) : Kept c c r := .old r h rfl rfl rfl rfl

/-- A change to the tables of others does not count. -/
theorem Kept.congr {c'' : Catalog} {r : ConnectionRow} (h : Kept c c' r)
    (ht : c''.tablesOf r.id = c'.tablesOf r.id) : Kept c c'' r := by
  cases h with
  | old p mem id url synced tables => exact .old p mem id url synced (ht.trans tables)
  | new fresh synced tables => exact .new fresh synced (ht.trans tables)

theorem upsert_kept (url : String) (name : Option String) (now : Moment) (ho : c.isOpen = true)
    (hc : c.Issued) (hk : c.Keyed) :
    ∀ r ∈ (c.upsert url name now).2.connections, Kept c (c.upsert url name now).2 r := by
  rcases upsert_cases url name now ho with ⟨-, h⟩ | ⟨-, q, -, h⟩ | ⟨-, -, h⟩ <;> rw [h]
  · exact fun r hr => .refl hr
  · exact fun r hr => .old r hr rfl rfl rfl rfl
  · intro r hr
    rcases List.mem_append.1 hr with hr | hr
    · exact .old r hr rfl rfl rfl rfl
    · obtain rfl := List.mem_singleton.1 hr
      have fresh : c.lastId < (c.newRow url name now).id := Int.lt_succ c.lastId
      exact .new fresh rfl (hk.tablesOf_new hc fresh)

theorem rename_kept (id : Int) (name : Option String) (ho : c.isOpen = true) :
    ∀ r ∈ (c.rename id name).2.connections, Kept c (c.rename id name).2 r := by
  unfold rename
  rcases update_cases id _ ho with ⟨-, h⟩ | ⟨q, -, h⟩ <;> rw [h]
  · exact fun r hr => .refl hr
  · intro r hr
    obtain ⟨p, hp, rfl⟩ := List.mem_map.1 hr
    refine .old p hp ?_ ?_ ?_ rfl <;> split <;> rfl

theorem delete_kept (id : Int) (ho : c.isOpen = true) :
    ∀ r ∈ (c.delete id).2.connections, Kept c (c.delete id).2 r := by
  rcases delete_cases id ho with ⟨-, h⟩ | ⟨-, h⟩ <;> rw [h]
  · exact fun r hr => .refl hr
  · intro r hr
    obtain ⟨hr, hid⟩ := List.mem_filter.1 hr
    exact .old r hr rfl rfl rfl (tablesOf_clearTables_ne c (by simpa using hid))

/-- A registration changes nothing for a connection that is there. -/
theorem metadata_upsert {i : Int} (url : String) (name : Option String) (now : Moment) (ho : c.isOpen = true)
    (known : (c.find? i).isSome) : (c.upsert url name now).2.metadata i = c.metadata i := by
  rcases upsert_cases url name now ho with ⟨-, h⟩ | ⟨-, q, -, h⟩ | ⟨-, -, h⟩ <;> rw [h]
  · rfl
  · have hfind : (c.register url name now).find? i = c.find? i := by
      obtain ⟨r, hr⟩ := Option.isSome_iff_exists.1 known
      rw [find?_register, hr, Option.some_or]
    unfold metadata get
    rw [hfind]
    rfl

/-! ## A look -/

/-- A registration that answers a connection leaves a row for the database that reads as it. -/
theorem find?_of_upsert {url : String} {name : Option String} {x : Connection} (ho : c.isOpen = true)
    (hc : c.Issued) (hk : c.Keyed) (h : (c.upsert url name now).1 = .ok x) :
    ∃ r, (c.upsert url name now).2.find? x.id = some r ∧ r.url = url ∧ written r = .ok x := by
  rcases upsert_cases url name now ho with ⟨-, hu⟩ | ⟨-, r, found, hu⟩ | ⟨-, -, hu⟩ <;> rw [hu] at h ⊢ <;>
    dsimp only at h ⊢
  · cases h
  · obtain ⟨hr, hurl⟩ := mem_of_findUrl? found
    rw [find?_issue, written_ok h]
    exact ⟨r, hk.find?_iff.2 ⟨hr, rfl⟩, hurl, h⟩
  · have hid : x.id = c.lastId + 1 := written_ok h
    refine ⟨c.newRow url name now, ?_, rfl, h⟩
    rw [hid, find?_register, hc.find?_next, if_pos rfl, Option.none_or]

/-- A registration at a moment answers a connection if there is an id left. -/
theorem upsert_ok_iff (url : String) (name : Option String) (ho : c.isOpen = true) (ht : c.Timed)
    (hnow : now.IsReal) : (∃ x, (c.upsert url name now).1 = .ok x) ↔ c.lastId < maxInt64 := by
  rcases upsert_cases url name now ho with ⟨full, hu⟩ | ⟨room, r, found, hu⟩ | ⟨room, -, hu⟩ <;> rw [hu] <;>
    dsimp only
  · refine iff_of_false ?_ (by omega)
    rintro ⟨x, hx⟩
    cases hx
  · exact iff_of_true (written_of_timed (ht r (mem_of_findUrl? found).1)) room
  · have timed : (c.newRow url name now).Timed := ⟨⟨now, hnow, rfl⟩, nofun⟩
    exact iff_of_true (written_of_timed timed) room

theorem touch_of_find? {id : Int} {r : ConnectionRow} (ho : c.isOpen = true) (hr : c.find? id = some r) :
    c.touch id now = (written (r.stamped now), c.modify id (.stamped now)) := by
  unfold touch
  rcases update_cases id _ ho with ⟨absent, -⟩ | ⟨q, known, h⟩
  · cases hr.symm.trans absent
  · cases hr.symm.trans known
    exact h

theorem find?_of_look {id : Int} {q : ConnectionRow} (tables : List TableInfo) (now : Moment)
    (hq : c.find? id = some q) :
    ((c.fill id tables).modify id (.stamped now)).find? id = some (q.stamped now) := by
  rw [find?_modify _ _ _ _ (ConnectionRow.stamped_id now), find?_fill, hq, Option.map_some,
    if_pos (mem_of_find? hq).2]

/-- The writes of a look into the database of a connection: its row shows what was found, and
all others are as they were. -/
theorem shows_of_look {id : Int} {q : ConnectionRow} {tables : List TableInfo} (hk : c.Keyed)
    (hq : c.find? id = some q) (distinct : (tables.map TableInfo.key).Nodup) {r : ConnectionRow}
    (hr : r ∈ ((c.fill id tables).modify id (.stamped now)).connections) :
    (r.url = q.url ∧ Shows ((c.fill id tables).modify id (.stamped now)) r (some tables)) ∨
      (r.url ≠ q.url ∧ r ∈ c.connections ∧
        ((c.fill id tables).modify id (.stamped now)).tablesOf r.id = c.tablesOf r.id) := by
  obtain ⟨hmem, rfl⟩ := mem_of_find? hq
  obtain ⟨p, hp, rfl⟩ := List.mem_map.1 hr
  have hp : p ∈ c.connections := hp
  by_cases hid : p.id = q.id
  · left
    obtain rfl : p = q := List.inj_on_of_nodup_map hk.ids hp hmem hid
    rw [if_pos (beq_self_eq_true p.id)]
    exact ⟨rfl, tablesOf_fill c p.id tables, distinct, rfl⟩
  · right
    rw [if_neg (by simpa using hid)]
    refine ⟨fun hurl => hid ?_, hp, tablesOf_fill_ne c hid tables⟩
    rw [hk.eq_of_url hp hmem hurl]

/-- Behind a change every row shows what was found in its database with the change, and is
kept if nothing was. -/
def Records (found : String → Option (List TableInfo)) (c c' : Catalog) : Prop :=
  ∀ r ∈ c'.connections, (∃ tables, found r.url = some tables ∧ Shows c' r (some tables)) ∨
    (found r.url = none ∧ Kept c c' r)

/-- If every row shows what is known of its database, then behind a change it shows what is
known with what was found. -/
theorem Records.shows {found : String → Option (List TableInfo)} {known : Int → String → Option (List TableInfo)}
    (h : Records found c c') (shows : ∀ p ∈ c.connections, c.Shows p (known p.id p.url))
    (fresh : ∀ i url, c.lastId < i → known i url = none) :
    ∀ r ∈ c'.connections, c'.Shows r ((found r.url).or (known r.id r.url)) := by
  intro r hr
  rcases h r hr with ⟨tables, hfound, shown⟩ | ⟨hfound, kept⟩
  · rw [hfound, Option.some_or]
    exact shown
  · rw [hfound, Option.none_or]
    cases kept with
    | old p mem id url synced tables =>
      have shown := shows p mem
      rw [id, url]
      exact ⟨by rw [tables, id, shown.tables], shown.distinct, synced.trans shown.synced⟩
    | new hi synced tables =>
      rw [fresh r.id r.url hi]
      exact ⟨tables, List.nodup_nil, by rw [synced]; rfl⟩

end QueryGateway.Catalog
