import QueryGateway.Proofs.Catalog.Ids
import QueryGateway.Proofs.Catalog.Tables

/-!
# Keys

No two connections have one id or one database, and every table is of a connection that
is there. So a connection is the same thing as its id and as its database, and an id that
was never given out has no tables.
-/

namespace QueryGateway.Catalog

variable {c c' : Catalog} {now : Moment} {i : Int}

/-- The rows are told apart by their ids and by their databases, and the rows of tables are
of connections that are there. -/
structure Keyed (c : Catalog) : Prop where
  ids : (c.connections.map ConnectionRow.id).Nodup
  urls : (c.connections.map ConnectionRow.url).Nodup
  owned : ∀ t ∈ c.tables, (c.find? t.connectionId).isSome

theorem keyed_empty : Keyed {} := ⟨List.nodup_nil, List.nodup_nil, nofun⟩

/-! ## Rows by their keys -/

theorem Keyed.find?_iff (h : c.Keyed) {r : ConnectionRow} : c.find? i = some r ↔ r ∈ c.connections ∧ r.id = i := by
  refine ⟨mem_of_find?, fun ⟨hr, hi⟩ => ?_⟩
  cases hf : c.find? i with
  | none => exact absurd hi ((find?_eq_none_iff c i).1 hf r hr)
  | some s =>
    obtain ⟨hs, hsi⟩ := mem_of_find? hf
    rw [List.inj_on_of_nodup_map h.ids hs hr (hsi.trans hi.symm)]

theorem mem_of_findUrl? {url : String} {r : ConnectionRow} (h : c.findUrl? url = some r) :
    r ∈ c.connections ∧ r.url = url :=
  ⟨List.mem_of_find?_eq_some h, by simpa using List.find?_some h⟩

theorem findUrl?_eq_none_iff (c : Catalog) (url : String) :
    c.findUrl? url = none ↔ ∀ r ∈ c.connections, r.url ≠ url := by
  unfold findUrl?
  simp

/-- Two rows of one database are one. -/
theorem Keyed.eq_of_url (h : c.Keyed) {r s : ConnectionRow} (hr : r ∈ c.connections) (hs : s ∈ c.connections)
    (hurl : r.url = s.url) : r = s :=
  List.inj_on_of_nodup_map h.urls hr hs hurl

/-- An id that was never given out has no tables. -/
theorem Keyed.tablesOf_new (h : c.Keyed) (hc : c.Issued) (hi : c.lastId < i) : c.tablesOf i = [] := by
  refine List.filter_eq_nil_iff.2 fun t ht hti => ?_
  obtain ⟨r, hr⟩ := Option.isSome_iff_exists.1 (h.owned t ht)
  obtain ⟨hmem, hid⟩ := mem_of_find? hr
  have := hc r hmem
  have : t.connectionId = i := by simpa using hti
  omega

/-! ## Every change keeps the keys apart -/

theorem connections_modify (c : Catalog) (id : Int) (change : ConnectionRow → ConnectionRow) {α : Type}
    (key : ConnectionRow → α) (hkey : ∀ r, key (change r) = key r) :
    (c.modify id change).connections.map key = c.connections.map key := by
  unfold modify
  rw [List.map_map]
  refine List.map_congr_left fun r _ => ?_
  show key (if r.id == id then change r else r) = key r
  split
  · exact hkey r
  · rfl

/-- A change to a row in place keeps its key. -/
theorem Keyed.modify (h : c.Keyed) (id : Int) {change : ConnectionRow → ConnectionRow}
    (hid : ∀ r, (change r).id = r.id) (hurl : ∀ r, (change r).url = r.url) : (c.modify id change).Keyed := by
  refine ⟨?_, ?_, fun t ht => ?_⟩
  · rw [connections_modify c id change _ hid]
    exact h.ids
  · rw [connections_modify c id change _ hurl]
    exact h.urls
  · rw [find?_modify _ _ _ _ hid, Option.isSome_map]
    exact h.owned t ht

/-- A new row with an id and a database of its own leaves the keys apart. -/
theorem Keyed.insert (h : c.Keyed) {r : ConnectionRow} {lastId : Int} (id : c.find? r.id = none)
    (url : c.findUrl? r.url = none) : Keyed { c with connections := c.connections ++ [r], lastId } := by
  refine ⟨?_, ?_, fun t ht => ?_⟩
  · show ((c.connections ++ [r]).map ConnectionRow.id).Nodup
    rw [List.map_append]
    refine List.nodup_append.2 ⟨h.ids, List.nodup_singleton _, fun a ha b hb => ?_⟩
    obtain ⟨p, hp, rfl⟩ := List.mem_map.1 ha
    rw [List.mem_singleton.1 hb]
    exact (find?_eq_none_iff c r.id).1 id p hp
  · show ((c.connections ++ [r]).map ConnectionRow.url).Nodup
    rw [List.map_append]
    refine List.nodup_append.2 ⟨h.urls, List.nodup_singleton _, fun a ha b hb => ?_⟩
    obtain ⟨p, hp, rfl⟩ := List.mem_map.1 ha
    rw [List.mem_singleton.1 hb]
    exact (findUrl?_eq_none_iff c r.url).1 url p hp
  · have known := h.owned t ht
    show ((c.connections ++ [r]).find? fun q => q.id == t.connectionId).isSome
    rw [List.find?_append, Option.isSome_or]
    exact Bool.or_eq_true_iff.2 (.inl known)

/-- The next id has no row. -/
theorem Issued.find?_next (h : c.Issued) : c.find? (c.lastId + 1) = none := by
  refine (find?_eq_none_iff c _).2 fun r hr => ?_
  have := h r hr
  omega

theorem Change.keyed (h : Change now c c') (hc : c.Issued) (hk : c.Keyed) : c'.Keyed := by
  cases h with
  | same => exact hk
  | issue => exact ⟨hk.ids, hk.urls, hk.owned⟩
  | register url name _ new => exact hk.insert (r := c.newRow url name now) hc.find?_next new
  | stamp id => exact hk.modify id (ConnectionRow.stamped_id now) fun _ => rfl
  | name id name => exact hk.modify id (ConnectionRow.named_id name) fun _ => rfl
  | fill id tables known =>
    refine ⟨hk.ids, hk.urls, fun t ht => ?_⟩
    rw [find?_fill]
    rcases List.mem_append.1 ht with ht | ht
    · exact hk.owned t (List.mem_filter.1 ht).1
    · obtain ⟨u, -, rfl⟩ := List.mem_map.1 ht
      exact known
  | remove id =>
    have fewer : (c.remove id).connections.Sublist c.connections := List.filter_sublist
    refine ⟨hk.ids.sublist (fewer.map _), hk.urls.sublist (fewer.map _), fun t ht => ?_⟩
    obtain ⟨ht, hother⟩ := List.mem_filter.1 ht
    rw [find?_remove, if_neg (by simpa using hother)]
    exact hk.owned t ht

/-- Every change keeps the tables of a connection apart. -/
theorem Change.tables_nodup (h : Change now c c') (hc : (c.tables.map TableRow.key).Nodup) :
    (c'.tables.map TableRow.key).Nodup := by
  -- Rows are only taken out, except that the ones put in for a connection clash with no others.
  have fewer (id : Int) : ((c.clearTables id).tables.map TableRow.key).Nodup :=
    hc.sublist (List.filter_sublist.map _)
  cases h with
  | fill id tables _ distinct =>
    show (((c.clearTables id).tables ++ tables.map (TableRow.ofTable id)).map TableRow.key).Nodup
    rw [List.map_append]
    refine List.nodup_append.2 ⟨fewer id, (nodup_keys_ofTable id tables).2 distinct, fun a ha b hb hab => ?_⟩
    obtain ⟨r, hr, rfl⟩ := List.mem_map.1 hb
    exact c.key_not_mem_clearTables hr (hab ▸ ha)
  | remove id => exact fewer id
  | _ => exact hc

end QueryGateway.Catalog
