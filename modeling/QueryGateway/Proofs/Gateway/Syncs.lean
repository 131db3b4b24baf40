import QueryGateway.Proofs.Catalog.Connections
import QueryGateway.Proofs.Catalog.Snapshots
import QueryGateway.Proofs.Gateway.Rows

/-!
# Syncs and what they leave

A sync that succeeds leaves what it found in its database, and nothing else changes. One
that fails may have registered its database, but all that is known stays: it either stops
before the tables are replaced, or the replacement takes nothing out.
-/

namespace QueryGateway.Gateway

open Catalog Text

variable {g g' : Gateway} {url : String} {name : Option String}

/-! ## Keys and ids under acts -/

theorem Becomes.keyed (h : g.Becomes g') (hs : g.Sound) (hk : g.catalog.Keyed) : g'.catalog.Keyed := by
  refine (h.keeps (P := fun k => k.Sound ∧ k.catalog.Keyed) (fun k k' ha hk => ?_) ⟨hs, hk⟩).2
  exact ⟨ha.sound hk.1, ha.change.keyed hk.1.counted.issued hk.2⟩

theorem Becomes.lastId_le (h : g.Becomes g') : g.catalog.lastId ≤ g'.catalog.lastId :=
  h.keeps (P := fun k => g.catalog.lastId ≤ k.catalog.lastId)
    (fun _ _ ha hk => Int.le_trans hk ha.change.lastId_le) (Int.le_refl _)

theorem Becomes.narrow (h : g.Becomes g') (hc : g.catalog.Narrow) : g'.catalog.Narrow :=
  h.keeps (P := fun k => k.catalog.Narrow) (fun _ _ ha hk => ha.change.narrow hk) hc

/-! ## The catalog behind an act -/

theorem catalog_of_upsert {call : Call} {r : Except CatalogError Connection}
    (h : (g.note call).upsert url name = (r, g')) : g.catalog.upsert url name g.now = (r, g'.catalog) :=
  congrArg (fun o => (o.1, o.2.catalog)) h

theorem catalog_of_replaceTables {id : Int} {tables : List TableInfo} {r : Except CatalogError Unit}
    (h : g.replaceTables id tables = (r, g')) : g.catalog.replaceTables id tables = (r, g'.catalog) :=
  congrArg (fun o => (o.1, o.2.catalog)) h

theorem catalog_of_touch {id : Int} {r : Except CatalogError Connection} (h : g.touch id = (r, g')) :
    g.catalog.touch id g.now = (r, g'.catalog) :=
  congrArg (fun o => (o.1, o.2.catalog)) h

/-! ## How syncs end -/

/-- What a sync needs to succeed: its database can be looked into, no table is found twice
there, and there is an id left. -/
structure Syncable (g : Gateway) (url : String) (tables : List TableInfo) : Prop where
  looked : g.remote.introspect url = .ok tables
  distinct : (tables.map TableInfo.key).Nodup
  room : g.catalog.lastId < maxInt64

/-- How a sync ends for the catalog: nothing happens besides the registration, or what was
found is kept for the connection to the database. -/
inductive Ends (url : String) (name : Option String) (g : Gateway) :
    Except GatewayError ConnectionMetadata → Catalog → Prop
  | failed {e : GatewayError} {c' : Catalog} (lacks : ∀ tables, ¬ g.Syncable url tables)
      (left : c' = g.catalog ∨ c' = (g.catalog.upsert url name g.now).2) : Ends url name g (.error e) c'
  | succeeded {m : ConnectionMetadata} {id : Int} {q : ConnectionRow} {tables : List TableInfo}
      {now : Moment} (can : g.Syncable url tables)
      (row : (g.catalog.upsert url name g.now).2.find? id = some q) (of : q.url = url) :
      Ends url name g (.ok m)
        (((g.catalog.upsert url name g.now).2.fill id tables).modify id (.stamped now))

/-- Nothing is registered in closed storage. -/
theorem isOpen_of_registered {call : Call} {x : Connection} (registered : (g.note call).upsert url name = (.ok x, g')) :
    g.catalog.isOpen = true := by
  have hu := catalog_of_upsert registered
  cases ho : g.catalog.isOpen with
  | true => rfl
  | false =>
    rw [upsert_of_closed ho] at hu
    cases (Prod.mk.inj hu).1

section

variable {call : Call} {tables : List TableInfo} {x : Connection} {g1 g2 g3 : Gateway}
variable (ho : g.catalog.isOpen = true) (hc : g.catalog.Issued) (hk : g.catalog.Keyed)
variable (registered : (g.note call).upsert url name = (.ok x, g1))

include ho hc hk registered

/-- Behind a registration that succeeds, a replacement fails only for a table that is there
twice, and leaves what the registration made. -/
theorem left_of_unreplaced {e : CatalogError} (replaced : g1.replaceTables x.id tables = (.error e, g2)) :
    ¬ (tables.map TableInfo.key).Nodup ∧ e = .writeFailed .duplicateTable ∧
      g2.catalog = (g.catalog.upsert url name g.now).2 := by
  have hu : g.catalog.upsert url name g.now = (.ok x, g1.catalog) := catalog_of_upsert registered
  have ho : g1.catalog.isOpen = true := by
    have := (upsert_change (c := g.catalog) url name g.now).isOpen.trans ho
    rwa [hu] at this
  obtain ⟨q, hq, -⟩ := find?_of_upsert (by assumption) hc hk (congrArg Prod.fst hu)
  have hr := catalog_of_replaceTables replaced
  have known : (g1.catalog.find? x.id).isSome := by
    rw [hu] at hq
    exact Option.isSome_of_eq_some hq
  have twice : ¬ (tables.map TableInfo.key).Nodup := fun distinct => by
    cases (congrArg Prod.fst hr).symm.trans ((replaceTables_ok_iff ho).2 ⟨known, distinct⟩)
  have failed := hr.symm.trans (replaceTables_of_twice ho known twice)
  refine ⟨twice, Except.error.inj (congrArg Prod.fst failed), ?_⟩
  rw [hu]
  exact congrArg Prod.snd failed

/-- Behind a registration and a replacement that succeed, a touch gets to the row of the
database. -/
theorem touched_of_replaced {r : Except CatalogError Connection}
    (replaced : g1.replaceTables x.id tables = (.ok (), g2)) (touched : g2.touch x.id = (r, g3)) :
    ∃ q, (g.catalog.upsert url name g.now).2.find? x.id = some q ∧ q.url = url ∧
      (tables.map TableInfo.key).Nodup ∧ written q = .ok x ∧ written (q.stamped g2.now) = r ∧
      g3.catalog = ((g.catalog.upsert url name g.now).2.fill x.id tables).modify x.id (.stamped g2.now) := by
  have hu : g.catalog.upsert url name g.now = (.ok x, g1.catalog) := catalog_of_upsert registered
  have ho : g1.catalog.isOpen = true := by
    have := (upsert_change (c := g.catalog) url name g.now).isOpen.trans ho
    rwa [hu] at this
  obtain ⟨q, hq, hurl, hx⟩ := find?_of_upsert (by assumption) hc hk (congrArg Prod.fst hu)
  have hr := catalog_of_replaceTables replaced
  obtain ⟨-, distinct, hfill⟩ := replaceTables_of_ok ho (congrArg Prod.fst hr)
  have hfill : g2.catalog = g1.catalog.fill x.id tables := (congrArg Prod.snd hr).symm.trans hfill
  have htouch := catalog_of_touch touched
  rw [hu] at hq
  rw [hfill, touch_of_find? (c := g1.catalog.fill x.id tables) ho hq] at htouch
  rw [hu]
  exact ⟨q, hq, hurl, distinct, hx, congrArg Prod.fst htouch, (congrArg Prod.snd htouch).symm⟩

/-- At a moment, such a touch succeeds. -/
theorem touched_at_moment {r : Except CatalogError Connection}
    (replaced : g1.replaceTables x.id tables = (.ok (), g2)) (touched : g2.touch x.id = (r, g3))
    (hnow : g2.now.IsReal) : r = .ok { x with lastSynced := some g2.now } := by
  obtain ⟨q, -, -, -, hx, hr, -⟩ := touched_of_replaced ho hc hk registered replaced touched
  exact hr.symm.trans (written_stamped hx hnow)

end

/-- Behind a sync there are tables that were there before, and those that it found, for the
connection to its database. -/
theorem Synced.tables {r : Except GatewayError ConnectionMetadata} (h : Synced url name g r g')
    (hc : g.catalog.Issued) (hk : g.catalog.Keyed) {p : TableRow} (hp : p ∈ g'.catalog.tables) :
    p ∈ g.catalog.tables ∨ ∃ tables, g.remote.introspect url = .ok tables ∧
      (∃ q, g'.catalog.find? p.connectionId = some q ∧ q.url = url) ∧
      ∃ t ∈ tables, p = TableRow.ofTable p.connectionId t := by
  -- The tables of a registration are the old ones, and a replacement adds to them what it is given.
  have same : ∀ {r : Except CatalogError Connection} {g1}, (g.note (.introspect url)).upsert url name = (r, g1) →
      g1.catalog.tables = g.catalog.tables := by
    intro r g1 registered
    rw [← upsert_tables g.catalog url name g.now, catalog_of_upsert registered]
  cases h with
  | unreachable => exact .inl hp
  | unregistered _ registered => exact .inl (same registered ▸ hp)
  | unreplaced looked registered replaced =>
    obtain ⟨-, -, left⟩ := left_of_unreplaced (isOpen_of_registered registered) hc hk registered replaced
    rw [left, upsert_tables] at hp
    exact .inl hp
  | @untouched tables _ x g1 g2 _ looked registered replaced touched
  | @done tables x _ g1 g2 _ looked registered replaced touched =>
    obtain ⟨q, hq, hurl, -, -, -, hcatalog⟩ :=
      touched_of_replaced (isOpen_of_registered registered) hc hk registered replaced touched
    rw [hcatalog] at hp ⊢
    rcases List.mem_append.1 hp with hp | hp
    · have hp := (List.mem_filter.1 hp).1
      rw [upsert_tables] at hp
      exact .inl hp
    · obtain ⟨t, ht, rfl⟩ := List.mem_map.1 hp
      exact .inr ⟨tables, looked, ⟨q.stamped g2.now, find?_of_look tables g2.now hq, hurl⟩, t, ht, rfl⟩

/-- A sync answers what it found with the connection to its database, and the catalog shows
the same behind it, with the tables in their order. -/
theorem Synced.metadata {m : ConnectionMetadata} (h : Synced url name g (.ok m) g') (hc : g.catalog.Issued)
    (hk : g.catalog.Keyed) :
    g.remote.introspect url = .ok m.tables ∧ m.connection.connectionUrl = url ∧
      g'.catalog.metadata m.connection.id = .ok ⟨m.connection, TableInfo.arranged m.tables⟩ := by
  cases h with
  | @done tables x y g1 g2 _ looked registered replaced touched =>
    have ho := isOpen_of_registered registered
    obtain ⟨q, hq, hurl, -, -, written, hcatalog⟩ := touched_of_replaced ho hc hk registered replaced touched
    have hid : y.id = x.id := (written_ok written).trans (mem_of_find? hq).2
    have hread := ConnectionRow.read_ok (read_of_written written)
    have ho' : (g.catalog.upsert url name g.now).2.isOpen = true := (upsert_change url name g.now).isOpen.trans ho
    have hget : g'.catalog.get x.id = .ok y := by
      rw [hcatalog]
      exact get_of_written ho' (find?_of_look tables g2.now hq) written
    have htables : g'.catalog.tablesOf x.id = tables.map (TableRow.ofTable x.id) := by
      rw [hcatalog]
      exact tablesOf_fill (g.catalog.upsert url name g.now).2 x.id tables
    refine ⟨looked, hread.2.1.trans hurl, ?_⟩
    rw [hid, metadata_of_tablesOf htables, hget]
    rfl

/-- A sync answers a connection with an id of 64 bits and times that a clock can show. -/
theorem Synced.isReal {m : ConnectionMetadata} (h : Synced url name g (.ok m) g') (hc : g.catalog.Narrow) :
    m.connection.IsReal := by
  cases h with
  | @done tables x y g1 g2 _ looked registered replaced touched =>
    have noted : g.Becomes (g.note (.introspect url)) := (Act.note _).becomes
    have replaced := (noted.trans (becomes_of_upsert registered)).trans (becomes_of_replaceTables replaced)
    exact (replaced.narrow hc).update (ConnectionRow.stamped_id g2.now) (congrArg Prod.fst (catalog_of_touch touched))

/-- A sync ends in one of the two ways. A touch that fails is not among them: the row is
there, and a row with times of a clock can be read. -/
theorem Synced.ends {r : Except GatewayError ConnectionMetadata} (h : Synced url name g r g') (hs : g.Sound)
    (hk : g.catalog.Keyed) (ht : g.Timed) (hend : g'.now.date.year ≤ Date.maxYear) :
    Ends url name g r g'.catalog := by
  have noted : g.Becomes (g.note (.introspect url)) := (Act.note _).becomes
  have room : ∀ {r : Except CatalogError Connection} {g1}, (g.note (.introspect url)).upsert url name = (r, g1) →
      ((∃ x, r = .ok x) ↔ g.catalog.lastId < maxInt64) := by
    intro r g1 registered
    rw [← upsert_ok_iff url name hs.isOpen ht.rows ht.now, catalog_of_upsert registered]
  cases h with
  | unreachable looked =>
    refine .failed (fun tables can => ?_) (.inl rfl)
    cases looked.symm.trans can.looked
  | unregistered looked registered =>
    refine .failed (fun tables can => ?_) (.inr (congrArg Prod.snd (catalog_of_upsert registered)).symm)
    obtain ⟨x, hx⟩ := (room registered).2 can.room
    cases hx
  | unreplaced looked registered replaced =>
    obtain ⟨twice, -, left⟩ := left_of_unreplaced hs.isOpen hs.counted.issued hk registered replaced
    refine .failed (fun tables can => twice ?_) (.inr left)
    cases looked.symm.trans can.looked
    exact can.distinct
  | @untouched tables e x g1 g2 _ looked registered replaced touched =>
    -- This does not happen: what could be registered can be stamped.
    exfalso
    have first := noted.trans (becomes_of_upsert registered)
    have second := becomes_of_replaceTables replaced
    have hyear := Int.le_trans (becomes_of_touch touched).year_le hend
    have hnow : g2.now.IsReal := ((first.trans second).timed hs.isOpen ht hyear).now
    cases touched_at_moment hs.isOpen hs.counted.issued hk registered replaced touched hnow
  | @done tables x _ _ g2 _ looked registered replaced touched =>
    obtain ⟨q, hq, hurl, distinct, -, -, hcatalog⟩ :=
      touched_of_replaced hs.isOpen hs.counted.issued hk registered replaced touched
    rw [hcatalog]
    exact .succeeded ⟨looked, distinct, (room registered).1 ⟨x, rfl⟩⟩ hq hurl

/-! ## What they leave -/

section

variable {r : Except GatewayError ConnectionMetadata} {c' : Catalog} (h : Ends url name g r c')

include h

theorem Ends.isOk_iff : r.isOk = true ↔ ∃ tables, g.Syncable url tables := by
  cases h with
  | failed lacks =>
    refine iff_of_false (by simp [Except.isOk, Except.toBool]) ?_
    rintro ⟨tables, can⟩
    exact lacks tables can
  | succeeded can => exact iff_of_true rfl ⟨_, can⟩

/-- A sync that succeeds leaves what it found, and only there. -/
theorem Ends.records (hs : g.Sound) (hk : g.catalog.Keyed) :
    Records (fun u => if url = u ∧ r.isOk = true then (g.remote.introspect u).toOption else none) g.catalog c' := by
  have registered := upsert_kept url name g.now hs.isOpen hs.counted.issued hk
  intro p hp
  cases h with
  | failed lacks left =>
    refine .inr ⟨if_neg (by simp [Except.isOk, Except.toBool]), ?_⟩
    rcases left with rfl | rfl
    · exact .refl hp
    · exact registered p hp
  | succeeded can row of =>
    have hk' : (g.catalog.upsert url name g.now).2.Keyed :=
      (upsert_change url name g.now).keyed hs.counted.issued hk
    rcases shows_of_look hk' row can.distinct hp with ⟨hurl, shown⟩ | ⟨hurl, hp, same⟩
    · refine .inl ⟨_, ?_, shown⟩
      rw [hurl, of]
      show (if url = url ∧ true = true then _ else none) = _
      rw [if_pos ⟨rfl, rfl⟩, can.looked]
      rfl
    · refine .inr ⟨if_neg fun found => hurl (found.1.symm.trans of.symm), ?_⟩
      exact (registered p hp).congr same

/-- A sync that fails changes nothing for a connection that is there. -/
theorem Ends.metadata {i : Int} (ho : g.catalog.isOpen = true) (failed : r.isOk = false)
    (known : (g.catalog.find? i).isSome) : c'.metadata i = g.catalog.metadata i := by
  cases h with
  | failed lacks left =>
    rcases left with rfl | rfl
    · rfl
    · exact metadata_upsert url name g.now ho known
  | succeeded => cases failed

end

end QueryGateway.Gateway
