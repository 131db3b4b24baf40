import QueryGateway.Proofs.Session.Ids
import QueryGateway.Proofs.Session.Leads

/-!
# What a failed sync leaves

A sync makes three changes to the catalog, one after the other, and is not taken back as a
whole when it fails. Main statement: the rows are nevertheless as they were, except if a
database that is not registered yet shows a table twice. Then it is registered, although the
failure says that nothing was written.
-/

namespace QueryGateway

namespace Gateway

open Text

/-- A sync of a database gets past the registration of a new connection, and not to the
end. -/
structure Strands (g : Gateway) (url : String) (tables : List TableInfo) : Prop where
  looked : g.remote.introspect url = .ok tables
  isOpen : g.catalog.isOpen = true
  room : g.catalog.lastId < maxInt64
  new : g.catalog.findUrl? url = none
  twice : ¬ (tables.map TableInfo.key).Nodup

variable {g g' : Gateway} {url : String} {name : Option String} {e : GatewayError}

/-- A registration at a moment that fails leaves the rows. -/
theorem rows_of_unregistered {call : Call} {e : CatalogError}
    (registered : (g.note call).upsert url name = (.error e, g')) (hnow : g.now.IsReal) :
    g'.catalog.connections = g.catalog.connections ∧ g'.catalog.tables = g.catalog.tables ∧
      ∀ tables, ¬ g.Strands url tables := by
  have hu := catalog_of_upsert registered
  cases ho : g.catalog.isOpen with
  | false =>
    rw [Catalog.upsert_of_closed ho] at hu
    obtain ⟨-, same⟩ := Prod.mk.inj hu
    rw [← same]
    exact ⟨rfl, rfl, fun tables h => by simpa [ho] using h.isOpen⟩
  | true =>
    rcases Catalog.upsert_cases url name g.now ho with ⟨full, h⟩ | ⟨-, r, found, h⟩ | ⟨-, -, h⟩ <;>
      obtain ⟨he, left⟩ := Prod.mk.inj (h.symm.trans hu) <;> rw [← left]
    · exact ⟨rfl, rfl, fun tables h => absurd h.room (by omega)⟩
    · exact ⟨rfl, rfl, fun tables h => by simpa [found] using h.new⟩
    · -- The row of a registration at a moment can be read.
      have timed : (g.catalog.newRow url name g.now).Timed := ⟨⟨g.now, hnow, rfl⟩, nofun⟩
      obtain ⟨x, hx⟩ := Catalog.written_of_timed timed
      rw [hx] at he
      cases he

/-- How a sync at a moment fails: it leaves the rows, or it leaves a new connection. -/
theorem Synced.failed (h : Synced url name g (.error e) g') (hc : g.catalog.Issued) (hk : g.catalog.Keyed)
    (hnow : g.now.IsReal) (hend : g'.now.date.year ≤ Date.maxYear) :
    (g'.catalog.connections = g.catalog.connections ∧ g'.catalog.tables = g.catalog.tables ∧
      ∀ tables, ¬ g.Strands url tables) ∨
    (∃ tables, g.Strands url tables) ∧ g'.catalog = g.catalog.register url name g.now ∧
      e = .ofCatalog (.writeFailed .duplicateTable) := by
  have noted : g.Becomes (g.note (.introspect url)) := (Act.note _).becomes
  cases h with
  | unreachable looked =>
    refine .inl ⟨rfl, rfl, fun tables h => ?_⟩
    cases looked.symm.trans h.looked
  | unregistered _ registered => exact .inl (rows_of_unregistered registered hnow)
  | @unreplaced tables e x g1 _ looked registered replaced =>
    have ho := isOpen_of_registered registered
    obtain ⟨twice, rfl, left⟩ := left_of_unreplaced ho hc hk registered replaced
    rw [left]
    rcases Catalog.upsert_cases url name g.now ho with ⟨-, h⟩ | ⟨-, r, found, h⟩ | ⟨room, new, h⟩
    · cases (Prod.mk.inj (h.symm.trans (catalog_of_upsert registered))).1
    · rw [h]
      exact .inl ⟨rfl, rfl, fun tables h => by simpa [found] using h.new⟩
    · rw [h]
      exact .inr ⟨⟨tables, looked, ho, room, new, twice⟩, rfl, rfl⟩
  | @untouched tables e x g1 g2 _ looked registered replaced touched =>
    -- This does not happen: what could be registered can be stamped.
    exfalso
    have before := (noted.trans (becomes_of_upsert registered)).trans (becomes_of_replaceTables replaced)
    have now2 := before.isReal hnow (Int.le_trans (becomes_of_touch touched).year_le hend)
    cases touched_at_moment (isOpen_of_registered registered) hc hk registered replaced touched now2

end Gateway

/-- A sync at a moment that fails, in any state that a run comes to, leaves all tables, and it
leaves all connections unless it strands: that is, the storage is open, there is an id left,
the database is not registered and can be looked into, and a table is found twice there. Then
the database is registered, and the failure is that of a write. -/
theorem failed_sync_keeps_rows_iff {place : Place} {origins : List String} {now : Moment} {s s' : Session}
    (hs : Session.start place origins now = .ok s) {xs : List Turn} (h : s.Leads xs s') (url : String)
    (name : Option String) {e : GatewayError} (hnow : s'.gateway.now.IsReal)
    (hend : (s'.gateway.sync url name).2.now.IsReal) (failed : (s'.gateway.sync url name).1 = .error e) :
    let c := s'.gateway.catalog
    let c' := (s'.gateway.sync url name).2.catalog
    c'.tables = c.tables ∧
      (c'.connections = c.connections ↔ ¬ ∃ tables, s'.gateway.Strands url tables) ∧
      ((∃ tables, s'.gateway.Strands url tables) →
        c'.connections = c.connections ++ [⟨c.lastId + 1, name, url, s'.gateway.now.offsetText, none⟩] ∧
          e = .ofCatalog (.writeFailed .duplicateTable)) := by
  obtain ⟨hc, hk⟩ := h.keyed (Session.start_catalog hs).1
  have synced := s'.gateway.sync_synced url name
  rw [failed] at synced
  rcases synced.failed hc hk hnow hend.year_le with ⟨connections, tables, none⟩ | ⟨strands, left, rfl⟩
  · exact ⟨tables, iff_of_true connections fun ⟨t, h⟩ => none t h, fun ⟨t, h⟩ => absurd h (none t)⟩
  · rw [left]
    refine ⟨rfl, iff_of_false (fun same => ?_) (not_not_intro strands), fun _ => ⟨rfl, rfl⟩⟩
    -- A list is not itself with a row more.
    have longer := congrArg List.length same
    simp [Catalog.register] at longer

/-- A sync that finds a table twice leaves the connections if its database is registered
already. -/
theorem failed_sync_of_registered :
    let now : Moment := ⟨⟨2026, 5, 17⟩, 11, 23, 47, 0⟩
    let s : Session := ⟨⟨{}, .scripted [] ⟨[], []⟩ none, [], now, ["*"]⟩, .memory, {}⟩
    let ts : List Step :=
      [.sync "postgres://h/d" none, .script (.scripted [⟨"a", "t", false, []⟩, ⟨"a", "t", true, []⟩] ⟨[], []⟩ none)]
    let s' := s.finish ts
    (s'.gateway.sync "postgres://h/d" (some "d")).1 = .error (.ofCatalog (.writeFailed .duplicateTable)) ∧
      (s'.gateway.sync "postgres://h/d" (some "d")).2.catalog.connections = s'.gateway.catalog.connections := by
  intro now s ts s'
  have hs : Session.start .memory ["*"] now = .ok s := rfl
  have failed : (s'.gateway.sync "postgres://h/d" (some "d")).1 = .error (.ofCatalog (.writeFailed .duplicateTable)) := by
    decide +kernel
  have hnow : s'.gateway.now.IsReal :=
    ⟨by decide +kernel, by decide +kernel, by decide +kernel, by decide +kernel, by decide +kernel⟩
  have hend : (s'.gateway.sync "postgres://h/d" (some "d")).2.now.IsReal :=
    ⟨by decide +kernel, by decide +kernel, by decide +kernel, by decide +kernel, by decide +kernel⟩
  have known : s'.gateway.catalog.findUrl? "postgres://h/d" ≠ none := by decide +kernel
  have h : s.Leads (s.turns ts) s' := s.leads_finish ts
  obtain ⟨-, unchanged, -⟩ := failed_sync_keeps_rows_iff hs h "postgres://h/d" (some "d") hnow hend failed
  exact ⟨failed, unchanged.2 fun ⟨_, h⟩ => known h.new⟩

/-- A failed sync leaves a connection behind: the catalog is empty before it and lists one
connection after it. -/
theorem failed_sync_registers :
    let now : Moment := ⟨⟨2026, 5, 17⟩, 11, 23, 47, 0⟩
    let s : Session := ⟨⟨{}, .scripted [] ⟨[], []⟩ none, [], now, ["*"]⟩, .memory, {}⟩
    let s' := s.finish [.script (.scripted [⟨"a", "t", false, []⟩, ⟨"a", "t", true, []⟩] ⟨[], []⟩ none)]
    (s'.gateway.sync "postgres://h/d" none).1 = .error (.ofCatalog (.writeFailed .duplicateTable)) ∧
      s'.gateway.catalog.list = .ok [] ∧
      (s'.gateway.sync "postgres://h/d" none).2.catalog.list = .ok [⟨1, none, "postgres://h/d", now, none⟩] := by
  decide +kernel

end QueryGateway
