import QueryGateway.Proofs.Session.Consistency

/-!
# Getting or creating a connection

A database is registered once. Main statement: to register it again, by itself or with a
sync, gives the connection that is there, unchanged but for the time of the sync; else it
gives a new one under an id that was never given out. So two registrations in a run give one
id exactly if the connection was not taken out between them.
-/

namespace QueryGateway

open Http Text

/-! ## Rows in place -/

namespace Catalog

variable {c : Catalog} {i : Int} {p : ConnectionRow}

/-- A registration leaves the rows that are there. -/
theorem find?_upsert_of_some (url : String) (name : Option String) (now : Moment) (hp : c.find? i = some p) :
    (c.upsert url name now).2.find? i = some p := by
  cases ho : c.isOpen with
  | false =>
    rw [upsert_of_closed ho]
    exact hp
  | true =>
    rcases upsert_cases url name now ho with ⟨-, h⟩ | ⟨-, q, -, h⟩ | ⟨-, -, h⟩ <;> rw [h]
    · exact hp
    · exact hp
    · rw [find?_register, hp, Option.some_or]

/-- A replacement of tables leaves the rows of connections. -/
theorem find?_replaceTables (c : Catalog) (id : Int) (tables : List TableInfo) (i : Int) :
    (c.replaceTables id tables).2.find? i = c.find? i := by
  cases ho : c.isOpen with
  | false => rw [replaceTables_of_closed ho]
  | true =>
    rcases replaceTables_cases id tables ho with ⟨-, h⟩ | ⟨-, -, h⟩ | ⟨-, -, h⟩ <;> rw [h]
    rfl

/-- A row that is there is still there behind a change of some row, as it was or changed. -/
theorem find?_update_of_some (id : Int) {change : ConnectionRow → ConnectionRow} (hid : ∀ r, (change r).id = r.id)
    (hp : c.find? i = some p) :
    (c.update id change).2.find? i = some p ∨ (c.update id change).2.find? i = some (change p) := by
  cases ho : c.isOpen with
  | false =>
    rw [update_of_closed ho]
    exact .inl hp
  | true =>
    rcases update_cases id change ho with ⟨-, h⟩ | ⟨r, -, h⟩ <;> rw [h]
    · exact .inl hp
    · rw [find?_modify _ _ _ _ hid, hp, Option.map_some]
      split
      · exact .inr rfl
      · exact .inl rfl

/-- A row that is there is still there behind a deletion, unless it is the one that was taken
out. -/
theorem find?_delete_of_some (id : Int) (hp : c.find? i = some p) :
    (c.delete id).2.find? i = some p ∨ (c.delete id).1 = .ok () ∧ id = i := by
  cases ho : c.isOpen with
  | false =>
    rw [delete_of_closed ho]
    exact .inl hp
  | true =>
    rcases delete_cases id ho with ⟨-, h⟩ | ⟨-, h⟩ <;> rw [h]
    · exact .inl hp
    · by_cases hi : i = id
      · exact .inr ⟨rfl, hi.symm⟩
      · rw [find?_remove, if_neg hi]
        exact .inl hp

/-- A registration of a database that has a row gives the id of the row. -/
theorem id_of_upsert {url : String} {name : Option String} {now : Moment} {x : Connection} (hk : c.Keyed)
    (hx : (c.upsert url name now).1 = .ok x) (hp : p ∈ c.connections) (hurl : p.url = url) : x.id = p.id := by
  cases ho : c.isOpen with
  | false =>
    rw [upsert_of_closed ho] at hx
    cases hx
  | true =>
    rcases upsert_cases url name now ho with ⟨-, h⟩ | ⟨-, q, found, h⟩ | ⟨-, new, -⟩
    · rw [h] at hx
      cases hx
    · rw [h] at hx
      obtain ⟨hq, hqurl⟩ := mem_of_findUrl? found
      rw [hk.eq_of_url hp hq (hurl.trans hqurl.symm)]
      exact written_ok hx
    · exact absurd hurl ((findUrl?_eq_none_iff c url).1 new p hp)

end Catalog

/-! ## Syncs -/

namespace Gateway

open Catalog

variable {g g' : Gateway} {url : String} {name : Option String}

/-- However a sync ends, a row that is there stays there with all it holds but the time of the
last sync. -/
theorem Synced.find?_of_some {r : Except GatewayError ConnectionMetadata} {i : Int} {p : ConnectionRow}
    (h : Synced url name g r g') (hp : g.catalog.find? i = some p) :
    ∃ q, g'.catalog.find? i = some q ∧ q.id = p.id ∧ q.name = p.name ∧ q.url = p.url ∧ q.createdAt = p.createdAt := by
  -- What a registration and a replacement leave is the row itself; only a touch writes to it.
  have upserted : ∀ {r : Except CatalogError Connection} {g1},
      (g.note (.introspect url)).upsert url name = (r, g1) → g1.catalog.find? i = some p := by
    intro r g1 registered
    have h := find?_upsert_of_some url name g.now hp
    rwa [catalog_of_upsert registered] at h
  have filled : ∀ {r : Except CatalogError Unit} {g1 g2 : Gateway} {id : Int} {tables : List TableInfo},
      g1.catalog.find? i = some p → g1.replaceTables id tables = (r, g2) → g2.catalog.find? i = some p := by
    intro r g1 g2 id tables h replaced
    rw [← find?_replaceTables g1.catalog id tables, catalog_of_replaceTables replaced] at h
    exact h
  cases h with
  | unreachable => exact ⟨p, hp, rfl, rfl, rfl, rfl⟩
  | unregistered _ registered => exact ⟨p, upserted registered, rfl, rfl, rfl, rfl⟩
  | unreplaced _ registered replaced => exact ⟨p, filled (upserted registered) replaced, rfl, rfl, rfl, rfl⟩
  | @untouched _ _ x _ g2 _ _ registered replaced touched
  | @done _ x _ _ g2 _ _ registered replaced touched =>
    have h := find?_update_of_some x.id (ConnectionRow.stamped_id g2.now)
      (filled (upserted registered) replaced)
    have hc : (g2.catalog.update x.id (.stamped g2.now)).2 = _ := congrArg Prod.snd (catalog_of_touch touched)
    rw [hc] at h
    rcases h with h | h
    · exact ⟨p, h, rfl, rfl, rfl, rfl⟩
    · exact ⟨p.stamped g2.now, h, rfl, rfl, rfl, rfl⟩

/-- A sync that succeeds is of the connection that a registration in its place would give, and
leaves a row for it. -/
theorem Synced.registered {m : ConnectionMetadata} (h : Synced url name g (.ok m) g') (hc : g.catalog.Issued)
    (hk : g.catalog.Keyed) :
    (∃ x, (g.catalog.upsert url name g.now).1 = .ok x ∧ m.connection.id = x.id ∧ m.connection.name = x.name ∧
        m.connection.connectionUrl = x.connectionUrl ∧ m.connection.createdAt = x.createdAt) ∧
      ∃ q, g'.catalog.find? m.connection.id = some q ∧ q.url = url := by
  cases h with
  | @done tables x y g1 g2 _ looked registered replaced touched =>
    have ho := isOpen_of_registered registered
    obtain ⟨q, hq, hurl, -, was, is, hcatalog⟩ := touched_of_replaced ho hc hk registered replaced touched
    obtain ⟨created, -, hx⟩ := ConnectionRow.read_parts (read_of_written was)
    obtain ⟨created', -, hy⟩ := ConnectionRow.read_parts (read_of_written is)
    have hat : y.createdAt = x.createdAt := Except.ok.inj (created'.symm.trans created)
    have hid : y.id = x.id := by rw [hx, hy]; rfl
    constructor
    · refine ⟨x, congrArg Prod.fst (catalog_of_upsert registered), hid, ?_, ?_, hat⟩
      · rw [hx, hy]
        rfl
      · rw [hx, hy]
        rfl
    · show ∃ q, g'.catalog.find? y.id = some q ∧ q.url = url
      rw [hid, hcatalog]
      exact ⟨q.stamped g2.now, find?_of_look tables g2.now hq, hurl⟩

end Gateway

/-! ## One turn -/

/-- The document of a connection with its tables tells the id of the connection. -/
theorem Wire.id_of_document (m : ConnectionMetadata) :
    ((connectionMetadataJson m).member? "connection").bind (Json.Value.member? "id") = some (.int m.connection.id) := rfl

namespace Turn

/-- A turn registers a database, by itself or with a sync that succeeds, and answers the id of
its connection. -/
def Registers (x : Turn) (url : String) (i : Int) : Prop :=
  match x.step, x.answer with
  | .upsert url' _, .connection r => url' = url ∧ ∃ y, r = .ok y ∧ y.id = i
  | .sync url' _, .synced r => url' = url ∧ ∃ m, r = .ok m ∧ m.connection.id = i
  | .request r, .response p =>
    (∃ name, r.deed? = some (.sync url name)) ∧ p.status = 200 ∧
      ∃ v, p.body = .json v ∧ (v.member? "connection").bind (Json.Value.member? "id") = some (.int i)
  | _, _ => False

variable {x : Turn} {i j : Int} {url createdAt : String}

/-- However a database is registered, the registration gives the connection, and its row is there
behind the turn. -/
theorem Registers.spec (h : x.Registers url i) (hc : x.session.gateway.catalog.Issued)
    (hk : x.session.gateway.catalog.Keyed) :
    (∃ name y, (x.session.gateway.catalog.upsert url name x.session.gateway.now).1 = .ok y ∧ y.id = i) ∧
      ∃ q, x.next.gateway.catalog.find? i = some q ∧ q.url = url := by
  have of_sync : ∀ {name : Option String} {m : ConnectionMetadata},
      (x.session.gateway.sync url name).1 = .ok m → m.connection.id = i →
      (∃ name y, (x.session.gateway.catalog.upsert url name x.session.gateway.now).1 = .ok y ∧ y.id = i) ∧
        ∃ q, (x.session.gateway.sync url name).2.catalog.find? i = some q ∧ q.url = url := by
    intro name m hm hi
    have synced := x.session.gateway.sync_synced url name
    rw [hm] at synced
    obtain ⟨⟨y, hy, hid, -⟩, row⟩ := synced.registered hc hk
    rw [← hi]
    exact ⟨⟨name, y, hy, hid.symm⟩, row⟩
  obtain ⟨s, t⟩ := x
  cases t with
  | upsert url' name =>
    obtain ⟨rfl, y, hy, rfl⟩ := h
    have hy : (s.gateway.catalog.upsert url' name s.gateway.now).1 = .ok y := hy
    have ho : s.gateway.catalog.isOpen = true := by
      cases ho : s.gateway.catalog.isOpen with
      | true => rfl
      | false =>
        rw [Catalog.upsert_of_closed ho] at hy
        cases hy
    obtain ⟨q, hq, hurl, -⟩ := Catalog.find?_of_upsert ho hc hk hy
    exact ⟨⟨name, y, hy, rfl⟩, q, hq, hurl⟩
  | sync url' name =>
    obtain ⟨rfl, m, hm, hi⟩ := h
    exact of_sync hm hi
  | request r =>
    obtain ⟨⟨name, hd⟩, hstatus, v, hbody, hv⟩ := h
    change (respond r s.gateway).1.status = 200 at hstatus
    change (respond r s.gateway).1.body = .json v at hbody
    show _ ∧ ∃ q, (respond r s.gateway).2.catalog.find? i = some q ∧ q.url = url
    rw [respond_of_deed? hd] at hstatus hbody ⊢
    rw [(Deed.sync url name).perform_snd]
    unfold Deed.perform at hstatus hbody
    dsimp only at hstatus hbody
    unfold answerJson at hstatus hbody
    cases hm : (s.gateway.sync url name).1 with
    | error e =>
      rw [hm] at hstatus
      have := le_statusOf e
      change statusOf e = 200 at hstatus
      omega
    | ok m =>
      rw [hm] at hbody
      cases hbody
      rw [Wire.id_of_document] at hv
      cases hv
      exact of_sync hm rfl
  | _ => cases h

/-- A database that an id denotes is registered under that id. -/
theorem Registers.eq_of_denotes (h : x.Registers url j) (hc : x.session.gateway.catalog.Issued)
    (hk : x.session.gateway.catalog.Keyed) (hi : x.session.gateway.catalog.Denotes i url createdAt) : i = j := by
  obtain ⟨⟨name, y, hy, rfl⟩, -⟩ := h.spec hc hk
  obtain ⟨p, hp, hurl, -⟩ := hi
  obtain ⟨hmem, rfl⟩ := Catalog.mem_of_find? hp
  exact (Catalog.id_of_upsert hk hy hmem hurl).symm

/-- A turn that registers a database leaves its row. -/
theorem Registers.denotes (h : x.Registers url i) (hc : x.session.gateway.catalog.Issued)
    (hk : x.session.gateway.catalog.Keyed) : ∃ createdAt, x.next.gateway.catalog.Denotes i url createdAt := by
  obtain ⟨-, q, hq, hurl⟩ := h.spec hc hk
  exact ⟨q.createdAt, q, hq, hurl, rfl⟩

/-- What an id denotes it denotes behind a turn, unless the turn takes the connection out. -/
theorem denotes_or_deletes (hx : x.step.seeds = false) (hi : x.session.gateway.catalog.Denotes i url createdAt) :
    x.next.gateway.catalog.Denotes i url createdAt ∨ x.Deletes i := by
  obtain ⟨p, hp, hurl, hat⟩ := hi
  have left_as : ∀ {q : ConnectionRow} {c : Catalog}, c.find? i = some q → q.url = p.url → q.createdAt = p.createdAt →
      c.Denotes i url createdAt :=
    fun hq same_url same_time => ⟨_, hq, same_url.trans hurl, same_time.trans hat⟩
  cases hw : x.step.write? with
  | none =>
    obtain ⟨_, same⟩ := rows_of_no_write hx hw
    rw [same]
    exact .inl (left_as hp rfl rfl)
  | some w =>
    rw [catalog_of_write? hw]
    cases w with
    | upsert url' name => exact .inl (left_as (Catalog.find?_upsert_of_some url' name _ hp) rfl rfl)
    | replace id tables => exact .inl (left_as ((Catalog.find?_replaceTables _ id tables i).trans hp) rfl rfl)
    | touch id =>
      rcases Catalog.find?_update_of_some id (ConnectionRow.stamped_id _) hp with h | h <;>
        exact .inl (left_as h rfl rfl)
    | rename id name =>
      rcases Catalog.find?_update_of_some id (ConnectionRow.named_id name) hp with h | h <;>
        exact .inl (left_as h rfl rfl)
    | delete id =>
      rcases Catalog.find?_delete_of_some id hp with h | ⟨deleted, rfl⟩
      · exact .inl (left_as h rfl rfl)
      · exact .inr (deletes_iff.2 ⟨hw, deleted⟩)
    | sync url' name =>
      obtain ⟨q, hq, -, -, same_url, same_time⟩ := (x.session.gateway.sync_synced url' name).find?_of_some hp
      exact .inl (left_as hq same_url same_time)

theorem gone_of_gone (hx : x.step.seeds = false) (hi : x.session.gateway.catalog.Gone i) :
    x.next.gateway.catalog.Gone i := by
  rcases x.session.step_cases x.step with becomes | ⟨c', others, hg⟩
  · exact becomes.keeps (P := fun g => g.catalog.Gone i) (fun _ _ ha hg => ha.change.gone hg) hi
  · show (x.session.step x.step).2.gateway.catalog.Gone i
    rw [hg, others.eq_close hx]
    exact ⟨hi.issued, hi.absent⟩

/-- Nothing is taken out of closed storage. -/
theorem Deletes.isOpen (h : x.Deletes i) : x.session.gateway.catalog.isOpen = true := by
  obtain ⟨-, deleted⟩ := deletes_iff.1 h
  have deleted : (x.session.gateway.catalog.delete i).1 = .ok () := deleted
  cases ho : x.session.gateway.catalog.isOpen with
  | true => rfl
  | false =>
    rw [Catalog.delete_of_closed ho] at deleted
    cases deleted

end Turn

/-! ## Runs -/

namespace Session

variable {s s' : Session} {xs ys zs : List Turn} {x : Turn} {url : String} {i : Int}

/-- A run up to one of its turns. -/
theorem Leads.upTo (h : s.Leads xs s') (hxs : xs = ys ++ x :: zs) : s.Leads ys x.session := by
  induction h generalizing zs with
  | start => simp at hxs
  | wait _ _ _ _ ih => exact ih hxs
  | @turn xs s' h t ih =>
    rcases List.eq_nil_or_concat zs with rfl | ⟨zs', z, rfl⟩
    · obtain ⟨rfl, hx⟩ := List.append_inj' hxs rfl
      cases hx
      exact h
    · rw [List.concat_eq_append, ← List.cons_append, ← List.append_assoc] at hxs
      exact ih (List.append_inj' hxs rfl).1

/-- No id in front of a turn is behind it larger than the last that was given out. -/
theorem Leads.next_lastId_le (h : s.Leads xs s') (hx : x ∈ xs) :
    x.next.gateway.catalog.lastId ≤ s'.gateway.catalog.lastId := by
  induction h with
  | start => cases hx
  | wait _ _ _ _ ih => exact ih hx
  | @turn xs s' h t ih =>
    rcases List.mem_append.1 hx with hx | hx
    · exact Int.le_trans (ih hx) ((h.turn t).lastId_le ⟨s', t⟩ (List.mem_append_right _ List.mem_cons_self))
    · rw [List.mem_singleton.1 hx]
      exact Int.le_refl _

/-- From a turn on that leaves its row, a database stays registered under one id as long as
the connection is not taken out, and from then on the id is gone. -/
theorem Leads.sinceRow (h : s.Leads xs s') (hc : s.gateway.catalog = {}) (hxs : ∀ y ∈ xs, y.step.seeds = false)
    (hsplit : xs = ys ++ x :: zs) (hx : ∃ createdAt, x.next.gateway.catalog.Denotes i url createdAt) :
    ((∀ y ∈ zs, ¬ y.Deletes i) ∧ ∃ createdAt, s'.gateway.catalog.Denotes i url createdAt) ∨
      (∃ y ∈ zs, y.Deletes i) ∧ s'.gateway.catalog.Gone i := by
  induction h generalizing zs with
  | start => simp at hsplit
  | wait _ _ _ _ ih => exact ih hxs hsplit
  | @turn xs s' h t ih =>
    rcases List.eq_nil_or_concat zs with rfl | ⟨zs', z, rfl⟩
    · -- The turn is the one that leaves the row.
      obtain ⟨rfl, heq⟩ := List.append_inj' hsplit rfl
      cases heq
      exact .inl ⟨fun y hy => absurd hy List.not_mem_nil, hx⟩
    · rw [List.concat_eq_append, ← List.cons_append, ← List.append_assoc] at hsplit
      obtain ⟨hbefore, heq⟩ := List.append_inj' hsplit rfl
      cases heq
      have hxs' : ∀ y ∈ xs, y.step.seeds = false := fun y hy => hxs y (List.mem_append_left _ hy)
      have ht : t.seeds = false := hxs _ (List.mem_append_right _ List.mem_cons_self)
      rw [List.concat_eq_append]
      rcases ih hxs' hbefore with ⟨kept, createdAt, denotes⟩ | ⟨⟨y, hy, deleted⟩, gone⟩
      · by_cases deletes : Turn.Deletes ⟨s', t⟩ i
        · have sound : s'.gateway.Sound := ⟨deletes.isOpen, h.counted hxs' hc⟩
          exact .inr ⟨⟨_, List.mem_append_right _ List.mem_cons_self, deletes⟩, deletes.gone sound⟩
        · refine .inl ⟨fun y hy => ?_, createdAt, ?_⟩
          · rcases List.mem_append.1 hy with hy | hy
            · exact kept y hy
            · rwa [List.mem_singleton.1 hy]
          · exact (Turn.denotes_or_deletes (x := ⟨s', t⟩) ht denotes).resolve_right deletes
      · exact .inr ⟨⟨y, List.mem_append_left _ hy, deleted⟩, Turn.gone_of_gone (x := ⟨s', t⟩) ht gone⟩

/-- So it is from the turn on that registers it. -/
theorem Leads.since (h : s.Leads xs s') (hc : s.gateway.catalog = {}) (hxs : ∀ y ∈ xs, y.step.seeds = false)
    (hsplit : xs = ys ++ x :: zs) (hx : x.Registers url i) :
    ((∀ y ∈ zs, ¬ y.Deletes i) ∧ ∃ createdAt, s'.gateway.catalog.Denotes i url createdAt) ∨
      (∃ y ∈ zs, y.Deletes i) ∧ s'.gateway.catalog.Gone i := by
  obtain ⟨issued, keyed⟩ := (h.upTo hsplit).keyed hc
  exact h.sinceRow hc hxs hsplit (hx.denotes issued keyed)

/-- Two turns of a run that register a database give one id exactly if the connection is not
taken out between them. -/
theorem Leads.same_id_iff (h : s.Leads xs s') (hc : s.gateway.catalog = {}) (hxs : ∀ y ∈ xs, y.step.seeds = false)
    {us vs ws : List Turn} {p q : Turn} (hsplit : xs = us ++ p :: (vs ++ q :: ws)) {j : Int}
    (hp : p.Registers url i) (hq : q.Registers url j) : i = j ↔ ∀ y ∈ vs, ¬ y.Deletes i := by
  have hsplit' : xs = (us ++ p :: vs) ++ q :: ws := by simp [hsplit]
  have upTo : s.Leads (us ++ p :: vs) q.session := h.upTo hsplit'
  have hxs' : ∀ y ∈ us ++ p :: vs, y.step.seeds = false := by
    intro y hy
    refine hxs y ?_
    rw [hsplit']
    exact List.mem_append_left _ hy
  obtain ⟨issued, keyed⟩ := upTo.keyed hc
  rcases upTo.since hc hxs' rfl hp with ⟨kept, createdAt, denotes⟩ | ⟨⟨y, hy, deleted⟩, gone⟩
  · exact iff_of_true (hq.eq_of_denotes issued keyed denotes) kept
  · refine iff_of_false ?_ fun kept => kept y hy deleted
    rintro rfl
    -- The second registration leaves a row, but what is gone has none.
    have hseeds : q.step.seeds = false := hxs q (by simp [hsplit])
    obtain ⟨createdAt, r, hr, -⟩ := hq.denotes issued keyed
    cases hr.symm.trans (Turn.gone_of_gone hseeds gone).absent

end Session

/-- What a registration that answers a connection leaves: one row for the database, and the tables
that were there. The row was there, and then all rows are as they were; or it is new. -/
theorem Catalog.rows_of_upsert {c : Catalog} {url : String} {name : Option String} {now : Moment} {x : Connection}
    (ho : c.isOpen = true) (hc : c.Issued) (hk : c.Keyed) (hx : (c.upsert url name now).1 = .ok x) :
    let c' := (c.upsert url name now).2
    ∃ r, r.read = .ok x ∧ (∀ p, p ∈ c'.connections ∧ p.url = url ↔ p = r) ∧ c'.tables = c.tables ∧
      (r ∈ c.connections ∧ c'.connections = c.connections ∨
        (∀ p ∈ c.connections, p.url ≠ url) ∧ r = c.newRow url name now ∧
          c'.connections = c.connections ++ [r]) := by
  intro c'
  have keyed : c'.Keyed := (upsert_change url name now).keyed hc hk
  obtain ⟨r, hr, hurl, hwritten⟩ := find?_of_upsert ho hc hk hx
  obtain ⟨hmem, -⟩ := mem_of_find? hr
  refine ⟨r, read_of_written hwritten, fun p => ⟨fun ⟨hp, hpurl⟩ => ?_, ?_⟩, upsert_tables c url name now, ?_⟩
  · exact keyed.eq_of_url hp hmem (hpurl.trans hurl.symm)
  · rintro rfl
    exact ⟨hmem, hurl⟩
  · rcases upsert_cases url name now ho with ⟨-, h⟩ | ⟨-, q, found, h⟩ | ⟨-, new, h⟩
    · rw [h] at hx
      cases hx
    · rw [h] at hmem
      refine .inl ⟨hmem, ?_⟩
      show (c.upsert url name now).2.connections = _
      rw [h]
      rfl
    · have none_of_url := (findUrl?_eq_none_iff c url).1 new
      have hr : r = c.newRow url name now := by
        rw [h] at hmem
        rcases List.mem_append.1 hmem with old | new
        · exact absurd hurl (none_of_url r old)
        · exact List.mem_singleton.1 new
      refine .inr ⟨none_of_url, hr, ?_⟩
      show (c.upsert url name now).2.connections = _
      rw [h, hr]
      rfl

/-- In any run from an empty catalog, with any time between the turns: (1) while the storage is
open and there is an id left, a registration answers the one connection to its database. If there
was one, it is as its row was, and no row is changed; else it has the name that was given, was
never synced, has no tables, and its id is larger than every id of an earlier state and than the
last that was given out. (2) A sync that succeeds is of the connection that a registration in its
place would give, and every connection keeps its id, its name, its database and its time of
registration. (3) Two registrations or syncs of one database give one id if and only if that
connection was not taken out between them. -/
theorem registered_once_by_url {place : Place} {origins : List String} {now : Moment} {s s' : Session}
    (hs : Session.start place origins now = .ok s) {xs : List Turn} (h : s.Leads xs s')
    (hxs : ∀ x ∈ xs, x.step.seeds = false) (url : String) (name : Option String) :
    let g := s'.gateway
    let c := g.catalog
    (c.isOpen = true → c.lastId < maxInt64 → now.IsReal → g.now.IsReal →
      let c' := (g.upsert url name).2.catalog
      ∃ x r, (g.upsert url name).1 = .ok x ∧ r.read = .ok x ∧ x.connectionUrl = url ∧
        (∀ p, p ∈ c'.connections ∧ p.url = url ↔ p = r) ∧ c'.tables = c.tables ∧
        ((∃ p ∈ c.connections, p.url = url) → r ∈ c.connections ∧ c'.connections = c.connections) ∧
        ((∀ p ∈ c.connections, p.url ≠ url) →
          c'.connections = c.connections ++ [r] ∧ x.name = name ∧ x.lastSynced = none ∧ c'.tablesOf x.id = [] ∧
            c'.metadata x.id = .ok ⟨x, []⟩ ∧ c.lastId < x.id ∧
            ∀ y ∈ xs, ∀ p ∈ y.next.gateway.catalog.connections, p.id < x.id)) ∧
    (∀ m, (g.sync url name).1 = .ok m →
      (∃ x, (g.upsert url name).1 = .ok x ∧ m.connection.id = x.id ∧ m.connection.name = x.name ∧
        m.connection.connectionUrl = x.connectionUrl ∧ m.connection.createdAt = x.createdAt) ∧
      ∀ p ∈ c.connections, ∃ q ∈ (g.sync url name).2.catalog.connections,
        q.id = p.id ∧ q.name = p.name ∧ q.url = p.url ∧ q.createdAt = p.createdAt) ∧
    (∀ us p vs q ws, xs = us ++ p :: (vs ++ q :: ws) → ∀ i j, p.Registers url i → q.Registers url j →
      (i = j ↔ ∀ y ∈ vs, ¬ y.Deletes i)) := by
  obtain ⟨hc, hnow⟩ := Session.start_catalog hs
  obtain ⟨issued, keyed⟩ := h.keyed hc
  intro g c
  refine ⟨fun ho room real hend => ?_, fun m hm => ?_, fun us p vs q ws hsplit i j hp hq => ?_⟩
  · intro c'
    have timed : c.Timed := fun r hr => ((h.dated hxs hc (hnow ▸ real) hend.year_le).2 r hr).timed
    obtain ⟨x, hx⟩ := (Catalog.upsert_ok_iff url name ho timed hend).2 room
    obtain ⟨r, hread, only, tables, rows⟩ := Catalog.rows_of_upsert ho issued keyed hx
    have ⟨hr, hurl⟩ := (only r).2 rfl
    obtain ⟨hid, hxurl, -, -⟩ := ConnectionRow.read_ok hread
    refine ⟨x, r, hx, hread, hxurl.trans hurl, only, tables, fun ⟨p, hp, hpurl⟩ => ?_, fun new => ?_⟩
    · rcases rows with same | ⟨new, -⟩
      · exact same
      · exact absurd hpurl (new p hp)
    · obtain ⟨-, hrow, connections⟩ := rows.resolve_left fun same => new r same.1 hurl
      have fresh : c.lastId < x.id := by
        rw [hid, hrow]
        exact Int.lt_succ c.lastId
      have none_of_id : c'.tablesOf x.id = [] := by
        have same : c'.tablesOf x.id = c.tablesOf x.id := congrArg (List.filter _) tables
        exact same.trans (keyed.tablesOf_new issued fresh)
      have ho' : c'.isOpen = true := (Catalog.upsert_change url name g.now).isOpen.trans ho
      obtain ⟨q, hq, -, hwritten⟩ := Catalog.find?_of_upsert ho issued keyed hx
      have hget : c'.get x.id = .ok x := Catalog.get_of_written ho' hq hwritten
      obtain ⟨-, synced, hparts⟩ := ConnectionRow.read_parts hread
      refine ⟨connections, ?_, ?_, none_of_id, ?_, fresh, fun y hy p hp => ?_⟩
      · rw [hparts, hrow]
        rfl
      · rw [hrow] at synced
        exact (Except.ok.inj synced).symm
      · have rows : c'.tablesOf x.id = ([] : List TableInfo).map (TableRow.ofTable x.id) := none_of_id
        rw [Catalog.metadata_of_tablesOf rows, hget]
        rfl
      · obtain ⟨zs, _, before⟩ := List.append_of_mem hy
        have issued_y : y.next.gateway.catalog.Issued := ((h.upTo before).turn y.step |>.keyed hc).1
        exact Int.lt_of_le_of_lt (Int.le_trans (issued_y p hp) (h.next_lastId_le hy)) fresh
  · have synced := g.sync_synced url name
    rw [hm] at synced
    refine ⟨(synced.registered issued keyed).1, fun p hp => ?_⟩
    obtain ⟨q, hq, same⟩ := synced.find?_of_some (keyed.find?_iff.2 ⟨hp, rfl⟩)
    exact ⟨q, (Catalog.mem_of_find? hq).1, same⟩
  · exact h.same_id_iff hc hxs hsplit hp hq

/-- A database that is registered twice has one id, and another one when it is synced after a
deletion; a database that is new to the run gets an id behind them all. -/
theorem deleted_and_registered_again :
    let now : Moment := ⟨⟨2026, 5, 17⟩, 11, 23, 47, 0⟩
    let s : Session := ⟨⟨{}, .scripted [] ⟨[], []⟩ none, [], now, ["*"]⟩, .memory, {}⟩
    let ts : List Step :=
      [.upsert "postgres://h/d" (some "d"), .upsert "postgres://h/d" none, .delete 1, .sync "postgres://h/d" none]
    let x1 : Turn := ⟨s, ts[0]⟩
    let x2 : Turn := ⟨x1.next, ts[1]⟩
    let x3 : Turn := ⟨x2.next, ts[2]⟩
    (¬ ∀ y ∈ [x2, x3], ¬ y.Deletes 1) ∧
      (∃ x, ((s.finish ts).gateway.upsert "postgres://h/e" (some "e")).1 = .ok x ∧ x.name = some "e" ∧
        (s.finish ts).gateway.catalog.lastId < x.id) ∧
      ∃ x, ((s.finish ts).gateway.upsert "postgres://h/d" none).1 = .ok x ∧ x.id = 3 := by
  intro now s ts x1 x2 x3
  let x4 : Turn := ⟨x3.next, ts[3]⟩
  have hs : Session.start .memory ["*"] now = .ok s := rfl
  have h : s.Leads [x1, x2, x3, x4] (s.finish ts) := s.leads_finish ts
  have hxs : ∀ x ∈ [x1, x2, x3, x4], x.step.seeds = false := by
    intro x hx
    simp only [List.mem_cons, List.not_mem_nil, or_false] at hx
    rcases hx with rfl | rfl | rfl | rfl <;> rfl
  have hnow : now.IsReal := ⟨by decide, by decide, by decide, by decide, by decide⟩
  have hend : (s.finish ts).gateway.now.IsReal :=
    ⟨by decide +kernel, by decide +kernel, by decide +kernel, by decide +kernel, by decide +kernel⟩
  have first : x1.Registers "postgres://h/d" 1 :=
    ⟨rfl, ⟨1, some "d", "postgres://h/d", now, none⟩, by decide +kernel, rfl⟩
  have last : x4.Registers "postgres://h/d" 3 :=
    ⟨rfl, ⟨⟨3, none, "postgres://h/d", now.tick.tick, some now.tick.tick.tick⟩, []⟩, by decide +kernel, rfl⟩
  obtain ⟨created, -, -⟩ := registered_once_by_url hs h hxs "postgres://h/e" (some "e")
  obtain ⟨found, -, same⟩ := registered_once_by_url hs h hxs "postgres://h/d" none
  have ho : (s.finish ts).gateway.catalog.isOpen = true := by decide +kernel
  have room : (s.finish ts).gateway.catalog.lastId < maxInt64 := by decide +kernel
  refine ⟨fun kept => ?_, ?_, ?_⟩
  · have one_id := (same [] x1 [x2, x3] x4 [] rfl 1 3 first last).2 kept
    exact absurd one_id (by decide)
  · obtain ⟨x, r, hx, -, -, -, -, -, new⟩ := created ho room hnow hend
    obtain ⟨-, name, -, -, -, fresh, -⟩ := new (by decide +kernel)
    exact ⟨x, hx, name, fresh⟩
  · obtain ⟨x, r, hx, hread, -, only, -, old, -⟩ := found ho room hnow hend
    have there : (⟨3, none, "postgres://h/d", now.tick.tick.offsetText, some now.tick.tick.tick.offsetText⟩ :
        ConnectionRow) ∈ (s.finish ts).gateway.catalog.connections := by decide +kernel
    obtain ⟨-, unchanged⟩ := old ⟨_, there, rfl⟩
    rw [← unchanged] at there
    obtain rfl := (only _).1 ⟨there, rfl⟩
    exact ⟨x, hx, (ConnectionRow.read_ok hread).1⟩

end QueryGateway
