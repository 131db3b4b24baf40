import QueryGateway.Proofs.Session.Consistency
import QueryGateway.Proofs.Session.Queries

/-!
# Requests without success

Most requests only look, and others are not granted. Main statement: if the response to a
request tells no success, the catalog is as it was and no remote database was called, except
that a query may have been let through, and a sync has looked into its database and may have
written what it found there. One kind of request breaks this: a name given to a connection
whose row cannot be read is written before the row is read.
-/

namespace QueryGateway

open Http

/-! ## Rows that cannot be read -/

namespace ConnectionRow

/-- A row that describes no connection. -/
def Unreadable (r : ConnectionRow) : Prop := ∃ f, r.read = .error f

theorem named_eq_iff {name : Option String} {r : ConnectionRow} : r.named name = r ↔ r.name = name := by
  refine ⟨fun h => (congrArg ConnectionRow.name h).symm, ?_⟩
  rintro rfl
  rfl

theorem read_named (name : Option String) (r : ConnectionRow) :
    (r.named name).read = r.read.map fun x => { x with name } := by
  unfold ConnectionRow.read named
  simp only [bind, Except.bind]
  cases readMoment "created_at" r.createdAt with
  | error f => rfl
  | ok t => cases r.lastSynced.mapM (readMoment "last_synced") <;> rfl

theorem Timed.readable {r : ConnectionRow} (h : r.Timed) : ¬ r.Unreadable := by
  obtain ⟨x, hx⟩ := h.read
  rintro ⟨f, hf⟩
  cases hx.symm.trans hf

end ConnectionRow

/-! ## Changes that fail -/

namespace Catalog

variable {c : Catalog} {id : Int} {name : Option String} {e : CatalogError}

/-- A connection has a row that cannot be read, with another name than the one it is given. -/
structure Mislabels (c : Catalog) (id : Int) (name : Option String) (r : ConnectionRow) : Prop where
  isOpen : c.isOpen = true
  found : c.find? id = some r
  unreadable : r.Unreadable
  other : r.name ≠ name

/-- A change to the row of a connection does nothing exactly if the row is what it makes of it. -/
theorem Keyed.modify_eq_iff (hk : c.Keyed) {r : ConnectionRow} (found : c.find? id = some r)
    {change : ConnectionRow → ConnectionRow} (hid : ∀ q, (change q).id = q.id) :
    c.modify id change = c ↔ change r = r := by
  have changed : (c.modify id change).find? id = some (change r) := by
    rw [find?_modify _ _ _ _ hid, found, Option.map_some, if_pos (hk.find?_iff.1 found).2]
  refine ⟨fun same => ?_, fun same => ?_⟩
  · rw [same, found] at changed
    exact (Option.some.inj changed).symm
  · have rows : (c.connections.map fun q => if q.id == id then change q else q) = c.connections := by
      refine (List.map_congr_left fun q hq => ?_).trans (List.map_id' _)
      split
      · next hqid =>
        -- No other row has the id.
        have hqr : c.find? id = some q := hk.find?_iff.2 ⟨hq, by simpa using hqid⟩
        cases found.symm.trans hqr
        exact same
      · rfl
    unfold Catalog.modify
    rw [rows]

theorem delete_of_error (failed : (c.delete id).1 = .error e) : (c.delete id).2 = c := by
  cases ho : c.isOpen with
  | false => rw [delete_of_closed ho]
  | true =>
    rcases delete_cases id ho with ⟨-, h⟩ | ⟨-, h⟩ <;> rw [h] at failed ⊢
    cases failed

/-- A row that cannot be read has its new name before that shows. -/
theorem Mislabels.renamed {r : ConnectionRow} (h : c.Mislabels id name r) :
    ∃ f, c.rename id name = (.error (.writeFailed f), c.modify id (.named name)) := by
  obtain ⟨ho, found, ⟨f, hf⟩, -⟩ := h
  rcases update_cases id (ConnectionRow.named name) ho with ⟨absent, -⟩ | ⟨q, hq, left⟩
  · cases absent.symm.trans found
  · cases hq.symm.trans found
    have unread : written (r.named name) = .error (.writeFailed f) := by
      unfold written
      rw [r.read_named, hf]
      rfl
    exact ⟨f, left.trans (by rw [unread])⟩

/-- A renaming that fails leaves the catalog unless it is of a row that cannot be read. -/
theorem rename_eq_iff_of_error (hk : c.Keyed) (failed : (c.rename id name).1 = .error e) :
    (c.rename id name).2 = c ↔ ¬ ∃ r, c.Mislabels id name r := by
  cases ho : c.isOpen with
  | false =>
    refine iff_of_true ?_ fun ⟨r, h⟩ => by simpa [ho] using h.isOpen
    unfold rename
    rw [update_of_closed ho]
  | true =>
    rcases update_cases id (ConnectionRow.named name) ho with ⟨absent, h⟩ | ⟨r, found, h⟩
    · refine iff_of_true (congrArg Prod.snd h) fun ⟨r, h⟩ => ?_
      cases absent.symm.trans h.found
    · have unreadable : r.Unreadable := by
        have unread : written (r.named name) = .error e := (congrArg Prod.fst h).symm.trans failed
        unfold written at unread
        rw [r.read_named] at unread
        cases hr : r.read with
        | error f => exact ⟨f, hr⟩
        | ok x =>
          rw [hr] at unread
          cases unread
      have left : (c.rename id name).2 = c.modify id (.named name) := congrArg Prod.snd h
      rw [left, hk.modify_eq_iff found (ConnectionRow.named_id name), ConnectionRow.named_eq_iff]
      refine ⟨fun same ⟨q, hq⟩ => ?_, fun none => ?_⟩
      · cases found.symm.trans hq.found
        exact hq.other same
      · exact Classical.not_not.1 fun other => none ⟨r, ho, found, unreadable, other⟩

end Catalog

/-- A sync gets no further than its database if that cannot be looked into. -/
theorem Gateway.sync_of_unreachable {g : Gateway} {url : String} {name : Option String} {e : RemoteError}
    (looked : g.remote.introspect url = .error e) :
    g.sync url name = (.error (.ofRemote e), g.note (.introspect url)) := by
  have same : (g.note (.introspect url)).remote.introspect url = .error e := looked
  unfold Gateway.sync
  dsimp only
  rw [same]

/-! ## Requests -/

namespace Http

/-- A response tells success. -/
def Response.Succeeds (p : Response) : Prop := 200 ≤ p.status ∧ p.status < 300

instance (p : Response) : Decidable p.Succeeds := inferInstanceAs (Decidable (200 ≤ p.status ∧ p.status < 300))

/-- What is done calls remote databases: a query as far as it is let through, and a sync to look
into its database. -/
def Deed.calls (g : Gateway) : Deed → List Call
  | .query id sql => g.sent id sql
  | .sync url _ => [.introspect url]
  | .rename .. | .delete _ => []

namespace Request

/-- A request may only look. -/
def IsSafe (r : Request) : Prop := r.method = "GET" ∨ r.method = "HEAD" ∨ r.method = "OPTIONS"

/-- The calls that a request makes. -/
def calls (r : Request) (g : Gateway) : List Call := r.deed?.elim [] (Deed.calls g)

/-- A request syncs a database that can be looked into. -/
def SyncsFrom (r : Request) (g : Gateway) : Prop :=
  ∃ url name tables, r.deed? = some (.sync url name) ∧ g.remote.introspect url = .ok tables

/-- A request gives another name to a connection whose row cannot be read. -/
def Mislabels (r : Request) (c : Catalog) : Prop :=
  ∃ id name row, r.deed? = some (.rename id name) ∧ c.Mislabels id name row

theorem IsSafe.deed? {r : Request} (h : r.IsSafe) : r.deed? = none := by
  rcases h with h | h | h <;> exact deed?_of_method (by simp [h]) (by simp [h]) (by simp [h])

end Request

theorem Deed.perform_calls (d : Deed) (g : Gateway) : (d.perform g).2.calls = g.calls ++ d.calls g := by
  rw [d.perform_snd]
  cases d with
  | sync url name => exact (g.sync_synced url name).calls
  | rename | delete => exact (List.append_nil _).symm
  | query id sql =>
    show (g.query id sql).2.calls = g.calls ++ g.sent id sql
    rw [(g.query_spec id sql).2]

theorem serve_calls (r : Request) (g : Gateway) : (serve r g).2.calls = g.calls ++ r.calls g := by
  rw [serve_snd]
  unfold Request.calls
  cases hd : r.deed? with
  | none =>
    rw [respond_of_no_deed hd]
    exact (List.append_nil _).symm
  | some d =>
    rw [respond_of_deed? hd]
    exact d.perform_calls g

/-- A response without success is that of an operation that failed. -/
theorem error_of_answerJson {α : Type} {json : α → Json.Value} {outcome : Except GatewayError α × Gateway}
    (failed : ¬ (answerJson json outcome).1.Succeeds) : ∃ e, outcome.1 = .error e := by
  cases h : outcome.1 with
  | error e => exact ⟨e, rfl⟩
  | ok a =>
    have status : (answerJson json outcome).1.status = 200 := by
      have ok := answerJson_status json outcome
      rw [h] at ok
      exact beq_iff_eq.1 ok
    refine absurd ?_ failed
    unfold Response.Succeeds
    rw [status]
    decide

/-- What is done without success leaves the catalog, unless it is a sync that gets to write or a
renaming of a row that cannot be read. -/
theorem Deed.catalog_eq_iff {d : Deed} {g : Gateway} (hk : g.catalog.Keyed) (failed : ¬ (d.perform g).1.Succeeds)
    (unseen : ∀ url name tables, d = .sync url name → g.remote.introspect url ≠ .ok tables) :
    (d.perform g).2.catalog = g.catalog ↔ ¬ ∃ id name row, d = .rename id name ∧ g.catalog.Mislabels id name row := by
  cases d with
  | sync url name =>
    refine iff_of_true ?_ nofun
    rw [Deed.perform_snd]
    show (g.sync url name).2.catalog = g.catalog
    cases looked : g.remote.introspect url with
    | ok tables => exact absurd looked (unseen url name tables rfl)
    | error e =>
      rw [Gateway.sync_of_unreachable looked]
      rfl
  | query id sql =>
    refine iff_of_true ?_ nofun
    rw [Deed.perform_snd]
    show (g.query id sql).2.catalog = g.catalog
    rw [(g.query_spec id sql).2]
  | delete id =>
    refine iff_of_true ?_ nofun
    rw [Deed.perform_snd]
    cases h : (g.catalog.delete id).1 with
    | error e => exact Catalog.delete_of_error h
    | ok u =>
      refine absurd ?_ failed
      have done : (g.delete id).1 = .ok () := h
      dsimp only [Deed.perform]
      rw [done]
      exact ⟨by decide, by decide⟩
  | rename id name =>
    obtain ⟨e, he⟩ := error_of_answerJson failed
    rw [Deed.perform_snd]
    show (g.catalog.rename id name).2 = g.catalog ↔ _
    cases h : (g.catalog.rename id name).1 with
    | ok x =>
      have done : (g.rename id name).1 = .ok x := h
      rw [done] at he
      cases he
    | error e =>
      rw [Catalog.rename_eq_iff_of_error hk h]
      refine not_congr ⟨fun ⟨row, h⟩ => ⟨id, name, row, rfl, h⟩, ?_⟩
      rintro ⟨id', name', row, same, h⟩
      cases same
      exact ⟨row, h⟩

/-- A renaming of a row that cannot be read is answered as a failed write, and made. -/
theorem serve_of_mislabels {r : Request} {g : Gateway} {id : Int} {name : Option String} {row : ConnectionRow}
    (hd : r.deed? = some (.rename id name)) (h : g.catalog.Mislabels id name row) :
    (serve r g).1.status = 500 ∧
      (∃ f, (serve r g).1.body = (Response.ofError (.ofCatalog (.writeFailed f))).body) ∧
      (serve r g).2 = { g with catalog := g.catalog.modify id (.named name) } := by
  obtain ⟨f, left⟩ := h.renamed
  have renamed : g.rename id name = (.error (.writeFailed f), { g with catalog := g.catalog.modify id (.named name) }) :=
    congrArg (fun o => (o.1, { g with catalog := o.2 })) left
  unfold serve
  dsimp only
  rw [respond_of_deed? hd]
  dsimp only [Deed.perform]
  rw [renamed]
  exact ⟨rfl, ⟨f, rfl⟩, rfl⟩

end Http

end QueryGateway
