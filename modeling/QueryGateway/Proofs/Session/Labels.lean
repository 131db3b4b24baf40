import QueryGateway.Proofs.Session.Registration
import QueryGateway.Proofs.Text.Trimming

/-!
# URLs and names from requests

A request gives a URL or a name as someone typed it. Main statement: while only requests write
to the catalog, no URL and no name in it has white space around it or is empty, and a database
is one connection however much white space stands around its URL in a request.
-/

namespace QueryGateway

open Http Text Wire

/-! ## Tidy rows -/

/-- The URL of a row and its name, if it has one, are tidy. -/
structure ConnectionRow.IsTidy (r : ConnectionRow) : Prop where
  url : Text.IsTidy r.url
  name : ∀ n ∈ r.name, Text.IsTidy n

/-- What a client gives a connection: its URL and its name. -/
def ConnectionRow.label (r : ConnectionRow) : String × Option String := (r.url, r.name)

namespace Catalog

/-- All rows of connections are tidy. -/
def Tidy (c : Catalog) : Prop := ∀ r ∈ c.connections, r.IsTidy

variable {c : Catalog} {url : String} {name : Option String}

theorem Tidy.upsert (hc : c.Tidy) (hurl : Text.IsTidy url) (hname : ∀ n ∈ name, Text.IsTidy n) (now : Moment) :
    (c.upsert url name now).2.Tidy := by
  cases ho : c.isOpen with
  | false =>
    rw [upsert_of_closed ho]
    exact hc
  | true =>
    rcases upsert_cases url name now ho with ⟨-, h⟩ | ⟨-, q, -, h⟩ | ⟨-, -, h⟩ <;> rw [h]
    · exact hc
    · exact hc
    · intro r hr
      rcases List.mem_append.1 hr with hr | hr
      · exact hc r hr
      · rw [List.mem_singleton.1 hr]
        exact ⟨hurl, hname⟩

theorem Tidy.replaceTables (hc : c.Tidy) (id : Int) (tables : List TableInfo) : (c.replaceTables id tables).2.Tidy := by
  cases ho : c.isOpen with
  | false =>
    rw [replaceTables_of_closed ho]
    exact hc
  | true => rcases replaceTables_cases id tables ho with ⟨-, h⟩ | ⟨-, -, h⟩ | ⟨-, -, h⟩ <;> rw [h] <;> exact hc

theorem Tidy.update (hc : c.Tidy) (id : Int) {change : ConnectionRow → ConnectionRow}
    (hchange : ∀ r, r.IsTidy → (change r).IsTidy) : (c.update id change).2.Tidy := by
  cases ho : c.isOpen with
  | false =>
    rw [update_of_closed ho]
    exact hc
  | true =>
    rcases update_cases id change ho with ⟨-, h⟩ | ⟨q, -, h⟩ <;> rw [h]
    · exact hc
    · intro r hr
      obtain ⟨p, hp, rfl⟩ := List.mem_map.1 hr
      split
      · exact hchange p (hc p hp)
      · exact hc p hp

theorem Tidy.delete (hc : c.Tidy) (id : Int) : (c.delete id).2.Tidy := by
  cases ho : c.isOpen with
  | false =>
    rw [delete_of_closed ho]
    exact hc
  | true =>
    rcases delete_cases id ho with ⟨-, h⟩ | ⟨-, h⟩ <;> rw [h]
    · exact hc
    · exact fun r hr => hc r (List.mem_filter.1 hr).1

end Catalog

/-- However far a sync gets, the rows stay tidy if what it is given is. -/
theorem Gateway.Synced.tidy {g g' : Gateway} {url : String} {name : Option String}
    {r : Except GatewayError ConnectionMetadata} (h : Synced url name g r g') (hc : g.catalog.Tidy)
    (hurl : Text.IsTidy url) (hname : ∀ n ∈ name, Text.IsTidy n) : g'.catalog.Tidy := by
  have upserted : ∀ {r : Except CatalogError Connection} {g1},
      (g.note (.introspect url)).upsert url name = (r, g1) → g1.catalog.Tidy := by
    intro r g1 registered
    have h := hc.upsert hurl hname g.now
    rwa [catalog_of_upsert registered] at h
  have filled : ∀ {r : Except CatalogError Unit} {g1 g2 : Gateway} {id : Int} {tables : List TableInfo},
      g1.catalog.Tidy → g1.replaceTables id tables = (r, g2) → g2.catalog.Tidy := by
    intro r g1 g2 id tables h replaced
    have h := h.replaceTables id tables
    rwa [catalog_of_replaceTables replaced] at h
  have stamped : ∀ {r : Except CatalogError Connection} {g1 g2 : Gateway} {id : Int},
      g1.catalog.Tidy → g1.touch id = (r, g2) → g2.catalog.Tidy := by
    intro r g1 g2 id h touched
    have h : (g1.catalog.touch id g1.now).2.Tidy := h.update id fun q hq => ⟨hq.url, hq.name⟩
    rwa [catalog_of_touch touched] at h
  cases h with
  | unreachable => exact hc
  | unregistered _ registered => exact upserted registered
  | unreplaced _ registered replaced => exact filled (upserted registered) replaced
  | untouched _ registered replaced touched | done _ registered replaced touched =>
    exact stamped (filled (upserted registered) replaced) touched

/-! ## Requests -/

namespace Http

/-- What a client gives for a name is tidy once it is cleaned, or is none. -/
theorem isTidy_cleanName (name : Option String) : ∀ n ∈ cleanName name, Text.IsTidy n := by
  intro n hn
  obtain ⟨hn, nonempty⟩ := Option.filter_eq_some_iff.1 hn
  obtain ⟨given, -, rfl⟩ := Option.map_eq_some_iff.1 hn
  exact isTidy_trim (by simpa using nonempty)

/-- The URL and the name that something done to the gateway brings in are tidy. -/
def Deed.IsTidy : Deed → Prop
  | .sync url name => Text.IsTidy url ∧ ∀ n ∈ name, Text.IsTidy n
  | .rename _ name => ∀ n ∈ name, Text.IsTidy n
  | .delete _ | .query .. => True

/-- No request brings in anything else. -/
theorem Request.isTidy_of_deed? {r : Request} {d : Deed} (h : r.deed? = some d) : d.IsTidy := by
  unfold Request.deed? at h
  split at h
  · obtain ⟨⟨url, name⟩, hs, rfl⟩ := Option.map_eq_some_iff.1 h
    unfold Request.sync? at hs
    split at hs
    · split at hs
      · split at hs
        · cases hs
        · next nonempty =>
          cases hs
          exact ⟨isTidy_trim (by simpa using nonempty), isTidy_cleanName _⟩
      · cases hs
    · cases hs
  · obtain ⟨⟨id, sql⟩, -, rfl⟩ := Option.map_eq_some_iff.1 h
    trivial
  · obtain ⟨id, -, hc⟩ := Option.bind_eq_some_iff.1 h
    unfold Request.change? at hc
    split at hc
    · cases hc
      trivial
    · split at hc
      · split at hc
        · cases hc
          exact isTidy_cleanName _
        · cases hc
      · cases hc
  · cases h

theorem serve_tidy (r : Request) {g : Gateway} (hc : g.catalog.Tidy) : (serve r g).2.catalog.Tidy := by
  show (respond r g).2.catalog.Tidy
  cases hd : r.deed? with
  | none =>
    rw [respond_of_no_deed hd]
    exact hc
  | some d =>
    have tidy := Request.isTidy_of_deed? hd
    rw [respond_of_deed? hd, d.perform_snd]
    cases d with
    | sync url name => exact (g.sync_synced url name).tidy hc tidy.1 tidy.2
    | rename id name => exact hc.update id fun q hq => ⟨hq.url, tidy⟩
    | delete id => exact hc.delete id
    | query id sql =>
      dsimp only
      rw [(g.query_spec id sql).2]
      exact hc

/-- A request asks for a sync, and its body gives a text for the URL of the database. -/
def Request.AsksToSync (r : Request) (text : String) : Prop :=
  r.method = "POST" ∧ Resource.ofPath? r.path = some .sync ∧ ∃ name, readBody syncRequest r = .ok (text, name, ())

/-- A request to sync is one for the trimmed URL, unless nothing is left of that. -/
theorem Request.AsksToSync.deed? {r : Request} {text : String} (h : r.AsksToSync text) (nonempty : trim text ≠ "") :
    ∃ name, r.deed? = some (.sync (trim text) name) := by
  obtain ⟨post, hp, name, hb⟩ := h
  refine ⟨cleanName name, ?_⟩
  unfold Request.deed? Request.sync?
  rw [hp, if_pos post, hb]
  dsimp only
  rw [if_neg (by simpa using nonempty)]
  rfl

/-- A request to sync a blank URL does nothing. -/
theorem Request.AsksToSync.deed?_of_blank {r : Request} {text : String} (h : r.AsksToSync text)
    (blank : trim text = "") : r.deed? = none := by
  obtain ⟨post, hp, name, hb⟩ := h
  unfold Request.deed? Request.sync?
  rw [hp, if_pos post, hb]
  dsimp only
  rw [if_pos (by simpa using blank)]
  rfl

/-- A request to sync a blank URL is refused. -/
theorem Request.AsksToSync.refused {r : Request} {text : String} (h : r.AsksToSync text) (blank : trim text = "")
    (g : Gateway) : respond r g = (.ofError (.validation "connectionUrl must not be empty"), g) := by
  obtain ⟨post, hp, name, hb⟩ := h
  have hmethod : Resource.sync.method? r.method = some .post := by
    rw [post]
    rfl
  rw [respond_of_method hp hmethod]
  show syncDatabase r g = _
  unfold syncDatabase
  rw [hb]
  exact if_pos (by simpa using blank)

end Http

/-! ## Turns -/

/-- If anything writes to the catalog in a step, it is a request. -/
def Step.isServed : Step → Bool
  | .upsert .. | .replace .. | .touch _ | .rename .. | .delete _ | .sync .. | .query .. => false
  | .seedConnection _ | .seedTable _ => false
  | _ => true

namespace Turn

variable {x : Turn} {text : String} {i : Int}

/-- A turn is a request to sync, and behind it the database of its URL has a connection. The sync
need not have succeeded. -/
def SyncsTo (x : Turn) (text : String) (i : Int) : Prop :=
  ∃ r, x.step = .request r ∧ r.AsksToSync text ∧
    ∃ p, x.next.gateway.catalog.find? i = some p ∧ p.url = trim text

/-- A turn is a request to sync that succeeds, and tells the id of the connection. -/
def Syncs (x : Turn) (text : String) (i : Int) : Prop :=
  match x.step, x.answer with
  | .request r, .response p =>
    r.AsksToSync text ∧ p.status = 200 ∧
      ∃ v, p.body = .json v ∧ (v.member? "connection").bind (Json.Value.member? "id") = some (.int i)
  | _, _ => False

theorem SyncsTo.denotes (h : x.SyncsTo text i) :
    ∃ createdAt, x.next.gateway.catalog.Denotes i (trim text) createdAt := by
  obtain ⟨r, -, -, p, hp, hurl⟩ := h
  exact ⟨p.createdAt, p, hp, hurl, rfl⟩

/-- A request to sync takes no connection out. -/
theorem SyncsTo.not_deletes (h : x.SyncsTo text i) (j : Int) : ¬ x.Deletes j := by
  obtain ⟨s, t⟩ := x
  obtain ⟨r, rfl, asks, -⟩ := h
  rintro ⟨deletes, -⟩
  by_cases blank : trim text = ""
  · rw [asks.deed?_of_blank blank] at deletes
    cases deletes
  · obtain ⟨name, syncs⟩ := asks.deed? blank
    cases syncs.symm.trans deletes

/-- What a sync that succeeds tells is the connection behind it. -/
theorem Syncs.syncsTo (h : x.Syncs text i) (hc : x.session.gateway.catalog.Issued)
    (hk : x.session.gateway.catalog.Keyed) : x.SyncsTo text i := by
  obtain ⟨s, t⟩ := x
  cases t with
  | request r =>
    obtain ⟨asks, status, told⟩ := h
    have nonempty : trim text ≠ "" := by
      intro blank
      have refused := asks.refused blank s.gateway
      change (respond r s.gateway).1.status = 200 at status
      rw [refused] at status
      change 400 = 200 at status
      omega
    have registers : Registers ⟨s, .request r⟩ (trim text) i := ⟨asks.deed? nonempty, status, told⟩
    exact ⟨r, rfl, asks, (registers.spec hc hk).2⟩
  | _ => cases h

/-- A request for a sync that succeeds is such a turn. -/
theorem syncs_of_synced {s : Session} {r : Request} (name : Option String) (m : ConnectionMetadata)
    (post : r.method = "POST") (hp : Resource.ofPath? r.path = some .sync)
    (hb : readBody syncRequest r = .ok (text, name, ())) (nonempty : trim text ≠ "")
    (synced : (s.gateway.sync (trim text) (cleanName name)).1 = .ok m) :
    Syncs ⟨s, .request r⟩ text m.connection.id := by
  have hmethod : Resource.sync.method? r.method = some .post := by
    rw [post]
    rfl
  have done : (respond r s.gateway).1 = .json 200 (connectionMetadataJson m) := by
    rw [respond_of_method hp hmethod]
    show (syncDatabase r s.gateway).1 = _
    unfold syncDatabase
    rw [hb]
    dsimp only
    rw [if_neg (by simpa using nonempty)]
    unfold answerJson
    rw [synced]
  refine ⟨⟨post, hp, name, hb⟩, ?_, connectionMetadataJson m, ?_, id_of_document m⟩
  · show (respond r s.gateway).1.status = 200
    rw [done]
    rfl
  · show (respond r s.gateway).1.body = _
    rw [done]
    rfl

theorem tidy (served : x.step.isServed = true) (h : x.session.gateway.catalog.Tidy) : x.next.gateway.catalog.Tidy := by
  obtain ⟨s, t⟩ := x
  cases t with
  | request r => exact serve_tidy r h
  | tamper | close =>
    simp only [next, Session.step]
    split <;> exact h
  | list | get | metadata | script | calls | reopen => exact h
  | _ => cases served

end Turn

theorem Step.seeds_of_isServed {t : Step} (h : t.isServed = true) : t.seeds = false := by
  cases t with
  | seedConnection | seedTable => cases h
  | _ => rfl

/-! ## Runs -/

namespace Session

variable {s s' : Session} {xs : List Turn}

theorem Leads.tidy (h : s.Leads xs s') (hc : s.gateway.catalog = {}) (hxs : ∀ x ∈ xs, x.step.isServed = true) :
    s'.gateway.catalog.Tidy := by
  induction h with
  | start =>
    rw [hc]
    exact nofun
  | wait _ _ _ _ ih => exact ih hxs
  | turn _ t ih =>
    have before := ih fun x hx => hxs x (List.mem_append_left _ hx)
    exact Turn.tidy (x := ⟨_, t⟩) (hxs _ (List.mem_append_right _ List.mem_cons_self)) before

/-- Two requests to sync, with URLs that differ only in white space, are of one connection exactly if
that is not taken out between them. -/
theorem Leads.same_connection_iff (h : s.Leads xs s') (hc : s.gateway.catalog = {})
    (hxs : ∀ y ∈ xs, y.step.seeds = false) {us vs ws : List Turn} {p q : Turn}
    (hsplit : xs = us ++ p :: (vs ++ q :: ws)) {text text' : String} (same : SameInside text text') {i j : Int}
    (hp : p.SyncsTo text i) (hq : q.SyncsTo text' j) : i = j ↔ ∀ y ∈ vs, ¬ y.Deletes i := by
  have hsplit' : xs = (us ++ p :: vs) ++ q :: ws := by simp [hsplit]
  have upTo : s.Leads (us ++ p :: vs) q.session := h.upTo hsplit'
  have hxs' : ∀ y ∈ us ++ p :: vs, y.step.seeds = false := by
    intro y hy
    refine hxs y ?_
    rw [hsplit']
    exact List.mem_append_left _ hy
  have hseeds : q.step.seeds = false := hxs q (by simp [hsplit])
  obtain ⟨-, row', hrow', hurl', -⟩ := hq.denotes
  rcases upTo.sinceRow hc hxs' rfl hp.denotes with ⟨kept, createdAt, denotes⟩ | ⟨⟨y, hy, deleted⟩, gone⟩
  · -- The row is still there behind the second request, and no other row has the URL.
    obtain ⟨-, keyed⟩ := (upTo.turn q.step).keyed hc
    obtain ⟨row, hrow, hurl, -⟩ := (q.denotes_or_deletes hseeds denotes).resolve_right (hq.not_deletes i)
    obtain ⟨mem, rfl⟩ := Catalog.mem_of_find? hrow
    obtain ⟨mem', rfl⟩ := Catalog.mem_of_find? hrow'
    have one : row = row' := keyed.eq_of_url mem mem' (hurl.trans ((sameInside_iff.1 same).trans hurl'.symm))
    exact iff_of_true (congrArg _ one) kept
  · refine iff_of_false ?_ fun kept => kept y hy deleted
    rintro rfl
    cases hrow'.symm.trans (q.gone_of_gone hseeds gone).absent

end Session

/-- In any run from an empty catalog in which only requests write to it, with any time between the
turns: (1) every URL in the catalog and every name is tidy. (2) From a request to sync on that leaves
a connection to its database, as long as that is not taken out, it is the only one for whatever
differs from the URL of the request in the white space around it. (3) So two such requests whose
URLs differ only in that are of one connection exactly if it was not taken out between them. (4) A
request that succeeds tells the id of its connection. -/
theorem requested_labels_tidy {place : Place} {origins : List String} {now : Moment} {s s' : Session}
    (hs : Session.start place origins now = .ok s) {xs : List Turn} (h : s.Leads xs s')
    (hxs : ∀ x ∈ xs, x.step.isServed = true) :
    let rows := s'.gateway.catalog.connections
    (∀ r ∈ rows, r.IsTidy) ∧
    (∀ us p vs, xs = us ++ p :: vs → ∀ text i, p.SyncsTo text i → (∀ y ∈ vs, ¬ y.Deletes i) →
      ∃ r, r.id = i ∧ ∀ text', SameInside text text' → ∀ q, q ∈ rows ∧ q.url = trim text' ↔ q = r) ∧
    (∀ us p vs q ws, xs = us ++ p :: (vs ++ q :: ws) → ∀ text text', SameInside text text' →
      ∀ i j, p.SyncsTo text i → q.SyncsTo text' j → (i = j ↔ ∀ y ∈ vs, ¬ y.Deletes i)) ∧
    ∀ x ∈ xs, ∀ text i, x.Syncs text i → x.SyncsTo text i := by
  obtain ⟨hc, -⟩ := Session.start_catalog hs
  have hseeds : ∀ x ∈ xs, x.step.seeds = false := fun x hx => Step.seeds_of_isServed (hxs x hx)
  refine ⟨h.tidy hc hxs, fun us p vs hsplit text i hp kept => ?_,
    fun us p vs q ws hsplit text text' same i j hp hq => ?_, fun x hx text i hsync => ?_⟩
  · obtain ⟨-, keyed⟩ := h.keyed hc
    rcases h.sinceRow hc hseeds hsplit hp.denotes with ⟨-, createdAt, r, hr, hurl, -⟩ | ⟨⟨y, hy, deleted⟩, -⟩
    · -- The row of the request is still there, and it is the only one of its URL.
      obtain ⟨mem, rfl⟩ := Catalog.mem_of_find? hr
      refine ⟨r, rfl, fun text' same q => ?_⟩
      rw [← sameInside_iff.1 same]
      constructor
      · rintro ⟨hq, hqurl⟩
        exact keyed.eq_of_url hq mem (hqurl.trans hurl.symm)
      · rintro rfl
        exact ⟨mem, hurl⟩
    · exact absurd deleted (kept y hy)
  · exact h.same_connection_iff hc hseeds hsplit same hp hq
  · obtain ⟨us, vs, hsplit⟩ := List.append_of_mem hx
    obtain ⟨issued, keyed⟩ := (h.upTo hsplit).keyed hc
    exact hsync.syncsTo issued keyed

instance : DecidableEq syncRequest.Data := inferInstanceAs (DecidableEq (String × Option String × Unit))

/-- A database is synced by two requests with different white space around its URL, and between them
its connection is given a name with white space around it. Both requests tell one id. -/
theorem padded_urls_synced :
    let now : Moment := ⟨⟨2026, 5, 17⟩, 11, 23, 47, 0⟩
    let s : Session := ⟨⟨{}, .scripted [] ⟨[], []⟩ none, [], now, ["*"]⟩, .memory, {}⟩
    let request (method target body : String) : Step :=
      .request ⟨method, target, [("content-type", "application/json")], body⟩
    let ts : List Step :=
      [request "POST" "/api/metadata/sync" "\x7b\"connectionUrl\":\"\u2003postgres://h/d \",\"name\":\"a \"\x7d",
        request "PUT" "/api/metadata/1" "\x7b\"name\":\"\u00a0b c\u3000\"\x7d",
        request "POST" "/api/metadata/sync" "\x7b\"connectionUrl\":\"postgres://h/d\\n\",\"name\":\"e\"\x7d"]
    let x1 : Turn := ⟨s, ts[0]⟩
    let x2 : Turn := ⟨x1.next, ts[1]⟩
    let x3 : Turn := ⟨x2.next, ts[2]⟩
    let rows := (s.finish ts).gateway.catalog.connections
    rows.map ConnectionRow.label = [("postgres://h/d", some "b c")] ∧ (∀ r ∈ rows, r.IsTidy) ∧
      x1.Syncs "\u2003postgres://h/d " 1 ∧ x3.Syncs "postgres://h/d\n" 1 ∧
      ∀ j, x3.SyncsTo "postgres://h/d\n" j → j = 1 := by
  intro now s request ts x1 x2 x3 rows
  have hs : Session.start .memory ["*"] now = .ok s := rfl
  have h : s.Leads [x1, x2, x3] (s.finish ts) := s.leads_finish ts
  have hxs : ∀ x ∈ [x1, x2, x3], x.step.isServed = true := by
    intro x hx
    simp only [List.mem_cons, List.not_mem_nil, or_false] at hx
    rcases hx with rfl | rfl | rfl <;> rfl
  have same : SameInside "\u2003postgres://h/d " "postgres://h/d\n" := sameInside_iff.2 (by decide +kernel)
  have first : x1.Syncs "\u2003postgres://h/d " 1 :=
    Turn.syncs_of_synced (some "a ") ⟨⟨1, some "a", "postgres://h/d", now, some now.tick⟩, []⟩
      rfl (by decide +kernel) (by decide +kernel) (by decide +kernel) (by decide +kernel)
  have last : x3.Syncs "postgres://h/d\n" 1 :=
    Turn.syncs_of_synced (some "e") ⟨⟨1, some "b c", "postgres://h/d", now, some now.tick.tick.tick⟩, []⟩
      rfl (by decide +kernel) (by decide +kernel) (by decide +kernel) (by decide +kernel)
  have kept : ∀ y ∈ [x2], ¬ y.Deletes 1 := by
    intro y hy deletes
    rw [List.mem_singleton.1 hy] at deletes
    have renames : ∀ r, ts[1] = .request r → r.deed? = some (.rename 1 (some "b c")) := by
      rintro r ⟨⟩
      decide +kernel
    cases (renames _ rfl).symm.trans deletes.1
  obtain ⟨tidy, -, ids, told⟩ := requested_labels_tidy hs h hxs
  refine ⟨by decide +kernel, tidy, first, last, fun j hj => ?_⟩
  exact ((ids [] x1 [x2] x3 [] rfl _ _ same 1 j (told x1 List.mem_cons_self _ 1 first) hj).2 kept).symm

end QueryGateway
