import QueryGateway.Proofs.Catalog.Masks
import QueryGateway.Proofs.Session.Refusals

/-!
# What clients learn of the storage

Whatever goes wrong with the storage, a client is told no more than whether it went wrong in
a change or in a look-up. Main statement: a failure is told in an object of its detail and its code,
which for the storage is one of two, and sessions that differ in texts that cannot be read answer
the same to all requests.
-/

namespace QueryGateway

open Http

/-! ## Envelopes -/

namespace Http

/-- An object that tells a failure, by a detail and a code. -/
def envelope (detail code : String) : Json.Value := .object [("code", .string code), ("detail", .string detail)]

/-- The codes of failures, and the status that each of them comes with. -/
def statuses : List (String × Nat) :=
  [("validation_error", 400), ("query_failed", 400), ("not_found", 404), ("connection_failure", 502), ("timeout", 504),
    ("catalog_write_failure", 500), ("internal_error", 500)]

/-- All that is told of a failure inside: its detail and its code. -/
def insideMessages : List (String × String) :=
  [("Failed to update the metadata catalog", "catalog_write_failure"), ("Internal server error", "internal_error")]

/-- A response tells a failure. Its body has a detail and a code and nothing else, the status is the
one of the code, and of a failure inside it tells one of the fixed messages. -/
def Response.TellsFailure (p : Response) : Prop :=
  ∃ detail code, p.body = .json (envelope detail code) ∧ statuses.lookup code = some p.status ∧
    (p.status = 500 → (detail, code) ∈ insideMessages)

theorem tellsFailure_ofError (e : GatewayError) : (Response.ofError e).TellsFailure := by
  refine ⟨detailOf e, e.code, ?_, ?_, fun inside => ?_⟩
  · rfl
  · cases e <;> rfl
  · change statusOf e = 500 at inside
    cases e with
    | catalogWrite why => exact List.mem_cons_self
    | internal why => exact List.mem_cons_of_mem _ List.mem_cons_self
    | _ => cases inside

theorem Response.TellsFailure.withHeaders {p : Response} (h : p.TellsFailure) (headers : Headers) :
    (p.withHeaders headers).TellsFailure := h

/-- A response tells success, or it is the one to a failure. -/
def Response.IsReply (p : Response) : Prop := p.Succeeds ∨ ∃ e, p = .ofError e

theorem isReply_ofError (e : GatewayError) : (Response.ofError e).IsReply := .inr ⟨e, rfl⟩

theorem isReply_json (v : Json.Value) : (Response.json 200 v).IsReply :=
  .inl ⟨Nat.le_refl 200, show 200 < 300 by decide⟩

theorem isReply_answerJson {α : Type} (json : α → Json.Value) (outcome : Except GatewayError α × Gateway) :
    (answerJson json outcome).1.IsReply := by
  unfold answerJson
  cases outcome.1 with
  | ok a => exact isReply_json _
  | error e => exact isReply_ofError e

theorem isReply_syncDatabase (r : Request) (g : Gateway) : (syncDatabase r g).1.IsReply := by
  unfold syncDatabase
  split
  · exact isReply_ofError _
  · split
    · exact isReply_ofError _
    · exact isReply_answerJson _ _

theorem isReply_listConnections (g : Gateway) : (listConnections g).IsReply := by
  unfold listConnections
  split
  · exact isReply_json _
  · exact isReply_ofError _

theorem isReply_showConnection (segment : List Char) (g : Gateway) : (showConnection segment g).IsReply := by
  unfold showConnection
  split
  · exact isReply_ofError _
  · split
    · exact isReply_json _
    · exact isReply_ofError _

theorem isReply_renameConnection (segment : List Char) (r : Request) (g : Gateway) :
    (renameConnection segment r g).1.IsReply := by
  unfold renameConnection
  split
  · exact isReply_ofError _
  · split
    · exact isReply_ofError _
    · exact isReply_answerJson _ _

theorem isReply_deleteConnection (segment : List Char) (g : Gateway) : (deleteConnection segment g).1.IsReply := by
  unfold deleteConnection
  split
  · exact isReply_ofError _
  · split
    · exact .inl ⟨show 200 ≤ 204 by decide, show 204 < 300 by decide⟩
    · exact isReply_ofError _

theorem isReply_runQuery (r : Request) (g : Gateway) : (runQuery r g).1.IsReply := by
  unfold runQuery
  split
  · exact isReply_ofError _
  · exact isReply_answerJson _ _

/-- Every operation replies, but that a reply to `HEAD` comes without its body. -/
theorem isReply_operate {resource : Resource} {m : Method} (known : m ∈ resource.methods) (body : m ≠ .head)
    (r : Request) (g : Gateway) : (operate resource m r g).1.IsReply := by
  cases resource with
  | health =>
    cases m with
    | get => exact isReply_json _
    | _ => simp [Resource.methods] at known body
  | connections =>
    cases m with
    | get => exact isReply_listConnections g
    | _ => simp [Resource.methods] at known body
  | connection segment =>
    cases m with
    | get => exact isReply_showConnection segment g
    | put => exact isReply_renameConnection segment r g
    | delete => exact isReply_deleteConnection segment g
    | _ => simp [Resource.methods] at known body
  | sync =>
    cases m with
    | post => exact isReply_syncDatabase r g
    | _ => simp [Resource.methods] at known
  | query =>
    cases m with
    | post => exact isReply_runQuery r g
    | _ => simp [Resource.methods] at known

end Http

/-! ## Gateways up to masks -/

namespace Gateway

/-- A gateway without texts that cannot be read. -/
def masked (g : Gateway) : Gateway := { g with catalog := g.catalog.masked }

/-- What an operation on the catalog answers and leaves, up to masks. -/
def maskedOutcome {α : Type} (o : Except CatalogError α × Gateway) : Except CatalogError α × Gateway :=
  (o.1.mapError CatalogError.masked, o.2.masked)

/-- What a client is told of an outcome, and the gateway behind it up to masks. -/
def told {α : Type} (o : Except GatewayError α × Gateway) : Except Response α × Gateway :=
  (o.1.mapError Response.ofError, o.2.masked)

variable {g g' : Gateway}

theorem eq_of_masked (h : g.masked = g'.masked) :
    ∃ c, g.catalog.masked = c.masked ∧ g' = { g with catalog := c } := by
  obtain ⟨c, remote, calls, now, origins⟩ := g
  obtain ⟨c', remote', calls', now', origins'⟩ := g'
  simp only [masked, Gateway.mk.injEq] at h
  obtain ⟨hc, rfl, rfl, rfl, rfl⟩ := h
  exact ⟨c', hc, rfl⟩

theorem masked_withCatalog (g : Gateway) {α : Type} {op : Catalog → Catalog.Outcome α}
    (hop : ∀ c, Catalog.maskedOutcome (op c.masked) = Catalog.maskedOutcome (op c)) {c c' : Catalog}
    (h : c.masked = c'.masked) : maskedOutcome (g.withCatalog (op c)) = maskedOutcome (g.withCatalog (op c')) :=
  congrArg (fun o => (o.1, { g with catalog := o.2 })) (Catalog.maskedOutcome_congr hop h)

section

variable (h : g.masked = g'.masked)

include h

theorem masked_note (call : Call) : (g.note call).masked = (g'.note call).masked :=
  congrArg (note call) h

theorem masked_upsert (url : String) (name : Option String) :
    maskedOutcome (g.upsert url name) = maskedOutcome (g'.upsert url name) := by
  obtain ⟨c, hc, rfl⟩ := eq_of_masked h
  exact masked_withCatalog { g with now := g.now.tick } (fun c => c.upsert_masked url name g.now) hc

theorem masked_replaceTables (id : Int) (tables : List TableInfo) :
    maskedOutcome (g.replaceTables id tables) = maskedOutcome (g'.replaceTables id tables) := by
  obtain ⟨c, hc, rfl⟩ := eq_of_masked h
  exact masked_withCatalog g (fun c => c.replaceTables_masked id tables) hc

theorem masked_touch (id : Int) : maskedOutcome (g.touch id) = maskedOutcome (g'.touch id) := by
  obtain ⟨c, hc, rfl⟩ := eq_of_masked h
  exact masked_withCatalog { g with now := g.now.tick } (fun c => c.touch_masked id g.now) hc

theorem masked_rename (id : Int) (name : Option String) :
    maskedOutcome (g.rename id name) = maskedOutcome (g'.rename id name) := by
  obtain ⟨c, hc, rfl⟩ := eq_of_masked h
  exact masked_withCatalog g (fun c => c.rename_masked id name) hc

theorem masked_delete (id : Int) : maskedOutcome (g.delete id) = maskedOutcome (g'.delete id) := by
  obtain ⟨c, hc, rfl⟩ := eq_of_masked h
  exact masked_withCatalog g (fun c => c.delete_masked id) hc

end

/-- A failure of the catalog is told without the words of the storage. -/
theorem ofError_masked (e : CatalogError) :
    Response.ofError (.ofCatalog e.masked) = Response.ofError (.ofCatalog e) := by
  cases e <;> rfl

theorem ofError_congr {e e' : CatalogError} (h : e.masked = e'.masked) :
    Response.ofError (.ofCatalog e) = Response.ofError (.ofCatalog e') := by
  rw [← ofError_masked, h, ofError_masked]

theorem told_of_error {α : Type} {e e' : CatalogError} (he : e.masked = e'.masked) (hg : g.masked = g'.masked) :
    told (α := α) (.error (.ofCatalog e), g) = told (.error (.ofCatalog e'), g') :=
  Prod.ext (congrArg Except.error (ofError_congr he)) hg

theorem maskedOutcome_cases {α : Type} {o o' : Except CatalogError α × Gateway}
    (h : maskedOutcome o = maskedOutcome o') :
    ∃ g g', g.masked = g'.masked ∧
      ((∃ e e', o = (.error e, g) ∧ o' = (.error e', g') ∧ e.masked = e'.masked) ∨
        ∃ x, o = (.ok x, g) ∧ o' = (.ok x, g')) := by
  obtain ⟨r, g⟩ := o
  obtain ⟨r', g'⟩ := o'
  obtain ⟨hr, hg⟩ := Prod.mk.inj h
  refine ⟨g, g', hg, ?_⟩
  cases Catalog.agree_of_masked hr with
  | ok x => exact .inr ⟨x, rfl, rfl⟩
  | error he => exact .inl ⟨_, _, rfl, rfl, he⟩

theorem told_ofCatalog {α : Type} {o o' : Except CatalogError α × Gateway} (h : maskedOutcome o = maskedOutcome o') :
    told (o.1.mapError .ofCatalog, o.2) = told (o'.1.mapError .ofCatalog, o'.2) := by
  obtain ⟨g, g', hg, ⟨e, e', rfl, rfl, he⟩ | ⟨x, rfl, rfl⟩⟩ := maskedOutcome_cases h
  · exact told_of_error he hg
  · exact Prod.ext rfl hg

theorem told_sync (h : g.masked = g'.masked) (url : String) (name : Option String) :
    told (g.sync url name) = told (g'.sync url name) := by
  have noted := masked_note h (.introspect url)
  have remote : (g'.note (.introspect url)).remote = (g.note (.introspect url)).remote :=
    (congrArg Gateway.remote h).symm
  unfold sync
  dsimp only
  rw [remote]
  -- At every stage both stop, or both go on with one result.
  cases (g.note (.introspect url)).remote.introspect url with
  | error e => exact Prod.ext rfl noted
  | ok tables =>
    dsimp only
    obtain ⟨g1, g1', h1, ⟨e, e', ho, ho', he⟩ | ⟨x, ho, ho'⟩⟩ := maskedOutcome_cases (masked_upsert noted url name) <;>
      rw [ho, ho']
    · exact told_of_error he h1
    dsimp only
    obtain ⟨g2, g2', h2, ⟨e, e', ho, ho', he⟩ | ⟨u, ho, ho'⟩⟩ :=
      maskedOutcome_cases (masked_replaceTables h1 x.id tables) <;>
      rw [ho, ho']
    · exact told_of_error he h2
    dsimp only
    obtain ⟨g3, g3', h3, ⟨e, e', ho, ho', he⟩ | ⟨y, ho, ho'⟩⟩ := maskedOutcome_cases (masked_touch h2 x.id) <;>
      rw [ho, ho']
    · exact told_of_error he h3
    · exact Prod.ext rfl h3

theorem told_query (h : g.masked = g'.masked) (id : Int) (sql : String) :
    told (g.query id sql) = told (g'.query id sql) := by
  obtain ⟨c, hc, rfl⟩ := eq_of_masked h
  have found := Catalog.agree_of_look (fun c => c.get_masked id) hc
  unfold query
  dsimp only
  generalize g.catalog.get id = r at found ⊢
  generalize c.get id = r' at found ⊢
  cases found with
  | error he => exact told_of_error he h
  | ok x =>
    dsimp only
    cases guardSql sql with
    | error e => exact Prod.ext rfl h
    | ok q =>
      have noted := masked_note h (.execute x.connectionUrl q.patchedSql)
      dsimp only [note] at noted ⊢
      cases g.remote.execute x.connectionUrl q.patchedSql <;> exact Prod.ext rfl noted

end Gateway

/-! ## Requests -/

namespace Http

open Gateway Wire

/-- A response, and the gateway behind it up to masks. -/
def shown (o : Response × Gateway) : Response × Gateway := (o.1, o.2.masked)

theorem shown_answerJson {α : Type} {json : α → Json.Value} {o o' : Except GatewayError α × Gateway}
    (h : told o = told o') : shown (answerJson json o) = shown (answerJson json o') := by
  have of_told : ∀ o : Except GatewayError α × Gateway, shown (answerJson json o) =
      ((match (told o).1 with | .ok a => .json 200 (json a) | .error p => p), (told o).2) := by
    rintro ⟨r, g⟩
    cases r <;> rfl
  rw [of_told, of_told, h]

section

variable {g g' : Gateway} (h : g.masked = g'.masked)

include h

theorem listConnections_congr : listConnections g = listConnections g' := by
  obtain ⟨c, hc, rfl⟩ := eq_of_masked h
  have listed := Catalog.agree_of_look Catalog.list_masked hc
  unfold listConnections
  dsimp only
  generalize g.catalog.list = r at listed ⊢
  generalize c.list = r' at listed ⊢
  cases listed with
  | ok cs => rfl
  | error he => exact ofError_congr he

theorem showConnection_congr (segment : List Char) : showConnection segment g = showConnection segment g' := by
  obtain ⟨c, hc, rfl⟩ := eq_of_masked h
  unfold showConnection
  cases readId segment with
  | error e => rfl
  | ok id =>
    have found := Catalog.agree_of_look (fun c => c.metadata_masked id) hc
    dsimp only
    generalize g.catalog.metadata id = r at found ⊢
    generalize c.metadata id = r' at found ⊢
    cases found with
    | ok m => rfl
    | error he => exact ofError_congr he

theorem shown_syncDatabase (r : Request) : shown (syncDatabase r g) = shown (syncDatabase r g') := by
  unfold syncDatabase
  split
  · exact Prod.ext rfl h
  · split
    · exact Prod.ext rfl h
    · exact shown_answerJson (told_sync h _ _)

theorem shown_renameConnection (segment : List Char) (r : Request) :
    shown (renameConnection segment r g) = shown (renameConnection segment r g') := by
  unfold renameConnection
  split
  · exact Prod.ext rfl h
  · split
    · exact Prod.ext rfl h
    · exact shown_answerJson (told_ofCatalog (masked_rename h _ _))

theorem shown_deleteConnection (segment : List Char) :
    shown (deleteConnection segment g) = shown (deleteConnection segment g') := by
  unfold deleteConnection
  split
  · exact Prod.ext rfl h
  · next id _ =>
    obtain ⟨g1, g1', h1, ⟨e, e', ho, ho', he⟩ | ⟨x, ho, ho'⟩⟩ := maskedOutcome_cases (masked_delete h id) <;>
      rw [ho, ho']
    · exact Prod.ext (ofError_congr he) h1
    · exact Prod.ext rfl h1

theorem shown_runQuery (r : Request) : shown (runQuery r g) = shown (runQuery r g') := by
  unfold runQuery
  split
  · exact Prod.ext rfl h
  · exact shown_answerJson (told_query h _ _)

theorem shown_operate (resource : Resource) (m : Method) (r : Request) :
    shown (operate resource m r g) = shown (operate resource m r g') := by
  unfold operate answerOnly
  split
  case h_3 | h_4 => rw [listConnections_congr h]; exact Prod.ext rfl h
  case h_5 | h_6 => rw [showConnection_congr h]; exact Prod.ext rfl h
  case h_7 segment => exact shown_renameConnection h segment r
  case h_8 segment => exact shown_deleteConnection h segment
  case h_9 => exact shown_syncDatabase h r
  case h_10 => exact shown_runQuery h r
  all_goals exact Prod.ext rfl h

/-- A request gets the same response from gateways that are one up to masks, and leaves such
gateways. -/
theorem shown_serve (r : Request) : shown (serve r g) = shown (serve r g') := by
  have responded : shown (respond r g) = shown (respond r g') := by
    unfold respond
    dsimp only
    split
    · exact Prod.ext rfl h
    · split
      · exact Prod.ext rfl h
      · split
        · exact shown_operate h _ _ r
        · exact Prod.ext rfl h
  have origins : g.masked.origins = g'.masked.origins := congrArg Gateway.origins h
  show ((respond r g).1.withHeaders (originHeaders g.masked.origins r), (respond r g).2.masked) = _
  rw [origins]
  exact congrArg (fun o => (o.1.withHeaders (originHeaders g'.origins r), o.2)) responded

end

end Http

/-! ## Runs of requests -/

namespace Session

/-- A session without texts that cannot be read. -/
def masked (s : Session) : Session := { s with gateway := s.gateway.masked }

theorem run_requests_congr {s s' : Session} (h : s.masked = s'.masked) (rs : List Request) :
    (s.run (rs.map .request)).1 = (s'.run (rs.map .request)).1 := by
  induction rs generalizing s s' with
  | nil => rfl
  | cons r rs ih =>
    obtain ⟨g, place, record⟩ := s
    obtain ⟨g', place', record'⟩ := s'
    simp only [masked, Session.mk.injEq] at h
    obtain ⟨hg, rfl, rfl⟩ := h
    obtain ⟨response, left⟩ := Prod.mk.inj (shown_serve hg r)
    have behind : Session.masked ⟨(serve r g).2, place, record⟩ = Session.masked ⟨(serve r g').2, place, record⟩ :=
      congrArg (fun g => Session.mk g place record) left
    exact congrArg₂ (fun p ps => .response p :: ps) response (ih behind)

end Session

/-- (1) A request gets to an operation by another method than `HEAD`. Whatever the state of the
gateway is, if the response tells no success, it tells a failure: its body is an object of a detail
and a code, the code gives the status, and of a failure inside it tells one of two messages.
(2) Failures of the catalog that differ in the words of the storage are answered the same.
(3) Sessions that differ in texts of the storage that cannot be read answer the same to all
requests, however many there are. -/
theorem storage_failures_masked {r : Request} {resource : Resource} {m : Method}
    (hp : Resource.ofPath? r.path = some resource) (hm : resource.method? r.method = some m) (body : m ≠ .head) :
    (∀ g : Gateway, ¬ (serve r g).1.Succeeds → (serve r g).1.TellsFailure) ∧
    (∀ e e' : CatalogError, e.masked = e'.masked → Response.ofError (.ofCatalog e) = Response.ofError (.ofCatalog e')) ∧
    ∀ s s' : Session, s.masked = s'.masked → ∀ rs : List Request,
      (s.run (rs.map .request)).1 = (s'.run (rs.map .request)).1 := by
  refine ⟨fun g failed => ?_, fun e e' => Gateway.ofError_congr, fun s s' => Session.run_requests_congr⟩
  have known : m ∈ resource.methods := List.mem_of_find?_eq_some hm
  have reply := isReply_operate known body r g
  -- The headers that are added behind the operation are no part of what is told.
  change ¬ (respond r g).1.Succeeds at failed
  show ((respond r g).1.withHeaders _).TellsFailure
  rw [respond_of_method hp hm] at failed ⊢
  rcases reply with ok | ⟨e, he⟩
  · exact absurd ok failed
  · rw [he]
    exact (tellsFailure_ofError e).withHeaders _

/-- Two sessions in which someone put in a table, each with another text for its columns that is none.
A request for the connection is answered the same by both, as a failure inside. -/
theorem unreadable_columns_masked :
    let now : Moment := ⟨⟨2026, 5, 17⟩, 11, 23, 47, 0⟩
    let s : Session := ⟨⟨{}, .scripted [] ⟨[], []⟩ none, [], now, ["*"]⟩, .shared, {}⟩
    let seeded (columns : String) : Session :=
      s.finish [.upsert "postgres://h/d" none, .seedTable ⟨1, "public", "t", false, columns⟩]
    let r : Request := ⟨"GET", "/api/metadata/1", [], ""⟩
    let list : Request := ⟨"GET", "/api/metadata", [], ""⟩
    (seeded "not json").gateway.catalog ≠ (seeded "[7]").gateway.catalog ∧
      (serve r (seeded "[7]").gateway).1.status = 500 ∧ (serve r (seeded "[7]").gateway).1.TellsFailure ∧
      ((seeded "not json").run [.request r, .request list]).1 = ((seeded "[7]").run [.request r, .request list]).1 := by
  intro now s seeded r list
  have hp : Resource.ofPath? r.path = some (.connection ['1']) := by decide +kernel
  have hm : (Resource.connection ['1']).method? r.method = some .get := rfl
  obtain ⟨tells, -, same⟩ := storage_failures_masked hp hm (by decide)
  have catalogs : (seeded "not json").gateway.catalog.masked = (seeded "[7]").gateway.catalog.masked := by
    decide +kernel
  have masked : (seeded "not json").masked = (seeded "[7]").masked :=
    congrArg (fun c => Session.mk ⟨c, s.gateway.remote, [], now.tick, ["*"]⟩ .shared {}) catalogs
  exact ⟨by decide +kernel, by decide +kernel, tells _ (by decide +kernel), same _ _ masked [r, list]⟩

end QueryGateway
