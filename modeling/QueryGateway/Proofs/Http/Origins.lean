import QueryGateway.Proofs.Http.Requests

/-!
# Origins

A router is built with a rule for origins, which `OriginRule.setUp?` makes of those that
are set up. A list that has a star in it makes no rule, so what stands here first is that
there is always one. What a response says about origins is what the rule allows, and it is
all in which two gateways differ that have other origins set up.
-/

namespace QueryGateway

open Text Wire

/-- A gateway with other origins set up. -/
def Gateway.withOrigins (g : Gateway) (origins : List String) : Gateway := { g with origins }

@[simp] theorem Gateway.withOrigins_catalog (g : Gateway) (origins : List String) :
    (g.withOrigins origins).catalog = g.catalog := rfl

@[simp] theorem Gateway.withOrigins_remote (g : Gateway) (origins : List String) :
    (g.withOrigins origins).remote = g.remote := rfl

namespace Http

/-! ## The rule for origins -/

/-- A text as the value of a header, if it can be one. -/
def headerValue? (text : String) : Option String :=
  if text.toList.all isHeaderChar then some text else none

/-- Which origins may see a response: any, or those of a list. -/
inductive OriginRule
  | any
  | listed (values : List String)
  deriving DecidableEq, Repr

namespace OriginRule

/-- The rule of a list. A star in a list is a mistake of the one who sets it up, and there is no
such rule. -/
def ofList? (values : List String) : Option OriginRule :=
  if values.contains "*" then none else some (.listed values)

/-- The rule of the origins that are set up. Those that cannot be in a header are left out. -/
def setUp? (origins : List String) : Option OriginRule :=
  if origins.contains "*" then some .any else ofList? (origins.filterMap headerValue?)

/-- What a rule says to a request from an origin. -/
def allows? (origin : Option String) : OriginRule → Option String
  | .any => some "*"
  | .listed values => origin.filter values.contains

end OriginRule

theorem headerValue?_eq_some_iff (text value : String) :
    headerValue? text = some value ↔ value = text ∧ text.toList.all isHeaderChar = true := by
  unfold headerValue?
  split
  · next hlegal => simp [hlegal, eq_comm]
  · next hlegal => simp [hlegal]

theorem mem_headerValues (origins : List String) (o : String) :
    o ∈ origins.filterMap headerValue? ↔ o ∈ origins ∧ o.toList.all isHeaderChar = true := by
  rw [List.mem_filterMap]
  constructor
  · rintro ⟨text, hm, h⟩
    obtain ⟨rfl, hlegal⟩ := (headerValue?_eq_some_iff text o).1 h
    exact ⟨hm, hlegal⟩
  · rintro ⟨hm, hlegal⟩
    exact ⟨o, hm, (headerValue?_eq_some_iff o o).2 ⟨rfl, hlegal⟩⟩

/-- There is a rule for whatever is set up: what is left of a list without a star has none. -/
theorem exists_setUp (origins : List String) : ∃ rule, OriginRule.setUp? origins = some rule := by
  unfold OriginRule.setUp?
  by_cases hstar : origins.contains "*"
  · exact ⟨.any, if_pos hstar⟩
  · have hleft : ¬ (origins.filterMap headerValue?).contains "*" := by
      rw [List.contains_iff_mem, mem_headerValues]
      intro h
      exact hstar (List.contains_iff_mem.2 h.1)
    exact ⟨.listed _, by rw [if_neg hstar, OriginRule.ofList?, if_neg hleft]⟩

/-- What the service says is what the rule allows. -/
theorem allowedOrigin?_eq_allows? {origins : List String} {rule : OriginRule}
    (h : OriginRule.setUp? origins = some rule) (r : Request) :
    allowedOrigin? origins r = rule.allows? (r.header? "origin") := by
  unfold OriginRule.setUp? at h
  unfold allowedOrigin?
  split at h
  · next hstar =>
    cases h
    rw [if_pos hstar]
    rfl
  · next hstar =>
    rw [if_neg hstar]
    unfold OriginRule.ofList? at h
    split at h
    · cases h
    · cases h
      refine congrArg (Option.filter · (r.header? "origin")) (funext fun o => ?_)
      rw [Bool.eq_iff_iff, Bool.and_eq_true, List.contains_iff_mem, List.contains_iff_mem]
      exact (mem_headerValues origins o).symm

/-! ## What a response tells about origins -/

/-- The values of a header. -/
def Response.values (p : Response) (name : String) : List String :=
  (p.headers.filter fun h => h.1 == name).map (·.2)

theorem values_withHeaders (p : Response) (headers : Headers) (name : String) :
    (p.withHeaders headers).values name =
      p.values name ++ (headers.filter fun h => h.1 == name).map (·.2) := by
  simp [Response.values, Response.withHeaders]

/-- The header that tells an origin that it may see the response. -/
def originHeader : String := "access-control-allow-origin"

/-- Nothing is told about origins yet. -/
def Response.Silent (p : Response) : Prop := p.values originHeader = []

theorem silent_json (status : Nat) (v : Json.Value) : (Response.json status v).Silent := by
  simp [Response.Silent, Response.values, Response.json, originHeader]

theorem silent_bare (status : Nat) : (Response.bare status).Silent := rfl

theorem silent_ofError (e : GatewayError) : (Response.ofError e).Silent := silent_json _ _

theorem Response.Silent.withoutBody {p : Response} (h : p.Silent) : p.withoutBody.Silent := h

theorem Response.Silent.withHeaders {p : Response} (h : p.Silent) {headers : Headers}
    (hnew : ∀ v ∈ headers, v.1 ≠ originHeader) : (p.withHeaders headers).Silent := by
  unfold Response.Silent at *
  rw [values_withHeaders, h, List.nil_append, List.map_eq_nil_iff, List.filter_eq_nil_iff]
  intro v hv
  simpa using hnew v hv

/-! ## Operations take no notice of origins -/

end Http

namespace Gateway

/-- An operation does and answers the same whatever origins are set up. -/
def Blind {α : Type} (op : Gateway → α × Gateway) : Prop :=
  ∀ g origins, op (g.withOrigins origins) = ((op g).1, (op g).2.withOrigins origins)

theorem blind_upsert (url : String) (name : Option String) : Blind (upsert url name) := fun _ _ => rfl

theorem blind_replaceTables (id : Int) (tables : List TableInfo) : Blind (replaceTables id tables) :=
  fun _ _ => rfl

theorem blind_touch (id : Int) : Blind (touch id) := fun _ _ => rfl

theorem blind_delete (id : Int) : Blind (delete id) := fun _ _ => rfl

theorem blind_query (id : Int) (sql : String) : Blind (query id sql) := by
  intro g origins
  unfold query
  rw [withOrigins_catalog]
  cases g.catalog.get id with
  | error e => rfl
  | ok connection =>
    dsimp only
    cases guardSql sql with
    | error e => rfl
    | ok q =>
      dsimp only [note, withOrigins]
      cases g.remote.execute connection.connectionUrl q.patchedSql <;> rfl

theorem blind_sync (url : String) (name : Option String) : Blind (sync url name) := by
  intro g origins
  unfold sync
  dsimp only
  have hnote : (g.withOrigins origins).note (.introspect url) =
      (g.note (.introspect url)).withOrigins origins := rfl
  rw [hnote]
  -- The rest is the same whatever has been noted, and each operation in it is blind.
  generalize g.note (.introspect url) = g
  rw [withOrigins_remote]
  cases g.remote.introspect url with
  | error e => rfl
  | ok tables =>
    dsimp only
    rw [blind_upsert]
    rcases g.upsert url name with ⟨_ | connection, g⟩
    · rfl
    dsimp only
    rw [blind_replaceTables]
    rcases g.replaceTables connection.id tables with ⟨_ | _, g⟩
    · rfl
    dsimp only
    rw [blind_touch]
    rcases g.touch connection.id with ⟨_ | _, g⟩ <;> rfl

end Gateway

namespace Http

/-- An operation takes no notice of origins, and tells nothing about them. -/
structure Reticent (op : Gateway → Response × Gateway) : Prop where
  silent : ∀ g, (op g).1.Silent
  blind : Gateway.Blind op

theorem reticent_answerOnly {p : Response} (h : p.Silent) : Reticent (answerOnly p) :=
  ⟨fun _ => h, fun _ _ => rfl⟩

/-- A look at the gateway. -/
theorem reticent_look {look : Gateway → Response} (hsilent : ∀ g, (look g).Silent)
    (hblind : ∀ g origins, look (g.withOrigins origins) = look g) :
    Reticent fun g => answerOnly (look g) g := by
  refine ⟨hsilent, ?_⟩
  intro g origins
  dsimp only
  rw [hblind]
  rfl

theorem reticent_answerJson {α : Type} (json : α → Json.Value)
    {op : Gateway → Except GatewayError α × Gateway} (h : Gateway.Blind op) :
    Reticent fun g => answerJson json (op g) := by
  constructor
  · intro g
    dsimp only [answerJson]
    cases (op g).1 with
    | ok a => exact silent_json _ _
    | error e => exact silent_ofError e
  · intro g origins
    dsimp only [answerJson]
    rw [h g origins]
    cases (op g).1 <;> rfl

theorem reticent_syncDatabase (r : Request) : Reticent (syncDatabase r) := by
  unfold syncDatabase
  cases readBody syncRequest r with
  | error e => exact reticent_answerOnly (silent_ofError e)
  | ok d =>
    obtain ⟨url, name, -⟩ := d
    show Reticent fun g =>
      if (trim url).isEmpty then answerOnly (.ofError (.validation "connectionUrl must not be empty")) g
      else answerJson connectionMetadataJson (g.sync (trim url) (cleanName name))
    by_cases hblank : (trim url).isEmpty = true
    · simp only [if_pos hblank]
      exact reticent_answerOnly (silent_ofError _)
    · simp only [if_neg hblank]
      exact reticent_answerJson _ (Gateway.blind_sync _ _)

theorem reticent_renameConnection (segment : List Char) (r : Request) :
    Reticent (renameConnection segment r) := by
  unfold renameConnection
  cases readId segment with
  | error e => exact reticent_answerOnly (silent_ofError e)
  | ok id =>
    cases readBody renameRequest r with
    | error e => exact reticent_answerOnly (silent_ofError e)
    | ok d =>
      obtain ⟨name, -⟩ := d
      have hrename : Gateway.Blind fun g =>
          ((g.rename id (cleanName name)).1.mapError GatewayError.ofCatalog, (g.rename id (cleanName name)).2) :=
        fun _ _ => rfl
      exact reticent_answerJson connectionJson hrename

theorem reticent_deleteConnection (segment : List Char) : Reticent (deleteConnection segment) := by
  unfold deleteConnection
  cases readId segment with
  | error e => exact reticent_answerOnly (silent_ofError e)
  | ok id =>
    constructor
    · intro g
      dsimp only
      rcases g.delete id with ⟨_ | _, g⟩
      · exact silent_ofError _
      · exact silent_bare 204
    · intro g origins
      dsimp only
      rw [Gateway.blind_delete]
      rcases g.delete id with ⟨_ | _, g⟩ <;> rfl

theorem reticent_runQuery (r : Request) : Reticent (runQuery r) := by
  unfold runQuery
  cases readBody queryRequest r with
  | error e => exact reticent_answerOnly (silent_ofError e)
  | ok d =>
    obtain ⟨id, sql, -⟩ := d
    exact reticent_answerJson _ (Gateway.blind_query _ _)

theorem silent_listConnections (g : Gateway) : (listConnections g).Silent := by
  unfold listConnections
  split
  · exact silent_json _ _
  · exact silent_ofError _

theorem silent_showConnection (segment : List Char) (g : Gateway) : (showConnection segment g).Silent := by
  unfold showConnection
  split
  · exact silent_ofError _
  · split
    · exact silent_json _ _
    · exact silent_ofError _

theorem reticent_operate (resource : Resource) (method : Method) (r : Request) :
    Reticent (operate resource method r) := by
  unfold operate
  split
  · exact reticent_answerOnly (silent_json _ _)
  · exact reticent_answerOnly (silent_json _ _).withoutBody
  · exact reticent_look silent_listConnections fun _ _ => rfl
  · exact reticent_look (fun g => (silent_listConnections g).withoutBody) fun _ _ => rfl
  · exact reticent_look (silent_showConnection _) fun _ _ => rfl
  · exact reticent_look (fun g => (silent_showConnection _ g).withoutBody) fun _ _ => rfl
  · exact reticent_renameConnection _ r
  · exact reticent_deleteConnection _
  · exact reticent_syncDatabase r
  · exact reticent_runQuery r
  · exact reticent_answerOnly (silent_bare 405)

/-! ## Responses -/

theorem silent_preflight (resource : Option Resource) : (preflight resource).Silent := by
  refine (silent_bare 200).withHeaders ?_
  cases resource with
  | none => simp [originHeader]
  | some resource => simp [originHeader, Resource.allow]

/-- Whatever becomes of a request, nothing in it has to do with origins. -/
theorem reticent_respond (r : Request) : Reticent (respond r) := by
  unfold respond
  dsimp only
  split
  · exact reticent_answerOnly (silent_preflight _)
  · cases Resource.ofPath? r.path with
    | none => exact reticent_answerOnly (silent_bare 404)
    | some resource =>
      dsimp only
      cases resource.method? r.method with
      | some method => exact reticent_operate resource method r
      | none =>
        refine reticent_answerOnly ((silent_bare 405).withHeaders ?_)
        simp [originHeader, Resource.allow]

theorem serve_eq (r : Request) (g : Gateway) :
    serve r g = ((respond r g).1.withHeaders (originHeaders g.origins r), (respond r g).2) := rfl

/-- What is told about origins is what is allowed. -/
theorem values_serve (r : Request) (g : Gateway) :
    (serve r g).1.values originHeader = (allowedOrigin? g.origins r).toList := by
  rw [serve_eq, values_withHeaders, (reticent_respond r).silent, List.nil_append]
  rw [originHeaders]
  cases allowedOrigin? g.origins r <;> rfl

/-- The headers of a response but for the one that is about origins. -/
def Response.otherHeaders (p : Response) : Headers := p.headers.filter fun h => h.1 != originHeader

/-- Two answers with the gateways they leave are the same, but for what they tell about origins and
for the origins that are set up. -/
structure SameButOrigins (x y : Response × Gateway) : Prop where
  status : x.1.status = y.1.status
  body : x.1.body = y.1.body
  headers : x.1.otherHeaders = y.1.otherHeaders
  gateway : x.2 = y.2.withOrigins x.2.origins

theorem otherHeaders_originHeaders (origins others : List String) (r : Request) :
    (originHeaders origins r).filter (fun h => h.1 != originHeader) =
      (originHeaders others r).filter fun h => h.1 != originHeader := by
  rw [originHeaders, originHeaders]
  cases allowedOrigin? origins r <;> cases allowedOrigin? others r <;> rfl

/-- Other origins change nothing else. -/
theorem serve_withOrigins (r : Request) (g : Gateway) (origins others : List String) :
    SameButOrigins (serve r (g.withOrigins origins)) (serve r (g.withOrigins others)) := by
  rw [serve_eq, serve_eq, (reticent_respond r).blind, (reticent_respond r).blind]
  refine ⟨rfl, rfl, ?_, rfl⟩
  simp only [Response.otherHeaders, Response.withHeaders, List.filter_append]
  rw [otherHeaders_originHeaders]

/-- What a response tells about origins, in the words of those that are set up. -/
structure Tells (origins : List String) (r : Request) (told : List String) : Prop where
  star : "*" ∈ origins → told = ["*"]
  /-- The origin of the request is told to it if it is listed and can be in a header. -/
  echo : "*" ∉ origins → ∀ o, told = [o] ↔
    r.header? "origin" = some o ∧ o ∈ origins ∧ o.toList.all isHeaderChar = true
  /-- Or the header is absent. -/
  once : told = [] ∨ ∃ o, told = [o]

theorem tells_allowedOrigin? (origins : List String) (r : Request) :
    Tells origins r (allowedOrigin? origins r).toList := by
  unfold allowedOrigin?
  constructor
  · intro hstar
    rw [if_pos (List.contains_iff_mem.2 hstar)]
    rfl
  · intro hstar o
    rw [if_neg fun h => hstar (List.contains_iff_mem.1 h), Option.toList_eq_singleton_iff,
      Option.filter_eq_some_iff, Bool.and_eq_true, List.contains_iff_mem]
  · cases (if origins.contains "*" then some "*" else
      (r.header? "origin").filter fun o => origins.contains o && o.toList.all isHeaderChar) with
    | none => exact .inl rfl
    | some o => exact .inr ⟨o, rfl⟩

/-- Whatever origins are set up, there is a rule for them, so a router is built. What a response
tells, be it a success, a failure, or the answer to a request beforehand, is what the rule allows. It
is all that depends on the origins: not the status, the body, the other headers, or what is done. -/
theorem origins_told (origins : List String) :
    ∃ rule, OriginRule.setUp? origins = some rule ∧ ∀ (r : Request) (g : Gateway),
      (serve r (g.withOrigins origins)).1.values originHeader =
        (rule.allows? (r.header? "origin")).toList ∧
      Tells origins r ((serve r (g.withOrigins origins)).1.values originHeader) ∧
      ∀ others, SameButOrigins (serve r (g.withOrigins origins)) (serve r (g.withOrigins others)) := by
  obtain ⟨rule, hrule⟩ := exists_setUp origins
  refine ⟨rule, hrule, fun r g => ?_⟩
  have htold := values_serve r (g.withOrigins origins)
  change _ = (allowedOrigin? origins r).toList at htold
  rw [htold, allowedOrigin?_eq_allows? hrule]
  refine ⟨rfl, ?_, serve_withOrigins r g origins⟩
  rw [← allowedOrigin?_eq_allows? hrule]
  exact tells_allowedOrigin? origins r

/-- What cannot be in a header does not keep the others from being told. -/
example : allowedOrigin? ["http://a.test\n", "http://b.test"] ⟨"GET", "/health", [("origin", "http://b.test")], ""⟩ =
    some "http://b.test" := by decide +kernel

end Http

end QueryGateway
