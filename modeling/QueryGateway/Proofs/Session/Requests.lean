import QueryGateway.Proofs.Catalog.Connections
import QueryGateway.Proofs.Http.Paths
import QueryGateway.Proofs.Session.Leads

/-!
# Requests and operations

A client asks for an operation with a request, and a program with the operation itself. Main
statement: in every session the two do the same, and the response tells what the operation
answers, in a document that reads back as it.
-/

namespace QueryGateway

open Http Text Wire

/-! ## What clients want -/

/-- What a client wants, in its own words. -/
inductive Intent
  | query (id : Int) (sql : String)
  | sync (url : String) (name : Option String)
  | list
  | metadata (id : Int)
  | rename (id : Int) (name : Option String)
  | delete (id : Int)

/-- The operation that does what a client wants. The white space around the URL of a database
and around a name does not count, and a blank name is none. -/
def Intent.step : Intent → Step
  | .query id sql => .query id sql
  | .sync url name => .sync (trim url) (cleanName name)
  | .list => .list
  | .metadata id => .metadata id
  | .rename id name => .rename id (cleanName name)
  | .delete id => .delete id

namespace Http.Request

/-- The body of a request is declared as JSON, is no longer than it may be, and reads as data. -/
structure Carries (r : Request) (shape : Shape) (d : shape.Data) : Prop where
  declared : (r.header? "content-type").any isJsonType = true
  short : utf8Length r.body.toList ≤ bodyLimit
  read : shape.parse r.body = .ok d

/-- The path of a request is that of a connection. -/
def Names (r : Request) (id : Int) : Prop :=
  ∃ segment, '/' ∉ segment ∧ readId segment = .ok id ∧ r.path = connectionPath segment

/-- A request states what a client wants. -/
def States (r : Request) : Intent → Prop
  | .query id sql => r.method = "POST" ∧ r.path = "/api/query".toList ∧ r.Carries queryRequest (id, sql, ())
  | .sync url name =>
    r.method = "POST" ∧ r.path = "/api/metadata/sync".toList ∧ r.Carries syncRequest (url, name, ()) ∧ trim url ≠ ""
  | .list => r.method = "GET" ∧ r.path = "/api/metadata".toList
  | .metadata id => r.method = "GET" ∧ r.Names id
  | .rename id name => r.method = "PUT" ∧ r.Names id ∧ r.Carries renameRequest (name, ())
  | .delete id => r.method = "DELETE" ∧ r.Names id

end Http.Request

/-! ## The usual requests -/

/-- A request with data as its body. -/
def Http.jsonRequest (method target : String) (shape : Shape) (d : shape.Data) : Request :=
  ⟨method, target, [("content-type", "application/json")], (shape.write d).text⟩

/-- The request by which a client usually states what it wants. -/
def Intent.request : Intent → Request
  | .query id sql => jsonRequest "POST" "/api/query" queryRequest (id, sql, ())
  | .sync url name => jsonRequest "POST" "/api/metadata/sync" syncRequest (url, name, ())
  | .list => ⟨"GET", "/api/metadata", [], ""⟩
  | .metadata id => ⟨"GET", "/api/metadata/" ++ toString id, [], ""⟩
  | .rename id name => jsonRequest "PUT" ("/api/metadata/" ++ toString id) renameRequest (name, ())
  | .delete id => ⟨"DELETE", "/api/metadata/" ++ toString id, [], ""⟩

/-- Ids have 64 bits, the URL of a database is not blank, and the request is not too long. -/
def Intent.IsProper (i : Intent) : Prop :=
  utf8Length i.request.body.toList ≤ bodyLimit ∧
    match i with
    | .query id _ | .metadata id | .rename id _ | .delete id => IsInt64 id
    | .sync url _ => trim url ≠ ""
    | .list => True

theorem carries_jsonRequest {method target : String} {shape : Shape} {d : shape.Data} {n : Nat} (plain : shape.Plain d)
    (hs : shape.nesting? = some n) (hn : n < Json.depthLimit)
    (short : utf8Length (jsonRequest method target shape d).body.toList ≤ bodyLimit) :
    (jsonRequest method target shape d).Carries shape d :=
  ⟨rfl, short, parse_written plain hs hn⟩

theorem names_of_target {id : Int} (hid : IsInt64 id) {r : Request}
    (h : r.target.toList = connectionPath (toString id).toList) : r.Names id :=
  ⟨(toString id).toList, slash_not_mem_toString id, readId_toString hid,
    path_of_target h (all_isPathChar_connectionPath (all_isPathChar_toString id))⟩

/-- The usual request states what it is for. -/
theorem Intent.IsProper.stated {i : Intent} (h : i.IsProper) : i.request.States i := by
  obtain ⟨short, h⟩ := h
  cases i with
  | query id sql =>
    exact ⟨rfl, path_of_target rfl rfl, carries_jsonRequest (plain_queryRequest h sql) rfl (by decide) short⟩
  | sync url name =>
    exact ⟨rfl, path_of_target rfl rfl,
      carries_jsonRequest (plain_syncRequest url name) rfl (by decide) short, h⟩
  | list => exact ⟨rfl, path_of_target rfl rfl⟩
  | metadata id => exact ⟨rfl, names_of_target h (String.toList_append ..)⟩
  | rename id name =>
    exact ⟨rfl, names_of_target h (String.toList_append ..),
      carries_jsonRequest (plain_renameRequest name) rfl (by decide) short⟩
  | delete id => exact ⟨rfl, names_of_target h (String.toList_append ..)⟩

/-! ## What responses tell -/

/-- The failure that an answer is. -/
def Answer.failure? : Answer → Option GatewayError
  | .result (.error e) => some e
  | .synced (.error e) => some e
  | .connections (.error e) => some (.ofCatalog e)
  | .metadata (.error e) => some (.ofCatalog e)
  | .connection (.error e) => some (.ofCatalog e)
  | .done (.error e) => some (.ofCatalog e)
  | _ => none

/-- A response tells an answer: with the document of a result, and the document reads back as the
result, or with the status and the envelope of a failure. Nothing is told of a deletion but that
it was done. The cells of a result may be of any depth, so its reader has to go as deep. -/
inductive Answer.ToldBy : Answer → Response → Prop
  | result {q : QueryResult}
      (back : q.IsWhole → ∀ limit, (queryResultJson q).depth < limit →
        (queryResult.parseWithin limit (queryResultJson q).text).map queryResultOf = .ok q) :
      ToldBy (.result (.ok q)) (.json 200 (queryResultJson q))
  | synced {m : ConnectionMetadata}
      (back : (connectionMetadata.parse (connectionMetadataJson m).text).map connectionMetadataOf = .ok m) :
      ToldBy (.synced (.ok m)) (.json 200 (connectionMetadataJson m))
  | connections {cs : List Connection}
      (back : ((Shape.list Wire.connection).parse (Json.Value.array (cs.map connectionJson)).text).map
        (List.map connectionOf) = .ok cs) :
      ToldBy (.connections (.ok cs)) (.json 200 (.array (cs.map connectionJson)))
  | metadata {m : ConnectionMetadata}
      (back : (connectionMetadata.parse (connectionMetadataJson m).text).map connectionMetadataOf = .ok m) :
      ToldBy (.metadata (.ok m)) (.json 200 (connectionMetadataJson m))
  | connection {c : Connection} (back : (Wire.connection.parse (connectionJson c).text).map connectionOf = .ok c) :
      ToldBy (.connection (.ok c)) (.json 200 (connectionJson c))
  | done : ToldBy (.done (.ok ())) (.bare 204)
  | failed {a : Answer} {e : GatewayError} (failure : a.failure? = some e) : ToldBy a (.ofError e)

/-- In a session, a request does what a step does: it leaves the same session behind, and its
response tells the answer of the step. -/
def Session.ActsAs (s : Session) (r : Request) (t : Step) : Prop :=
  ∃ p, (s.step t).1.ToldBy p ∧
    s.step (.request r) = (.response (p.withHeaders (originHeaders s.gateway.origins r)), (s.step t).2)

theorem Session.actsAs_of_respond {s : Session} {r : Request} {t : Step} {o : Response × Gateway}
    (responded : respond r s.gateway = o) (left : (s.step t).2 = { s with gateway := o.2 })
    (told : (s.step t).1.ToldBy o.1) : s.ActsAs r t := by
  refine ⟨o.1, told, ?_⟩
  rw [left, Session.step, Http.serve, responded]
  rfl

/-- What is told of an operation that answers JSON. -/
theorem told_answerJson {α : Type} {json : α → Json.Value} {outcome : Except GatewayError α × Gateway} {a : Answer}
    (ok : ∀ x, outcome.1 = .ok x → a.ToldBy (.json 200 (json x)))
    (error : ∀ e, outcome.1 = .error e → a.failure? = some e) : a.ToldBy (answerJson json outcome).1 := by
  unfold answerJson
  cases h : outcome.1 with
  | ok x => exact ok x h
  | error e => exact .failed (error e h)

/-! ## Ids of 64 bits -/

/-- The row that a step puts into the storage has an id of 64 bits. -/
def Step.SeedsNarrow : Step → Prop
  | .seedConnection row => IsInt64 row.id
  | _ => True

theorem Step.Intrudes.narrow {c c' : Catalog} {t : Step} (h : t.Intrudes c c') (ht : t.SeedsNarrow) (hc : c.Narrow) :
    c'.Narrow := by
  cases h with
  | @connection row _ h =>
    obtain ⟨-, -, rfl⟩ := Catalog.of_insertConnection? h
    refine ⟨fun r hr => ?_, Int.le_trans hc.nonneg (Int.le_max_left _ _), Int.max_le.2 ⟨hc.lastId, ht.2⟩⟩
    rcases List.mem_append.1 hr with hr | hr
    · exact hc.ids r hr
    · rw [List.mem_singleton.1 hr]
      exact ht
  | table h =>
    obtain ⟨-, -, rfl⟩ := Catalog.of_insertTable? h
    exact ⟨hc.ids, hc.nonneg, hc.lastId⟩
  | close => exact ⟨hc.ids, hc.nonneg, hc.lastId⟩

theorem Session.Leads.narrow {s s' : Session} {xs : List Turn} (h : s.Leads xs s') (hs : s.gateway.catalog = {})
    (narrow : ∀ x ∈ xs, x.step.SeedsNarrow) : s'.gateway.catalog.Narrow :=
  h.keeps (P := fun g => g.catalog.Narrow) (fun _ _ ha hg => ha.change.narrow hg) (fun _ _ hg _ _ => hg)
    (fun _ _ _ ht others hg => others.narrow ht hg) narrow (hs ▸ Catalog.narrow_empty)

/-! ## Requests in a session -/

theorem readBody_of_carries {r : Request} {shape : Shape} {d : shape.Data} (h : r.Carries shape d) :
    readBody shape r = .ok d := by
  unfold readBody
  dsimp only
  rw [h.declared, if_neg (by decide), if_neg (Nat.not_lt.2 h.short), h.read]

/-- The path of a connection leads to it. -/
theorem resource_of_names {r : Request} {id : Int} (named : r.Names id) :
    ∃ segment, Resource.ofPath? r.path = some (.connection segment) ∧ readId segment = .ok id := by
  obtain ⟨segment, whole, hid, path⟩ := named
  exact ⟨segment, path ▸ ofPath?_connectionPath hid whole, hid⟩

section

variable {s : Session} {r : Request} {id : Int}

theorem actsAs_query {sql : String} (stated : r.States (.query id sql)) : s.ActsAs r (.query id sql) := by
  obtain ⟨method, path, body⟩ := stated
  have asked : r.query? = some (id, sql) := by
    unfold Request.query?
    rw [if_pos ⟨method, path ▸ rfl⟩, readBody_of_carries body]
  have responded : respond r s.gateway = answerJson queryResultJson (s.gateway.query id sql) :=
    respond_of_query? asked _
  refine Session.actsAs_of_respond responded (by rw [answerJson_snd]; rfl) (told_answerJson ?_ ?_)
  · intro q hq
    show (Answer.result (s.gateway.query id sql).1).ToldBy _
    rw [hq]
    exact .result fun whole limit hd => parse_queryResultJson whole hd
  · intro e he
    show (Answer.result (s.gateway.query id sql).1).failure? = _
    rw [he]
    rfl

theorem actsAs_delete (stated : r.States (.delete id)) : s.ActsAs r (.delete id) := by
  obtain ⟨method, named⟩ := stated
  obtain ⟨segment, hp, hid⟩ := resource_of_names named
  have asked : r.change? id = some (.delete id) := if_pos method
  refine Session.actsAs_of_respond (respond_of_change? hp hid asked s.gateway) rfl ?_
  show (Answer.done (s.gateway.delete id).1).ToldBy ((Deed.delete id).perform s.gateway).1
  unfold Deed.perform
  dsimp only
  cases (s.gateway.delete id).1 with
  | ok u => exact .done
  | error e => exact .failed rfl

variable (narrow : s.gateway.catalog.Narrow)

include narrow

theorem actsAs_sync {url : String} {name : Option String} (stated : r.States (.sync url name)) :
    s.ActsAs r (.sync (trim url) (cleanName name)) := by
  obtain ⟨method, path, body, nonblank⟩ := stated
  have asked : r.sync? = some (trim url, cleanName name) := by
    unfold Request.sync?
    rw [if_pos method, readBody_of_carries body]
    exact if_neg (by simpa using nonblank)
  have hp : Resource.ofPath? r.path = some .sync := path ▸ rfl
  have responded : respond r s.gateway =
      answerJson connectionMetadataJson (s.gateway.sync (trim url) (cleanName name)) :=
    respond_of_sync? hp asked _
  refine Session.actsAs_of_respond responded (by rw [answerJson_snd]; rfl) (told_answerJson ?_ ?_)
  · intro m hm
    have synced := s.gateway.sync_synced (trim url) (cleanName name)
    rw [hm] at synced
    show (Answer.synced (s.gateway.sync (trim url) (cleanName name)).1).ToldBy _
    rw [hm]
    exact .synced (parse_connectionMetadataJson (synced.isReal narrow))
  · intro e he
    show (Answer.synced (s.gateway.sync (trim url) (cleanName name)).1).failure? = _
    rw [he]
    rfl

theorem actsAs_rename {name : Option String} (stated : r.States (.rename id name)) :
    s.ActsAs r (.rename id (cleanName name)) := by
  obtain ⟨method, named, body⟩ := stated
  obtain ⟨segment, hp, hid⟩ := resource_of_names named
  have asked : r.change? id = some (.rename id (cleanName name)) := by
    unfold Request.change?
    rw [if_neg (by rw [method]; decide), if_pos method, readBody_of_carries body]
  have responded : respond r s.gateway = answerJson connectionJson
      ((s.gateway.rename id (cleanName name)).1.mapError .ofCatalog, (s.gateway.rename id (cleanName name)).2) :=
    respond_of_change? hp hid asked _
  refine Session.actsAs_of_respond responded (by rw [answerJson_snd]; rfl) (told_answerJson ?_ ?_)
  · intro x hx
    have renamed := mapError_eq_ok hx
    show (Answer.connection (s.gateway.rename id (cleanName name)).1).ToldBy _
    rw [renamed]
    exact .connection (parse_connectionJson (narrow.update (ConnectionRow.named_id (cleanName name)) renamed))
  · intro e he
    show (Answer.connection (s.gateway.rename id (cleanName name)).1).failure? = _
    cases renamed : (s.gateway.rename id (cleanName name)).1 with
    | ok x =>
      rw [renamed] at he
      cases he
    | error f =>
      rw [renamed] at he
      cases he
      rfl

theorem actsAs_list (stated : r.States .list) : s.ActsAs r .list := by
  obtain ⟨method, path⟩ := stated
  have hp : Resource.ofPath? r.path = some .connections := path ▸ rfl
  have hm : Resource.connections.method? r.method = some .get := by rw [method]; rfl
  refine Session.actsAs_of_respond (respond_of_method hp hm s.gateway) rfl ?_
  show (Answer.connections s.gateway.catalog.list).ToldBy (listConnections s.gateway)
  unfold listConnections
  cases listed : s.gateway.catalog.list with
  | ok cs => exact .connections (parse_connectionsJson (narrow.list listed))
  | error e => exact .failed rfl

theorem actsAs_metadata (stated : r.States (.metadata id)) : s.ActsAs r (.metadata id) := by
  obtain ⟨method, named⟩ := stated
  obtain ⟨segment, hp, hid⟩ := resource_of_names named
  have hm : (Resource.connection segment).method? r.method = some .get := by rw [method]; rfl
  refine Session.actsAs_of_respond (respond_of_method hp hm s.gateway) rfl ?_
  show (Answer.metadata (s.gateway.catalog.metadata id)).ToldBy (showConnection segment s.gateway)
  unfold showConnection
  rw [hid]
  dsimp only
  cases found : s.gateway.catalog.metadata id with
  | ok m => exact .metadata (parse_connectionMetadataJson (narrow.metadata found))
  | error e => exact .failed rfl

end

end QueryGateway
