import QueryGateway.Proofs.Session.Turns

/-!
# What remote databases are sent

A query may be asked for directly or by a request to the service. `Step.query?` tells
which steps do, `Turn.sent` what such a turn may send. Main statement: the statements
that remote databases receive over a run are those of its queries, one after the other,
and every query is answered as `Gateway.Replies` says.
-/

namespace QueryGateway

open Http

/-! ## Steps with a query -/

/-- The connection and the SQL of a step that runs a query. -/
def Step.query? : Step → Option (Int × String)
  | .query id sql => some (id, sql)
  | .request r => r.query?
  | _ => none

/-- An answer shows how a query ended: as it is, or as a response. -/
def Answer.Shows (outcome : Except GatewayError QueryResult) : Answer → Prop
  | .result r => r = outcome
  | .response p =>
    match outcome with
    | .ok r => p.status = 200 ∧ p.body = .json (Wire.queryResultJson r)
    | .error e => p.status = statusOf e ∧ p.body = (Response.ofError e).body
  | _ => False

/-! ## The log of calls -/

/-- A call that sends a statement. -/
def Call.isExecute : Call → Bool
  | .execute .. => true
  | .introspect _ => false

/-- The calls that an answer tells. -/
def Answer.told : Answer → List Call
  | .calls cs => cs
  | _ => []

/-- Every call noted up to the end of a run: those told on the way, and those that are
still to be told. -/
def Session.received (s : Session) (ts : List Step) : List Call :=
  (s.run ts).1.flatMap Answer.told ++ (s.finish ts).gateway.calls

/-- What the query of a turn may send; nothing if there is none. -/
def Turn.sent (x : Turn) : List Call :=
  match x.step.query? with
  | some (id, sql) => x.session.gateway.sent id sql
  | none => []

theorem Gateway.sent_isExecute (id : Int) (sql : String) (g : Gateway) :
    (g.sent id sql).filter Call.isExecute = g.sent id sql := by
  unfold sent
  split <;> rfl

theorem Turn.sent_isExecute (x : Turn) : x.sent.filter Call.isExecute = x.sent := by
  unfold sent
  split
  · exact Gateway.sent_isExecute _ _ _
  · rfl

/-! ## Syncs send nothing -/

/-- A sync calls its database once, to look into it. -/
theorem Gateway.Synced.calls {url : String} {name : Option String} {g g' : Gateway}
    {r : Except GatewayError ConnectionMetadata} (h : Synced url name g r g') :
    g'.calls = g.calls ++ [.introspect url] := by
  -- A write of the catalog notes no call.
  have upsert_calls : ∀ {r g1}, (g.note (.introspect url)).upsert url name = (r, g1) →
      g1.calls = g.calls ++ [.introspect url] := by
    intro r g1 h1
    rw [show g1 = ((g.note (.introspect url)).upsert url name).2 by rw [h1]]
    rfl
  have replace_calls : ∀ {g1 : Gateway} {id tables r g2}, g1.replaceTables id tables = (r, g2) →
      g2.calls = g1.calls := by
    intro g1 id tables r g2 h2
    rw [show g2 = (g1.replaceTables id tables).2 by rw [h2]]
    rfl
  have touch_calls : ∀ {g2 : Gateway} {id r g3}, g2.touch id = (r, g3) → g3.calls = g2.calls := by
    intro g2 id r g3 h3
    rw [show g3 = (g2.touch id).2 by rw [h3]]
    rfl
  cases h with
  | unreachable => rfl
  | unregistered _ h1 => exact upsert_calls h1
  | unreplaced _ h1 h2 => rw [replace_calls h2, upsert_calls h1]
  | untouched _ h1 h2 h3 => rw [touch_calls h3, replace_calls h2, upsert_calls h1]
  | done _ h1 h2 h3 => rw [touch_calls h3, replace_calls h2, upsert_calls h1]

theorem Gateway.sync_executes (url : String) (name : Option String) (g : Gateway) :
    (g.sync url name).2.calls.filter Call.isExecute = g.calls.filter Call.isExecute := by
  rw [(g.sync_synced url name).calls, List.filter_append]
  exact List.append_nil _

/-! ## Requests -/

namespace Http

theorem serve_snd (r : Request) (g : Gateway) : (serve r g).2 = (respond r g).2 := rfl

theorem serve_snd_of_query? {r : Request} {id : Int} {sql : String} (h : r.query? = some (id, sql))
    (g : Gateway) : (serve r g).2 = (g.query id sql).2 := by
  rw [serve_snd, respond_of_query? h, Deed.perform_snd]

/-- A request that asks for no query sends no statement. -/
theorem serve_executes_of_no_query {r : Request} (h : r.query? = none) (g : Gateway) :
    (serve r g).2.calls.filter Call.isExecute = g.calls.filter Call.isExecute := by
  rw [serve_snd]
  cases hd : r.deed? with
  | none => rw [respond_of_no_deed hd]
  | some d =>
    rw [respond_of_deed? hd, d.perform_snd]
    cases d with
    | sync url name => exact g.sync_executes url name
    | rename id name => rfl
    | delete id => rfl
    | query id sql =>
      rw [query?_of_deed? hd] at h
      cases h

/-- The response to a query shows how it ended. -/
theorem serve_shows_of_query? {r : Request} {id : Int} {sql : String} (h : r.query? = some (id, sql))
    (g : Gateway) : (Answer.response (serve r g).1).Shows (g.query id sql).1 := by
  unfold serve Answer.Shows
  rw [respond_of_query? h g]
  show match (g.query id sql).1 with
    | .ok r => (answerJson _ _).1.status = 200 ∧ (answerJson _ _).1.body = .json (Wire.queryResultJson r)
    | .error e => (answerJson _ _).1.status = statusOf e ∧ (answerJson _ _).1.body = (Response.ofError e).body
  unfold answerJson
  cases (g.query id sql).1 with
  | ok a => exact ⟨rfl, rfl⟩
  | error e => exact ⟨rfl, rfl⟩

end Http

/-! ## One turn -/

/-- The statements behind a turn, with those it told, are those before it and what its
query may send. -/
theorem Turn.executes (x : Turn) :
    (x.answer.told ++ x.next.gateway.calls).filter Call.isExecute =
      x.session.gateway.calls.filter Call.isExecute ++ x.sent := by
  obtain ⟨s, t⟩ := x
  unfold answer next sent
  dsimp only
  cases t with
  | query id sql =>
    show ((s.gateway.query id sql).2.calls).filter _ = _ ++ s.gateway.sent id sql
    rw [(s.gateway.query_spec id sql).2, List.filter_append, Gateway.sent_isExecute]
  | sync url name =>
    show ((s.gateway.sync url name).2.calls).filter _ = _ ++ []
    rw [s.gateway.sync_executes url name, List.append_nil]
  | request r =>
    show ((serve r s.gateway).2.calls).filter _ = _ ++ (match r.query? with | some (id, sql) => _ | none => [])
    cases h : r.query? with
    | some q =>
      rw [serve_snd_of_query? h, (s.gateway.query_spec q.1 q.2).2,
        List.filter_append, Gateway.sent_isExecute]
    | none => rw [serve_executes_of_no_query h, List.append_nil]
  | calls =>
    show (s.gateway.calls ++ []).filter _ = _ ++ []
    rw [List.append_nil, List.append_nil]
  | seedConnection row =>
    simp only [Session.step, Session.seed, Step.query?, List.append_nil]
    split <;> rfl
  | seedTable row =>
    simp only [Session.step, Session.seed, Step.query?, List.append_nil]
    split <;> rfl
  | tamper damage =>
    simp only [Session.step, Step.query?, List.append_nil]
    split <;> rfl
  | close =>
    simp only [Session.step, Step.query?, List.append_nil]
    split <;> rfl
  | _ => exact (List.append_nil _).symm

/-- A turn with a query answers it and changes nothing but the log. -/
theorem Turn.query_spec {x : Turn} {id : Int} {sql : String} (h : x.step.query? = some (id, sql)) :
    x.answer.Shows (x.session.gateway.query id sql).1 ∧ x.answer.told = [] ∧
      x.next.gateway = { x.session.gateway with
        calls := x.session.gateway.calls ++ x.session.gateway.sent id sql } := by
  obtain ⟨s, t⟩ := x
  cases t with
  | query id' sql' =>
    cases h
    exact ⟨rfl, rfl, (s.gateway.query_spec id sql).2⟩
  | request r =>
    refine ⟨serve_shows_of_query? h s.gateway, rfl, ?_⟩
    show (serve r s.gateway).2 = _
    rw [serve_snd_of_query? h, (s.gateway.query_spec id sql).2]
  | _ => cases h

/-! ## Whole runs -/

theorem Session.received_cons (s : Session) (t : Step) (ts : List Step) :
    s.received (t :: ts) = (s.step t).1.told ++ (s.step t).2.received ts := by
  unfold received
  show (_ :: _).flatMap _ ++ _ = _
  rw [List.flatMap_cons, List.append_assoc]
  rfl

/-- The statements received over a run are those of its queries. -/
theorem Session.received_executes (s : Session) (ts : List Step) :
    (s.received ts).filter Call.isExecute =
      s.gateway.calls.filter Call.isExecute ++ (s.turns ts).flatMap Turn.sent := by
  induction ts generalizing s with
  | nil => exact (List.append_nil _).symm
  | cons t ts ih =>
    have hx := Turn.executes ⟨s, t⟩
    calc (s.received (t :: ts)).filter Call.isExecute
        = (s.step t).1.told.filter Call.isExecute ++ ((s.step t).2.received ts).filter Call.isExecute := by
          rw [s.received_cons, List.filter_append]
      _ = ((s.step t).1.told ++ (s.step t).2.gateway.calls).filter Call.isExecute ++
            ((s.step t).2.turns ts).flatMap Turn.sent := by
          rw [ih, ← List.append_assoc, ← List.filter_append]
      _ = s.gateway.calls.filter Call.isExecute ++ (s.turns (t :: ts)).flatMap Turn.sent := by
          rw [show ((s.step t).1.told ++ (s.step t).2.gateway.calls).filter Call.isExecute = _ from hx,
            List.append_assoc]
          rfl

/-- An unknown connection is not found, whatever the SQL, while the storage is open. -/
theorem Gateway.Replies.of_unknown {id : Int} {sql : String} {g : Gateway}
    {r : Except GatewayError QueryResult} (h : Replies id sql g r) (ho : g.catalog.isOpen = true)
    (hf : g.catalog.find? id = none) : r = .error (.notFound "Connection not found") := by
  have hget : g.catalog.get id = .error (.notFound id) := by
    unfold Catalog.get
    simp [ho, hf]
  cases h with
  | unresolved found =>
    rw [hget] at found
    cases found
    rfl
  | refused found | failed found | answered found =>
    rw [hget] at found
    cases found

theorem Gateway.Replies.message_iff {id : Int} {sql : String} {g : Gateway} {a : QueryResult}
    (h : Replies id sql g (.ok a)) : (∃ m, a.message = some m) ↔ a.limitAdded = true := by
  cases h with
  | answered =>
    dsimp only
    split <;> simp_all

/-- Over any run, the statements that remote databases receive are the guarded texts of
its queries, each sent to the database that the catalog had for its connection then, at
most one for a query and in the order of the queries. Every query is answered by the
rule of `Replies`, whichever way it was asked for, and leaves the catalog as it was. -/
theorem statements_received_are_guarded_queries (s : Session) (ts : List Step) :
    (s.received ts).filter Call.isExecute =
        s.gateway.calls.filter Call.isExecute ++ (s.turns ts).flatMap Turn.sent ∧
      ∀ x ∈ s.turns ts, ∀ id sql, x.step.query? = some (id, sql) →
        ∃ r, Gateway.Replies id sql x.session.gateway r ∧ x.answer.Shows r ∧
          (x.session.gateway.catalog.isOpen = true → x.session.gateway.catalog.find? id = none →
            r = .error (.notFound "Connection not found") ∧ x.sent = []) ∧
          (∀ e, guardSql sql = .error e → x.sent = []) ∧
          (∀ a, r = .ok a → ((∃ m, a.message = some m) ↔ a.limitAdded = true)) ∧
          x.sent.length ≤ 1 ∧
          x.next.gateway = { x.session.gateway with calls := x.session.gateway.calls ++ x.sent } := by
  refine ⟨s.received_executes ts, fun x _ id sql h => ?_⟩
  have hx : x.sent = x.session.gateway.sent id sql := by
    unfold Turn.sent
    rw [h]
  obtain ⟨hshow, -, hnext⟩ := Turn.query_spec h
  have hr := (x.session.gateway.query_spec id sql).1
  rw [hx]
  refine ⟨_, hr, hshow, fun ho hf => ⟨hr.of_unknown ho hf, ?_⟩, ?_, ?_,
    x.session.gateway.sent_length id sql, hnext⟩
  · unfold Gateway.sent Catalog.get
    simp [ho, hf]
  · intro e he
    unfold Gateway.sent
    rw [he]
    split
    · next h => cases h
    · rfl
  · intro a ha
    rw [ha] at hr
    exact hr.message_iff

/-- A request for a query of a registered database sends it the guarded text. -/
theorem requested_query_received :
    let s : Session :=
      ⟨⟨{}, .scripted [] ⟨[], []⟩ none, [], ⟨⟨2026, 5, 17⟩, 11, 23, 47, 0⟩, ["*"]⟩, .memory, {}⟩
    let r : Request := ⟨"POST", "/api/query", [("content-type", "application/json")],
      "\x7b\"connectionId\":1,\"sql\":\"select a from t\"\x7d"⟩
    let steps : List Step := [.upsert "postgres://h/d" none, .request r]
    (s.received steps).filter Call.isExecute = [.execute "postgres://h/d" "SELECT a FROM t LIMIT 1000"] ∧
      ∃ x ∈ s.turns steps, x.step.query? = some (1, "select a from t") ∧
        ∃ outcome, Gateway.Replies 1 "select a from t" x.session.gateway outcome ∧
          x.answer.Shows outcome := by
  intro s r steps
  obtain ⟨hlog, hturns⟩ := statements_received_are_guarded_queries s steps
  refine ⟨hlog.trans (by decide +kernel), ⟨(s.step (.upsert "postgres://h/d" none)).2, .request r⟩,
    List.mem_cons_of_mem _ List.mem_cons_self, by decide +kernel, ?_⟩
  obtain ⟨outcome, hr, hshow, -⟩ := hturns ⟨(s.step (.upsert "postgres://h/d" none)).2, .request r⟩
    (List.mem_cons_of_mem _ List.mem_cons_self) 1 "select a from t" (by decide +kernel)
  exact ⟨outcome, hr, hshow⟩

end QueryGateway
