import QueryGateway.Proofs.Gateway.Rows
import QueryGateway.Proofs.Session.Queries

/-!
# What an id can reach

A client keeps the id of a connection and uses it at any later time, in an operation or
in a request. Main statement: it gets to the database that the id denoted when the
client saw it, or nowhere; and once the connection is deleted, every use of the id is
answered that it is not found.
-/

namespace QueryGateway

open Http

/-! ## Naming a connection -/

/-- The connection that a deed is aimed at. -/
def Http.Deed.connection? : Deed → Option Int
  | .sync .. => none
  | .rename id _ | .delete id | .query id _ => some id

/-- The connection that a request asks to be shown. -/
def Http.Request.shown? (r : Request) : Option Int :=
  match Resource.ofPath? r.path with
  | some (.connection segment) =>
    if r.method = "GET" ∨ r.method = "HEAD" then (readId segment).toOption else none
  | _ => none

/-- The connection that a well-formed request names. -/
def Http.Request.connection? (r : Request) : Option Int :=
  match r.deed? with
  | some d => d.connection?
  | none => r.shown?

/-- The connection that a step names. -/
def Step.connection? : Step → Option Int
  | .replace id _ | .touch id | .rename id _ | .delete id | .get id | .metadata id | .query id _ => some id
  | .request r => r.connection?
  | _ => none

/-- The connection that a step names is not found. -/
def Turn.NotFound (x : Turn) (id : Int) : Prop :=
  match x.step, x.answer with
  | .request r, .response p =>
    p.status = 404 ∧
      p.body = if r.method = "HEAD" then .empty else (Response.ofError (.notFound "Connection not found")).body
  | _, .done r => r = .error (.notFound id)
  | _, .connection r => r = .error (.notFound id)
  | _, .metadata r => r = .error (.notFound id)
  | _, .result r => r = .error (.notFound "Connection not found")
  | _, _ => False

/-- A turn takes a connection out, and says so. -/
def Turn.Deletes (x : Turn) (id : Int) : Prop :=
  match x.step, x.answer with
  | .delete id', .done r => id' = id ∧ r = .ok ()
  | .request r, .response p => r.deed? = some (.delete id) ∧ p.status = 204
  | _, _ => False

/-! ## Requests -/

namespace Http

/-- What a request is answered whose connection is not found. -/
def notFound (r : Request) : Response :=
  if r.method = "HEAD" then (Response.ofError (.notFound "Connection not found")).withoutBody
  else Response.ofError (.notFound "Connection not found")

theorem deed?_of_head {r : Request} (h : r.method = "HEAD") : r.deed? = none :=
  deed?_of_method (by simp [h]) (by simp [h]) (by simp [h])

theorem perform_of_gone {d : Deed} {g : Gateway} {i : Int} (hd : d.connection? = some i)
    (ho : g.catalog.isOpen = true) (hg : g.catalog.Gone i) :
    d.perform g = (Response.ofError (.notFound "Connection not found"), g) := by
  cases d with
  | sync => cases hd
  | rename id name =>
    cases hd
    dsimp only [Deed.perform]
    rw [Gateway.rename_of_gone ho hg]
    rfl
  | delete id =>
    cases hd
    dsimp only [Deed.perform]
    rw [Gateway.delete_of_gone ho hg]
    rfl
  | query id sql =>
    cases hd
    dsimp only [Deed.perform]
    rw [Gateway.query_of_gone ho hg]
    rfl

theorem respond_of_shown?_gone {r : Request} {g : Gateway} {i : Int} (hr : r.shown? = some i)
    (ho : g.catalog.isOpen = true) (hg : g.catalog.Gone i) : respond r g = (notFound r, g) := by
  unfold Request.shown? at hr
  split at hr
  · next segment hp =>
    split at hr
    · next hm =>
      have hshow : showConnection segment g = Response.ofError (.notFound "Connection not found") := by
        unfold showConnection
        rw [toOption_eq_some hr]
        dsimp only
        rw [Catalog.metadata_of_gone ho hg]
        rfl
      unfold notFound
      rcases hm with hm | hm
      · have hmethod : (Resource.connection segment).method? r.method = some .get := by
          rw [hm]
          rfl
        rw [respond_of_method hp hmethod, hm, if_neg (by decide)]
        show answerOnly (showConnection segment g) g = _
        rw [hshow]
        rfl
      · have hmethod : (Resource.connection segment).method? r.method = some .head := by
          rw [hm]
          rfl
        rw [respond_of_method hp hmethod, if_pos hm]
        show answerOnly (showConnection segment g).withoutBody g = _
        rw [hshow]
        rfl
    · cases hr
  · cases hr

/-- A request that names a connection that is gone is answered so, and changes nothing. -/
theorem respond_of_gone {r : Request} {g : Gateway} {i : Int} (hr : r.connection? = some i)
    (ho : g.catalog.isOpen = true) (hg : g.catalog.Gone i) : respond r g = (notFound r, g) := by
  unfold Request.connection? at hr
  cases hd : r.deed? with
  | none =>
    rw [hd] at hr
    exact respond_of_shown?_gone hr ho hg
  | some d =>
    rw [hd] at hr
    have hhead : ¬ r.method = "HEAD" := by
      intro hm
      rw [deed?_of_head hm] at hd
      cases hd
    rw [respond_of_deed? hd, perform_of_gone hr ho hg]
    unfold notFound
    rw [if_neg hhead]

end Http

/-! ## One turn -/

/-- A step that runs a query names its connection. -/
theorem Step.connection?_of_query? {t : Step} {i : Int} {sql : String} (h : t.query? = some (i, sql)) :
    t.connection? = some i := by
  cases t with
  | query id sql' =>
    cases h
    rfl
  | request r =>
    show r.connection? = some i
    unfold Request.connection?
    rw [deed?_of_query? h]
    rfl
  | _ => cases h

/-- A turn that names a connection that is gone does not find it, and leaves the catalog
as it was. -/
theorem Turn.notFound_of_gone {x : Turn} {i : Int} (h : x.step.connection? = some i)
    (ho : x.session.gateway.catalog.isOpen = true) (hg : x.session.gateway.catalog.Gone i) :
    x.NotFound i ∧ x.next.gateway.catalog = x.session.gateway.catalog := by
  obtain ⟨s, t⟩ := x
  cases t with
  | replace id tables =>
    cases h
    have hr := Gateway.replaceTables_of_gone ho hg tables
    exact ⟨congrArg Prod.fst hr, congrArg (fun o => o.2.catalog) hr⟩
  | touch id =>
    cases h
    have hr := Gateway.touch_of_gone ho hg
    exact ⟨congrArg Prod.fst hr, congrArg (fun o => o.2.catalog) hr⟩
  | rename id name =>
    cases h
    have hr := Gateway.rename_of_gone ho hg name
    exact ⟨congrArg Prod.fst hr, congrArg (fun o => o.2.catalog) hr⟩
  | delete id =>
    cases h
    have hr := Gateway.delete_of_gone ho hg
    exact ⟨congrArg Prod.fst hr, congrArg (fun o => o.2.catalog) hr⟩
  | get id =>
    cases h
    exact ⟨Catalog.get_of_gone ho hg, rfl⟩
  | metadata id =>
    cases h
    exact ⟨Catalog.metadata_of_gone ho hg, rfl⟩
  | query id sql =>
    cases h
    have hr := Gateway.query_of_gone ho hg sql
    exact ⟨congrArg Prod.fst hr, congrArg (fun o => o.2.catalog) hr⟩
  | request r =>
    have hr : respond r s.gateway = (notFound r, s.gateway) := respond_of_gone h ho hg
    refine ⟨?_, congrArg (fun o => o.2.catalog) hr⟩
    show (respond r s.gateway).1.status = 404 ∧ (respond r s.gateway).1.body = _
    rw [hr]
    unfold notFound
    split
    · exact ⟨rfl, rfl⟩
    · exact ⟨rfl, rfl⟩
  | _ => cases h

theorem Turn.sent_of_gone {x : Turn} {i : Int} (h : x.step.connection? = some i)
    (ho : x.session.gateway.catalog.isOpen = true) (hg : x.session.gateway.catalog.Gone i) : x.sent = [] := by
  unfold Turn.sent
  split
  · next id sql hq =>
    cases h.symm.trans (Step.connection?_of_query? hq)
    unfold Gateway.sent
    rw [Catalog.get_of_gone ho hg]
  · rfl

/-- A request to take a connection out is answered that it did so only if the catalog
did. -/
theorem Http.delete_of_status {id : Int} {g : Gateway} (h : ((Deed.delete id).perform g).1.status = 204) :
    (g.delete id).1 = .ok () := by
  unfold Deed.perform at h
  dsimp only at h
  cases hd : (g.delete id).1 with
  | ok u => rfl
  | error e =>
    rw [hd] at h
    have refused : statusOf (.ofCatalog e) = 204 := h
    have := le_statusOf (.ofCatalog e)
    omega

/-- A turn takes a connection out if that is what it writes, and the catalog does so. -/
theorem Turn.deletes_iff {x : Turn} {i : Int} :
    x.Deletes i ↔ x.step.write? = some (.delete i) ∧ (x.session.gateway.delete i).1 = .ok () := by
  obtain ⟨s, t⟩ := x
  cases t with
  | delete id =>
    constructor
    · rintro ⟨rfl, deleted⟩
      exact ⟨rfl, deleted⟩
    · rintro ⟨⟨⟩, deleted⟩
      exact ⟨rfl, deleted⟩
  | request r =>
    constructor
    · rintro ⟨hd, hstatus⟩
      change (respond r s.gateway).1.status = 204 at hstatus
      rw [respond_of_deed? hd] at hstatus
      refine ⟨?_, delete_of_status hstatus⟩
      show r.deed?.bind Deed.write? = _
      rw [hd]
      rfl
    · rintro ⟨writes, deleted⟩
      obtain ⟨d, hd, hw⟩ := Option.bind_eq_some_iff.1 writes
      cases d with
      | delete id =>
        cases hw
        refine ⟨hd, ?_⟩
        show (respond r s.gateway).1.status = 204
        rw [respond_of_deed? hd]
        unfold Deed.perform
        dsimp only
        rw [deleted]
        rfl
      | sync | rename | query => cases hw
  | _ => exact iff_of_false nofun fun h => nomatch h.1

/-- A connection that a turn takes out is gone. -/
theorem Turn.Deletes.gone {x : Turn} {i : Int} (h : x.Deletes i) (hs : x.session.gateway.Sound) :
    x.next.gateway.catalog.Gone i := by
  obtain ⟨writes, deleted⟩ := deletes_iff.1 h
  rw [catalog_of_write? writes]
  exact Catalog.gone_of_delete hs.isOpen hs.counted deleted

/-- The query of a turn goes to the database that its connection denotes. -/
theorem Turn.sent_to {x : Turn} {i : Int} {sql url createdAt : String} (h : x.step.query? = some (i, sql))
    (ho : x.session.gateway.catalog.isOpen = true) (ht : x.session.gateway.catalog.Timed)
    (hi : x.session.gateway.catalog.Denotes i url createdAt ∨ x.session.gateway.catalog.Gone i) :
    ∀ call ∈ x.sent, ∃ text, call = .execute url text := by
  unfold Turn.sent Gateway.sent
  rw [h]
  dsimp only
  rcases hi with hd | hg
  · obtain ⟨c, hc, rfl, -⟩ := Catalog.get_of_denotes ho ht hd
    rw [hc]
    split
    · next q hget _ =>
      cases hget
      intro call hcall
      exact ⟨q.patchedSql, List.mem_singleton.1 hcall⟩
    · simp
  · rw [Catalog.get_of_gone ho hg]
    simp

/-! ## Whole runs -/

theorem Session.start_catalog {place : Place} {origins : List String} {now : Moment} {s : Session}
    (h : Session.start place origins now = .ok s) : s.gateway.catalog = {} ∧ s.gateway.now = now := by
  unfold Session.start at h
  have hc : ∀ c, Catalog.create place = .ok c → c = {} := by
    intro c hc
    cases place <;> cases hc <;> rfl
  cases hp : Catalog.create place with
  | error e =>
    rw [hp] at h
    cases h
  | ok c =>
    rw [hp] at h
    cases h
    exact ⟨hc c hp, rfl⟩

theorem Session.start_sound {place : Place} {origins : List String} {now : Moment} {s : Session}
    (h : Session.start place origins now = .ok s) : s.gateway.Sound ∧ (now.IsReal → s.gateway.Timed) := by
  obtain ⟨hc, hnow⟩ := start_catalog h
  constructor
  · constructor <;> rw [hc]
    exact ⟨Int.le_refl _, nofun⟩
  · intro real
    constructor
    · rwa [hnow]
    · rw [hc]
      exact nofun

/-- A turn of a run lies between the start and the end of it. -/
theorem Session.turn_becomes {s : Session} {ts : List Step} (h : ∀ t ∈ ts, t.isOwn = true) {x : Turn}
    (hx : x ∈ s.turns ts) :
    s.gateway.Becomes x.session.gateway ∧ x.session.gateway.Becomes x.next.gateway ∧
      x.next.gateway.Becomes (s.finish ts).gateway := by
  obtain ⟨us, vs, rfl, hsession⟩ := mem_turns hx
  have hstep : x.step.isOwn = true := h _ (by simp)
  rw [finish_append, finish_cons]
  refine ⟨?_, x.session.step_becomes hstep, ?_⟩
  · rw [hsession]
    exact s.finish_becomes fun t ht => h t (by simp [ht])
  · rw [← hsession]
    exact x.next.finish_becomes fun t ht => h t (by simp [ht])

/-- An id denotes one database for ever. Once a look-up of it has given a connection, every
later one gives a connection to the same database with the same time of registration, or
does not find it, and its queries go nowhere else, as long as the clock shows moments.
And once a turn has taken the connection out, no turn that names the id finds it again,
whatever is registered. -/
theorem ids_denote_one_database {place : Place} {origins : List String} {now : Moment} {s : Session}
    (hs : Session.start place origins now = .ok s) {ts us : List Step}
    (hown : ∀ t ∈ ts ++ us, t.isOwn = true) (i : Int) :
    (now.IsReal → (s.finish (ts ++ us)).gateway.now.IsReal →
      ∀ c, (s.finish ts).gateway.catalog.get i = .ok c →
        ((∃ c', (s.finish (ts ++ us)).gateway.catalog.get i = .ok c' ∧
            c'.connectionUrl = c.connectionUrl ∧ c'.createdAt = c.createdAt) ∨
          (s.finish (ts ++ us)).gateway.catalog.get i = .error (.notFound i)) ∧
        ∀ x ∈ (s.finish ts).turns us, ∀ sql, x.step.query? = some (i, sql) →
          ∀ call ∈ x.sent, ∃ text, call = .execute c.connectionUrl text) ∧
    ((∃ x ∈ s.turns ts, x.Deletes i) → ∀ x ∈ (s.finish ts).turns us, x.step.connection? = some i →
      x.NotFound i ∧ x.sent = [] ∧ x.next.gateway.catalog = x.session.gateway.catalog) := by
  obtain ⟨sound, timed⟩ := Session.start_sound hs
  have first := s.finish_becomes fun t ht => hown t (List.mem_append_left us ht)
  have husown : ∀ t ∈ us, t.isOwn = true := fun t ht => hown t (List.mem_append_right ts ht)
  have second := (s.finish ts).finish_becomes husown
  have sound' := first.sound sound
  rw [s.finish_append ts us]
  refine ⟨fun hnow hend c hc => ?_, fun hdel x hx hi => ?_⟩
  · have timed' := first.timed sound.isOpen (timed hnow) (Int.le_trans second.year_le hend.year_le)
    obtain ⟨createdAt, hd, hat⟩ := Catalog.denotes_of_get sound'.isOpen timed'.rows hc
    constructor
    · have sound'' := second.sound sound'
      rcases second.denotes sound' hd with hd' | hg
      · have timed'' := second.timed sound'.isOpen timed' hend.year_le
        obtain ⟨c', hc', hurl, hat'⟩ := Catalog.get_of_denotes sound''.isOpen timed''.rows hd'
        have hcreated : c.createdAt = c'.createdAt := Except.ok.inj (hat.symm.trans hat')
        exact .inl ⟨c', hc', hurl, hcreated.symm⟩
      · exact .inr (Catalog.get_of_gone sound''.isOpen hg)
    · intro x hx sql hq
      obtain ⟨before, during, after⟩ := Session.turn_becomes husown hx
      have hyear := Int.le_trans (during.trans after).year_le hend.year_le
      exact Turn.sent_to hq (before.sound sound').isOpen (before.timed sound'.isOpen timed' hyear).rows
        (before.denotes sound' hd)
  · -- Gone behind the turn that took it out, up to the end of the first part, and from there on.
    obtain ⟨y, hy, hdel⟩ := hdel
    obtain ⟨before, during, after⟩ :=
      Session.turn_becomes (fun t ht => hown t (List.mem_append_left us ht)) hy
    have hg := hdel.gone (before.sound sound)
    have sound_y := (before.trans during).sound sound
    obtain ⟨between, -, -⟩ := Session.turn_becomes husown hx
    obtain ⟨ho, hgone⟩ := (after.trans between).gone sound_y.isOpen hg
    obtain ⟨missed, same⟩ := Turn.notFound_of_gone hi ho hgone
    exact ⟨missed, Turn.sent_of_gone hi ho hgone, same⟩

/-- A database that is taken out and registered again has another id: the first is not
found in a request, and the id of the database beside it stays. -/
theorem taken_out_and_registered_again :
    let now : Moment := ⟨⟨2026, 5, 17⟩, 11, 23, 47, 0⟩
    let s : Session := ⟨⟨{}, .scripted [] ⟨[], []⟩ none, [], now, ["*"]⟩, .memory, {}⟩
    let ts : List Step := [.upsert "postgres://h/d" none, .upsert "postgres://h/e" none, .delete 1]
    let us : List Step :=
      [.upsert "postgres://h/d" none, .touch 2, .request ⟨"GET", "/api/metadata/1", [], ""⟩]
    (∃ c, (s.finish ts).gateway.catalog.get 2 = .ok c ∧ c.connectionUrl = "postgres://h/e" ∧
      ((∃ c', (s.finish (ts ++ us)).gateway.catalog.get 2 = .ok c' ∧
          c'.connectionUrl = c.connectionUrl ∧ c'.createdAt = c.createdAt) ∨
        (s.finish (ts ++ us)).gateway.catalog.get 2 = .error (.notFound 2))) ∧
      ∃ x ∈ (s.finish ts).turns us, x.step.connection? = some 1 ∧ x.NotFound 1 := by
  intro now s ts us
  have hs : Session.start .memory ["*"] now = .ok s := rfl
  have hown : ∀ t ∈ ts ++ us, t.isOwn = true := by
    intro t ht
    simp only [ts, us, List.cons_append, List.nil_append, List.mem_cons, List.not_mem_nil, or_false] at ht
    rcases ht with rfl | rfl | rfl | rfl | rfl | rfl <;> rfl
  constructor
  · have hnow : now.IsReal := ⟨by decide, by decide, by decide, by decide, by decide⟩
    have hend : (s.finish (ts ++ us)).gateway.now.IsReal :=
      ⟨by decide +kernel, by decide +kernel, by decide +kernel, by decide +kernel, by decide +kernel⟩
    have hc : (s.finish ts).gateway.catalog.get 2 =
        .ok ⟨2, none, "postgres://h/e", ⟨⟨2026, 5, 17⟩, 11, 23, 48, 0⟩, none⟩ := by decide +kernel
    exact ⟨_, hc, rfl, ((ids_denote_one_database hs hown 2).1 hnow hend _ hc).1⟩
  · let s' := (((s.finish ts).step us[0]).2.step us[1]).2
    have hx : (⟨s', us[2]⟩ : Turn) ∈ (s.finish ts).turns us :=
      List.mem_cons_of_mem _ (List.mem_cons_of_mem _ List.mem_cons_self)
    have hi : us[2].connection? = some 1 := by decide +kernel
    have hdel : ∃ x ∈ s.turns ts, x.Deletes 1 :=
      ⟨⟨((s.step ts[0]).2.step ts[1]).2, ts[2]⟩,
        List.mem_cons_of_mem _ (List.mem_cons_of_mem _ List.mem_cons_self), rfl, by decide +kernel⟩
    exact ⟨_, hx, hi, ((ids_denote_one_database hs hown 1).2 hdel _ hx hi).1⟩

end QueryGateway
