import QueryGateway.Proofs.Catalog.Stamps
import QueryGateway.Proofs.Session.Registration

/-!
# Isolation

What is done to a connection is not seen at another. Main statement: an operation aimed at one
connection, by itself or as a request, and whether it succeeds or fails, leaves what is shown of
all others; and of two edits of different connections the order cannot be told by any answer,
except by the times that a touch wrote.
-/

namespace QueryGateway

open Http

/-! ## One step -/

/-- A step is aimed at a connection: it names it, or it syncs its database. A request that
cannot be carried out is aimed at any. -/
def Step.AimedAt (c : Catalog) (a : Int) : Step → Prop
  | .replace id _ | .touch id | .rename id _ | .delete id => id = a
  | .sync url _ => ∃ r, c.find? a = some r ∧ r.url = url
  | .request r =>
    match r.deed? with
    | some (.sync url _) => ∃ r, c.find? a = some r ∧ r.url = url
    | some (.rename id _) | some (.delete id) => id = a
    | some (.query ..) => False
    | none => True
  | _ => False

/-- Only the gateway's own steps are aimed at connections. -/
theorem Step.AimedAt.isOwn {c : Catalog} {a : Int} {t : Step} (h : t.AimedAt c a) :
    t.isOwn = true ∧ t.seeds = false := by
  cases t with
  | replace | touch | rename | delete | sync | request => exact ⟨rfl, rfl⟩
  | _ => cases h

/-- A request to take a connection out is aimed at it. -/
theorem Step.aimedAt_of_delete {r : Request} {a : Int} (h : r.deed? = some (.delete a)) (c : Catalog) :
    (Step.request r).AimedAt c a := by
  simp only [AimedAt, h]

/-- A registration of a database that is registered changes nothing of any connection. -/
theorem Catalog.upsert_sameBut {c : Catalog} {a : Int} {p : ConnectionRow} (hp : c.find? a = some p)
    (name : Option String) (now : Moment) : SameBut a c (c.upsert p.url name now).2 := by
  cases ho : c.isOpen with
  | false =>
    rw [upsert_of_closed ho]
    exact .refl a c
  | true =>
    rcases upsert_cases p.url name now ho with ⟨-, h⟩ | ⟨-, q, -, h⟩ | ⟨-, new, -⟩
    · rw [h]
      exact .refl a c
    · rw [h]
      exact ⟨rfl, rfl, fun _ _ => rfl⟩
    · exact absurd rfl ((findUrl?_eq_none_iff c p.url).1 new p (mem_of_find? hp).1)

/-- However a sync of the database of a connection ends, it changes nothing but what belongs to
the connection. -/
theorem Gateway.Synced.sameBut {g g' : Gateway} {name : Option String} {r : Except GatewayError ConnectionMetadata}
    {a : Int} {p : ConnectionRow} (h : Synced p.url name g r g') (hk : g.catalog.Keyed)
    (hp : g.catalog.find? a = some p) : Catalog.SameBut a g.catalog g'.catalog := by
  have registers : ∀ {r : Except CatalogError Connection} {g1 : Gateway},
      (g.note (.introspect p.url)).upsert p.url name = (r, g1) → Catalog.SameBut a g.catalog g1.catalog := by
    intro r g1 registered
    have same := Catalog.upsert_sameBut hp name g.now
    rwa [catalog_of_upsert registered] at same
  have same_id : ∀ {x : Connection} {g1 : Gateway},
      (g.note (.introspect p.url)).upsert p.url name = (.ok x, g1) → x.id = a := by
    intro x g1 registered
    obtain ⟨hmem, rfl⟩ := Catalog.mem_of_find? hp
    exact Catalog.id_of_upsert hk (congrArg Prod.fst (catalog_of_upsert registered)) hmem rfl
  have replaces : ∀ {r : Except CatalogError Unit} {g1 g2 : Gateway} {id : Int} {tables : List TableInfo},
      id = a → g1.replaceTables id tables = (r, g2) → Catalog.SameBut a g1.catalog g2.catalog := by
    rintro r g1 g2 id tables rfl replaced
    have same := Catalog.perform_sameBut (.replace tables) id g1.now g1.catalog
    rwa [show ((Edit.replace tables).perform id g1.now g1.catalog).2 = g2.catalog from
      congrArg Prod.snd (catalog_of_replaceTables replaced)] at same
  have touches : ∀ {r : Except CatalogError Connection} {g2 g3 : Gateway} {id : Int},
      id = a → g2.touch id = (r, g3) → Catalog.SameBut a g2.catalog g3.catalog := by
    rintro r g2 g3 id rfl touched
    have same := Catalog.perform_sameBut .touch id g2.now g2.catalog
    rwa [show (Edit.touch.perform id g2.now g2.catalog).2 = g3.catalog from
      congrArg Prod.snd (catalog_of_touch touched)] at same
  cases h with
  | unreachable => exact .refl a g.catalog
  | unregistered _ registered => exact registers registered
  | unreplaced _ registered replaced => exact (registers registered).trans (replaces (same_id registered) replaced)
  | untouched _ registered replaced touched | done _ registered replaced touched =>
    have hid := same_id registered
    exact ((registers registered).trans (replaces hid replaced)).trans (touches hid touched)

/-- A step changes nothing but what belongs to the connection that it is aimed at. -/
theorem Turn.sameBut {x : Turn} {a : Int} (hx : x.step.AimedAt x.session.gateway.catalog a)
    (hk : x.session.gateway.catalog.Keyed) :
    Catalog.SameBut a x.session.gateway.catalog x.next.gateway.catalog := by
  obtain ⟨s, t⟩ := x
  have edited : ∀ e : Edit, Catalog.SameBut a s.gateway.catalog (e.perform a s.gateway.now s.gateway.catalog).2 :=
    fun e => Catalog.perform_sameBut e a s.gateway.now s.gateway.catalog
  have synced : ∀ url name, (∃ r, s.gateway.catalog.find? a = some r ∧ r.url = url) →
      Catalog.SameBut a s.gateway.catalog (s.gateway.sync url name).2.catalog := by
    rintro url name ⟨p, hp, rfl⟩
    exact (s.gateway.sync_synced p.url name).sameBut hk hp
  cases t with
  | replace id tables =>
    cases hx
    exact edited (.replace tables)
  | touch id =>
    cases hx
    exact edited .touch
  | rename id name =>
    cases hx
    exact edited (.rename name)
  | delete id =>
    cases hx
    exact edited .delete
  | sync url name => exact synced url name hx
  | request r =>
    show Catalog.SameBut a s.gateway.catalog (respond r s.gateway).2.catalog
    simp only [Step.AimedAt] at hx
    cases hd : r.deed? with
    | none =>
      rw [respond_of_no_deed hd]
      exact .refl a s.gateway.catalog
    | some d =>
      rw [hd] at hx
      rw [respond_of_deed? hd, d.perform_snd]
      cases d with
      | sync url name => exact synced url name hx
      | rename id name =>
        cases hx
        exact edited (.rename name)
      | delete id =>
        cases hx
        exact edited .delete
      | query => cases hx
  | _ => cases hx

/-! ## Edits in a session -/

/-- The step that makes an edit of a connection. -/
def Edit.step (id : Int) : Edit → Step
  | .replace tables => .replace id tables
  | .touch => .touch id
  | .rename name => .rename id name
  | .delete => .delete id

namespace Session

variable {s s' : Session}

/-- Takes steps, each when the clock shows a given time. -/
def runAt (s : Session) : List (Moment × Step) → List Answer × Session
  | [] => ([], s)
  | (t, x) :: xs =>
    let (a, s) := (s.withClock t).step x
    let (as, s) := s.runAt xs
    (a :: as, s)

/-- A step that makes an edit answers as the edit and leaves the catalog that it leaves. -/
theorem step_edit (s : Session) (e : Edit) (id : Int) :
    (s.step (e.step id)).1 = (e.perform id s.gateway.now s.gateway.catalog).1 ∧
      (s.step (e.step id)).2.gateway.catalog = (e.perform id s.gateway.now s.gateway.catalog).2 := by
  cases e <;> exact ⟨rfl, rfl⟩

/-- Two edits one after the other, each at its time. -/
theorem runAt_edits (s : Session) (e f : Edit) (a b : Int) (t u : Moment) :
    let c := s.gateway.catalog
    let c' := (e.perform a t c).2
    (s.runAt [(t, e.step a), (u, f.step b)]).1 = [(e.perform a t c).1, (f.perform b u c').1] ∧
      (s.runAt [(t, e.step a), (u, f.step b)]).2.gateway.catalog = (f.perform b u c').2 := by
  intro c c'
  obtain ⟨answer, catalog⟩ := (s.withClock t).step_edit e a
  obtain ⟨answer', catalog'⟩ := (((s.withClock t).step (e.step a)).2.withClock u).step_edit f b
  have hc : (((s.withClock t).step (e.step a)).2.withClock u).gateway.catalog = c' := catalog
  rw [hc] at answer' catalog'
  exact ⟨congrArg₂ (fun x y => [x, y]) answer answer', catalog'⟩

/-- Two sessions answer the look-ups of the catalog alike, through a view of the answers. -/
def LooksLike (view : Answer → Answer) (s s' : Session) : Prop :=
  view (s'.step .list).1 = view (s.step .list).1 ∧
    ∀ i, view (s'.step (.metadata i)).1 = view (s.step (.metadata i)).1

/-- Edits of two connections can be made in either order, each at its time. -/
theorem edits_comm (s : Session) {a b : Int} (hab : a ≠ b) (e f : Edit) (t u : Moment) :
    let p := s.runAt [(t, e.step a), (u, f.step b)]
    let q := s.runAt [(u, f.step b), (t, e.step a)]
    p.1 = q.1.reverse ∧ LooksLike id q.2 p.2 := by
  intro p q
  obtain ⟨answers, catalog⟩ := s.runAt_edits e f a b t u
  obtain ⟨answers', catalog'⟩ := s.runAt_edits f e b a u t
  obtain ⟨answer_e, answer_f, rows, same⟩ := Catalog.perform_comm hab e f t u s.gateway.catalog
  rw [← catalog, ← catalog'] at rows same
  refine ⟨?_, ?_, fun i => ?_⟩
  · show (s.runAt [(t, e.step a), (u, f.step b)]).1 = (s.runAt [(u, f.step b), (t, e.step a)]).1.reverse
    rw [answers, answers', answer_e, answer_f]
    rfl
  · show Answer.connections p.2.gateway.catalog.list = .connections q.2.gateway.catalog.list
    unfold Catalog.list
    rw [rows, (same a).isOpen]
  · exact congrArg Answer.metadata (same i).metadata

/-- At what times two edits are made is told only by the times of syncs. -/
theorem edits_alike (s : Session) (ht : s.gateway.catalog.Timed) (e f : Edit) (a b : Int) {t u t' u' : Moment}
    (real_t : t.IsReal) (real_u : u.IsReal) (real_t' : t'.IsReal) (real_u' : u'.IsReal) :
    let p := s.runAt [(t, e.step a), (u, f.step b)]
    let q := s.runAt [(t', e.step a), (u', f.step b)]
    q.1.map Answer.unstamped = p.1.map Answer.unstamped ∧ LooksLike Answer.unstamped p.2 q.2 := by
  intro p q
  obtain ⟨answers, catalog⟩ := s.runAt_edits e f a b t u
  obtain ⟨answers', catalog'⟩ := s.runAt_edits e f a b t' u'
  have timed : ∀ {c : Catalog} {v : Moment} (g : Edit) (id : Int), c.Timed → v.IsReal → (g.perform id v c).2.Timed :=
    fun g id hc real => (g.change id _ _).timed real hc
  obtain ⟨answer, first⟩ := (Catalog.Alike.refl s.gateway.catalog).perform ht ht e a real_t real_t'
  obtain ⟨answer', second⟩ := first.perform (timed e a ht real_t) (timed e a ht real_t') f b real_u real_u'
  have timed_p := timed f b (timed e a ht real_t) real_u
  have timed_q := timed f b (timed e a ht real_t') real_u'
  rw [← catalog] at second timed_p
  rw [← catalog'] at second timed_q
  refine ⟨?_, ?_, fun i => second.metadata timed_p timed_q i⟩
  · show (s.runAt [(t', e.step a), (u', f.step b)]).1.map Answer.unstamped =
      (s.runAt [(t, e.step a), (u, f.step b)]).1.map Answer.unstamped
    rw [answers, answers', List.map_cons, List.map_cons, List.map_cons, List.map_cons, answer, answer']
  · exact congrArg Answer.connections (second.list timed_p timed_q)

/-- Edits of two connections can be made in either order and at any times, up to the times of
syncs. -/
theorem edits_comm_alike (s : Session) (ht : s.gateway.catalog.Timed) {a b : Int} (hab : a ≠ b) (e f : Edit)
    {t u t' u' : Moment} (real_t : t.IsReal) (real_u : u.IsReal) (real_t' : t'.IsReal) (real_u' : u'.IsReal) :
    let p := s.runAt [(t, e.step a), (u, f.step b)]
    let q := s.runAt [(u', f.step b), (t', e.step a)]
    p.1.map Answer.unstamped = (q.1.map Answer.unstamped).reverse ∧ LooksLike Answer.unstamped q.2 p.2 := by
  intro p q
  obtain ⟨answers, list, metadata⟩ := s.edits_comm hab e f t u
  obtain ⟨answers', list', metadata'⟩ := s.edits_alike ht f e b a real_u' real_t' real_u real_t
  refine ⟨?_, (congrArg Answer.unstamped list).trans list', fun i => ?_⟩
  · show (s.runAt [(t, e.step a), (u, f.step b)]).1.map Answer.unstamped = _
    rw [answers, List.map_reverse, answers']
  · exact (congrArg Answer.unstamped (metadata i)).trans (metadata' i)

/-- The clock between two edits shows a moment if it does so before and behind them. -/
theorem isReal_between (s : Session) {x y : Step} (hx : x.isOwn = true) (hy : y.isOwn = true)
    (before : s.gateway.now.IsReal) (behind : (s.run [x, y]).2.gateway.now.IsReal) :
    (s.step x).2.gateway.now.IsReal := by
  have first := s.step_becomes hx
  have second := (s.step x).2.step_becomes hy
  exact first.isReal before (Int.le_trans second.year_le behind.year_le)

end Session

theorem Edit.isOwn_step (e : Edit) (id : Int) : (e.step id).isOwn = true := by
  cases e <;> rfl

/-- In any state that a run from an empty catalog comes to, with any time between its turns, and
for any two different ids: (1) whatever is aimed at one, its own operations, a sync of its
database or a request for one of these, and however it ends, the metadata of the other stay the
same, and so does the list of connections without the first. (2) Edits of both, in either order,
each at its time, give the same answers, and look-ups give the same from then on. (3) If they
take place at other times in the other order, answers and look-ups are the same up to the times
of syncs; in particular if they are made right after each other, by the clock. -/
theorem connections_kept_apart {place : Place} {origins : List String} {now : Moment} {s s' : Session}
    (hs : Session.start place origins now = .ok s) {xs : List Turn} (h : s.Leads xs s')
    (hxs : ∀ x ∈ xs, x.step.seeds = false) {a b : Int} (hab : a ≠ b) :
    (∀ t : Step, t.AimedAt s'.gateway.catalog a →
      let c := s'.gateway.catalog
      let c' := (s'.step t).2.gateway.catalog
      c'.metadata b = c.metadata b ∧
        (now.IsReal → (s'.step t).2.gateway.now.IsReal →
          (c'.list.map fun xs => xs.filter fun x => x.id != a) = c.list.map fun xs => xs.filter fun x => x.id != a)) ∧
    (∀ (e f : Edit) (t u : Moment),
      let p := s'.runAt [(t, e.step a), (u, f.step b)]
      let q := s'.runAt [(u, f.step b), (t, e.step a)]
      p.1 = q.1.reverse ∧ Session.LooksLike id q.2 p.2) ∧
    (now.IsReal → s'.gateway.now.IsReal →
      (∀ (e f : Edit) (t u t' u' : Moment), t.IsReal → u.IsReal → t'.IsReal → u'.IsReal →
        let p := s'.runAt [(t, e.step a), (u, f.step b)]
        let q := s'.runAt [(u', f.step b), (t', e.step a)]
        p.1.map Answer.unstamped = (q.1.map Answer.unstamped).reverse ∧
          Session.LooksLike Answer.unstamped q.2 p.2) ∧
      ∀ e f : Edit,
        let p := s'.run [e.step a, f.step b]
        let q := s'.run [f.step b, e.step a]
        p.2.gateway.now.IsReal → q.2.gateway.now.IsReal →
          p.1.map Answer.unstamped = (q.1.map Answer.unstamped).reverse ∧
            Session.LooksLike Answer.unstamped q.2 p.2) := by
  obtain ⟨hc, hnow⟩ := Session.start_catalog hs
  obtain ⟨-, keyed⟩ := h.keyed hc
  have timed : now.IsReal → s'.gateway.now.IsReal → s'.gateway.catalog.Timed := fun real hend r hr =>
    ((h.dated hxs hc (hnow ▸ real) hend.year_le).2 r hr).timed
  refine ⟨fun t ht => ?_, fun e f t u => s'.edits_comm hab e f t u, fun real hend => ⟨?_, ?_⟩⟩
  · intro c c'
    have same : Catalog.SameBut a c c' := Turn.sameBut (x := ⟨s', t⟩) ht keyed
    refine ⟨(same.at hab.symm).metadata, fun real hend => ?_⟩
    obtain ⟨own, unseeded⟩ := ht.isOwn
    have behind : ∀ x ∈ xs ++ [⟨s', t⟩], x.step.seeds = false := by
      intro x hx
      rcases List.mem_append.1 hx with hx | hx
      · exact hxs x hx
      · rwa [List.mem_singleton.1 hx]
    have dated := (h.turn t).dated behind hc (hnow ▸ real) hend.year_le
    have year := Int.le_trans (s'.step_becomes own).year_le hend.year_le
    have dated_before := h.dated hxs hc (hnow ▸ real) year
    exact same.list (fun r hr => (dated_before.2 r hr).timed) fun r hr => (dated.2 r hr).timed
  · intro e f t u t' u' real_t real_u real_t' real_u'
    exact s'.edits_comm_alike (timed real hend) hab e f real_t real_u real_t' real_u'
  · intro e f p q real_p real_q
    have between_p := s'.isReal_between (e.isOwn_step a) (f.isOwn_step b) hend real_p
    have between_q := s'.isReal_between (f.isOwn_step b) (e.isOwn_step a) hend real_q
    exact s'.edits_comm_alike (timed real hend) hab e f hend between_p between_q hend

/-- A connection is deleted by a request, and the tables of the one beside it are shown as before;
a touch of both gives the same in either order, up to the times. -/
theorem deleted_beside_another :
    let now : Moment := ⟨⟨2026, 5, 17⟩, 11, 23, 47, 0⟩
    let s : Session := ⟨⟨{}, .scripted [] ⟨[], []⟩ none, [], now, ["*"]⟩, .memory, {}⟩
    let s' := s.finish
      [.upsert "postgres://h/d" none, .upsert "postgres://h/e" none, .replace 2 [⟨"a", "t", false, [⟨"x", "int4"⟩]⟩]]
    let r : Request := ⟨"DELETE", "/api/metadata/1", [], ""⟩
    (s'.step (.request r)).2.gateway.catalog.find? 1 = none ∧
      (s'.step (.request r)).2.gateway.catalog.metadata 2 = s'.gateway.catalog.metadata 2 ∧
      ((s'.step (.request r)).2.gateway.catalog.list.map fun xs => xs.filter fun x => x.id != 1) =
        (s'.gateway.catalog.list.map fun xs => xs.filter fun x => x.id != 1) ∧
      (s'.run [Edit.touch.step 1, Edit.touch.step 2]).1.map Answer.unstamped =
        ((s'.run [Edit.touch.step 2, Edit.touch.step 1]).1.map Answer.unstamped).reverse := by
  intro now s s' r
  have hs : Session.start .memory ["*"] now = .ok s := rfl
  let ts : List Step :=
    [.upsert "postgres://h/d" none, .upsert "postgres://h/e" none, .replace 2 [⟨"a", "t", false, [⟨"x", "int4"⟩]⟩]]
  have h : s.Leads (s.turns ts) s' := s.leads_finish ts
  have hxs : ∀ x ∈ s.turns ts, x.step.seeds = false := by
    intro x hx
    simp only [ts, Session.turns, List.mem_cons, List.not_mem_nil, or_false] at hx
    rcases hx with rfl | rfl | rfl <;> rfl
  have hnow : now.IsReal := ⟨by decide, by decide, by decide, by decide, by decide⟩
  have hend : s'.gateway.now.IsReal :=
    ⟨by decide +kernel, by decide +kernel, by decide +kernel, by decide +kernel, by decide +kernel⟩
  have deleted : (s'.step (.request r)).2.gateway.now.IsReal :=
    ⟨by decide +kernel, by decide +kernel, by decide +kernel, by decide +kernel, by decide +kernel⟩
  have touched : (s'.run [Edit.touch.step 1, Edit.touch.step 2]).2.gateway.now.IsReal :=
    ⟨by decide +kernel, by decide +kernel, by decide +kernel, by decide +kernel, by decide +kernel⟩
  have touched' : (s'.run [Edit.touch.step 2, Edit.touch.step 1]).2.gateway.now.IsReal :=
    ⟨by decide +kernel, by decide +kernel, by decide +kernel, by decide +kernel, by decide +kernel⟩
  have hd : r.deed? = some (.delete 1) := by decide +kernel
  have hab : (1 : Int) ≠ 2 := by decide
  obtain ⟨frame, -, order⟩ := connections_kept_apart hs h hxs hab
  obtain ⟨metadata, list⟩ := frame (.request r) (Step.aimedAt_of_delete hd _)
  obtain ⟨-, run⟩ := order hnow hend
  exact ⟨by decide +kernel, metadata, list hnow deleted, (run .touch .touch touched touched').1⟩

end QueryGateway
