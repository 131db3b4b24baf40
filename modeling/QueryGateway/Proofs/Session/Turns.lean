import QueryGateway.Proofs.Gateway.Acts
import QueryGateway.Proofs.Http.Requests
import QueryGateway.Session

/-!
# Turns

A run is a list of turns, each a step with the session it starts from. Whatever a step
asks for, directly or by a request, its gateway goes through acts, unless someone else
puts rows into the storage or closes it. What becomes of the catalog is told by the write
that a step asks for, if it asks for one.
-/

namespace QueryGateway

/-! ## Turns -/

/-- A step of a run with the session it starts from. -/
structure Turn where
  session : Session
  step : Step

namespace Turn

/-- What the step answers. -/
def answer (x : Turn) : Answer := (x.session.step x.step).1

/-- The session behind the step. -/
def next (x : Turn) : Session := (x.session.step x.step).2

end Turn

namespace Session

/-- The turns of a run. -/
def turns (s : Session) : List Step → List Turn
  | [] => []
  | t :: ts => ⟨s, t⟩ :: (s.step t).2.turns ts

/-- The session behind a run. -/
def finish (s : Session) (ts : List Step) : Session := (s.run ts).2

@[simp] theorem finish_nil (s : Session) : s.finish [] = s := rfl

@[simp] theorem finish_cons (s : Session) (t : Step) (ts : List Step) :
    s.finish (t :: ts) = (s.step t).2.finish ts := rfl

theorem finish_append (s : Session) (ts us : List Step) :
    s.finish (ts ++ us) = (s.finish ts).finish us := by
  induction ts generalizing s with
  | nil => rfl
  | cons t ts ih => exact ih (s.step t).2

theorem run_answers (s : Session) (ts : List Step) : (s.run ts).1 = (s.turns ts).map Turn.answer := by
  induction ts generalizing s with
  | nil => rfl
  | cons t ts ih =>
    show (s.step t).1 :: ((s.step t).2.run ts).1 = _
    rw [ih]
    rfl

theorem turns_concat (s : Session) (ts : List Step) (t : Step) :
    s.turns (ts ++ [t]) = s.turns ts ++ [⟨s.finish ts, t⟩] := by
  induction ts generalizing s with
  | nil => rfl
  | cons u ts ih =>
    show ⟨s, u⟩ :: (s.step u).2.turns (ts ++ [t]) = _
    rw [ih]
    rfl

theorem finish_concat (s : Session) (ts : List Step) (t : Step) :
    s.finish (ts ++ [t]) = Turn.next ⟨s.finish ts, t⟩ := s.finish_append ts [t]

/-- A turn of a run starts where the steps before it end. -/
theorem mem_turns {s : Session} {ts : List Step} {x : Turn} (h : x ∈ s.turns ts) :
    ∃ us vs, ts = us ++ x.step :: vs ∧ x.session = s.finish us := by
  induction ts generalizing s with
  | nil => cases h
  | cons t ts ih =>
    rcases List.mem_cons.1 h with rfl | h
    · exact ⟨[], ts, rfl, rfl⟩
    · obtain ⟨us, vs, rfl, he⟩ := ih h
      exact ⟨t :: us, vs, rfl, he⟩

end Session

/-! ## Requests -/

namespace Http

theorem Deed.perform_becomes (d : Deed) (g : Gateway) : g.Becomes (d.perform g).2 := by
  rw [d.perform_snd]
  cases d with
  | sync url name => exact g.sync_becomes url name
  | rename id name => exact (Gateway.Act.rename id name).becomes
  | delete id => exact (Gateway.Act.delete id).becomes
  | query id sql => exact g.query_becomes id sql

theorem serve_becomes (r : Request) (g : Gateway) : g.Becomes (serve r g).2 := by
  show g.Becomes (respond r g).2
  cases h : r.deed? with
  | some d =>
    rw [respond_of_deed? h]
    exact d.perform_becomes g
  | none =>
    rw [respond_of_no_deed h]
    exact g.becomes_refl

end Http

/-! ## Steps -/

/-- A step neither puts rows into the storage behind the back of the catalog nor closes
it. -/
def Step.isOwn : Step → Bool
  | .seedConnection _ => false
  | .seedTable _ => false
  | .close => false
  | _ => true

theorem Session.step_becomes (s : Session) {t : Step} (h : t.isOwn = true) :
    s.gateway.Becomes (s.step t).2.gateway := by
  cases t with
  | upsert url name => exact (Gateway.Act.upsert url name).becomes
  | replace id tables => exact (Gateway.Act.replace id tables).becomes
  | touch id => exact (Gateway.Act.touch id).becomes
  | rename id name => exact (Gateway.Act.rename id name).becomes
  | delete id => exact (Gateway.Act.delete id).becomes
  | list => exact s.gateway.becomes_refl
  | get id => exact s.gateway.becomes_refl
  | metadata id => exact s.gateway.becomes_refl
  | sync url name => exact s.gateway.sync_becomes url name
  | query id sql => exact s.gateway.query_becomes id sql
  | script remote => exact (Gateway.Act.script remote).becomes
  | calls => exact Gateway.Act.tell.becomes
  | request r => exact Http.serve_becomes r s.gateway
  | reopen => exact s.gateway.becomes_refl
  | seedConnection row => cases h
  | seedTable row => cases h
  | tamper damage =>
    simp only [Session.step]
    split <;> exact s.gateway.becomes_refl
  | close => cases h

theorem Session.finish_becomes (s : Session) {ts : List Step} (h : ∀ t ∈ ts, t.isOwn = true) :
    s.gateway.Becomes (s.finish ts).gateway := by
  induction ts generalizing s with
  | nil => exact s.gateway.becomes_refl
  | cons t ts ih =>
    have h1 := s.step_becomes (h t List.mem_cons_self)
    exact h1.trans (ih (s.step t).2 fun u hu => h u (List.mem_cons_of_mem t hu))

/-! ## Writes -/

/-- What can be written to the catalog. -/
inductive Write
  | upsert (url : String) (name : Option String)
  | replace (id : Int) (tables : List TableInfo)
  | touch (id : Int)
  | rename (id : Int) (name : Option String)
  | delete (id : Int)
  | sync (url : String) (name : Option String)

/-- The catalog behind it. -/
def Write.perform (g : Gateway) : Write → Catalog
  | .upsert url name => (g.catalog.upsert url name g.now).2
  | .replace id tables => (g.catalog.replaceTables id tables).2
  | .touch id => (g.catalog.touch id g.now).2
  | .rename id name => (g.catalog.rename id name).2
  | .delete id => (g.catalog.delete id).2
  | .sync url name => (g.sync url name).2.catalog

/-- The step that writes it. -/
def Write.step : Write → Step
  | .upsert url name => .upsert url name
  | .replace id tables => .replace id tables
  | .touch id => .touch id
  | .rename id name => .rename id name
  | .delete id => .delete id
  | .sync url name => .sync url name

/-- What is written for a request. -/
def Http.Deed.write? : Deed → Option Write
  | .sync url name => some (.sync url name)
  | .rename id name => some (.rename id name)
  | .delete id => some (.delete id)
  | .query .. => none

/-- What a step writes, directly or for a request. -/
def Step.write? : Step → Option Write
  | .upsert url name => some (.upsert url name)
  | .replace id tables => some (.replace id tables)
  | .touch id => some (.touch id)
  | .rename id name => some (.rename id name)
  | .delete id => some (.delete id)
  | .sync url name => some (.sync url name)
  | .request r => r.deed?.bind Http.Deed.write?
  | _ => none

theorem Http.Deed.perform_catalog (d : Deed) (g : Gateway) :
    (d.perform g).2.catalog = d.write?.elim g.catalog (Write.perform g) := by
  rw [d.perform_snd]
  cases d with
  | query id sql =>
    show (g.query id sql).2.catalog = g.catalog
    rw [(g.query_spec id sql).2]
  | sync | rename | delete => rfl

theorem Http.serve_catalog (r : Request) (g : Gateway) :
    (serve r g).2.catalog = (r.deed?.bind Deed.write?).elim g.catalog (Write.perform g) := by
  show (respond r g).2.catalog = _
  cases h : r.deed? with
  | none => rw [respond_of_no_deed h]; rfl
  | some d =>
    rw [respond_of_deed? h]
    exact d.perform_catalog g

namespace Turn

variable {x : Turn}

/-- Behind a turn that writes stands the catalog that its write leaves. -/
theorem catalog_of_write? {w : Write} (h : x.step.write? = some w) :
    x.next.gateway.catalog = w.perform x.session.gateway := by
  obtain ⟨s, t⟩ := x
  cases t with
  | request r =>
    have written : r.deed?.bind Http.Deed.write? = some w := h
    show (Http.serve r s.gateway).2.catalog = _
    rw [Http.serve_catalog, written]
    rfl
  | upsert | replace | touch | rename | delete | sync =>
    cases h
    rfl
  | _ => cases h

/-- A turn of the gateway's own that writes nothing leaves the catalog as it was. -/
theorem catalog_of_no_write (own : x.step.isOwn = true) (h : x.step.write? = none) :
    x.next.gateway.catalog = x.session.gateway.catalog := by
  obtain ⟨s, t⟩ := x
  cases t with
  | request r =>
    have unwritten : r.deed?.bind Http.Deed.write? = none := h
    show (Http.serve r s.gateway).2.catalog = _
    rw [Http.serve_catalog, unwritten]
    rfl
  | query id sql =>
    show (s.gateway.query id sql).2.catalog = s.gateway.catalog
    rw [(s.gateway.query_spec id sql).2]
  | tamper damage =>
    simp only [next, Session.step]
    split <;> rfl
  | list | get | metadata | script | calls | reopen => rfl
  | seedConnection | seedTable | close => cases own
  | upsert | replace | touch | rename | delete | sync => cases h

end Turn

/-- What is never written for a request is written by its own step alone. -/
theorem Step.eq_of_write? {t : Step} {w : Write} (h : t.write? = some w) (direct : ∀ d : Http.Deed, d.write? ≠ some w) :
    t = w.step := by
  cases t with
  | request r =>
    obtain ⟨d, -, hd⟩ := Option.bind_eq_some_iff.1 h
    exact absurd hd (direct d)
  | upsert | replace | touch | rename | delete | sync =>
    cases h
    rfl
  | _ => cases h

end QueryGateway
