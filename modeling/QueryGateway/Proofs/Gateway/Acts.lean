import Mathlib.Logic.Relation
import QueryGateway.Gateway

/-!
# What a gateway does

The operations of the gateway that take more than one go, each with all the ways it can
end: `Synced` for a sync, `Replies` for a query. Whatever an operation is, the gateway
goes through a few acts one after the other, and an invariant of gateways only has to
look at those.
-/

namespace QueryGateway.Gateway

/-! ## Acts -/

/-- What happens to a gateway in one go. -/
inductive Act (g : Gateway) : Gateway → Prop
  | upsert (url : String) (name : Option String) : Act g (g.upsert url name).2
  | replace (id : Int) (tables : List TableInfo) : Act g (g.replaceTables id tables).2
  | touch (id : Int) : Act g (g.touch id).2
  | rename (id : Int) (name : Option String) : Act g (g.rename id name).2
  | delete (id : Int) : Act g (g.delete id).2
  | note (call : Call) : Act g (g.note call)
  | script (remote : Remote) : Act g { g with remote }
  | tell : Act g { g with calls := [] }

/-- A gateway goes over into another by acts. -/
def Becomes : Gateway → Gateway → Prop := Relation.ReflTransGen Act

theorem becomes_refl (g : Gateway) : g.Becomes g := .refl

theorem Act.becomes {g g' : Gateway} (h : Act g g') : g.Becomes g' := .single h

theorem Becomes.trans {g g' g'' : Gateway} (h : g.Becomes g') (h' : g'.Becomes g'') : g.Becomes g'' :=
  Relation.ReflTransGen.trans h h'

/-- What every act keeps, acts keep. -/
theorem Becomes.keeps {P : Gateway → Prop} (hP : ∀ g g', Act g g' → P g → P g') {g g' : Gateway}
    (h : g.Becomes g') (hg : P g) : P g' := by
  induction h with
  | refl => exact hg
  | tail _ ha ih => exact hP _ _ ha ih

/-! ## Syncs -/

/-- How a sync ends, and the gateway then. It looks into the database first, and stops at
the first write that fails. -/
inductive Synced (url : String) (name : Option String) (g : Gateway) :
    Except GatewayError ConnectionMetadata → Gateway → Prop
  | unreachable {e : RemoteError} (looked : g.remote.introspect url = .error e) :
      Synced url name g (.error (.ofRemote e)) (g.note (.introspect url))
  | unregistered {tables : List TableInfo} {e : CatalogError} {g1 : Gateway}
      (looked : g.remote.introspect url = .ok tables)
      (registered : (g.note (.introspect url)).upsert url name = (.error e, g1)) :
      Synced url name g (.error (.ofCatalog e)) g1
  | unreplaced {tables : List TableInfo} {e : CatalogError} {c : Connection} {g1 g2 : Gateway}
      (looked : g.remote.introspect url = .ok tables)
      (registered : (g.note (.introspect url)).upsert url name = (.ok c, g1))
      (replaced : g1.replaceTables c.id tables = (.error e, g2)) :
      Synced url name g (.error (.ofCatalog e)) g2
  | untouched {tables : List TableInfo} {e : CatalogError} {c : Connection} {g1 g2 g3 : Gateway}
      (looked : g.remote.introspect url = .ok tables)
      (registered : (g.note (.introspect url)).upsert url name = (.ok c, g1))
      (replaced : g1.replaceTables c.id tables = (.ok (), g2))
      (touched : g2.touch c.id = (.error e, g3)) :
      Synced url name g (.error (.ofCatalog e)) g3
  | done {tables : List TableInfo} {c c' : Connection} {g1 g2 g3 : Gateway}
      (looked : g.remote.introspect url = .ok tables)
      (registered : (g.note (.introspect url)).upsert url name = (.ok c, g1))
      (replaced : g1.replaceTables c.id tables = (.ok (), g2))
      (touched : g2.touch c.id = (.ok c', g3)) :
      Synced url name g (.ok ⟨c', tables⟩) g3

theorem sync_synced (url : String) (name : Option String) (g : Gateway) :
    Synced url name g (g.sync url name).1 (g.sync url name).2 := by
  unfold sync
  dsimp only
  have hr : (g.note (.introspect url)).remote = g.remote := rfl
  rw [hr]
  -- One stage after the other; each may be the last.
  cases looked : g.remote.introspect url with
  | error e => exact .unreachable looked
  | ok tables =>
    dsimp only
    cases registered : (g.note (.introspect url)).upsert url name with
    | mk r g1 =>
      cases r with
      | error e => exact .unregistered looked registered
      | ok c =>
        dsimp only
        cases replaced : g1.replaceTables c.id tables with
        | mk r g2 =>
          cases r with
          | error e => exact .unreplaced looked registered replaced
          | ok u =>
            dsimp only
            cases touched : g2.touch c.id with
            | mk r g3 =>
              cases r with
              | error e => exact .untouched looked registered replaced touched
              | ok c' => exact .done looked registered replaced touched

theorem becomes_of_upsert {g g' : Gateway} {url : String} {name : Option String}
    {r : Except CatalogError Connection} (h : g.upsert url name = (r, g')) : g.Becomes g' := by
  simpa only [h] using (Act.upsert (g := g) url name).becomes

theorem becomes_of_replaceTables {g g' : Gateway} {id : Int} {tables : List TableInfo}
    {r : Except CatalogError Unit} (h : g.replaceTables id tables = (r, g')) : g.Becomes g' := by
  simpa only [h] using (Act.replace (g := g) id tables).becomes

theorem becomes_of_touch {g g' : Gateway} {id : Int} {r : Except CatalogError Connection}
    (h : g.touch id = (r, g')) : g.Becomes g' := by
  simpa only [h] using (Act.touch (g := g) id).becomes

/-- A sync is a call, and then a registration, a replacement and a touch, as far as it
gets. -/
theorem Synced.becomes {url : String} {name : Option String} {g g' : Gateway}
    {r : Except GatewayError ConnectionMetadata} (h : Synced url name g r g') : g.Becomes g' := by
  have noted : g.Becomes (g.note (.introspect url)) := (Act.note _).becomes
  cases h with
  | unreachable => exact noted
  | unregistered _ h1 => exact noted.trans (becomes_of_upsert h1)
  | unreplaced _ h1 h2 => exact (noted.trans (becomes_of_upsert h1)).trans (becomes_of_replaceTables h2)
  | untouched _ h1 h2 h3 | done _ h1 h2 h3 =>
    exact ((noted.trans (becomes_of_upsert h1)).trans (becomes_of_replaceTables h2)).trans (becomes_of_touch h3)

theorem sync_becomes (url : String) (name : Option String) (g : Gateway) : g.Becomes (g.sync url name).2 :=
  (sync_synced url name g).becomes

/-! ## Queries -/

/-- What the answer to a query is: the connection comes first, then the guard, then the
remote database, and the first that fails decides. -/
inductive Replies (id : Int) (sql : String) (g : Gateway) : Except GatewayError QueryResult → Prop
  | unresolved {e : CatalogError} (found : g.catalog.get id = .error e) :
      Replies id sql g (.error (.ofCatalog e))
  | refused {c : Connection} {e : GuardError} (found : g.catalog.get id = .ok c)
      (guarded : guardSql sql = .error e) : Replies id sql g (.error (.ofGuard e))
  | failed {c : Connection} {q : GuardedQuery} {e : RemoteError} (found : g.catalog.get id = .ok c)
      (guarded : guardSql sql = .ok q)
      (executed : g.remote.execute c.connectionUrl q.patchedSql = .error e) :
      Replies id sql g (.error (.ofRemote e))
  | answered {c : Connection} {q : GuardedQuery} {rs : ResultSet} (found : g.catalog.get id = .ok c)
      (guarded : guardSql sql = .ok q)
      (executed : g.remote.execute c.connectionUrl q.patchedSql = .ok rs) :
      Replies id sql g
        (.ok ⟨rs.columns, rs.rows, q.limitAdded, if q.limitAdded then some limitMessage else none⟩)

/-- What a query sends: nothing if its connection is unknown or the guard refuses, else
the guarded text to the database of the connection. -/
def sent (id : Int) (sql : String) (g : Gateway) : List Call :=
  match g.catalog.get id, guardSql sql with
  | .ok c, .ok q => [.execute c.connectionUrl q.patchedSql]
  | _, _ => []

theorem sent_length (id : Int) (sql : String) (g : Gateway) : (g.sent id sql).length ≤ 1 := by
  unfold sent
  split <;> simp

/-- A query answers by the rule, sends what it may, and leaves everything else. -/
theorem query_spec (id : Int) (sql : String) (g : Gateway) :
    Replies id sql g (g.query id sql).1 ∧
      (g.query id sql).2 = { g with calls := g.calls ++ g.sent id sql } := by
  unfold query sent
  cases found : g.catalog.get id with
  | error e =>
    refine ⟨.unresolved found, ?_⟩
    simp
  | ok c =>
    dsimp only
    cases guarded : guardSql sql with
    | error e =>
      refine ⟨.refused found guarded, ?_⟩
      simp
    | ok q =>
      dsimp only
      have hr : (g.note (.execute c.connectionUrl q.patchedSql)).remote = g.remote := rfl
      rw [hr]
      cases executed : g.remote.execute c.connectionUrl q.patchedSql with
      | error e => exact ⟨.failed found guarded executed, rfl⟩
      | ok rs => exact ⟨.answered found guarded executed, rfl⟩

theorem query_becomes (id : Int) (sql : String) (g : Gateway) : g.Becomes (g.query id sql).2 := by
  rw [(query_spec id sql g).2]
  unfold sent
  split
  · exact (Act.note _).becomes
  · rw [List.append_nil]
    exact g.becomes_refl

end QueryGateway.Gateway
