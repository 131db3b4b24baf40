import QueryGateway.Http.Service
import QueryGateway.Proofs.Outcome

/-!
# What a request does

A request reads as a deed, that is one of the four operations that do something to the
gateway, or it does nothing: it only looks, or it is not well-formed. What holds of the
deeds holds of all requests.
-/

namespace QueryGateway.Http

open Text Wire

/-! ## Deeds -/

/-- What a request can do. -/
inductive Deed
  | sync (url : String) (name : Option String)
  | rename (id : Int) (name : Option String)
  | delete (id : Int)
  | query (id : Int) (sql : String)
  deriving DecidableEq, Repr

/-- Does it, and answers. -/
def Deed.perform (g : Gateway) : Deed → Response × Gateway
  | .sync url name => answerJson connectionMetadataJson (g.sync url name)
  | .rename id name => answerJson connectionJson ((g.rename id name).1.mapError .ofCatalog, (g.rename id name).2)
  | .delete id =>
    ((match (g.delete id).1 with
      | .ok () => .bare 204
      | .error e => .ofError (.ofCatalog e)), (g.delete id).2)
  | .query id sql => answerJson queryResultJson (g.query id sql)

namespace Request

/-- The connection and the SQL of a request to run a query. -/
def query? (r : Request) : Option (Int × String) :=
  if r.method = "POST" ∧ Resource.ofPath? r.path = some .query then
    match readBody queryRequest r with
    | .ok (id, sql, ()) => some (id, sql)
    | .error _ => none
  else none

/-- The database and its name of a request to sync. -/
def sync? (r : Request) : Option (String × Option String) :=
  if r.method = "POST" then
    match readBody syncRequest r with
    | .ok (url, name, ()) => if (trim url).isEmpty then none else some (trim url, cleanName name)
    | .error _ => none
  else none

/-- What a request does to the connection that its path names. -/
def change? (r : Request) (id : Int) : Option Deed :=
  if r.method = "DELETE" then some (.delete id)
  else if r.method = "PUT" then
    match readBody renameRequest r with
    | .ok (name, ()) => some (.rename id (cleanName name))
    | .error _ => none
  else none

/-- What a request does. -/
def deed? (r : Request) : Option Deed :=
  match Resource.ofPath? r.path with
  | some .sync => r.sync?.map fun (url, name) => .sync url name
  | some .query => r.query?.map fun (id, sql) => .query id sql
  | some (.connection segment) => (readId segment).toOption.bind r.change?
  | _ => none

end Request

/-! ## Methods -/

/-- A method of a resource is found under its name alone. -/
theorem Resource.method?_name {resource : Resource} {name : String} {m : Method}
    (h : resource.method? name = some m) : m.name = name := by
  have := List.find?_some h
  simpa using this

/-- A request for a resource by one of its methods gets to the operation. -/
theorem respond_of_method {r : Request} {resource : Resource} {m : Method}
    (hp : Resource.ofPath? r.path = some resource) (hm : resource.method? r.method = some m) (g : Gateway) :
    respond r g = operate resource m r g := by
  have hname := Resource.method?_name hm
  have hoptions : ¬ (r.method == "OPTIONS") = true := by
    rw [← hname]
    cases m <;> decide
  unfold respond
  dsimp only
  rw [if_neg hoptions, hp]
  dsimp only
  rw [hm]

/-! ## Requests by their deeds -/

theorem answerJson_snd {α : Type} (json : α → Json.Value) (outcome : Except GatewayError α × Gateway) :
    (answerJson json outcome).2 = outcome.2 := by
  unfold answerJson
  cases outcome.1 <;> rfl

/-- The status of a failure is that of no success. -/
theorem le_statusOf (e : GatewayError) : 400 ≤ statusOf e := by
  cases e <;> simp [statusOf]

theorem answerJson_status {α : Type} (json : α → Json.Value) (outcome : Except GatewayError α × Gateway) :
    ((answerJson json outcome).1.status == 200) = outcome.1.isOk := by
  unfold answerJson
  cases outcome.1 with
  | ok a => rfl
  | error e =>
    have := le_statusOf e
    exact beq_eq_false_iff_ne.2 (show statusOf e ≠ 200 by omega)

/-- A deed leaves the gateway that its operation leaves. -/
theorem Deed.perform_snd (d : Deed) (g : Gateway) :
    (d.perform g).2 =
      match d with
      | .sync url name => (g.sync url name).2
      | .rename id name => (g.rename id name).2
      | .delete id => (g.delete id).2
      | .query id sql => (g.query id sql).2 := by
  cases d with
  | sync => exact answerJson_snd _ _
  | rename => exact answerJson_snd _ _
  | delete => rfl
  | query => exact answerJson_snd _ _

theorem respond_of_sync? {r : Request} {url : String} {name : Option String}
    (hp : Resource.ofPath? r.path = some .sync) (h : r.sync? = some (url, name)) (g : Gateway) :
    respond r g = (Deed.sync url name).perform g := by
  unfold Request.sync? at h
  split at h
  · next hm =>
    have hmethod : Resource.sync.method? r.method = some .post := by
      rw [hm]
      rfl
    rw [respond_of_method hp hmethod]
    show syncDatabase r g = _
    unfold syncDatabase
    split at h
    · next hb =>
      rw [hb]
      split at h
      · cases h
      · next hne =>
        cases h
        exact if_neg hne
    · cases h
  · cases h

/-- A request that asks for a query gets to the query. -/
theorem respond_of_query? {r : Request} {id : Int} {sql : String} (h : r.query? = some (id, sql))
    (g : Gateway) : respond r g = (Deed.query id sql).perform g := by
  unfold Request.query? at h
  split at h
  · next hm =>
    have hmethod : Resource.query.method? r.method = some .post := by
      rw [hm.1]
      rfl
    rw [respond_of_method hm.2 hmethod]
    show runQuery r g = _
    unfold runQuery
    split at h
    · next hb =>
      cases h
      rw [hb]
      rfl
    · cases h
  · cases h

theorem respond_of_change? {r : Request} {segment : List Char} {id : Int} {d : Deed}
    (hp : Resource.ofPath? r.path = some (.connection segment)) (hid : readId segment = .ok id)
    (h : r.change? id = some d) (g : Gateway) : respond r g = d.perform g := by
  unfold Request.change? at h
  split at h
  · next hm =>
    cases h
    have hmethod : (Resource.connection segment).method? r.method = some .delete := by
      rw [hm]
      rfl
    rw [respond_of_method hp hmethod]
    show deleteConnection segment g = _
    unfold deleteConnection
    rw [hid]
    dsimp only [Deed.perform]
    cases g.delete id with
    | mk o g' => cases o <;> rfl
  · split at h
    · next hm =>
      have hmethod : (Resource.connection segment).method? r.method = some .put := by
        rw [hm]
        rfl
      rw [respond_of_method hp hmethod]
      show renameConnection segment r g = _
      unfold renameConnection
      rw [hid]
      split at h
      · next hb =>
        cases h
        rw [hb]
        rfl
      · cases h
    · cases h

/-- A request that does something answers as that does. -/
theorem respond_of_deed? {r : Request} {d : Deed} (h : r.deed? = some d) (g : Gateway) :
    respond r g = d.perform g := by
  unfold Request.deed? at h
  split at h
  · next hp =>
    obtain ⟨⟨url, name⟩, hs, rfl⟩ := Option.map_eq_some_iff.1 h
    exact respond_of_sync? hp hs g
  · obtain ⟨⟨id, sql⟩, hq, rfl⟩ := Option.map_eq_some_iff.1 h
    exact respond_of_query? hq g
  · next segment hp =>
    obtain ⟨id, hid, hc⟩ := Option.bind_eq_some_iff.1 h
    exact respond_of_change? hp (toOption_eq_some hid) hc g
  · cases h

/-- A request by another method than these three does nothing. -/
theorem deed?_of_method {r : Request} (post : r.method ≠ "POST") (put : r.method ≠ "PUT")
    (delete : r.method ≠ "DELETE") : r.deed? = none := by
  have change : ∀ id, r.change? id = none := fun id => by simp [Request.change?, put, delete]
  unfold Request.deed?
  split
  · simp [Request.sync?, post]
  · simp [Request.query?, post]
  · exact Option.bind_eq_none_iff.2 fun id _ => change id
  · rfl

/-- A request that does nothing leaves the gateway as it is. -/
theorem respond_of_no_deed {r : Request} (h : r.deed? = none) (g : Gateway) : (respond r g).2 = g := by
  unfold Request.deed? at h
  unfold respond
  dsimp only
  split
  · rfl
  · split
    · rfl
    · next resource hp =>
      rw [hp] at h
      split
      · next method hm =>
        -- What an operation lacks is an id or a body that can be read.
        have hname := Resource.method?_name hm
        unfold operate
        split
        case h_7 segment =>
          unfold renameConnection
          split
          · rfl
          · next id hid =>
            split
            · rfl
            · next hb =>
              simp [hid, Except.toOption, Request.change?, ← hname, Method.name, hb] at h
        case h_8 segment =>
          unfold deleteConnection
          split
          · rfl
          · next id hid => simp [hid, Except.toOption, Request.change?, ← hname, Method.name] at h
        case h_9 =>
          unfold syncDatabase
          split
          · rfl
          · next hb =>
            split
            · rfl
            · next hne => simp [Request.sync?, ← hname, Method.name, hb, hne] at h
        case h_10 =>
          unfold runQuery
          split
          · rfl
          · next hb => simp [Request.query?, ← hname, Method.name, hp, hb] at h
        all_goals rfl
      · rfl

theorem query?_of_deed? {r : Request} {id : Int} {sql : String} (h : r.deed? = some (.query id sql)) :
    r.query? = some (id, sql) := by
  unfold Request.deed? at h
  split at h
  · obtain ⟨_, -, hd⟩ := Option.map_eq_some_iff.1 h
    cases hd
  · obtain ⟨_, hq, hd⟩ := Option.map_eq_some_iff.1 h
    cases hd
    exact hq
  · obtain ⟨_, -, hc⟩ := Option.bind_eq_some_iff.1 h
    unfold Request.change? at hc
    split at hc
    · cases hc
    · split at hc
      · split at hc <;> cases hc
      · cases hc
  · cases h

theorem deed?_of_query? {r : Request} {id : Int} {sql : String} (h : r.query? = some (id, sql)) :
    r.deed? = some (.query id sql) := by
  have hp : Resource.ofPath? r.path = some .query := by
    unfold Request.query? at h
    split at h
    · next hr => exact hr.2
    · cases h
  unfold Request.deed?
  rw [hp]
  dsimp only
  rw [h]
  rfl

end QueryGateway.Http
