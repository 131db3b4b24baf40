import QueryGateway.Proofs.Session.Leads
import QueryGateway.Proofs.Session.Snapshots

/-!
# What stays true of the rows

The rows of connections and tables and the last id belong together. Main statement: in every
run from an empty catalog, whatever fails in it, keys are told apart, ids have been given
out, tables are of connections that are there and read back as they were written, and no
connection is synced before it is registered.
-/

namespace QueryGateway

/-! ## Times in order -/

/-- The row was registered at a moment up to now, and synced, if at all, at one in between. -/
def ConnectionRow.Dated (now : Moment) (r : ConnectionRow) : Prop :=
  ∃ t : Moment, t.IsReal ∧ t.le now = true ∧ r.createdAt = t.offsetText ∧
    ∀ text, r.lastSynced = some text →
      ∃ u : Moment, u.IsReal ∧ t.le u = true ∧ u.le now = true ∧ text = u.offsetText

namespace ConnectionRow

variable {now now' : Moment} {p r : ConnectionRow}

theorem Dated.mono (h : r.Dated now) (hle : now.le now' = true) : r.Dated now' := by
  obtain ⟨t, ht, hnow, created, synced⟩ := h
  refine ⟨t, ht, Moment.le_trans hnow hle, created, fun text htext => ?_⟩
  obtain ⟨u, hu, after, before, hat⟩ := synced text htext
  exact ⟨u, hu, after, Moment.le_trans before hle, hat⟩

theorem Follows.dated (h : p.Follows now r) (hnow : now.IsReal) (hp : p.Dated now) : r.Dated now := by
  obtain ⟨t, ht, hle, created, synced⟩ := hp
  cases h with
  | same => exact ⟨t, ht, hle, created, synced⟩
  | stamped =>
    refine ⟨t, ht, hle, created, fun text htext => ⟨now, hnow, hle, now.le_refl, ?_⟩⟩
    exact (Option.some.inj htext).symm
  | named => exact ⟨t, ht, hle, created, synced⟩

theorem Dated.timed (h : r.Dated now) : r.Timed := by
  obtain ⟨t, ht, -, created, synced⟩ := h
  refine ⟨⟨t, ht, created⟩, fun text htext => ?_⟩
  obtain ⟨u, hu, -, -, hat⟩ := synced text htext
  exact ⟨u, hu, hat⟩

/-- A row with its times in order is a connection with its times in order. -/
theorem Dated.read (h : r.Dated now) :
    ∃ x, r.read = .ok x ∧ ∀ u, x.lastSynced = some u → x.createdAt.le u = true := by
  obtain ⟨t, ht, -, created, synced⟩ := h
  have hcreated : readMoment "created_at" r.createdAt = .ok t := by
    rw [created]
    exact readMoment_offsetText "created_at" ht
  unfold ConnectionRow.read
  cases hs : r.lastSynced with
  | none => exact ⟨⟨r.id, r.name, r.url, t, none⟩, by simp [bind, Except.bind, hcreated, pure, Except.pure], nofun⟩
  | some text =>
    obtain ⟨u, hu, after, -, rfl⟩ := synced text hs
    have hsynced := readMoment_offsetText "last_synced" hu
    refine ⟨⟨r.id, r.name, r.url, t, some u⟩, ?_, fun v hv => ?_⟩
    · simp [bind, Except.bind, hcreated, mapM_some_eq_ok hsynced]
    · cases hv
      exact after

end ConnectionRow

namespace Catalog

variable {c c' : Catalog} {now : Moment}

/-- The times of every row are in order, and none is later than now. -/
def Dated (now : Moment) (c : Catalog) : Prop := ∀ r ∈ c.connections, r.Dated now

theorem Change.dated (h : Change now c c') (hnow : now.IsReal) (hc : c.Dated now) : c'.Dated now := by
  intro r hr
  rcases h.origin hr with ⟨url, name, rfl, -, -⟩ | ⟨p, hp, hrp⟩
  · exact ⟨now, hnow, now.le_refl, rfl, nofun⟩
  · exact hrp.dated hnow (hc p hp)

end Catalog

/-! ## One turn -/

/-- A turn brings tables for a connection: it is given them, or it finds them in the database
of the connection. -/
inductive Turn.Brings (x : Turn) (id : Int) (tables : List TableInfo) : Prop
  | given (step : x.step = .replace id tables)
  | found {url : String} {name : Option String} {q : ConnectionRow} (step : x.step.sync? = some (url, name))
      (looked : x.session.gateway.remote.introspect url = .ok tables)
      (row : x.next.gateway.catalog.find? id = some q) (of : q.url = url)

/-- Behind a turn there are tables that were there before, and those that it brings. -/
theorem Turn.tables {x : Turn} (hx : x.step.seeds = false) (hc : x.session.gateway.catalog.Issued)
    (hk : x.session.gateway.catalog.Keyed) {r : TableRow} (hr : r ∈ x.next.gateway.catalog.tables) :
    r ∈ x.session.gateway.catalog.tables ∨
      ∃ tables, x.Brings r.connectionId tables ∧ ∃ t ∈ tables, r = TableRow.ofTable r.connectionId t := by
  cases hw : x.step.write? with
  | none =>
    obtain ⟨_, same⟩ := rows_of_no_write hx hw
    rw [same] at hr
    exact .inl hr
  | some w =>
    have hnext := catalog_of_write? hw
    rw [hnext] at hr
    cases w with
    | upsert url name => exact .inl (Catalog.upsert_tables _ url name _ ▸ hr)
    | replace id tables =>
      have hstep : x.step = .replace id tables := Step.eq_of_write? hw fun d => by cases d <;> nofun
      rcases Catalog.tables_of_replaceTables _ hr with old | ⟨t, ht, rfl⟩
      · exact .inl old
      · exact .inr ⟨tables, .given hstep, t, ht, rfl⟩
    | touch id => exact .inl (Catalog.update_tables _ id _ ▸ hr)
    | rename id name => exact .inl (Catalog.update_tables _ id _ ▸ hr)
    | delete id => exact .inl (Catalog.tables_of_delete _ id hr)
    | sync url name =>
      rcases (x.session.gateway.sync_synced url name).tables hc hk hr with old | ⟨tables, looked, ⟨q, hq, hurl⟩, new⟩
      · exact .inl old
      · exact .inr ⟨tables, .found (Step.sync?_iff.2 hw) looked (by rw [hnext]; exact hq) hurl, new⟩

/-! ## Whole runs -/

namespace Session

variable {s s' : Session} {xs : List Turn}

theorem Leads.lastId_le (h : s.Leads xs s') :
    ∀ x ∈ xs, x.session.gateway.catalog.lastId ≤ s'.gateway.catalog.lastId := by
  induction h with
  | start => exact fun x hx => absurd hx List.not_mem_nil
  | wait _ _ _ _ ih => exact ih
  | @turn xs s' _ t ih =>
    have step : s'.gateway.catalog.lastId ≤ (s'.step t).2.gateway.catalog.lastId := by
      rcases s'.step_cases t with becomes | ⟨c', others, hg⟩
      · exact becomes.lastId_le
      · rw [hg]
        exact others.lastId_le
    intro x hx
    rcases List.mem_append.1 hx with hx | hx
    · exact Int.le_trans (ih x hx) step
    · rw [List.mem_singleton.1 hx]
      exact step

section

variable (h : s.Leads xs s') (hxs : ∀ x ∈ xs, x.step.seeds = false) (hc : s.gateway.catalog = {})

include h hxs hc

theorem Leads.counted : s'.gateway.catalog.Counted :=
  h.keeps (P := fun g => g.catalog.Counted) (fun _ _ ha hg => ha.change.counted hg) (fun _ _ hg _ _ => hg)
    (fun _ _ _ hown others hg => others.eq_close hown ▸ ⟨hg.nonneg, hg.rows⟩) hxs (hc ▸ ⟨Int.le_refl 0, nofun⟩)

theorem Leads.tables_nodup : (s'.gateway.catalog.tables.map TableRow.key).Nodup :=
  h.keeps (P := fun g => (g.catalog.tables.map TableRow.key).Nodup) (fun _ _ ha hg => ha.change.tables_nodup hg)
    (fun _ _ hg _ _ => hg) (fun _ _ _ hown others hg => others.eq_close hown ▸ hg) hxs (hc ▸ List.nodup_nil)

/-- Every table was brought by a turn. -/
theorem Leads.tables : ∀ r ∈ s'.gateway.catalog.tables,
    ∃ x ∈ xs, ∃ tables, x.Brings r.connectionId tables ∧ ∃ t ∈ tables, r = TableRow.ofTable r.connectionId t := by
  induction h with
  | start =>
    rw [hc]
    exact nofun
  | wait _ _ _ _ ih => exact ih hxs
  | @turn xs s' h t ih =>
    intro r hr
    have hxs' : ∀ x ∈ xs, x.step.seeds = false := fun x hx => hxs x (List.mem_append_left _ hx)
    obtain ⟨issued, keyed⟩ := h.keyed hc
    have ht : t.seeds = false := hxs _ (List.mem_append_right _ List.mem_cons_self)
    rcases Turn.tables (x := ⟨s', t⟩) ht issued keyed hr with old | new
    · obtain ⟨x, hx, brought⟩ := ih hxs' r old
      exact ⟨x, List.mem_append_left _ hx, brought⟩
    · exact ⟨_, List.mem_append_right _ List.mem_cons_self, new⟩

/-- A clock that still shows a moment showed moments all the time, and the times of the rows
are in order. -/
theorem Leads.dated (hnow : s.gateway.now.IsReal) (hend : s'.gateway.now.date.year ≤ Date.maxYear) :
    s'.gateway.now.IsReal ∧ s'.gateway.catalog.Dated s'.gateway.now := by
  refine h.keeps (P := fun g => g.now.date.year ≤ Date.maxYear → g.now.IsReal ∧ g.catalog.Dated g.now)
    (A := fun t => t.seeds = false)
    (fun g g' ha hg hyear => ?_) (fun g t hg real later _ => ?_) (fun g t c' hown others hg hyear => ?_) hxs
    (fun _ => ⟨hnow, hc ▸ nofun⟩) hend
  · obtain ⟨real, dated⟩ := hg (Int.le_trans ha.year_le hyear)
    exact ⟨ha.isReal real hyear, fun r hr => (ha.change.dated real dated r hr).mono ha.le⟩
  · obtain ⟨-, dated⟩ := hg (Int.le_trans (Moment.year_le_of_le later) real.year_le)
    exact ⟨real, fun r hr => (dated r hr).mono later⟩
  · obtain ⟨real, dated⟩ := hg hyear
    rw [others.eq_close hown]
    exact ⟨real, dated⟩

end

end Session

/-- In any run from an empty catalog, with any time between the turns, and whatever fails in
it: no two connections have one id or one database; every id is at least one and no larger
than the last that was given out, now or before; every table is of a connection that is
there, and of no other table's schema and name; it was brought by a turn, and its columns are
read as they were written; and, as long as the clock shows moments, every connection can be
read, and is synced, if at all, not before it was registered. -/
theorem rows_stay_consistent {place : Place} {origins : List String} {now : Moment} {s s' : Session}
    (hs : Session.start place origins now = .ok s) {xs : List Turn} (h : s.Leads xs s')
    (hxs : ∀ x ∈ xs, x.step.seeds = false) :
    let c := s'.gateway.catalog
    (c.connections.map ConnectionRow.id).Nodup ∧ (c.connections.map ConnectionRow.url).Nodup ∧
    (∀ r ∈ c.connections, 1 ≤ r.id ∧ r.id ≤ c.lastId) ∧
    (∀ x ∈ xs, ∀ r ∈ x.session.gateway.catalog.connections, r.id ≤ c.lastId) ∧
    (∀ t ∈ c.tables, ∃ r ∈ c.connections, r.id = t.connectionId) ∧ (c.tables.map TableRow.key).Nodup ∧
    (∀ r ∈ c.tables, ∃ x ∈ xs, ∃ tables, x.Brings r.connectionId tables ∧
      ∃ t ∈ tables, r = TableRow.ofTable r.connectionId t ∧ r.read = .ok t) ∧
    (now.IsReal → s'.gateway.now.IsReal → ∀ r ∈ c.connections,
      ∃ x, r.read = .ok x ∧ ∀ u, x.lastSynced = some u → x.createdAt.le u = true) := by
  obtain ⟨hc, hnow⟩ := Session.start_catalog hs
  obtain ⟨-, keyed⟩ := h.keyed hc
  refine ⟨keyed.ids, keyed.urls, (h.counted hxs hc).rows, fun x hx r hr => ?_, fun t ht => ?_, h.tables_nodup hxs hc,
    fun r hr => ?_, fun real hend r hr => ?_⟩
  · obtain ⟨ys, -, before⟩ := h.before hx
    exact Int.le_trans ((before.keyed hc).1 r hr) (h.lastId_le x hx)
  · obtain ⟨r, hr⟩ := Option.isSome_iff_exists.1 (keyed.owned t ht)
    exact ⟨r, Catalog.mem_of_find? hr⟩
  · obtain ⟨x, hx, tables, brought, t, ht, hrow⟩ := h.tables hxs hc r hr
    exact ⟨x, hx, tables, brought, t, ht, hrow, by rw [hrow]; exact TableRow.read_ofTable _ t⟩
  · exact ((h.dated hxs hc (hnow ▸ real) hend.year_le).2 r hr).read

/-- A database is synced an hour after it was registered, and then a replacement fails: what
the sync found is read back, and the times are in order. -/
theorem synced_an_hour_later :
    let now : Moment := ⟨⟨2026, 5, 17⟩, 11, 23, 47, 0⟩
    let later : Moment := ⟨⟨2026, 5, 17⟩, 12, 23, 47, 0⟩
    let found : List TableInfo := [⟨"a", "t", false, [⟨"x", "int4"⟩]⟩]
    let s : Session := ⟨⟨{}, .scripted [] ⟨[], []⟩ none, [], now, ["*"]⟩, .memory, {}⟩
    let s1 := (s.step (.script (.scripted found ⟨[], []⟩ none))).2
    let s2 := (s1.step (.upsert "postgres://h/d" none)).2
    let s3 := ((s2.withClock later).step (.sync "postgres://h/d" none)).2
    let s4 := (s3.step (.replace 1 (found ++ found))).2
    (∃ r ∈ s4.gateway.catalog.tables, ∃ t, r.read = .ok t) ∧
      ∃ r ∈ s4.gateway.catalog.connections, r.createdAt = now.offsetText ∧ r.lastSynced = some later.tick.offsetText ∧
        ∃ x, r.read = .ok x ∧ ∀ u, x.lastSynced = some u → x.createdAt.le u = true := by
  intro now later found s s1 s2 s3 s4
  have hs : Session.start .memory ["*"] now = .ok s := rfl
  have real : later.IsReal := ⟨by decide, by decide, by decide, by decide, by decide⟩
  have forward : s2.gateway.now.le later = true := by decide +kernel
  let xs : List Turn :=
    [⟨s, .script (.scripted found ⟨[], []⟩ none)⟩, ⟨s1, .upsert "postgres://h/d" none⟩,
      ⟨s2.withClock later, .sync "postgres://h/d" none⟩, ⟨s3, .replace 1 (found ++ found)⟩]
  have h : s.Leads xs s4 := ((((Session.Leads.start.turn _).turn _).wait later real forward).turn _).turn _
  have hxs : ∀ x ∈ xs, x.step.seeds = false := by
    intro x hx
    simp only [xs, List.mem_cons, List.not_mem_nil, or_false] at hx
    rcases hx with rfl | rfl | rfl | rfl <;> rfl
  obtain ⟨-, -, -, -, -, -, tables, times⟩ := rows_stay_consistent hs h hxs
  have hnow : now.IsReal := ⟨by decide, by decide, by decide, by decide, by decide⟩
  have hend : s4.gateway.now.IsReal :=
    ⟨by decide +kernel, by decide +kernel, by decide +kernel, by decide +kernel, by decide +kernel⟩
  constructor
  · have there : TableRow.ofTable 1 ⟨"a", "t", false, [⟨"x", "int4"⟩]⟩ ∈ s4.gateway.catalog.tables := by decide +kernel
    obtain ⟨-, -, -, -, t, -, -, read⟩ := tables _ there
    exact ⟨_, there, t, read⟩
  · have there : (⟨1, none, "postgres://h/d", now.offsetText, some later.tick.offsetText⟩ : ConnectionRow) ∈
        s4.gateway.catalog.connections := by decide +kernel
    exact ⟨_, there, rfl, rfl, times hnow hend _ there⟩

end QueryGateway
