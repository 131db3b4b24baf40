import QueryGateway.Proofs.Catalog.Isolation
import QueryGateway.Proofs.Moment.Order
import QueryGateway.Proofs.Session.Registration

/-!
# The list of connections

The storage sorts the rows by the texts of their times. Main statement: as long as the years have
four digits, the list of connections has each that is there once, the newest first, and of those
with one time the one with the largest id. In the years before and behind these the texts have a
sign, and their order is another one.
-/

namespace QueryGateway

open Text

/-- One connection was registered after another, or with it and under a larger id. -/
def Connection.Newer (x y : Connection) : Prop :=
  y.createdAt.Before x.createdAt ∨ x.createdAt = y.createdAt ∧ y.id < x.id

/-! ## Rows of four-digit years -/

/-- The row was registered in a year of four digits. -/
def ConnectionRow.Plain (r : ConnectionRow) : Prop := ∃ t : Moment, t.IsPlain ∧ r.createdAt = t.offsetText

/-- What is read of such a row is the moment of its text. -/
theorem ConnectionRow.Plain.read {r : ConnectionRow} {x : Connection} (h : r.Plain) (hx : r.read = .ok x) :
    x.createdAt.IsPlain ∧ r.createdAt = x.createdAt.offsetText := by
  obtain ⟨t, ht, hat⟩ := h
  obtain ⟨-, -, created, -⟩ := read_ok hx
  rw [hat, readMoment_offsetText "created_at" ht.real] at created
  cases created
  exact ⟨ht, hat⟩

namespace Catalog

variable {c c' : Catalog} {now : Moment}

/-- Every row was registered in a year of four digits. -/
def Plain (c : Catalog) : Prop := ∀ r ∈ c.connections, r.Plain

theorem Change.plain (h : Change now c c') (hnow : now.IsPlain) (hc : c.Plain) : c'.Plain := by
  intro r hr
  rcases h.origin hr with ⟨url, name, rfl, -, -⟩ | ⟨p, hp, follows⟩
  · exact ⟨now, hnow, rfl⟩
  · obtain ⟨t, ht, hat⟩ := hc p hp
    exact ⟨t, ht, follows.keeps.2.2.trans hat⟩

/-! ## The list -/

section

variable {rows : List ConnectionRow} {cs : List Connection} (h : rows.mapM seen = .ok cs)

include h

theorem ids_of_mapM_seen : rows.map ConnectionRow.id = cs.map Connection.id :=
  map_of_mapM_eq_ok h fun _ _ _ hx => (ConnectionRow.read_ok (mapError_eq_ok hx)).1.symm

/-- Rows in the order of their texts are connections in the order of their times. -/
theorem newer_of_mapM_seen (plain : ∀ r ∈ rows, r.Plain) (inOrder : rows.Pairwise fun r s => r.newer s = true)
    (nodup : (cs.map Connection.id).Nodup) : cs.Pairwise Connection.Newer := by
  have keys : (rows.map fun r => (r.createdAt, r.id)) = cs.map fun x => (x.createdAt.offsetText, x.id) := by
    refine map_of_mapM_eq_ok h fun r hr x hx => ?_
    have read : r.read = .ok x := mapError_eq_ok hx
    rw [((plain r hr).read read).2, (ConnectionRow.read_ok read).1]
  have pairs : (rows.map fun r => (r.createdAt, r.id)).Pairwise fun a b => b.1 < a.1 ∨ a.1 = b.1 ∧ b.2 ≤ a.2 :=
    List.pairwise_map.2 (inOrder.imp fun newer => (ConnectionRow.newer_iff _ _).1 newer)
  rw [keys] at pairs
  have apart : cs.Pairwise fun x y => x.id ≠ y.id := List.pairwise_map.1 nodup
  have times : ∀ x ∈ cs, x.createdAt.IsPlain := by
    intro x hx
    obtain ⟨r, hr, hrx⟩ := mem_of_mapM_eq_ok h hx
    exact ((plain r hr).read (mapError_eq_ok hrx)).1
  refine ((List.pairwise_map.1 pairs).and apart).imp_of_mem fun {x y} hx hy both => ?_
  rcases both.1 with later | ⟨same, hid⟩
  · exact .inl ((Moment.offsetText_lt_iff (times y hy) (times x hx)).1 later)
  · exact .inr ⟨Moment.eq_of_offsetText (times x hx).real (times y hy).real same, lt_of_le_of_ne hid both.2.symm⟩

end

/-- The list has what a look-up gives for each row, and nothing else. -/
theorem list_of_keyed (ho : c.isOpen = true) (ht : c.Timed) (hk : c.Keyed) :
    ∃ cs, c.list = .ok cs ∧ (sorted ConnectionRow.newer c.connections).mapM seen = .ok cs ∧
      (cs.map Connection.id).Nodup ∧ (∀ x, x ∈ cs ↔ c.get x.id = .ok x) ∧
      ∀ r ∈ c.connections, ∃ x ∈ cs, x.id = r.id := by
  obtain ⟨cs, hlist, hcs⟩ := list_of_timed ho ht
  have perm := sorted_perm ConnectionRow.newer c.connections
  have ids := ids_of_mapM_seen hcs
  have nodup : (cs.map Connection.id).Nodup := ids ▸ (perm.map ConnectionRow.id).nodup_iff.2 hk.ids
  have listed : ∀ r ∈ c.connections, ∃ x ∈ cs, x.id = r.id := by
    intro r hr
    have : r.id ∈ cs.map Connection.id := ids ▸ List.mem_map_of_mem (perm.mem_iff.2 hr)
    simpa using this
  have known : ∀ x ∈ cs, c.get x.id = .ok x := by
    intro x hx
    obtain ⟨r, hr, hrx⟩ := mem_of_mapM_eq_ok hcs hx
    have hid : r.id = x.id := (ConnectionRow.read_ok (mapError_eq_ok hrx)).1.symm
    unfold get
    rw [if_neg (by simp [ho]), hk.find?_iff.2 ⟨perm.mem_iff.1 hr, hid⟩]
    exact hrx
  refine ⟨cs, hlist, hcs, nodup, fun x => ⟨known x, fun hget => ?_⟩, listed⟩
  cases hf : c.find? x.id with
  | none =>
    rw [get_of_absent ho hf] at hget
    cases hget
  | some r =>
    -- The listed connection with this id is what the look-up gives.
    obtain ⟨hr, hid⟩ := mem_of_find? hf
    obtain ⟨y, hy, hyid⟩ := listed r hr
    have same := known y hy
    rw [hyid, hid, hget] at same
    cases same
    exact hy

end Catalog

/-! ## Runs -/

/-- What the list of a catalog is: all connections that are there, each once, the newest first, as
long as the storage is open. -/
def Catalog.ListsNewestFirst (c : Catalog) : Prop :=
  (c.isOpen = false → c.list = .error (.readFailed .closed)) ∧
  (c.isOpen = true → ∃ cs, c.list = .ok cs ∧ (cs.map Connection.id).Nodup ∧
    (∀ x, x ∈ cs ↔ c.get x.id = .ok x) ∧ (∀ r ∈ c.connections, ∃ x ∈ cs, x.id = r.id) ∧
    cs.Pairwise Connection.Newer)

/-- What an empty catalog comes to by its operations, if the clock shows `first` at the beginning and
`now` at the end and is never set back. It may stand still from one operation to the next. -/
inductive Catalog.Reached (first : Moment) : Moment → Catalog → Prop
  | start : Reached first first {}
  | wait {now : Moment} {c : Catalog} (h : Reached first now c) (t : Moment) (real : t.IsReal)
      (later : now.le t = true) : Reached first t c
  | upsert {now : Moment} {c : Catalog} (h : Reached first now c) (url : String) (name : Option String) :
      Reached first now (c.upsert url name now).2
  | edit {now : Moment} {c : Catalog} (h : Reached first now c) (id : Int) (e : Edit) :
      Reached first now (e.perform id now c).2
  | close {now : Moment} {c : Catalog} (h : Reached first now c) : Reached first now c.close

namespace Catalog.Reached

variable {first now : Moment} {c : Catalog}

theorem keyed (h : Reached first now c) : c.Issued ∧ c.Keyed := by
  have step : ∀ {now c c'}, Change now c c' → c.Issued ∧ c.Keyed → c'.Issued ∧ c'.Keyed :=
    fun hc hk => ⟨hc.issued hk.1, hc.keyed hk.1 hk.2⟩
  induction h with
  | start => exact ⟨nofun, keyed_empty⟩
  | wait _ _ _ _ ih => exact ih
  | upsert _ url name ih => exact step (upsert_change url name _) ih
  | edit _ id e ih => exact step (e.change id _ _) ih
  | close _ ih => exact ⟨ih.1, ih.2.ids, ih.2.urls, ih.2.owned⟩

/-- Between years of four digits, all rows are timed and of such years. -/
theorem plain (h : Reached first now c) (real : first.IsReal) (hfirst : 0 ≤ first.date.year)
    (hlast : now.date.year ≤ 9999) : now.IsPlain ∧ c.Timed ∧ c.Plain := by
  have step : ∀ {now c c'}, Change now c c' → now.IsPlain ∧ c.Timed ∧ c.Plain → now.IsPlain ∧ c'.Timed ∧ c'.Plain :=
    fun hc hk => ⟨hk.1, hc.timed hk.1.real hk.2.1, hc.plain hk.1 hk.2.2⟩
  induction h with
  | start => exact ⟨⟨real, hfirst, hlast⟩, nofun, nofun⟩
  | wait _ t htReal later ih =>
    have year := Moment.year_le_of_le later
    obtain ⟨before, rows⟩ := ih (Int.le_trans year hlast)
    exact ⟨⟨htReal, Int.le_trans before.year.1 year, hlast⟩, rows⟩
  | upsert _ url name ih => exact step (upsert_change url name _) (ih hlast)
  | edit _ id e ih => exact step (e.change id _ _) (ih hlast)
  | close _ ih => exact ih hlast

theorem listsNewestFirst (h : Reached first now c) (real : first.IsReal) (hfirst : 0 ≤ first.date.year)
    (hlast : now.date.year ≤ 9999) : c.ListsNewestFirst := by
  obtain ⟨-, timed, plain⟩ := h.plain real hfirst hlast
  refine ⟨fun closed => if_pos (by simp [closed]), fun ho => ?_⟩
  obtain ⟨cs, hlist, hcs, nodup, known, listed⟩ := list_of_keyed ho timed h.keyed.2
  have rows : ∀ r ∈ sorted ConnectionRow.newer c.connections, r.Plain :=
    fun r hr => plain r ((sorted_perm ConnectionRow.newer c.connections).mem_iff.1 hr)
  have inOrder := sorted_pairwise ConnectionRow.newer_total ConnectionRow.newer_trans c.connections
  exact ⟨cs, hlist, nodup, known, listed, newer_of_mapM_seen hcs rows inOrder nodup⟩

end Catalog.Reached

/-- What the gateway makes of its catalog in one go is an operation of the catalog, or none, and behind
it the clock may be on. -/
theorem Gateway.Act.reached {g g' : Gateway} {first : Moment} (h : g.Act g') (real : g'.now.IsReal)
    (hg : g.catalog.Reached first g.now) : g'.catalog.Reached first g'.now := by
  have later := h.le
  cases h with
  | upsert url name => exact (hg.upsert url name).wait _ real later
  | touch id => exact (hg.edit id .touch).wait _ real later
  | replace id tables => exact hg.edit id (.replace tables)
  | rename id name => exact hg.edit id (.rename name)
  | delete id => exact hg.edit id .delete
  | note | script | tell => exact hg

/-- So are the turns of a run, if nobody else puts rows into the storage. -/
theorem Session.Leads.reached {s s' : Session} {xs : List Turn} (h : s.Leads xs s')
    (hxs : ∀ x ∈ xs, x.step.seeds = false) (hc : s.gateway.catalog = {}) (hnow : s.gateway.now.IsReal)
    (hend : s'.gateway.now.date.year ≤ Date.maxYear) :
    s'.gateway.catalog.Reached s.gateway.now s'.gateway.now := by
  have kept : s'.gateway.now.date.year ≤ Date.maxYear →
      s'.gateway.now.IsReal ∧ s'.gateway.catalog.Reached s.gateway.now s'.gateway.now := by
    refine h.keeps
      (P := fun g => g.now.date.year ≤ Date.maxYear → g.now.IsReal ∧ g.catalog.Reached s.gateway.now g.now)
      (A := fun t => t.seeds = false) (fun g g' ha hg hyear => ?_) (fun g t hg real later _ => ?_)
      (fun g t c' own others hg hyear => ?_) hxs (fun _ => ⟨hnow, hc ▸ .start⟩)
    · obtain ⟨real, reached⟩ := hg (Int.le_trans ha.year_le hyear)
      have real' := ha.isReal real hyear
      exact ⟨real', ha.reached real' reached⟩
    · exact ⟨real, (hg (Int.le_trans (Moment.year_le_of_le later) real.year_le)).2.wait t real later⟩
    · obtain ⟨real, reached⟩ := hg hyear
      rw [others.eq_close own]
      exact ⟨real, reached.close⟩
  exact (kept hend).2

/-- (1) Whatever operations an empty catalog goes through, under any clock that is not set back and
stays in years of four digits: while the storage is open, the list has every connection that is
there, and no other, just once, the newest first and of those with one time the one with the largest
id. (2) So it is in every run of a session in which nobody else puts rows into the storage; there, a
connection that a turn registered is in the list exactly if no later turn took it out. (3) For every
two moments of such years, the bytes of the texts that are stored are in the order of the moments,
which without leap seconds is that of the nanoseconds, and each text reads back as its moment. -/
theorem connections_listed_newest_first :
    (∀ (first now : Moment) (c : Catalog), c.Reached first now → first.IsReal → 0 ≤ first.date.year →
      now.date.year ≤ 9999 → c.ListsNewestFirst) ∧
    (∀ (place : Place) (origins : List String) (now : Moment) (s s' : Session) (xs : List Turn),
      Session.start place origins now = .ok s → s.Leads xs s' → (∀ x ∈ xs, x.step.seeds = false) →
      now.IsReal → 0 ≤ now.date.year → s'.gateway.now.date.year ≤ 9999 →
      s'.gateway.catalog.ListsNewestFirst ∧
      ∀ ys x zs url i cs, xs = ys ++ x :: zs → x.Registers url i → s'.gateway.catalog.list = .ok cs →
        ((∃ y ∈ cs, y.id = i) ↔ ∀ y ∈ zs, ¬ y.Deletes i)) ∧
    ∀ s t : Moment, s.IsPlain → t.IsPlain →
      (utf8 s.offsetText.toList < utf8 t.offsetText.toList ↔ s.Before t) ∧
      (s.second < 60 → t.second < 60 → (s.Before t ↔ s.instant < t.instant)) ∧
      Moment.ofStored? s.offsetText = some s := by
  refine ⟨fun first now c h => h.listsNewestFirst, fun place origins now s s' xs hs h hxs real hfirst hlast => ?_,
    fun s t ps pt => ⟨?_, Moment.before_iff_instant ps.real pt.real, Moment.ofStored?_offsetText ps.real⟩⟩
  · obtain ⟨hc, hnow⟩ := Session.start_catalog hs
    have kept : s'.gateway.now.date.year ≤ Date.maxYear := Int.le_trans hlast (by decide)
    have lists := (h.reached hxs hc (hnow ▸ real) kept).listsNewestFirst (hnow ▸ real) (hnow ▸ hfirst) hlast
    refine ⟨lists, fun ys x zs url i cs hsplit hx hcs => ?_⟩
    have ho : s'.gateway.catalog.isOpen = true := by
      cases closed : s'.gateway.catalog.isOpen with
      | true => rfl
      | false =>
        rw [lists.1 closed] at hcs
        cases hcs
    obtain ⟨cs', hlist, -, known, listed, -⟩ := lists.2 ho
    cases hcs.symm.trans hlist
    rcases h.since hc hxs hsplit hx with ⟨still, createdAt, r, hr, -⟩ | ⟨⟨y, hy, deleted⟩, gone⟩
    · obtain ⟨hmem, hid⟩ := Catalog.mem_of_find? hr
      obtain ⟨y, hy, hyid⟩ := listed r hmem
      exact iff_of_true ⟨y, hy, hyid.trans hid⟩ still
    · refine iff_of_false ?_ fun still => still y hy deleted
      rintro ⟨z, hz, rfl⟩
      have hget := (known z).1 hz
      rw [Catalog.get_of_gone ho gone] at hget
      cases hget
  · rw [utf8_lt_iff]
    exact Moment.offsetText_lt_iff ps pt

/-- Of three databases, two are registered at one time, half a second behind the first: the last is
in front, and the first, whose time is stored without a fraction, comes at the end. -/
theorem registered_within_a_second :
    let now : Moment := ⟨⟨2026, 5, 17⟩, 11, 23, 47, 0⟩
    let later : Moment := ⟨⟨2026, 5, 17⟩, 11, 23, 47, 500000000⟩
    let c1 := (Catalog.upsert "postgres://h/a" none now {}).2
    let c2 := (c1.upsert "postgres://h/b" none later).2
    let c3 := (c2.upsert "postgres://h/c" none later).2
    (∃ cs, c3.list = .ok cs ∧ cs.Pairwise Connection.Newer ∧
      cs.map (fun x => (x.id, x.createdAt)) = [(3, later), (2, later), (1, now)]) ∧
    utf8 now.offsetText.toList < utf8 later.offsetText.toList := by
  intro now later c1 c2 c3
  obtain ⟨lists, -, texts⟩ := connections_listed_newest_first
  have hnow : now.IsReal := ⟨by decide, by decide, by decide, by decide, by decide⟩
  have hlater : later.IsReal := ⟨by decide, by decide, by decide, by decide, by decide⟩
  have reached : c3.Reached now later :=
    (((Catalog.Reached.start.upsert _ _).wait later hlater (by decide)).upsert _ _).upsert _ _
  obtain ⟨cs, hlist, -, -, -, inOrder⟩ := (lists now later c3 reached hnow (by decide) (by decide)).2 (by decide +kernel)
  have shown : c3.list.map (fun cs => cs.map fun x => (x.id, x.createdAt)) =
      .ok [(3, later), (2, later), (1, now)] := by decide +kernel
  rw [hlist] at shown
  refine ⟨⟨cs, hlist, inOrder, Except.ok.inj shown⟩, ?_⟩
  have before : now.Before later := by
    refine (Moment.before_iff_instant hnow hlater (by decide) (by decide)).2 ?_
    decide
  exact (texts now later ⟨hnow, by decide⟩ ⟨hlater, by decide⟩).1.2 before

end QueryGateway
