import QueryGateway.Proofs.Catalog.Ids
import QueryGateway.Proofs.Gateway.Acts

/-!
# Rows under the acts of a gateway

An act changes the rows as its catalog does, at the time that the clock shows. `Sound`
is what holds of every gateway that began with an empty catalog.
-/

namespace QueryGateway.Gateway

variable {g g' : Gateway} {i : Int}

theorem Act.change (h : Act g g') : Catalog.Change g.now g.catalog g'.catalog := by
  cases h with
  | upsert url name => exact Catalog.upsert_change url name g.now
  | replace id tables => exact Catalog.replaceTables_change id tables g.now
  | touch id => exact Catalog.touch_change id g.now
  | rename id name => exact Catalog.rename_change id name g.now
  | delete id => exact Catalog.delete_change id g.now
  | note => exact .same
  | script => exact .same
  | tell => exact .same

/-- The clock goes on when it is looked at. -/
theorem Act.now (h : Act g g') : g'.now = g.now ∨ g'.now = g.now.tick := by
  cases h with
  | upsert => exact .inr rfl
  | touch => exact .inr rfl
  | _ => exact .inl rfl

/-! ## Sound gateways -/

/-- The storage is open, and the ids of its rows have been given out. -/
structure Sound (g : Gateway) : Prop where
  isOpen : g.catalog.isOpen = true
  counted : g.catalog.Counted

theorem Act.sound (h : Act g g') (hg : g.Sound) : g'.Sound := by
  have hc := h.change
  exact ⟨hc.isOpen.trans hg.isOpen, hc.counted hg.counted⟩

theorem Becomes.sound (h : g.Becomes g') (hg : g.Sound) : g'.Sound :=
  h.keeps (fun _ _ => Act.sound) hg

/-! ## Times -/

/-- The clock shows a moment, and so do the times of the rows. -/
structure Timed (g : Gateway) : Prop where
  now : g.now.IsReal
  rows : g.catalog.Timed

theorem Act.le (h : Act g g') : g.now.le g'.now = true := by
  rcases h.now with hn | hn
  · exact hn ▸ g.now.le_refl
  · exact hn ▸ g.now.le_tick

theorem Act.year_le (h : Act g g') : g.now.date.year ≤ g'.now.date.year := Moment.year_le_of_le h.le

/-- An act at a moment ends at a moment, up to the last year that is kept. -/
theorem Act.isReal (h : Act g g') (hg : g.now.IsReal) (hyear : g'.now.date.year ≤ Date.maxYear) : g'.now.IsReal := by
  rcases h.now with hn | hn <;> rw [hn] at hyear ⊢
  · exact hg
  · exact hg.tick hyear

/-- A clock that still shows a moment showed moments all the time. -/
theorem Becomes.isReal (h : g.Becomes g') (hg : g.now.IsReal) (hend : g'.now.date.year ≤ Date.maxYear) :
    g'.now.IsReal :=
  -- The clock is known at the end, so the years are bounded from there on the way back.
  h.keeps (P := fun k => k.now.date.year ≤ Date.maxYear → k.now.IsReal)
    (fun _ _ ha hk hyear => ha.isReal (hk (Int.le_trans ha.year_le hyear)) hyear) (fun _ => hg) hend

/-- A clock that still shows a moment showed moments all the time, and the rows are timed
by them. -/
theorem Becomes.timed (h : g.Becomes g') (ho : g.catalog.isOpen = true) (hg : g.Timed)
    (hend : g'.now.date.year ≤ Date.maxYear) : g'.Timed := by
  refine (h.keeps (P := fun k => k.catalog.isOpen = true ∧ (k.now.date.year ≤ Date.maxYear → k.Timed))
    (fun k k' ha hk => ?_) ⟨ho, fun _ => hg⟩).2 hend
  have hc := ha.change
  refine ⟨hc.isOpen.trans hk.1, fun hyear => ?_⟩
  obtain ⟨hnow, hrows⟩ := hk.2 (Int.le_trans ha.year_le hyear)
  exact ⟨ha.isReal hnow hyear, hc.timed hnow hrows⟩

theorem Becomes.year_le (h : g.Becomes g') : g.now.date.year ≤ g'.now.date.year :=
  h.keeps (P := fun k => g.now.date.year ≤ k.now.date.year) (fun _ _ ha hk => Int.le_trans hk ha.year_le)
    (Int.le_refl _)

/-! ## Ids -/

/-- What is gone stays gone. -/
theorem Becomes.gone (h : g.Becomes g') (ho : g.catalog.isOpen = true) (hi : g.catalog.Gone i) :
    g'.catalog.isOpen = true ∧ g'.catalog.Gone i := by
  refine h.keeps (P := fun k => k.catalog.isOpen = true ∧ k.catalog.Gone i) (fun k k' ha hk => ?_) ⟨ho, hi⟩
  have hc := ha.change
  exact ⟨hc.isOpen.trans hk.1, hc.gone hk.2⟩

/-- An id stays with one database and one time of registration until it is gone. -/
theorem Becomes.denotes {url createdAt : String} (h : g.Becomes g') (hg : g.Sound)
    (hi : g.catalog.Denotes i url createdAt) :
    g'.catalog.Denotes i url createdAt ∨ g'.catalog.Gone i := by
  refine (h.keeps (P := fun k => k.Sound ∧ (k.catalog.Denotes i url createdAt ∨ k.catalog.Gone i))
    (fun k k' ha hk => ⟨ha.sound hk.1, ?_⟩) ⟨hg, .inl hi⟩).2
  have hc := ha.change
  rcases hk.2 with hd | hgone
  · exact hc.denotes hk.1.counted hd
  · exact .inr (hc.gone hgone)

/-! ## Operations on what is gone -/

section

variable (ho : g.catalog.isOpen = true) (hi : g.catalog.Gone i)

include ho hi

theorem replaceTables_of_gone (tables : List TableInfo) :
    g.replaceTables i tables = (.error (.notFound i), g) := by
  unfold replaceTables
  rw [Catalog.replaceTables_of_gone ho hi]
  rfl

theorem touch_of_gone : g.touch i = (.error (.notFound i), { g with now := g.now.tick }) := by
  unfold touch Catalog.touch
  rw [Catalog.update_of_gone ho hi]
  rfl

theorem rename_of_gone (name : Option String) : g.rename i name = (.error (.notFound i), g) := by
  unfold rename Catalog.rename
  rw [Catalog.update_of_gone ho hi]
  rfl

theorem delete_of_gone : g.delete i = (.error (.notFound i), g) := by
  unfold delete
  rw [Catalog.delete_of_gone ho hi]
  rfl

theorem query_of_gone (sql : String) : g.query i sql = (.error (.notFound "Connection not found"), g) := by
  unfold query
  rw [Catalog.get_of_gone ho hi]
  rfl

end

end QueryGateway.Gateway
