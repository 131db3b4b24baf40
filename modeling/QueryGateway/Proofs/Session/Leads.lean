import Mathlib.Data.List.Induction
import QueryGateway.Proofs.Gateway.Syncs
import QueryGateway.Proofs.Session.Turns

/-!
# Time between turns

A run takes its turns right after each other, by a clock that shows every second once. Here
any time may pass from one turn to the next, as long as the clock is not set back.
`Leads.keeps` is the one induction over such runs: an invariant of gateways holds all along if
the acts of the gateway, the passing of time and what others do to the storage keep it.
-/

namespace QueryGateway

/-! ## What others do -/

/-- What a step that is not the gateway's own makes of the rows. -/
inductive Step.Intrudes (c : Catalog) : Step → Catalog → Prop
  | connection {row : ConnectionRow} {c' : Catalog} (h : c.insertConnection? row = some c') :
      Intrudes c (.seedConnection row) c'
  | table {row : TableRow} {c' : Catalog} (h : c.insertTable? row = some c') : Intrudes c (.seedTable row) c'
  | close : Intrudes c .close c.close

/-- A step puts rows into the storage behind the back of the catalog. -/
def Step.seeds : Step → Bool
  | .seedConnection _ | .seedTable _ => true
  | _ => false

namespace Step.Intrudes

variable {c c' : Catalog} {t : Step}

theorem issued (h : t.Intrudes c c') (hc : c.Issued) : c'.Issued := by
  cases h with
  | connection h =>
    obtain ⟨-, -, rfl⟩ := Catalog.of_insertConnection? h
    intro r hr
    rcases List.mem_append.1 hr with hr | hr
    · exact Int.le_trans (hc r hr) (Int.le_max_left _ _)
    · rw [List.mem_singleton.1 hr]
      exact Int.le_max_right _ _
  | table h =>
    obtain ⟨-, -, rfl⟩ := Catalog.of_insertTable? h
    exact hc
  | close => exact hc

theorem keyed (h : t.Intrudes c c') (hk : c.Keyed) : c'.Keyed := by
  cases h with
  | connection h =>
    obtain ⟨id, url, rfl⟩ := Catalog.of_insertConnection? h
    exact hk.insert id url
  | table h =>
    obtain ⟨owned, -, rfl⟩ := Catalog.of_insertTable? h
    refine ⟨hk.ids, hk.urls, fun t ht => ?_⟩
    rcases List.mem_append.1 ht with ht | ht
    · exact hk.owned t ht
    · rw [List.mem_singleton.1 ht]
      exact owned
  | close => exact ⟨hk.ids, hk.urls, hk.owned⟩

theorem lastId_le (h : t.Intrudes c c') : c.lastId ≤ c'.lastId := by
  cases h with
  | connection h =>
    obtain ⟨-, -, rfl⟩ := Catalog.of_insertConnection? h
    exact Int.le_max_left _ _
  | table h =>
    obtain ⟨-, -, rfl⟩ := Catalog.of_insertTable? h
    exact Int.le_refl _
  | close => exact Int.le_refl _

/-- Who puts no rows into the storage can only close it. -/
theorem eq_close (h : t.Intrudes c c') (ht : t.seeds = false) : c' = c.close := by
  cases h with
  | close => rfl
  | connection | table => cases ht

end Step.Intrudes

theorem Session.seed_cases (s : Session) (change : Catalog → Option Catalog) :
    (s.seed change).2 = s ∨
      ∃ c', change s.gateway.catalog = some c' ∧
        (s.seed change).2 = { s with gateway := { s.gateway with catalog := c' } } := by
  unfold seed
  cases hc : (if s.isShared then change s.gateway.catalog else none) with
  | none => exact .inl rfl
  | some c' =>
    split at hc
    · exact .inr ⟨c', hc, rfl⟩
    · cases hc

/-- A step makes the gateway go through acts, or someone else makes a change to its rows. -/
theorem Session.step_cases (s : Session) (t : Step) :
    s.gateway.Becomes (s.step t).2.gateway ∨
      ∃ c', t.Intrudes s.gateway.catalog c' ∧ (s.step t).2.gateway = { s.gateway with catalog := c' } := by
  by_cases h : t.isOwn = true
  · exact .inl (s.step_becomes h)
  · cases t with
    | seedConnection row =>
      rcases s.seed_cases (Catalog.insertConnection? row) with same | ⟨c', hc, hs⟩
      · exact .inl (by rw [Session.step, same]; exact s.gateway.becomes_refl)
      · exact .inr ⟨c', .connection hc, by rw [Session.step, hs]⟩
    | seedTable row =>
      rcases s.seed_cases (Catalog.insertTable? row) with same | ⟨c', hc, hs⟩
      · exact .inl (by rw [Session.step, same]; exact s.gateway.becomes_refl)
      · exact .inr ⟨c', .table hc, by rw [Session.step, hs]⟩
    | close =>
      cases hp : s.place == .shared with
      | true => exact .inr ⟨_, .close, by simp [Session.step, hp]⟩
      | false => exact .inl (by simp [Session.step, hp, Gateway.becomes_refl])
    | _ => exact absurd rfl h

/-- If nobody puts rows into the storage, a turn that writes nothing can only close it. -/
theorem Turn.rows_of_no_write {x : Turn} (hx : x.step.seeds = false) (h : x.step.write? = none) :
    ∃ isOpen, x.next.gateway.catalog = { x.session.gateway.catalog with isOpen } := by
  cases own : x.step.isOwn with
  | true => exact ⟨_, catalog_of_no_write own h⟩
  | false =>
    obtain ⟨s, t⟩ := x
    cases t with
    | close =>
      simp only [next, Session.step]
      split
      · exact ⟨false, rfl⟩
      · exact ⟨_, rfl⟩
    | seedConnection | seedTable => cases hx
    | _ => cases own

/-! ## Runs -/

namespace Session

/-- The session with another moment on its clock. -/
def withClock (s : Session) (t : Moment) : Session := { s with gateway := { s.gateway with now := t } }

/-- What a session can come to by turns, the first of them at the front. Before each turn
and behind the last any time may pass. -/
inductive Leads (s : Session) : List Turn → Session → Prop
  | start : Leads s [] s
  | wait {xs : List Turn} {s' : Session} (h : Leads s xs s') (t : Moment) (real : t.IsReal)
      (later : s'.gateway.now.le t = true) : Leads s xs (s'.withClock t)
  | turn {xs : List Turn} {s' : Session} (h : Leads s xs s') (t : Step) : Leads s (xs ++ [⟨s', t⟩]) (s'.step t).2

/-- A run without a pause. -/
theorem leads_finish (s : Session) (ts : List Step) : s.Leads (s.turns ts) (s.finish ts) := by
  induction ts using List.reverseRecOn with
  | nil => exact .start
  | append_singleton ts t ih =>
    rw [turns_concat, finish_concat]
    exact ih.turn t

variable {s s' : Session} {xs : List Turn}

/-- What acts and time keep holds in the end, if what others do in the turns keeps it too. -/
theorem Leads.keeps {P : Gateway → Prop} {A : Step → Prop}
    (act : ∀ g g', Gateway.Act g g' → P g → P g')
    (wait : ∀ g t, P g → t.IsReal → g.now.le t = true → P { g with now := t })
    (others : ∀ g t c', A t → t.Intrudes g.catalog c' → P g → P { g with catalog := c' })
    (h : s.Leads xs s') (hxs : ∀ x ∈ xs, A x.step) (hs : P s.gateway) : P s'.gateway := by
  induction h with
  | start => exact hs
  | wait _ t real later ih => exact wait _ t (ih hxs) real later
  | @turn xs s' _ t ih =>
    have before := ih fun x hx => hxs x (List.mem_append_left _ hx)
    rcases s'.step_cases t with becomes | ⟨c', others', hg⟩
    · exact becomes.keeps act before
    · rw [hg]
      exact others _ t c' (hxs _ (List.mem_append_right _ List.mem_cons_self)) others' before

/-- Whatever others do, the rows are told apart by their keys, and their ids have been given
out. -/
theorem Leads.keyed (h : s.Leads xs s') (hc : s.gateway.catalog = {}) :
    s'.gateway.catalog.Issued ∧ s'.gateway.catalog.Keyed :=
  h.keeps (P := fun g => g.catalog.Issued ∧ g.catalog.Keyed) (A := fun _ => True)
    (fun _ _ ha hg => ⟨ha.change.issued hg.1, ha.change.keyed hg.1 hg.2⟩) (fun _ _ hg _ _ => hg)
    (fun _ _ _ _ others hg => ⟨others.issued hg.1, others.keyed hg.2⟩) (fun _ _ => trivial)
    (hc ▸ ⟨nofun, Catalog.keyed_empty⟩)

/-- A turn of a run starts where a run ends. -/
theorem Leads.before (h : s.Leads xs s') {x : Turn} (hx : x ∈ xs) : ∃ ys, ys ⊆ xs ∧ s.Leads ys x.session := by
  induction h with
  | start => cases hx
  | wait _ _ _ _ ih => exact ih hx
  | @turn xs s' h t ih =>
    rcases List.mem_append.1 hx with hx | hx
    · obtain ⟨ys, hys, hlead⟩ := ih hx
      exact ⟨ys, List.subset_append_of_subset_left _ hys, hlead⟩
    · rw [List.mem_singleton.1 hx]
      exact ⟨xs, List.subset_append_left _ _, h⟩

end Session

end QueryGateway
