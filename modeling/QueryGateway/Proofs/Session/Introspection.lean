import QueryGateway.Proofs.Postgres.Grouping
import QueryGateway.Proofs.Session.Consistency

/-!
# From the rows of a database to the tables of a connection

A database lists its columns in the order of bytes, an introspection groups them into tables,
and the catalog sorts the tables that it shows. Main statement: the three agree, so that a
sync of such a database never fails for a table, and answers and leaves the tables as they
were grouped.
-/

namespace QueryGateway

open Postgres Text

theorem Step.seeds_of_isOwn {t : Step} (h : t.isOwn = true) : t.seeds = false := by
  cases t with
  | seedConnection | seedTable => cases h
  | _ => rfl

/-- A gateway is sound behind turns that are all its own. -/
theorem Session.Leads.sound {s s' : Session} {xs : List Turn} (h : s.Leads xs s')
    (own : ∀ x ∈ xs, x.step.isOwn = true) (hs : s.gateway.Sound) : s'.gateway.Sound := by
  refine h.keeps (A := fun t => t.isOwn = true) (fun _ _ => Gateway.Act.sound)
    (fun _ _ hg _ _ => ⟨hg.isOpen, hg.counted⟩) (fun _ t _ hown others _ => ?_) own hs
  cases others with
  | connection | table | close => cases hown

/-- Rows in the order of bytes are tables in strict order: one for each schema and name among
the rows, with the columns of its rows in their order. Where a database lists its columns so,
a sync at a moment succeeds as long as there is an id left, whatever database it is and
whatever the run before it did; it answers these tables as they are, and so does the look-up
of the connection behind it. -/
theorem ordered_introspection_kept {rows : List IntrospectionRow} (ordered : rows.Pairwise IntrospectionRow.Before) :
    (groupRows rows).Pairwise TableInfo.Precedes ∧
    (∀ k, (∃ t ∈ groupRows rows, t.key = k) ↔ ∃ r ∈ rows, r.key = k) ∧
    (∀ t ∈ groupRows rows, t.columns = (rows.filter (·.belongsTo t)).flatMap IntrospectionRow.columns) ∧
    ∀ {place : Place} {origins : List String} {now : Moment} {s s' : Session},
      Session.start place origins now = .ok s → ∀ {xs : List Turn}, s.Leads xs s' → (∀ x ∈ xs, x.step.isOwn = true) →
      ∀ url name, s'.gateway.remote.introspect url = .ok (groupRows rows) → s'.gateway.catalog.lastId < maxInt64 →
      now.IsReal → (s'.gateway.sync url name).2.now.IsReal →
      ∃ x, (s'.gateway.sync url name).1 = .ok ⟨x, groupRows rows⟩ ∧ x.connectionUrl = url ∧
        (s'.gateway.sync url name).2.catalog.metadata x.id = .ok ⟨x, groupRows rows⟩ := by
  have inOrder := groupRows_pairwise ordered
  refine ⟨inOrder, exists_groupRows_iff rows, fun t ht => columns_of_groupRows ordered ht, ?_⟩
  intro place origins now s s' hs xs h own url name looked room hnow hend
  obtain ⟨hc, hclock⟩ := Session.start_catalog hs
  obtain ⟨issued, keyed⟩ := h.keyed hc
  have sound := h.sound own (Session.start_sound hs).1
  have synced := s'.gateway.sync_synced url name
  have hyear := Int.le_trans synced.becomes.year_le hend.year_le
  obtain ⟨real, dated⟩ := h.dated (fun x hx => Step.seeds_of_isOwn (own x hx)) hc (hclock ▸ hnow) hyear
  have timed : s'.gateway.Timed := ⟨real, fun r hr => (dated r hr).timed⟩
  have distinct : ((groupRows rows).map TableInfo.key).Nodup :=
    List.pairwise_map.2 (inOrder.imp TableInfo.Precedes.key_ne)
  have isOk := (synced.ends sound keyed timed hend.year_le).isOk_iff.2 ⟨_, looked, distinct, room⟩
  cases hr : (s'.gateway.sync url name).1 with
  | error e =>
    rw [hr] at isOk
    cases isOk
  | ok m =>
    rw [hr] at synced
    obtain ⟨x, tables⟩ := m
    obtain ⟨looked', hurl, hmetadata⟩ := synced.metadata issued keyed
    obtain rfl : tables = groupRows rows := Except.ok.inj (looked'.symm.trans looked)
    rw [TableInfo.arranged_of_pairwise inOrder] at hmetadata
    exact ⟨x, rfl, hurl, hmetadata⟩

/-- The order of bytes is not that of an alphabet: "Z" stands before "t", and "z" before "é".
Rows in this order are synced and shown as they are grouped. -/
theorem rows_synced_in_order :
    let now : Moment := ⟨⟨2026, 5, 17⟩, 11, 23, 47, 0⟩
    let rows : List IntrospectionRow :=
      [⟨"a", "Z", "BASE TABLE", some "x", some "int4"⟩, ⟨"a", "Z", "BASE TABLE", some "a", some "text"⟩,
        ⟨"a", "t", "VIEW", none, none⟩, ⟨"z", "a", "FOREIGN", some "x", some "int4"⟩, ⟨"é", "a", "VIEW", none, none⟩]
    let tables : List TableInfo :=
      [⟨"a", "Z", false, [⟨"x", "int4"⟩, ⟨"a", "text"⟩]⟩, ⟨"a", "t", true, []⟩, ⟨"z", "a", false, [⟨"x", "int4"⟩]⟩,
        ⟨"é", "a", true, []⟩]
    let s : Session := ⟨⟨{}, .scripted [] ⟨[], []⟩ none, [], now, ["*"]⟩, .memory, {}⟩
    let s' := s.finish [.upsert "postgres://h/e" none, .script (.scripted (groupRows rows) ⟨[], []⟩ none)]
    groupRows rows = tables ∧
      ∃ x, (s'.gateway.sync "postgres://h/d" none).1 = .ok ⟨x, tables⟩ ∧
        (s'.gateway.sync "postgres://h/d" none).2.catalog.metadata x.id = .ok ⟨x, tables⟩ := by
  intro now rows tables s s'
  have ordered : rows.Pairwise IntrospectionRow.Before := by decide
  have grouped : groupRows rows = tables := by decide +kernel
  have hs : Session.start .memory ["*"] now = .ok s := rfl
  let ts : List Step := [.upsert "postgres://h/e" none, .script (.scripted (groupRows rows) ⟨[], []⟩ none)]
  have h : s.Leads (s.turns ts) s' := s.leads_finish ts
  have own : ∀ x ∈ s.turns ts, x.step.isOwn = true := by
    intro x hx
    simp only [ts, Session.turns, List.mem_cons, List.not_mem_nil, or_false] at hx
    rcases hx with rfl | rfl <;> rfl
  have room : s'.gateway.catalog.lastId < maxInt64 := by decide +kernel
  have hnow : now.IsReal := ⟨by decide, by decide, by decide, by decide, by decide⟩
  have hend : (s'.gateway.sync "postgres://h/d" none).2.now.IsReal :=
    ⟨by decide +kernel, by decide +kernel, by decide +kernel, by decide +kernel, by decide +kernel⟩
  obtain ⟨x, answered, -, shown⟩ :=
    (ordered_introspection_kept ordered).2.2.2 hs h own "postgres://h/d" none rfl room hnow hend
  rw [grouped] at answered shown
  exact ⟨grouped, x, answered, shown⟩

end QueryGateway
