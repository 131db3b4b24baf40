import Mathlib.Data.List.Induction
import QueryGateway.Proofs.Gateway.Syncs
import QueryGateway.Proofs.Session.Ids

/-!
# What connections are shown with

Tables are kept for a connection as a whole. Main statements: they are replaced all at once
or not at all, and after any run of syncs and other requests a connection is shown with
what the latest sync of its database found, or with nothing if there was none.
-/

namespace QueryGateway

open Http

/-! ## Replacing tables -/

/-- In whatever state the catalog is, a replacement succeeds if the connection is known and
no table is given twice, and then the connection has these tables, in their order, and no
others. Otherwise it fails, for the connection first, and the catalog is as it was. -/
theorem replaceTables_all_or_nothing {place : Place} {origins : List String} {now : Moment} {s : Session}
    (hs : Session.start place origins now = .ok s) {ts : List Step}
    (ho : (s.finish ts).gateway.catalog.isOpen = true) (id : Int) (tables : List TableInfo) :
    let c := (s.finish ts).gateway.catalog
    let c' := (c.replaceTables id tables).2
    ((c.replaceTables id tables).1 = .ok () ↔ (c.find? id).isSome ∧ (tables.map TableInfo.key).Nodup) ∧
    (c.find? id = none → c.replaceTables id tables = (.error (.notFound id), c)) ∧
    ((c.find? id).isSome → ¬ (tables.map TableInfo.key).Nodup →
      c.replaceTables id tables = (.error (.writeFailed .duplicateTable), c)) ∧
    ((c.replaceTables id tables).1 = .ok () →
      c'.connections = c.connections ∧ (∀ i, i ≠ id → c'.tablesOf i = c.tablesOf i) ∧
      ∃ arranged : List TableInfo, arranged.Perm tables ∧ arranged.Pairwise TableInfo.Precedes ∧
        c'.metadata id = (c.get id).map (⟨·, arranged⟩) ∧
        ((∀ t ∈ ts, t.isOwn = true) → now.IsReal → (s.finish ts).gateway.now.IsReal →
          ∃ x, c.get id = .ok x ∧ c'.metadata id = .ok ⟨x, arranged⟩)) := by
  intro c c'
  refine ⟨Catalog.replaceTables_ok_iff ho, Catalog.replaceTables_of_absent ho,
    Catalog.replaceTables_of_twice ho, fun succeeds => ?_⟩
  obtain ⟨known, distinct, hfill⟩ := Catalog.replaceTables_of_ok ho succeeds
  have hfill : c' = c.fill id tables := hfill
  have shown : c'.metadata id = (c.get id).map (⟨·, TableInfo.arranged tables⟩) := by
    rw [hfill]
    exact Catalog.metadata_of_tablesOf (c.tablesOf_fill id tables)
  refine ⟨?_, fun i hi => ?_, TableInfo.arranged tables, TableInfo.arranged_perm tables,
    TableInfo.arranged_pairwise distinct, shown, fun hown hnow hend => ?_⟩
  · rw [hfill]
    rfl
  · rw [hfill]
    exact c.tablesOf_fill_ne hi tables
  · -- Rows that the catalog made itself can be read.
    obtain ⟨sound, timed⟩ := Session.start_sound hs
    have ht := (s.finish_becomes hown).timed sound.isOpen (timed hnow) hend.year_le
    obtain ⟨r, hr⟩ := Option.isSome_iff_exists.1 known
    obtain ⟨x, hx, -⟩ := Catalog.get_of_timed ho hr (ht.rows r (Catalog.mem_of_find? hr).1)
    refine ⟨x, hx, ?_⟩
    rw [shown, show c.get id = .ok x from hx]
    rfl

/-- Tables with quotes, backslashes and other characters in their names are shown as they
were given, in their order, and the earlier ones are gone. -/
theorem replaced_tables_shown :
    let now : Moment := ⟨⟨2026, 5, 17⟩, 11, 23, 47, 0⟩
    let s : Session := ⟨⟨{}, .scripted [] ⟨[], []⟩ none, [], now, ["*"]⟩, .memory, {}⟩
    let ts : List Step := [.upsert "postgres://h/d" none, .replace 1 [⟨"a", "earlier", false, []⟩]]
    let tables : List TableInfo :=
      [⟨"z\\\"", "é", false, [⟨"b\x00", "text"⟩, ⟨"a", "int4"⟩]⟩, ⟨"z", "\"", true, []⟩]
    let c := (s.finish ts).gateway.catalog
    (c.replaceTables 1 tables).1 = .ok () ∧
      ∃ x, ∃ arranged : List TableInfo, arranged.Perm tables ∧ arranged.Pairwise TableInfo.Precedes ∧
        (c.replaceTables 1 tables).2.metadata 1 = .ok ⟨x, arranged⟩ := by
  intro now s ts tables c
  have hs : Session.start .memory ["*"] now = .ok s := rfl
  have hown : ∀ t ∈ ts, t.isOwn = true := by
    intro t ht
    simp only [ts, List.mem_cons, List.not_mem_nil, or_false] at ht
    rcases ht with rfl | rfl <;> rfl
  have hnow : now.IsReal := ⟨by decide, by decide, by decide, by decide, by decide⟩
  have hend : (s.finish ts).gateway.now.IsReal :=
    ⟨by decide +kernel, by decide +kernel, by decide +kernel, by decide +kernel, by decide +kernel⟩
  have ho : c.isOpen = true := by decide +kernel
  have known : (c.find? 1).isSome := by decide +kernel
  have distinct : (tables.map TableInfo.key).Nodup := by decide +kernel
  obtain ⟨succeeds, -, -, replaced⟩ := replaceTables_all_or_nothing hs ho 1 tables
  have done := succeeds.2 ⟨known, distinct⟩
  obtain ⟨-, -, arranged, perm, order, -, shown⟩ := replaced done
  obtain ⟨x, -, hx⟩ := shown hown hnow hend
  exact ⟨done, x, arranged, perm, order, hx⟩

/-! ## Syncs of a run -/

/-- A step that clients of a running gateway take: tables and times of syncs are written by
syncs alone, and the storage is left to the gateway. -/
def Step.isOrdinary : Step → Bool
  | .replace .. | .touch _ => false
  | t => t.isOwn

theorem Step.isOwn_of_isOrdinary {t : Step} (h : t.isOrdinary = true) : t.isOwn = true := by
  cases t with
  | replace => rfl
  | touch => rfl
  | _ => exact h

/-- The database and its name of a step that syncs. -/
def Step.sync? : Step → Option (String × Option String)
  | .sync url name => some (url, name)
  | .request r =>
    match r.deed? with
    | some (.sync url name) => some (url, name)
    | _ => none
  | _ => none

theorem Step.sync?_iff {t : Step} {url : String} {name : Option String} :
    t.sync? = some (url, name) ↔ t.write? = some (.sync url name) := by
  cases t with
  | sync => simp [sync?, write?]
  | request r =>
    unfold sync? write?
    dsimp only
    cases r.deed? with
    | none => simp
    | some d => cases d <;> simp [Deed.write?]
  | _ => simp [sync?, write?]

namespace Turn

/-- A sync is answered with success. -/
def succeeds (x : Turn) : Bool :=
  match x.answer with
  | .synced r => r.isOk
  | .response p => p.status == 200
  | _ => false

/-- What a turn finds in a database, if it syncs it with success. -/
def found? (x : Turn) (url : String) : Option (List TableInfo) :=
  match x.step.sync? with
  | some (u, _) =>
    if u = url ∧ x.succeeds = true then (x.session.gateway.remote.introspect url).toOption else none
  | none => none

end Turn

/-- What the latest sync of a database found that succeeded and behind which an id has a
connection. -/
def Session.latest? (s : Session) (ts : List Step) (i : Int) (url : String) : Option (List TableInfo) :=
  (s.turns ts).reverse.findSome? fun x =>
    if (x.next.gateway.catalog.find? i).isSome then x.found? url else none

/-! ## One turn -/

theorem Http.deed?_of_sync? {r : Request} {url : String} {name : Option String}
    (h : (Step.request r).sync? = some (url, name)) : r.deed? = some (.sync url name) := by
  unfold Step.sync? at h
  dsimp only at h
  split at h
  · next hd =>
    cases h
    exact hd
  · cases h

namespace Turn

variable {x : Turn}

/-- However a sync is asked for, it is the sync of the gateway. -/
theorem sync_spec {url : String} {name : Option String} (h : x.step.sync? = some (url, name)) :
    x.succeeds = (x.session.gateway.sync url name).1.isOk ∧
      x.next.gateway = (x.session.gateway.sync url name).2 := by
  obtain ⟨s, t⟩ := x
  cases t with
  | sync url' name' =>
    cases h
    exact ⟨rfl, rfl⟩
  | request r =>
    have hr := respond_of_deed? (deed?_of_sync? h) s.gateway
    constructor
    · show ((respond r s.gateway).1.status == 200) = _
      rw [hr]
      exact answerJson_status _ _
    · show (respond r s.gateway).2 = _
      rw [hr]
      exact answerJson_snd _ _
  | _ => cases h

/-- A turn without a sync keeps what is known. -/
theorem kept_of_no_sync (hx : x.step.isOrdinary = true) (h : x.step.sync? = none)
    (hs : x.session.gateway.Sound) (hk : x.session.gateway.catalog.Keyed) :
    ∀ r ∈ x.next.gateway.catalog.connections,
      Catalog.Kept x.session.gateway.catalog x.next.gateway.catalog r := by
  cases hw : x.step.write? with
  | none =>
    rw [catalog_of_no_write (Step.isOwn_of_isOrdinary hx) hw]
    exact fun r hr => .refl hr
  | some w =>
    rw [catalog_of_write? hw]
    cases w with
    | upsert url name => exact Catalog.upsert_kept url name _ hs.isOpen hs.counted.issued hk
    | rename id name => exact Catalog.rename_kept id name hs.isOpen
    | delete id => exact Catalog.delete_kept id hs.isOpen
    | sync url name => cases h.symm.trans (Step.sync?_iff.2 hw)
    | replace id tables =>
      rw [Step.eq_of_write? hw fun d => by cases d <;> nofun] at hx
      cases hx
    | touch id =>
      rw [Step.eq_of_write? hw fun d => by cases d <;> nofun] at hx
      cases hx

/-- A turn records what it finds, and keeps everything else. -/
theorem records (hx : x.step.isOrdinary = true) (hs : x.session.gateway.Sound)
    (hk : x.session.gateway.catalog.Keyed) (ht : x.session.gateway.Timed)
    (hend : x.next.gateway.now.date.year ≤ Date.maxYear) :
    Catalog.Records x.found? x.session.gateway.catalog x.next.gateway.catalog := by
  cases h : x.step.sync? with
  | none =>
    have hfound : ∀ url, x.found? url = none := by
      intro url
      unfold found?
      rw [h]
    exact fun r hr => .inr ⟨hfound r.url, kept_of_no_sync hx h hs hk r hr⟩
  | some q =>
    obtain ⟨url, name⟩ := q
    obtain ⟨hsucceeds, hnext⟩ := sync_spec h
    have hfound : x.found? = fun u =>
        if url = u ∧ (x.session.gateway.sync url name).1.isOk = true then
          (x.session.gateway.remote.introspect u).toOption
        else none := by
      funext u
      unfold found?
      rw [h, hsucceeds]
    rw [hnext] at hend ⊢
    rw [hfound]
    exact ((x.session.gateway.sync_synced url name).ends hs hk ht hend).records hs hk

end Turn

/-! ## Whole runs -/

namespace Session

theorem latest?_concat (s : Session) (ts : List Step) (t : Step) (i : Int) (url : String) :
    s.latest? (ts ++ [t]) i url =
      (if ((s.finish (ts ++ [t])).gateway.catalog.find? i).isSome then
        Turn.found? ⟨s.finish ts, t⟩ url else none).or (s.latest? ts i url) := by
  unfold latest?
  rw [turns_concat, List.reverse_concat, List.findSome?_cons, ← finish_concat]
  split
  · next h =>
    rw [h]
    rfl
  · next h =>
    rw [h]
    rfl

variable {s : Session} {ts : List Step}

/-- Of an id that has not been given out yet, nothing was found. -/
theorem latest?_fresh (hown : ∀ t ∈ ts, t.isOwn = true) (hs : s.gateway.Sound) {i : Int}
    (hi : (s.finish ts).gateway.catalog.lastId < i) (url : String) : s.latest? ts i url = none := by
  unfold latest?
  refine List.findSome?_eq_none_iff.2 fun x hx => if_neg fun there => ?_
  obtain ⟨before, during, after⟩ := turn_becomes hown (List.mem_reverse.1 hx)
  have sound := (before.trans during).sound hs
  obtain ⟨r, hr⟩ := Option.isSome_iff_exists.1 there
  obtain ⟨hmem, rfl⟩ := Catalog.mem_of_find? hr
  have := (sound.counted.rows r hmem).2
  have := after.lastId_le
  omega

/-- After any run, every row shows what the latest sync of its database found. -/
theorem finish_shows (hc : s.gateway.catalog = {}) (hs : s.gateway.Sound) (ht : s.gateway.Timed)
    (hts : ∀ t ∈ ts, t.isOrdinary = true) (hend : (s.finish ts).gateway.now.date.year ≤ Date.maxYear) :
    ∀ r ∈ (s.finish ts).gateway.catalog.connections,
      (s.finish ts).gateway.catalog.Shows r (s.latest? ts r.id r.url) := by
  induction ts using List.reverseRecOn with
  | nil =>
    rw [finish_nil, hc]
    exact nofun
  | append_singleton ts t ih =>
    have hts' : ∀ t ∈ ts, t.isOrdinary = true := fun u hu => hts u (List.mem_append_left _ hu)
    have hown : ∀ t ∈ ts, t.isOwn = true := fun u hu => Step.isOwn_of_isOrdinary (hts' u hu)
    have hx : t.isOrdinary = true := hts t (List.mem_append_right _ List.mem_cons_self)
    have before := s.finish_becomes hown
    have during : (s.finish ts).gateway.Becomes (Turn.next ⟨s.finish ts, t⟩).gateway :=
      (s.finish ts).step_becomes (Step.isOwn_of_isOrdinary hx)
    rw [finish_concat] at hend
    have hyear := Int.le_trans during.year_le hend
    have sound := before.sound hs
    have keyed := before.keyed hs (hc ▸ Catalog.keyed_empty)
    have records := Turn.records (x := ⟨s.finish ts, t⟩) hx sound keyed (before.timed hs.isOpen ht hyear) hend
    rw [finish_concat]
    intro r hr
    have there : ((s.finish (ts ++ [t])).gateway.catalog.find? r.id).isSome := by
      rw [finish_concat, (during.keyed sound keyed).find?_iff.2 ⟨hr, rfl⟩]
      rfl
    rw [latest?_concat, if_pos there]
    exact records.shows (ih hts' hyear) (fun i url hi => latest?_fresh hown hs hi url) r hr

end Session

/-- In any run from an empty catalog, as long as the clock shows moments, an id is not found
or is shown with the tables that the latest sync of its database found, in their order, and
as synced; if there was no such sync, it is shown with no tables and as not synced. A sync
succeeds if it gets into the database, finds no table twice and there is an id left;
otherwise every connection stays as it is shown. -/
theorem metadata_of_latest_sync {place : Place} {origins : List String} {now : Moment} {s : Session}
    (hs : Session.start place origins now = .ok s) (hnow : now.IsReal) {ts : List Step}
    (hts : ∀ t ∈ ts, t.isOrdinary = true) (hend : (s.finish ts).gateway.now.IsReal) :
    let c := (s.finish ts).gateway.catalog
    (∀ i, (c.get i = .error (.notFound i) ∧ c.metadata i = .error (.notFound i)) ∨
      ∃ x tables, c.get i = .ok x ∧ c.metadata i = .ok ⟨x, tables⟩ ∧
        match s.latest? ts i x.connectionUrl with
        | some found => tables.Perm found ∧ tables.Pairwise TableInfo.Precedes ∧ x.lastSynced ≠ none
        | none => tables = [] ∧ x.lastSynced = none) ∧
    ∀ y ∈ s.turns ts, ∀ url name, y.step.sync? = some (url, name) →
      (y.succeeds = true ↔ ∃ tables, y.session.gateway.Syncable url tables) ∧
      (y.succeeds = false → ∀ i, (y.session.gateway.catalog.find? i).isSome →
        y.next.gateway.catalog.metadata i = y.session.gateway.catalog.metadata i) := by
  obtain ⟨hc, -⟩ := Session.start_catalog hs
  obtain ⟨sound, timed⟩ := Session.start_sound hs
  have timed := timed hnow
  have hown : ∀ t ∈ ts, t.isOwn = true := fun t ht => Step.isOwn_of_isOrdinary (hts t ht)
  have whole := s.finish_becomes hown
  have ho := (whole.sound sound).isOpen
  refine ⟨fun i => ?_, fun y hy url name hsync => ?_⟩
  · cases hf : (s.finish ts).gateway.catalog.find? i with
    | none => exact .inl ⟨Catalog.get_of_absent ho hf, Catalog.metadata_of_absent ho hf⟩
    | some r =>
      obtain ⟨hr, rfl⟩ := Catalog.mem_of_find? hf
      have shows := Session.finish_shows hc sound timed hts hend.year_le r hr
      obtain ⟨x, hx, hmetadata, hurl, hsynced⟩ :=
        shows.metadata ho hf ((whole.timed sound.isOpen timed hend.year_le).rows r hr)
      refine .inr ⟨x, _, hx, hmetadata, ?_⟩
      have distinct := shows.distinct
      rw [← hurl] at hsynced distinct ⊢
      cases hlatest : s.latest? ts r.id x.connectionUrl with
      | some found =>
        rw [hlatest] at hsynced distinct
        exact ⟨TableInfo.arranged_perm found, TableInfo.arranged_pairwise distinct,
          Option.isSome_iff_ne_none.1 hsynced⟩
      | none =>
        rw [hlatest] at hsynced
        exact ⟨rfl, by simpa using hsynced⟩
  · obtain ⟨before, during, after⟩ := Session.turn_becomes hown hy
    obtain ⟨hsucceeds, hnext⟩ := Turn.sync_spec hsync
    have hend' : (y.session.gateway.sync url name).2.now.date.year ≤ Date.maxYear := by
      rw [← hnext]
      exact Int.le_trans after.year_le hend.year_le
    have hyear : y.session.gateway.now.date.year ≤ Date.maxYear :=
      Int.le_trans (during.trans after).year_le hend.year_le
    have ends := (y.session.gateway.sync_synced url name).ends (before.sound sound)
      (before.keyed sound (hc ▸ Catalog.keyed_empty)) (before.timed sound.isOpen timed hyear) hend'
    rw [hsucceeds, hnext]
    exact ⟨ends.isOk_iff, fun failed i known => ends.metadata (before.sound sound).isOpen failed known⟩

/-- A request to sync a database where a table is found twice fails and leaves what the sync
before it found. -/
theorem failed_request_keeps_tables :
    let now : Moment := ⟨⟨2026, 5, 17⟩, 11, 23, 47, 0⟩
    let s : Session := ⟨⟨{}, .scripted [] ⟨[], []⟩ none, [], now, ["*"]⟩, .memory, {}⟩
    let found : List TableInfo := [⟨"b", "t", false, [⟨"x", "int4"⟩, ⟨"a", "text"⟩]⟩, ⟨"a", "t", true, []⟩]
    let r : Request := ⟨"POST", "/api/metadata/sync", [("content-type", "application/json")],
      "\x7b\"connectionUrl\":\"postgres://h/d\"\x7d"⟩
    let ts : List Step :=
      [.script (.scripted found ⟨[], []⟩ none), .sync "postgres://h/d" none,
        .script (.scripted [⟨"a", "t", false, []⟩, ⟨"a", "t", true, []⟩] ⟨[], []⟩ none), .request r]
    let c := (s.finish ts).gateway.catalog
    (∃ x tables, c.get 1 = .ok x ∧ c.metadata 1 = .ok ⟨x, tables⟩ ∧
        tables.Perm found ∧ tables.Pairwise TableInfo.Precedes ∧ x.lastSynced ≠ none) ∧
      ∃ y ∈ s.turns ts, y.step.sync? = some ("postgres://h/d", none) ∧ y.succeeds = false ∧
        y.next.gateway.catalog.metadata 1 = y.session.gateway.catalog.metadata 1 := by
  intro now s found r ts c
  have hs : Session.start .memory ["*"] now = .ok s := rfl
  have hnow : now.IsReal := ⟨by decide, by decide, by decide, by decide, by decide⟩
  have hts : ∀ t ∈ ts, t.isOrdinary = true := by
    intro t ht
    simp only [ts, List.mem_cons, List.not_mem_nil, or_false] at ht
    rcases ht with rfl | rfl | rfl | rfl <;> rfl
  have hclock : (s.finish ts).gateway.now = ⟨⟨2026, 5, 17⟩, 11, 23, 50, 0⟩ := by decide +kernel
  have hend : (s.finish ts).gateway.now.IsReal := by
    rw [hclock]
    exact ⟨by decide, by decide, by decide, by decide, by decide⟩
  obtain ⟨shown, syncs⟩ := metadata_of_latest_sync hs hnow hts hend
  constructor
  · have hget : c.get 1 = .ok ⟨1, none, "postgres://h/d", now, some ⟨⟨2026, 5, 17⟩, 11, 23, 48, 0⟩⟩ := by
      decide +kernel
    have hlatest : s.latest? ts 1 "postgres://h/d" = some found := by decide +kernel
    rcases shown 1 with ⟨absent, -⟩ | ⟨x, tables, hx, hmetadata, hfound⟩
    · cases hget.symm.trans absent
    · cases hget.symm.trans hx
      rw [hlatest] at hfound
      exact ⟨_, tables, hget, hmetadata, hfound⟩
  · let y : Turn := ⟨(((s.step ts[0]).2.step ts[1]).2.step ts[2]).2, ts[3]⟩
    have hy : y ∈ s.turns ts :=
      List.mem_cons_of_mem _ (List.mem_cons_of_mem _ (List.mem_cons_of_mem _ List.mem_cons_self))
    have hsync : y.step.sync? = some ("postgres://h/d", none) := by decide +kernel
    have failed : y.succeeds = false := by decide +kernel
    have known : (y.session.gateway.catalog.find? 1).isSome := by decide +kernel
    exact ⟨y, hy, hsync, failed, (syncs y hy _ _ hsync).2 failed 1 known⟩

end QueryGateway
