import QueryGateway.Proofs.Json.Written
import QueryGateway.Proofs.Wire.Documents
import QueryGateway.Proofs.Wire.Readers

/-!
# Texts that read alike

Clients may write the same record in many ways. Members may stand in any order, there may be members
that are none of the record's, and what may be null may as well be left out. `Shape.Alike` allows all
of it at each place of a text that holds a record, and `Shape.Unfit` says which outlines hold a record
with a field twice or without a field it needs. Main statement: texts of outlines that are alike are
read as the same data, and nothing is read of a text whose outline is unfit.

The argument is that a field sees of the members only what stands under its key.
-/

namespace QueryGateway.Wire

open Json (Outline Value)

/-! ## Outlines that say the same -/

/-- The fields with their keys. -/
def Fields.entries : Fields → List (String × Shape)
  | .nil => []
  | .cons key _ shape rest => (key, shape) :: rest.entries

/-- The members that an object has under its keys. -/
abbrev Members := List (Option String × Outline)

/-- To one who reads data of the shape, the outlines say the same. -/
inductive Shape.Alike : Shape → Outline → Outline → Prop
  | refl (s : Shape) (o : Outline) : s.Alike o o
  | symm {s : Shape} {o o' : Outline} : s.Alike o o' → s.Alike o' o
  | trans {s : Shape} {o o' o'' : Outline} : s.Alike o o' → s.Alike o' o'' → s.Alike o o''
  /-- The members stand in another order. -/
  | order {name : String} {fields : Fields} {ms ms' : Members} :
      ms.Perm ms' → (Shape.record name fields).Alike (.object ms) (.object ms')
  /-- There is one more member, which is no field. -/
  | extra {name : String} {fields : Fields} {key : String} (o : Outline) (ms : Members) :
      key ∉ fields.keys → (Shape.record name fields).Alike (.object ms) (.object ((some key, o) :: ms))
  /-- A field that was left out is null. -/
  | null {name : String} {fields : Fields} {key : String} {s : Shape} {ms : Members} :
      (key, .optional s) ∈ fields.entries → some key ∉ ms.map Prod.fst →
      (Shape.record name fields).Alike (.object ms) (.object ((some key, .null) :: ms))
  /-- What stands under the key of a field says the same. -/
  | member {name : String} {fields : Fields} {key : String} {s : Shape} {o o' : Outline} (ms : Members) :
      (key, s) ∈ fields.entries → s.Alike o o' →
      (Shape.record name fields).Alike (.object ((some key, o) :: ms)) (.object ((some key, o') :: ms))
  /-- In a record that is an array, what stands at the place of a field says the same. -/
  | place {name : String} {fields : Fields} {key : String} {s : Shape} {o o' : Outline} {front : List Outline}
      (back : List Outline) : fields.entries[front.length]? = some (key, s) → s.Alike o o' →
      (Shape.record name fields).Alike (.array (front ++ o :: back)) (.array (front ++ o' :: back))
  | item {s : Shape} {o o' : Outline} (front back : List Outline) :
      s.Alike o o' → (Shape.list s).Alike (.array (front ++ o :: back)) (.array (front ++ o' :: back))
  | present {s : Shape} {o o' : Outline} : s.Alike o o' → (Shape.optional s).Alike o o'

/-- Somewhere a record has a field twice, or has not a field that it needs. -/
inductive Shape.Unfit : Shape → Outline → Prop
  | repeated {name : String} {fields : Fields} {key : String} {ms : Members} :
      key ∈ fields.keys → 2 ≤ (ms.map Prod.fst).count (some key) → (Shape.record name fields).Unfit (.object ms)
  | lacking {name : String} {fields : Fields} {key : String} {s : Shape} {ms : Members} :
      (key, s) ∈ fields.entries → (∀ s', s ≠ .optional s') → some key ∉ ms.map Prod.fst →
      (Shape.record name fields).Unfit (.object ms)
  | member {name : String} {fields : Fields} {key : String} {s : Shape} {o : Outline} {ms : Members} :
      (key, s) ∈ fields.entries → (some key, o) ∈ ms → s.Unfit o → (Shape.record name fields).Unfit (.object ms)
  | place {name : String} {fields : Fields} {key : String} {s : Shape} {o : Outline} {front : List Outline}
      (back : List Outline) : fields.entries[front.length]? = some (key, s) → s.Unfit o →
      (Shape.record name fields).Unfit (.array (front ++ o :: back))
  | item {s : Shape} {o : Outline} (front back : List Outline) :
      s.Unfit o → (Shape.list s).Unfit (.array (front ++ o :: back))
  | present {s : Shape} {o : Outline} : s.Unfit o → (Shape.optional s).Unfit o

/-! ## Fields -/

theorem keys_eq : ∀ fields : Fields, fields.keys = fields.entries.map Prod.fst
  | .nil => rfl
  | .cons key _ _ rest => congrArg (key :: ·) (keys_eq rest)

theorem mem_keys {fields : Fields} {key : String} {s : Shape} (h : (key, s) ∈ fields.entries) : key ∈ fields.keys := by
  rw [keys_eq]
  exact List.mem_map_of_mem h

theorem exists_entry {fields : Fields} {key : String} (h : key ∈ fields.keys) : ∃ s, (key, s) ∈ fields.entries := by
  rw [keys_eq] at h
  obtain ⟨entry, mem, rfl⟩ := List.mem_map.1 h
  exact ⟨entry.2, mem⟩

/-- A key has one field at most. -/
theorem shape_unique {fields : Fields} (hk : fields.keys.Nodup) {key : String} {s s' : Shape}
    (h : (key, s) ∈ fields.entries) (h' : (key, s') ∈ fields.entries) : s = s' := by
  rw [keys_eq] at hk
  exact congrArg Prod.snd (List.inj_on_of_nodup_map hk h h' rfl)

theorem wellFormed_of_mem : ∀ {fields : Fields}, fields.WellFormed → ∀ {key : String} {s : Shape},
    (key, s) ∈ fields.entries → s.WellFormed
  | .cons _ _ shape rest, hf, key, s, h => by
    rcases List.mem_cons.1 h with same | h
    · cases same
      exact hf.1
    · exact wellFormed_of_mem hf.2 h

/-! ## What stands under a key -/

theorem keyed_eq_some {ms : Members} {members : List (String × Outline)} :
    keyed ms = some members ↔ ms = members.map fun m => (some m.1, m.2) := by
  induction ms generalizing members with
  | nil => cases members <;> simp [keyed]
  | cons m ms ih =>
    obtain ⟨k, o⟩ := m
    rw [keyed_cons]
    constructor
    · intro h
      obtain ⟨key, rfl, h⟩ := Option.bind_eq_some_iff.1 h
      obtain ⟨rest, more, rfl⟩ := Option.map_eq_some_iff.1 h
      rw [ih.1 more]
      rfl
    · intro h
      cases members with
      | nil => cases h
      | cons m rest =>
        obtain ⟨⟨⟩, rfl⟩ := List.cons.inj h
        rw [ih.2 rfl]
        rfl

/-- In another order, the members have keys that can be read too, and are the same members. -/
theorem keyed_perm {ms ms' : Members} (h : ms.Perm ms') {members : List (String × Outline)}
    (known : keyed ms = some members) : ∃ members', keyed ms' = some members' ∧ members.Perm members' := by
  induction h generalizing members with
  | nil => exact ⟨members, known, .refl _⟩
  | cons m _ ih =>
    obtain ⟨k, o⟩ := m
    rw [keyed_cons] at known ⊢
    obtain ⟨key, rfl, known⟩ := Option.bind_eq_some_iff.1 known
    obtain ⟨rest, more, rfl⟩ := Option.map_eq_some_iff.1 known
    obtain ⟨rest', more', perm⟩ := ih more
    exact ⟨(key, o) :: rest', by rw [more']; rfl, perm.cons _⟩
  | swap m m' ms =>
    obtain ⟨k, o⟩ := m
    obtain ⟨k', o'⟩ := m'
    rw [keyed_cons, keyed_cons] at known ⊢
    obtain ⟨key', rfl, known⟩ := Option.bind_eq_some_iff.1 known
    obtain ⟨_, second, rfl⟩ := Option.map_eq_some_iff.1 known
    obtain ⟨key, rfl, others⟩ := Option.bind_eq_some_iff.1 second
    obtain ⟨rest, more, rfl⟩ := Option.map_eq_some_iff.1 others
    exact ⟨(key, o) :: (key', o') :: rest, by rw [more]; rfl, .swap _ _ _⟩
  | trans _ _ ih ih' =>
    obtain ⟨members', known', perm⟩ := ih known
    obtain ⟨members'', known'', perm'⟩ := ih' known'
    exact ⟨members'', known'', perm.trans perm'⟩

theorem under_perm {members members' : List (String × Outline)} (h : members.Perm members') (key : String) :
    (under key members).Perm (under key members') := h.filterMap _

/-- As many members have the key as there are outlines under it. -/
theorem length_under (key : String) (members : List (String × Outline)) :
    (under key members).length = ((members.map fun m => (some m.1, m.2)).map Prod.fst).count (some key) := by
  induction members with
  | nil => rfl
  | cons m rest ih =>
    obtain ⟨name, o⟩ := m
    rw [under_cons, List.map_cons, List.map_cons, List.count_cons, ← ih]
    by_cases same : name = key
    · simp [same]
    · simp [same]

theorem under_eq_nil {key : String} {members : List (String × Outline)}
    (h : some key ∉ (members.map fun m => (some m.1, m.2)).map Prod.fst) : under key members = [] := by
  have none := length_under key members
  rw [List.count_eq_zero_of_not_mem h] at none
  exact List.length_eq_zero_iff.1 none

theorem mem_under {key : String} {o : Outline} {members : List (String × Outline)}
    (h : (some key, o) ∈ members.map fun m => (some m.1, m.2)) : o ∈ under key members := by
  obtain ⟨m, hm, same⟩ := List.mem_map.1 h
  cases same
  exact List.mem_filterMap.2 ⟨m, hm, if_pos rfl⟩

/-! ## What is found once -/

section Once

variable {α : Type} {absent : Option α} {take : Outline → Option α}

theorem once_perm {os os' : List Outline} (h : os.Perm os') : once absent take os = once absent take os' := by
  match os, os', h.length_eq with
  | [], [], _ => rfl
  | [o], [o'], _ => rw [List.singleton_perm_singleton.1 h]
  | _ :: _ :: _, _ :: _ :: _, _ => rfl

theorem once_eq_none {os : List Outline} {o : Outline} (h : o ∈ os) (nothing : take o = none) :
    once absent take os = none := by
  match os with
  | [o'] =>
    obtain rfl := List.mem_singleton.1 h
    exact nothing
  | _ :: _ :: _ => rfl

theorem once_of_two {os : List Outline} (h : 2 ≤ os.length) : once absent take os = none := by
  match os, h with
  | _ :: _ :: _, _ => rfl

end Once

/-! ## What is taken of the fields -/

/-- Two lists of members are taken alike if each field sees the same in them. -/
theorem takeMembers_congr : ∀ {fields : Fields}, fields.keys.Nodup → ∀ (depth : Nat)
    {members members' : List (String × Outline)},
    (∀ key s, (key, s) ∈ fields.entries → once s.absent (fun o => s.take depth o) (under key members) =
      once s.absent (fun o => s.take depth o) (under key members')) →
    fields.takeMembers depth members = fields.takeMembers depth members'
  | .nil, _, _, _, _, _ => rfl
  | .cons key _ shape rest, hk, depth, members, members', h => by
    have more := takeMembers_congr (List.nodup_cons.1 hk).2 depth fun key s hs => h key s (List.mem_cons_of_mem _ hs)
    rw [Fields.takeMembers, Fields.takeMembers, more, h key shape List.mem_cons_self]

/-- All fields but those that may be null are needed. -/
theorem absent_eq_none {s : Shape} (h : ∀ s', s ≠ .optional s') : s.absent = none := by
  cases s with
  | optional s => exact absurd rfl (h s)
  | _ => rfl

/-- Nothing is taken of members in which a field does not find what it needs. -/
theorem takeMembers_eq_none : ∀ {fields : Fields} {depth : Nat} {members : List (String × Outline)} {key : String}
    {s : Shape}, (key, s) ∈ fields.entries → once s.absent (fun o => s.take depth o) (under key members) = none →
    fields.takeMembers depth members = none
  | .cons name _ shape rest, depth, members, key, s, h, nothing => by
    rw [Fields.takeMembers]
    rcases List.mem_cons.1 h with same | h
    · cases same
      rw [nothing]
      rfl
    · rw [takeMembers_eq_none h nothing]
      cases once shape.absent (fun o => shape.take depth o) (under name members) <;> rfl

theorem bind_keyed_perm {fields : Fields} (hk : fields.keys.Nodup) (depth : Nat) {ms ms' : Members} (h : ms.Perm ms') :
    (keyed ms).bind (fields.takeMembers depth) = (keyed ms').bind (fields.takeMembers depth) := by
  cases known : keyed ms with
  | none =>
    cases known' : keyed ms' with
    | none => rfl
    | some members' =>
      obtain ⟨members, some, -⟩ := keyed_perm h.symm known'
      rw [known] at some
      cases some
  | some members =>
    obtain ⟨members', known', perm⟩ := keyed_perm h known
    rw [known']
    exact takeMembers_congr hk depth fun key s _ => once_perm (under_perm perm key)

theorem keyed_front (key : String) (os : List Outline) (ms : Members) :
    keyed (os.map (fun o => (some key, o)) ++ ms) = (keyed ms).map (os.map (fun o => (key, o)) ++ ·) := by
  induction os with
  | nil => simp
  | cons o os ih =>
    rw [List.map_cons, List.cons_append, keyed_cons, ih]
    cases keyed ms <;> rfl

theorem under_front (key name : String) (os : List Outline) (members : List (String × Outline)) :
    under name (os.map (fun o => (key, o)) ++ members) =
      if key = name then os ++ under name members else under name members := by
  induction os with
  | nil => simp
  | cons o os ih =>
    rw [List.map_cons, List.cons_append, under_cons, ih]
    by_cases same : key = name
    · simp [same]
    · simp [same]

/-- What stands in front under a key matters to the field of the key only. -/
theorem bind_keyed_front {fields : Fields} (hk : fields.keys.Nodup) (depth : Nat) (key : String) (os os' : List Outline)
    (ms : Members) (h : ∀ members s, keyed ms = some members → (key, s) ∈ fields.entries →
      once s.absent (fun o => s.take depth o) (os ++ under key members) =
        once s.absent (fun o => s.take depth o) (os' ++ under key members)) :
    (keyed (os.map (fun o => (some key, o)) ++ ms)).bind (fields.takeMembers depth) =
      (keyed (os'.map (fun o => (some key, o)) ++ ms)).bind (fields.takeMembers depth) := by
  rw [keyed_front, keyed_front]
  cases known : keyed ms with
  | none => rfl
  | some members =>
    refine takeMembers_congr hk depth fun name s hs => ?_
    rw [under_front, under_front]
    by_cases same : key = name
    · subst same
      rw [if_pos rfl, if_pos rfl]
      exact h members s known hs
    · rw [if_neg same, if_neg same]

/-- What is taken of items hangs on the item at a place by what its field takes of it. -/
theorem takeItems_at : ∀ {fields : Fields} (depth : Nat) {key : String} {s : Shape} {front : List Outline}
    (back : List Outline), fields.entries[front.length]? = some (key, s) →
    ∃ f, ∀ o, fields.takeItems depth (front ++ o :: back) = (s.take depth o).bind f
  | .cons name _ shape rest, depth, key, s, [], back, h => by
    cases Option.some.inj h
    exact ⟨fun d => (rest.takeItems depth back).map fun ds => (d, ds), fun o => rfl⟩
  | .cons name _ shape rest, depth, key, s, first :: front, back, h => by
    have there : rest.entries[front.length]? = some (key, s) := h
    obtain ⟨f, more⟩ := takeItems_at depth back there
    refine ⟨fun d => both (shape.take depth first) (f d), fun o => ?_⟩
    exact (congrArg (both _) (more o)).trans (both_bind _ _ _)

theorem mapM_at {α : Type} (take : Outline → Option α) (front back : List Outline) :
    ∃ f, ∀ o, (front ++ o :: back).mapM take = (take o).bind f := by
  induction front with
  | nil => exact ⟨fun d => (back.mapM take).bind fun ds => some (d :: ds), fun o => List.mapM_cons⟩
  | cons first front ih =>
    obtain ⟨f, more⟩ := ih
    refine ⟨fun d => (take first).bind fun d₁ => (f d).bind fun ds => some (d₁ :: ds), fun o => ?_⟩
    rw [List.cons_append, List.mapM_cons, more]
    cases take first <;> cases take o <;> simp

/-! ## What is taken of a whole -/

/-- Only null is like null. -/
theorem Shape.Alike.null_iff {s : Shape} {o o' : Outline} (h : s.Alike o o') : o = .null ↔ o' = .null := by
  induction h with
  | refl => rfl
  | symm _ ih => exact ih.symm
  | trans _ _ ih ih' => exact ih.trans ih'
  | present _ ih => exact ih
  | _ => simp

theorem Shape.Unfit.ne_null {s : Shape} {o : Outline} (h : s.Unfit o) : o ≠ .null := by
  induction h with
  | present _ ih => exact ih
  | _ => simp

theorem takeOptional_of_ne_null {α : Type} (take : Outline → Option α) {o : Outline} (h : o ≠ .null) :
    takeOptional take o = (take o).map some := by
  cases o with
  | null => exact absurd rfl h
  | _ => rfl

/-- Of outlines that are alike, the same is taken. -/
theorem Shape.Alike.take_eq {s : Shape} {o o' : Outline} (h : s.Alike o o') :
    s.WellFormed → ∀ depth : Nat, s.take depth o = s.take depth o' := by
  -- The induction is on why they are alike. A rule about one member compares what it puts in front of the others.
  induction h with
  | refl => exact fun _ _ => rfl
  | symm _ ih => exact fun hs depth => (ih hs depth).symm
  | trans _ _ ih ih' => exact fun hs depth => (ih hs depth).trans (ih' hs depth)
  | order perm =>
    intro hs depth
    rw [take_record_object, take_record_object, bind_keyed_perm hs.1 (depth - 1) perm]
  | @extra name fields key o ms new =>
    intro hs depth
    have same := bind_keyed_front hs.1 (depth - 1) key [] [o] ms
      fun _ s _ mem => absurd (mem_keys mem) new
    rw [take_record_object, take_record_object]
    exact congrArg (ite _ none) same
  | @null name fields key s ms mem absent =>
    intro hs depth
    -- A field that is left out is absent, and so is one that is null.
    have same := bind_keyed_front hs.1 (depth - 1) key [] [.null] ms
      fun members s' known mem' => by
        obtain rfl := shape_unique hs.1 mem mem'
        obtain rfl := keyed_eq_some.1 known
        rw [under_eq_nil absent]
        rfl
    rw [take_record_object, take_record_object]
    exact congrArg (ite _ none) same
  | @member name fields key s o o' ms mem _ ih =>
    intro hs depth
    have inner := ih (wellFormed_of_mem hs.2 mem) (depth - 1)
    have same := bind_keyed_front hs.1 (depth - 1) key [o] [o'] ms
      fun members s' known mem' => by
        obtain rfl := shape_unique hs.1 mem mem'
        rw [List.singleton_append, List.singleton_append, once_cons, once_cons, inner]
    rw [take_record_object, take_record_object]
    exact congrArg (ite _ none) same
  | place back mem _ ih =>
    intro hs depth
    have inner := ih (wellFormed_of_mem hs.2 (List.mem_of_getElem? mem)) (depth - 1)
    obtain ⟨f, place⟩ := takeItems_at (depth - 1) back mem
    rw [take_record_array, take_record_array, place, place, inner]
  | @item s o o' front back _ ih =>
    intro hs depth
    have inner := ih (show s.WellFormed from hs) (depth - 1)
    obtain ⟨f, place⟩ := mapM_at (fun o => s.take (depth - 1) o) front back
    rw [take_list, take_list, place, place, inner]
  | @present s o o' like ih =>
    intro hs depth
    -- No rule makes null of a value, or a value of null.
    by_cases null : o = .null
    · rw [null, like.null_iff.1 null]
    · have other := mt like.null_iff.2 null
      rw [Shape.take, Shape.take, takeOptional_of_ne_null _ null, takeOptional_of_ne_null _ other, ih hs.2 depth]

theorem take_object_eq_none {name : String} {fields : Fields} {depth : Nat} {ms : Members}
    (h : ∀ members, keyed ms = some members → fields.takeMembers (depth - 1) members = none) :
    (Shape.record name fields).take depth (.object ms) = none := by
  rw [take_record_object]
  split
  · rfl
  · cases known : keyed ms with
    | none => rfl
    | some members => exact h members known

/-- Of an outline that is unfit, nothing is taken. -/
theorem Shape.Unfit.take_eq_none {s : Shape} {o : Outline} (h : s.Unfit o) : ∀ depth : Nat, s.take depth o = none := by
  induction h with
  | @repeated name fields key ms mem twice =>
    intro depth
    obtain ⟨s, mem⟩ := exists_entry mem
    refine take_object_eq_none fun members known => takeMembers_eq_none mem ?_
    obtain rfl := keyed_eq_some.1 known
    exact once_of_two (by rwa [length_under])
  | lacking mem required absent =>
    intro depth
    refine take_object_eq_none fun members known => takeMembers_eq_none mem ?_
    obtain rfl := keyed_eq_some.1 known
    rw [under_eq_nil absent]
    exact absent_eq_none required
  | member mem there _ ih =>
    intro depth
    refine take_object_eq_none fun members known => takeMembers_eq_none mem ?_
    obtain rfl := keyed_eq_some.1 known
    exact once_eq_none (mem_under there) (ih (depth - 1))
  | place back mem _ ih =>
    intro depth
    obtain ⟨f, place⟩ := takeItems_at (depth - 1) back mem
    rw [take_record_array, place, ih (depth - 1)]
    exact ite_self none
  | @item s o front back _ ih =>
    intro depth
    obtain ⟨f, place⟩ := mapM_at (fun o => s.take (depth - 1) o) front back
    rw [take_list, place, ih (depth - 1)]
    exact ite_self none
  | present unfit ih =>
    intro depth
    rw [Shape.take, takeOptional_of_ne_null _ unfit.ne_null, ih depth]
    rfl

/-! ## What is read of a text -/

/-- The shapes that have names are well-formed. -/
theorem wellFormed_of_named {name : String} {s : Shape} (h : shapeNamed? name = some s) : s.WellFormed := by
  have text : (Shape.optional .text).WellFormed := ⟨rfl, trivial⟩
  unfold shapeNamed? at h
  split at h <;> cases h
  · exact RecordKind.columnInfo.wellFormed_shape
  · exact RecordKind.tableInfo.wellFormed_shape
  · exact RecordKind.connection.wellFormed_shape
  · exact RecordKind.connectionMetadata.wellFormed_shape
  · exact RecordKind.guardedQuery.wellFormed_shape
  · exact RecordKind.queryColumn.wellFormed_shape
  · exact RecordKind.queryResult.wellFormed_shape
  · exact ⟨by decide, trivial, text, trivial⟩
  · exact ⟨by decide, text, trivial⟩
  · exact ⟨by decide, trivial, trivial, trivial⟩

/-- For each of the records and requests: any text of which something is read has an outline; texts of
outlines that are alike, however they are set, are read as the same data, if any; and no data are read of a
text whose outline is unfit. -/
theorem texts_read_alike {name : String} {s : Shape} (h : shapeNamed? name = some s) :
    (∀ (text : String) (d : s.Data), s.parse text = .ok d → ∃ o : Outline, o.SaidBy text) ∧
    (∀ (o o' : Outline) (text text' : String), o.SaidBy text → o'.SaidBy text' → s.Alike o o' →
      ∀ d : s.Data, s.parse text = .ok d ↔ s.parse text' = .ok d) ∧
    ∀ (o : Outline) (text : String), o.SaidBy text → s.Unfit o → ∀ d : s.Data, s.parse text ≠ .ok d := by
  have wellFormed := wellFormed_of_named h
  refine ⟨fun text d => saidBy_of_parse, ?_, ?_⟩
  · intro o o' text text' said said' like d
    rw [parse_eq_ok_iff wellFormed said, parse_eq_ok_iff wellFormed said', like.take_eq wellFormed]
  · intro o text said unfit d parsed
    have taken := (parse_eq_ok_iff wellFormed said d).1 parsed
    rw [unfit.take_eq_none] at taken
    cases taken

/-- A request to sync is read with a member more, a null and white space as it is without, and one
without its address is not read. -/
theorem sync_requests_read_alike :
    shapeNamed? "SyncRequest" = some syncRequest ∧
    syncRequest.parse " \x7b\"more\":[1],\"name\":null,\"connectionUrl\":\"u\"\x7d\n" = .ok ("u", none, ()) ∧
    ∀ d, syncRequest.parse "\x7b\"name\":null\x7d" ≠ .ok d := by
  obtain ⟨-, alike, unfit⟩ := texts_read_alike (show shapeNamed? "SyncRequest" = some syncRequest from rfl)
  refine ⟨rfl, ?_, ?_⟩
  · have plain := Value.saidBy_text (.object [("connectionUrl", .string "u")]) ⟨trivial, trivial⟩ Json.blank_nil
      Json.blank_nil (show "\x7b\"connectionUrl\":\"u\"\x7d".toList = _ by decide +kernel)
    have more : Json.Number.Steady (.int 1) := ⟨⟨by decide, by decide⟩, trivial⟩
    have front : Json.Blank [' '] := by simp [Json.Blank, Json.isSpace]
    have back : Json.Blank ['\n'] := by simp [Json.Blank, Json.isSpace]
    have varied := Value.saidBy_text
      (.object [("more", .array [.int 1]), ("name", .null), ("connectionUrl", .string "u")])
      ⟨⟨more, trivial⟩, trivial, trivial, trivial⟩ front back
      (show " \x7b\"more\":[1],\"name\":null,\"connectionUrl\":\"u\"\x7d\n".toList = _ by decide +kernel)
    have parsed : (syncRequest.parse "\x7b\"connectionUrl\":\"u\"\x7d").map
        (fun d : String × Option String × Unit => d) = .ok ("u", none, ()) := by
      decide +kernel
    obtain ⟨d, parsed, rfl⟩ := map_eq_ok parsed
    exact (alike _ _ _ _ plain varied
      (.trans (.null (List.mem_cons_of_mem _ List.mem_cons_self) (by decide)) (.extra _ _ (by decide))) _).1 parsed
  · have lacks := Value.saidBy_text (.object [("name", .null)]) ⟨trivial, trivial⟩ Json.blank_nil Json.blank_nil
      (show "\x7b\"name\":null\x7d".toList = _ by decide +kernel)
    have required : ∀ s, Shape.text ≠ .optional s := by simp
    exact unfit _ _ lacks (.lacking List.mem_cons_self required (by decide))

end QueryGateway.Wire
