import Mathlib.Data.List.Basic
import QueryGateway.Proofs.Json.Trees
import QueryGateway.Proofs.Moment.Stored
import QueryGateway.Wire.Reading

/-!
# Data read back

What is written of the data of a shape reads back as the data, whatever the shape is: the
members of a record come in the order of their keys and not of its fields, those that are null
may be left out, and the reader finds the field of each. `parseWithin_written` says so of
texts, and needs to know how deep a reader goes only where a shape takes any value.
-/

namespace QueryGateway.Wire

open Json (Value Node Fault Key)
open Text

/-! ## Data that can be read back -/

/-- The keys of the fields. -/
def Fields.keys : Fields → List String
  | .nil => []
  | .cons key _ _ rest => key :: rest.keys

mutual

/-- The data have a form of their own in JSON: integers and moments are in range, doubles read
back, no value is written as null but an absent one, and the fields of records have different
keys. -/
def Shape.Plain : (s : Shape) → s.Data → Prop
  | .int, n => IsInt64 n
  | .text, _ => True
  | .bool, _ => True
  | .moment, t => Moment.IsReal t
  | .any, v => Value.All Json.Number.Steady v ∧ Value.Ordered v
  | .optional s, x => match x with
    | none => True
    | some d => s.Plain d ∧ s.write d ≠ .null
  | .list s, ds => ds.Forall fun d => s.Plain d
  | .record _ fields, d => fields.keys.Nodup ∧ fields.Plain d

/-- The data of every field have a form of their own. -/
def Fields.Plain : (fs : Fields) → fs.Data → Prop
  | .nil, _ => True
  | .cons _ _ shape rest, (d, ds) => shape.Plain d ∧ rest.Plain ds

end

theorem plain_list {α : Type} {s : Shape} {data : α → s.Data} {xs : List α} (h : ∀ x ∈ xs, s.Plain (data x)) :
    (Shape.list s).Plain (xs.map data) :=
  List.forall_iff_forall_mem.2 (List.forall_mem_map.2 h)

/-! ## Members of records -/

theorem mem_keys_of_mem_write : ∀ {fields : Fields} {d : fields.Data} {m : String × Value}, m ∈ fields.write d →
    m.1 ∈ fields.keys
  | .cons key presence shape rest, (d, ds), m, h => by
    rw [Fields.write] at h
    split at h
    · exact List.mem_cons_of_mem _ (mem_keys_of_mem_write h)
    · rcases List.mem_cons.1 h with rfl | h
      · exact List.mem_cons_self
      · exact List.mem_cons_of_mem _ (mem_keys_of_mem_write h)

theorem nodup_keys_of_write : ∀ {fields : Fields}, fields.keys.Nodup → ∀ d : fields.Data,
    ((fields.write d).map Prod.fst).Nodup
  | .nil, _, _ => List.nodup_nil
  | .cons key presence shape rest, h, (d, ds) => by
    obtain ⟨new, h⟩ := List.nodup_cons.1 h
    rw [Fields.write]
    split
    · exact nodup_keys_of_write h ds
    · refine List.nodup_cons.2 ⟨fun hmem => ?_, nodup_keys_of_write h ds⟩
      obtain ⟨m, hm, rfl⟩ := List.mem_map.1 hmem
      exact new (mem_keys_of_mem_write hm)

/-! ## Slots -/

/-- The fields of which the keys have been seen. -/
def Fields.slots (seen : List String) : (fs : Fields) → fs.Data → fs.Slots
  | .nil, _ => ()
  | .cons key _ _ rest, (d, ds) => (if key ∈ seen then some d else none, rest.slots seen ds)

theorem slots_nil : ∀ {fields : Fields} (d : fields.Data), fields.slots [] d = fields.empty
  | .nil, _ => rfl
  | .cons _ _ _ _, (_, ds) => congrArg (Prod.mk none) (slots_nil ds)

/-- The key of another record fills no slot. -/
theorem slots_cons : ∀ {fields : Fields} {key : String}, key ∉ fields.keys → ∀ (seen : List String) (d : fields.Data),
    fields.slots (key :: seen) d = fields.slots seen d
  | .nil, _, _, _, _ => rfl
  | .cons name _ _ rest, key, h, seen, (d, ds) => by
    obtain ⟨other, h⟩ := not_or.1 (mt List.mem_cons.2 h)
    have same : name ∈ key :: seen ↔ name ∈ seen := by simp [Ne.symm other]
    rw [Fields.slots, Fields.slots, slots_cons h]
    simp only [same]
    rfl

theorem absent_of_isNull : ∀ {s : Shape} {d : s.Data}, s.isNull d = true → s.absent = some d
  | .optional _, d, h => by
    cases d with
    | none => rfl
    | some d => cases h

/-- Once everything that is written has been seen, the fields are complete. -/
theorem complete_slots : ∀ {fields : Fields} {seen : List String} {d : fields.Data},
    (∀ m ∈ fields.write d, m.1 ∈ seen) → fields.complete (fields.slots seen d) = .ok d
  | .nil, _, _, _ => rfl
  | .cons key presence shape rest, seen, (d, ds), h => by
    have slot : (if key ∈ seen then some d else none).or shape.absent = some d := by
      split
      · rfl
      · next unseen =>
        -- What was not seen is not written, as it is null.
        rw [Fields.write] at h
        split at h
        · next hidden => exact absent_of_isNull (Bool.and_eq_true_iff.1 hidden).2
        · exact absurd (h _ List.mem_cons_self) unseen
    have more : ∀ m ∈ rest.write ds, m.1 ∈ seen := by
      intro m hm
      apply h
      rw [Fields.write]
      split
      · exact hm
      · exact List.mem_cons_of_mem _ hm
    rw [Fields.slots, Fields.complete, slot, complete_slots more]
    rfl

/-! ## Reading trees -/

/-- An array is read item by item. -/
theorem readList_written {α : Type} {read : Node → Except Fault α} {write : α → Value} {ds : List α} {ns : List Node}
    (h : Json.ItemsShown (ds.map write) ns) (item : ∀ d ∈ ds, ∀ n, (write d).ShownBy n → read n = .ok d) (i : Nat) :
    readList read i ns = .ok ds := by
  induction ds generalizing ns i with
  | nil =>
    cases ns with
    | nil => rfl
    | cons => cases h
  | cons d ds ih =>
    cases ns with
    | nil => cases h
    | cons n ns =>
      rw [readList, item d List.mem_cons_self n h.1, ih h.2 (fun d hd => item d (List.mem_cons_of_mem _ hd))]
      rfl

/-- Members in any order are read into their slots, if the reading of each fills its slot. -/
theorem readMembers_written {fields : Fields} {d : fields.Data}
    {step : String → Key → Node → fields.Slots → Except Fault fields.Slots} {ms : List (String × Value)}
    {ns : List (Key × Node)} {seen : List String} (h : Json.MembersShown ms ns)
    (distinct : (ms.map Prod.fst).Nodup) (new : ∀ m ∈ ms, m.1 ∉ seen)
    (member : ∀ m ∈ ms, ∀ (k : Key) n seen, m.1 ∉ seen → m.2.ShownBy n →
      step m.1 k n (fields.slots seen d) = .ok (fields.slots (m.1 :: seen) d)) :
    readMembers step ns (fields.slots seen d) = .ok (fields.slots ((ms.map Prod.fst).reverse ++ seen) d) := by
  induction ms generalizing ns seen with
  | nil =>
    cases ns with
    | nil => rfl
    | cons => cases h
  | cons m ms ih =>
    obtain ⟨key, v⟩ := m
    cases ns with
    | nil => cases h
    | cons n ns =>
      obtain ⟨k, n⟩ := n
      obtain ⟨hkey, shown, more⟩ := h
      obtain ⟨other, distinct⟩ := List.nodup_cons.1 distinct
      have unseen : ∀ m ∈ ms, m.1 ∉ key :: seen := by
        intro m hm
        refine fun hmem => (List.mem_cons.1 hmem).elim (fun heq => other ?_) (new m (List.mem_cons_of_mem _ hm))
        exact List.mem_map.2 ⟨m, hm, heq⟩
      have first := member (key, v) List.mem_cons_self k n seen (new _ List.mem_cons_self) shown
      have rest := ih more distinct unseen fun m hm => member m (List.mem_cons_of_mem _ hm)
      rw [readMembers, hkey]
      show (step key k n (fields.slots seen d) >>= readMembers step ns) = _
      rw [first]
      show readMembers step ns (fields.slots (key :: seen) d) = _
      rw [rest, List.map_cons, List.reverse_cons, List.append_assoc]
      rfl

/-- The data of a closed array are those of its items. -/
theorem read_list_closed (s : Shape) {depth : Nat} (hd : 1 < depth) (start : Json.Mark) (items : List Node)
    (stop : Json.Mark) :
    (Shape.list s).read depth (.array start items (.closed stop)) =
      readList (fun n => s.read (depth - 1) n) 0 items := by
  show (if depth ≤ 1 then .error (Json.tooDeepAt start) else do
    let ds ← readList (fun n => s.read (depth - 1) n) 0 items
    (Json.Close.closed stop).read
    return ds : Except Fault (List s.Data)) = _
  rw [if_neg (Nat.not_le.2 hd)]
  cases readList (fun n => s.read (depth - 1) n) 0 items with
  | error f => rfl
  | ok ds => rfl

/-- The data of a closed object are those of its members. -/
theorem read_record_closed (name : String) (fields : Fields) {depth : Nat} (hd : 1 < depth) (start : Json.Mark)
    (members : List (Key × Node)) (stop : Json.Mark) :
    (Shape.record name fields).read depth (.object start members (.closed stop)) =
      (readMembers (fun key k n s => fields.readMember (depth - 1) key k n s) members fields.empty >>= fun slots =>
        finish fields slots (.closed stop)) :=
  if_neg (Nat.not_le.2 hd)

section

variable (name : String) (presence : Presence) (shape : Shape) (rest : Fields) (depth : Nat) (k : Key) (n : Node)
variable (slot : Option shape.Data) (slots : rest.Slots)

/-- The first field takes the member with its key. -/
theorem readMember_own {d : shape.Data} (h : shape.read depth n = .ok d) :
    (Fields.cons name presence shape rest).readMember depth name k n (none, slots) = .ok (some d, slots) := by
  refine (if_pos (beq_self_eq_true name)).trans ?_
  dsimp only
  rw [h]
  rfl

/-- The first field leaves a member with another key to the others. -/
theorem readMember_other {key : String} (hne : key ≠ name) {slots' : rest.Slots}
    (h : rest.readMember depth key k n slots = .ok slots') :
    (Fields.cons name presence shape rest).readMember depth key k n (slot, slots) = .ok (slot, slots') := by
  refine (if_neg (by simpa using hne)).trans ?_
  rw [h]
  rfl

end

theorem eq_null_of_shownBy {v : Value} {stop : Json.Mark} (h : v.ShownBy (.null stop)) : v = .null := by
  cases v with
  | null => rfl
  | _ => cases h

mutual

/-- A tree that shows what is written of data is read as them, if the reader goes deep enough. -/
theorem read_written : ∀ {s : Shape} {d : s.Data} {n : Node} {depth : Nat}, s.Plain d → (s.write d).ShownBy n →
    (s.write d).depth < depth → s.read depth n = .ok d
  | .int, d, n, depth, plain, h, _ => by
    cases n with
    | number m start stop =>
      obtain rfl : m = .ok (.int d) := h
      exact if_pos plain.2
    | _ => cases h
  | .text, d, n, depth, _, h, _ => by
    cases n with
    | string t start stop =>
      obtain rfl : t = .ok d := h
      rfl
    | _ => cases h
  | .bool, d, n, depth, _, h, _ => by
    cases n with
    | bool b stop =>
      obtain rfl : b = d := h
      rfl
    | _ => cases h
  | .moment, d, n, depth, plain, h, _ => by
    cases n with
    | string t start stop =>
      obtain rfl : t = .ok (Moment.zuluText d) := h
      rw [Shape.read, Moment.parseRelaxed_zuluText plain]
      rfl
    | _ => cases h
  | .any, d, n, depth, plain, h, hd => Json.read_shown d n depth plain.2 h hd
  | .optional s, none, n, depth, _, h, _ => by
    cases n with
    | null => rfl
    | _ => cases h
  | .optional s, some d, n, depth, plain, h, hd => by
    have inner : s.read depth n = .ok d := read_written plain.1 h hd
    have present : ∀ stop, n ≠ .null stop := by
      rintro stop rfl
      exact plain.2 (eq_null_of_shownBy h)
    rw [Shape.read, inner]
    · rfl
    · exact present
  | .list s, ds, n, depth, plain, h, hd => by
    cases n with
    | array start ns close =>
      cases close with
      | broken => cases h
      | closed stop =>
        have shown : Json.ItemsShown (List.map s.write ds) ns := h
        have deeper : Json.itemsDepth (List.map s.write ds) + 1 < depth := hd
        have items : readList (fun n => s.read (depth - 1) n) 0 ns = .ok ds := by
          refine readList_written shown (fun d hd n hn => ?_) 0
          have := Json.itemsDepth_le_iff.1 (Nat.le_refl _) _ (List.mem_map_of_mem (f := s.write) hd)
          exact read_written (List.forall_iff_forall_mem.1 plain d hd) hn (by omega)
        exact (read_list_closed s (by omega) start ns stop).trans items
    | _ => cases h
  | .record name fields, d, n, depth, plain, h, hd => by
    cases n with
    | object start ns close =>
      cases close with
      | broken => cases h
      | closed stop =>
        obtain ⟨distinct, plain⟩ := plain
        have shown : Json.MembersShown (Json.sortMembers (fields.write d)) ns := h
        have deeper : Json.membersDepth (Json.sortMembers (fields.write d)) + 1 < depth := hd
        have keys := nodup_keys_of_write distinct d
        have sorted := Json.sortMembers_perm keys
        have slots : readMembers (fun key k n s => fields.readMember (depth - 1) key k n s) ns (fields.slots [] d) =
            .ok (fields.slots (((Json.sortMembers (fields.write d)).map Prod.fst).reverse ++ []) d) :=
          readMembers_written shown ((sorted.map Prod.fst).nodup_iff.2 keys) (fun m _ => List.not_mem_nil)
            fun m hm k n seen unseen hn => by
              have := Json.membersDepth_le_iff.1 (Nat.le_refl _) m hm
              exact readMember_written k distinct plain (sorted.mem_iff.1 hm) unseen hn (by omega)
        have complete : fields.complete
            (fields.slots ((Json.sortMembers (fields.write d)).map Prod.fst).reverse d) = .ok d :=
          complete_slots fun m hm => List.mem_reverse.2 (List.mem_map_of_mem (sorted.mem_iff.2 hm))
        rw [@slots_nil fields d, List.append_nil] at slots
        refine (read_record_closed name fields (by omega) start ns stop).trans ?_
        rw [slots]
        show (fields.complete _).mapError _ = _
        rw [complete]
        rfl
    | _ => cases h

/-- The tree of a member is read into the slot of its field. -/
theorem readMember_written : ∀ {fields : Fields} {d : fields.Data} {m : String × Value} {n : Node} {depth : Nat}
    (k : Key) {seen : List String}, fields.keys.Nodup → fields.Plain d → m ∈ fields.write d → m.1 ∉ seen → m.2.ShownBy n →
    m.2.depth < depth →
    fields.readMember depth m.1 k n (fields.slots seen d) = .ok (fields.slots (m.1 :: seen) d)
  | .nil, _, _, _, _, _, _, _, _, h, _, _, _ => by cases h
  | .cons key presence shape rest, (d, ds), m, n, depth, k, seen, distinct, plain, h, unseen, shown, hd => by
    obtain ⟨new, distinct⟩ := List.nodup_cons.1 distinct
    obtain ⟨own, others⟩ := plain
    rw [Fields.slots, Fields.slots]
    by_cases hkey : m.1 = key
    · -- Another field with this key there is not, so the member is that of this one.
      have value : m.2 = shape.write d := by
        rw [Fields.write] at h
        split at h
        · exact absurd (hkey ▸ mem_keys_of_mem_write h) new
        · rcases List.mem_cons.1 h with rfl | h
          · rfl
          · exact absurd (hkey ▸ mem_keys_of_mem_write h) new
      have read : shape.read depth n = .ok d := read_written own (value ▸ shown) (value ▸ hd)
      subst hkey
      rw [if_neg unseen, if_pos List.mem_cons_self, slots_cons new]
      exact readMember_own m.1 presence shape rest depth k n _ read
    · have member : m ∈ rest.write ds := by
        rw [Fields.write] at h
        split at h
        · exact h
        · exact (List.mem_cons.1 h).resolve_left fun heq => hkey (congrArg Prod.fst heq)
      have same : key ∈ m.1 :: seen ↔ key ∈ seen := by simp [Ne.symm hkey]
      simp only [same]
      exact readMember_other key presence shape rest depth k n _ _ hkey
        (readMember_written k distinct others member unseen shown hd)

end

/-! ## What is written -/

mutual

/-- No number that is written of plain data is changed by reading it. -/
theorem steady_write : ∀ {s : Shape} {d : s.Data}, s.Plain d → (s.write d).All Json.Number.Steady
  | .int, d, plain => ⟨⟨plain.1, Int.le_trans plain.2 (by decide)⟩, trivial⟩
  | .text, _, _ => trivial
  | .bool, _, _ => trivial
  | .moment, _, _ => trivial
  | .any, _, plain => plain.1
  | .optional _, none, _ => trivial
  | .optional s, some d, plain => @steady_write s d plain.1
  | .list s, ds, plain => by
    refine Json.itemsAll_iff.2 fun v hv => ?_
    obtain ⟨d, hd, rfl⟩ := List.mem_map.1 hv
    exact steady_write (List.forall_iff_forall_mem.1 plain d hd)
  | .record _ fields, d, plain => by
    refine Json.membersAll_iff.2 fun m hm => ?_
    exact steady_members plain.2 m ((Json.sortMembers_perm (nodup_keys_of_write plain.1 d)).mem_iff.1 hm)

theorem steady_members : ∀ {fields : Fields} {d : fields.Data}, fields.Plain d → ∀ m ∈ fields.write d,
    m.2.All Json.Number.Steady
  | .nil, _, _, _, h => absurd h List.not_mem_nil
  | .cons _ _ shape rest, (d, ds), plain, m, h => by
    rw [Fields.write] at h
    split at h
    · exact steady_members plain.2 m h
    · rcases List.mem_cons.1 h with rfl | h
      · exact steady_write plain.1
      · exact steady_members plain.2 m h

end

mutual

/-- How many arrays and objects stand in each other at most in what is written of data of a
shape. It is not known of shapes that take any value. -/
def Shape.nesting? : Shape → Option Nat
  | .int => some 0
  | .text => some 0
  | .bool => some 0
  | .moment => some 0
  | .any => none
  | .optional s => s.nesting?
  | .list s => s.nesting?.map (· + 1)
  | .record _ fields => fields.nesting?.map (· + 1)

/-- How many arrays and objects stand in each other at most in a field. -/
def Fields.nesting? : Fields → Option Nat
  | .nil => some 0
  | .cons _ _ shape rest => shape.nesting?.bind fun n => rest.nesting?.map (max n)

end

mutual

theorem depth_write_le : ∀ {s : Shape} {n : Nat}, s.nesting? = some n → ∀ {d : s.Data}, s.Plain d →
    (s.write d).depth ≤ n
  | .int, _, _, _, _ => Nat.zero_le _
  | .text, _, _, _, _ => Nat.zero_le _
  | .bool, _, _, _, _ => Nat.zero_le _
  | .moment, _, _, _, _ => Nat.zero_le _
  | .any, _, h, _, _ => by cases h
  | .optional _, _, _, none, _ => Nat.zero_le _
  | .optional s, _, h, some _, plain => @depth_write_le s _ h _ plain.1
  | .list s, n, h, ds, plain => by
    obtain ⟨inner, hinner, rfl⟩ := Option.map_eq_some_iff.1 h
    refine Nat.succ_le_succ (Json.itemsDepth_le_iff.2 fun v hv => ?_)
    obtain ⟨d, hd, rfl⟩ := List.mem_map.1 hv
    exact depth_write_le hinner (List.forall_iff_forall_mem.1 plain d hd)
  | .record _ fields, n, h, d, plain => by
    obtain ⟨inner, hinner, rfl⟩ := Option.map_eq_some_iff.1 h
    refine Nat.succ_le_succ (Json.membersDepth_le_iff.2 fun m hm => ?_)
    exact depth_members_le hinner plain.2 m ((Json.sortMembers_perm (nodup_keys_of_write plain.1 d)).mem_iff.1 hm)

theorem depth_members_le : ∀ {fields : Fields} {n : Nat}, fields.nesting? = some n → ∀ {d : fields.Data},
    fields.Plain d → ∀ m ∈ fields.write d, m.2.depth ≤ n
  | .nil, _, _, _, _, _, h => absurd h List.not_mem_nil
  | .cons _ _ shape rest, n, hn, (d, ds), plain, m, h => by
    obtain ⟨own, hown, hn⟩ := Option.bind_eq_some_iff.1 hn
    obtain ⟨others, hothers, rfl⟩ := Option.map_eq_some_iff.1 hn
    have more := fun h => Nat.le_trans (depth_members_le hothers plain.2 m h) (Nat.le_max_right own others)
    rw [Fields.write] at h
    split at h
    · exact more h
    · rcases List.mem_cons.1 h with rfl | h
      · exact Nat.le_trans (depth_write_le hown plain.1) (Nat.le_max_left own others)
      · exact more h

end

/-! ## Texts -/

/-- Data of a shape from a text, by a reader that goes only so deep into arrays and objects. -/
def Shape.parseWithin (s : Shape) (limit : Nat) (text : String) : Except Fault s.Data := do
  let doc := Json.Document.ofChars text.toList
  let d ← s.read limit doc.root
  match doc.trailing with
  | some f => .error f
  | none => .ok d

theorem parse_eq_parseWithin (s : Shape) (text : String) : s.parse text = s.parseWithin Json.depthLimit text := rfl

/-- The text of plain data reads back as the data, by any reader that goes deep enough. -/
theorem parseWithin_written {s : Shape} {d : s.Data} {limit : Nat} (plain : s.Plain d)
    (hd : (s.write d).depth < limit) : s.parseWithin limit (s.write d).text = .ok d := by
  have written := Value.text_written (s.write d) (steady_write plain)
  obtain ⟨n, doc, shown⟩ := Json.Document.ofChars_written written Json.blank_nil Json.blank_nil
  rw [List.nil_append, List.append_nil] at doc
  unfold Shape.parseWithin
  rw [doc]
  dsimp only
  rw [read_written plain shown hd]
  rfl

/-- The text of plain data reads back as the data, if the shape has only so many arrays and
objects in each other. -/
theorem parse_written {s : Shape} {d : s.Data} {n : Nat} (plain : s.Plain d) (hs : s.nesting? = some n)
    (hn : n < Json.depthLimit) : s.parse (s.write d).text = .ok d :=
  (parse_eq_parseWithin s _).trans (parseWithin_written plain (Nat.lt_of_le_of_lt (depth_write_le hs plain) hn))

end QueryGateway.Wire
