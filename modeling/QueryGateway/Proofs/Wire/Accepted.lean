import QueryGateway.Proofs.Json.Accepted
import QueryGateway.Proofs.Moment.Reading
import QueryGateway.Proofs.Wire.Written

/-!
# Data that are read

What a reader makes of any text has a form of its own in JSON, as far as its doubles read back: so
it is written as a text that reads back as it. A record may have been an array or an object with
members that are none of its fields; all that matters is what its fields were read as.
-/

namespace QueryGateway.Wire

open Json (Value Node Fault Key)
open Text

/-! ## Shapes with a null of one meaning -/

/-- Data of the shape may be written as null. -/
def Shape.isNullable : Shape → Bool
  | .any => true
  | .optional _ => true
  | .int => false
  | .text => false
  | .bool => false
  | .moment => false
  | .list _ => false
  | .record _ _ => false

theorem write_ne_null : ∀ {s : Shape}, s.isNullable = false → ∀ d : s.Data, s.write d ≠ .null
  | .int, _, _ => Value.noConfusion
  | .text, _, _ => Value.noConfusion
  | .bool, _, _ => Value.noConfusion
  | .moment, _, _ => Value.noConfusion
  | .list _, _, _ => Value.noConfusion
  | .record _ _, _, _ => Value.noConfusion

mutual

/-- What is optional is null only if it is absent, and the fields of records have different
keys. -/
def Shape.WellFormed : Shape → Prop
  | .int => True
  | .text => True
  | .bool => True
  | .moment => True
  | .any => True
  | .optional s => s.isNullable = false ∧ s.WellFormed
  | .list s => s.WellFormed
  | .record _ fields => fields.keys.Nodup ∧ fields.WellFormed

/-- The shapes of the fields are well-formed. -/
def Fields.WellFormed : Fields → Prop
  | .nil => True
  | .cons _ _ shape rest => shape.WellFormed ∧ rest.WellFormed

end

/-! ## Data from a reader -/

mutual

/-- What a reader that goes so deep may make of a text. -/
def Shape.IsRead : (s : Shape) → Nat → s.Data → Prop
  | .int, _, n => IsInt64 n
  | .text, _, _ => True
  | .bool, _, _ => True
  | .moment, _, t => Moment.IsReal t
  | .any, depth, v => Value.IsRead depth v
  | .optional s, depth, x => ∀ d, x = some d → s.IsRead depth d
  | .list s, depth, ds => 1 < depth ∧ ds.Forall fun d => s.IsRead (depth - 1) d
  | .record _ fields, depth, d => 1 < depth ∧ fields.IsRead (depth - 1) d

/-- The data of every field may be read so. -/
def Fields.IsRead : (fs : Fields) → Nat → fs.Data → Prop
  | .nil, _, _ => True
  | .cons _ _ shape rest, depth, (d, ds) => shape.IsRead depth d ∧ rest.IsRead depth ds

end

/-- The fields that were found so far may be read so. -/
def Fields.AreRead : (fs : Fields) → Nat → fs.Slots → Prop
  | .nil, _, _ => True
  | .cons _ _ shape rest, depth, (slot, slots) =>
    (∀ d, slot = some d → shape.IsRead depth d) ∧ rest.AreRead depth slots

theorem areRead_empty : ∀ (fields : Fields) (depth : Nat), fields.AreRead depth fields.empty
  | .nil, _ => trivial
  | .cons _ _ shape rest, depth => by
    refine ⟨fun d h => ?_, areRead_empty rest depth⟩
    cases h

theorem isRead_absent : ∀ {s : Shape} {d : s.Data} (depth : Nat), s.absent = some d → s.IsRead depth d
  | .optional s, d, depth, h => by
    cases h
    intro d hd
    cases hd

/-- Fields are complete with what was found of them, and with what may be absent. -/
theorem isRead_complete : ∀ {fields : Fields} {depth : Nat} {slots : fields.Slots} {d : fields.Data},
    fields.AreRead depth slots → fields.complete slots = .ok d → fields.IsRead depth d
  | .nil, _, _, _, _, _ => trivial
  | .cons key presence shape rest, depth, (slot, slots), d, found, h => by
    rw [Fields.complete] at h
    split at h
    · next first known =>
      obtain ⟨_, same, h⟩ := bind_eq_ok h
      obtain ⟨others, more, h⟩ := bind_eq_ok h
      cases same
      cases h
      refine ⟨?_, isRead_complete found.2 more⟩
      cases slot with
      | some d => exact found.1 first known
      | none => exact isRead_absent depth known
    · cases h

/-- What holds of slots and is kept by each member holds behind all members. -/
theorem readMembers_keeps {σ : Type} {P : σ → Prop} {step : String → Key → Node → σ → Except Fault σ}
    (keeps : ∀ {key k n s s'}, n.Bounded → P s → step key k n s = .ok s' → P s') :
    ∀ {ms : List (Key × Node)} {s s' : σ}, Json.MembersBounded ms → P s → readMembers step ms s = .ok s' → P s'
  | [], _, _, _, start, h => by
    cases h
    exact start
  | (k, n) :: ms, s, s', bounded, start, h => by
    obtain ⟨key, -, h⟩ := bind_eq_ok h
    obtain ⟨s₁, first, h⟩ := bind_eq_ok h
    exact readMembers_keeps keeps bounded.2 (keeps bounded.1 start first) h

theorem isRead_readList {α : Type} {P : α → Prop} {read : Node → Except Fault α}
    (item : ∀ {n d}, n.Bounded → read n = .ok d → P d) :
    ∀ {ns : List Node} {i : Nat} {ds : List α}, Json.ItemsBounded ns → readList read i ns = .ok ds → ∀ d ∈ ds, P d
  | [], _, _, _, h => by
    cases h
    exact fun d hd => absurd hd List.not_mem_nil
  | n :: ns, i, ds, bounded, h => by
    obtain ⟨d, first, h⟩ := bind_eq_ok h
    obtain ⟨ds, rest, h⟩ := bind_eq_ok h
    cases h
    exact List.forall_mem_cons.2 ⟨item bounded.1 (mapError_eq_ok first), isRead_readList item bounded.2 rest⟩

theorem wrongType_ne_ok {α : Type} (s : Shape) (n : Node) (d : α) : wrongType s n ≠ .ok d := by
  intro h
  obtain ⟨_, -, h⟩ := bind_eq_ok h
  cases h

mutual

/-- What is read of a tree is in range, and not deeper than the reader goes. -/
theorem isRead_read : ∀ {s : Shape} {depth : Nat} {n : Node} {d : s.Data}, n.Bounded → s.read depth n = .ok d →
    s.IsRead depth d
  | .int, depth, n, d, bounded, h => by
    unfold Shape.read at h
    split at h
    · next i start stop =>
      split_ifs at h with fits
      cases h
      exact ⟨(bounded _ rfl).1, fits⟩
    · exact absurd h (wrongType_ne_ok _ _ _)
  | .text, _, _, _, _, _ => trivial
  | .bool, _, _, _, _, _ => trivial
  | .moment, depth, n, d, bounded, h => by
    unfold Shape.read at h
    split at h
    · exact Moment.isReal_of_parseRelaxed (mapError_eq_ok h)
    · exact absurd h (wrongType_ne_ok _ _ _)
  | .any, depth, n, d, bounded, h => Node.isRead_read bounded h
  | .optional s, depth, n, d, bounded, h => by
    unfold Shape.read at h
    split at h
    · cases h
      intro d hd
      cases hd
    · obtain ⟨inner, read, rfl⟩ := map_eq_ok h
      intro d hd
      cases hd
      exact isRead_read bounded read
  | .list s, depth, n, d, bounded, h => by
    unfold Shape.read at h
    split at h
    · by_cases deep : depth ≤ 1
      · cases (if_pos deep).symm.trans h
      obtain ⟨ds, read, h⟩ := bind_eq_ok ((if_neg deep).symm.trans h)
      obtain ⟨-, -, h⟩ := bind_eq_ok h
      cases h
      refine ⟨Nat.lt_of_not_le deep, List.forall_iff_forall_mem.2 ?_⟩
      exact isRead_readList (fun item read => isRead_read item read) bounded read
    · exact absurd h (wrongType_ne_ok _ _ _)
  | .record name fields, depth, n, d, bounded, h => by
    unfold Shape.read at h
    split at h
    · by_cases deep : depth ≤ 1
      · cases (if_pos deep).symm.trans h
      exact ⟨Nat.lt_of_not_le deep, isRead_readItems bounded ((if_neg deep).symm.trans h)⟩
    · by_cases deep : depth ≤ 1
      · cases (if_pos deep).symm.trans h
      obtain ⟨slots, read, h⟩ := bind_eq_ok ((if_neg deep).symm.trans h)
      have found : fields.AreRead (depth - 1) slots :=
        readMembers_keeps (fun member found read => areRead_readMember member found read) bounded
          (areRead_empty fields (depth - 1)) read
      unfold finish at h
      split at h
      · cases h
      · exact ⟨Nat.lt_of_not_le deep, isRead_complete found (mapError_eq_ok h)⟩
    · exact absurd h (wrongType_ne_ok _ _ _)

theorem isRead_readItems : ∀ {fields : Fields} {name : String} {total depth i : Nat} {ns : List Node}
    {close : Json.Close} {d : fields.Data}, Json.ItemsBounded ns →
    fields.readItems name total depth i ns close = .ok d → fields.IsRead depth d
  | .nil, _, _, _, _, _, _, _, _, _ => trivial
  | .cons key presence shape rest, name, total, depth, i, n :: ns, close, d, bounded, h => by
    obtain ⟨first, read, h⟩ := bind_eq_ok h
    obtain ⟨others, more, h⟩ := bind_eq_ok h
    cases h
    exact ⟨isRead_read bounded.1 (mapError_eq_ok read), isRead_readItems bounded.2 more⟩
  | .cons key presence shape rest, name, total, depth, i, [], close, d, bounded, h => by
    obtain ⟨first, left, h⟩ := bind_eq_ok h
    obtain ⟨others, more, h⟩ := bind_eq_ok h
    cases h
    refine ⟨?_, isRead_readItems bounded more⟩
    unfold leftOut at left
    split at left
    · cases left
    · split at left
      · next absent =>
        cases left
        exact isRead_absent depth absent
      · cases left

theorem areRead_readMember : ∀ {fields : Fields} {depth : Nat} {key : String} {k : Key} {n : Node}
    {slots slots' : fields.Slots}, n.Bounded → fields.AreRead depth slots →
    fields.readMember depth key k n slots = .ok slots' → fields.AreRead depth slots'
  | .nil, _, _, _, _, _, _, _, _, _ => trivial
  | .cons name presence shape rest, depth, key, k, n, (slot, slots), slots', bounded, found, h => by
    by_cases own : (key == name) = true
    · have h := (if_pos own).symm.trans h
      cases slot with
      | some d => cases h
      | none =>
        obtain ⟨d, read, h⟩ := bind_eq_ok h
        cases h
        refine ⟨fun d' hd => ?_, found.2⟩
        cases hd
        exact isRead_read bounded (mapError_eq_ok read)
    · obtain ⟨others, read, h⟩ := bind_eq_ok ((if_neg own).symm.trans h)
      cases h
      exact ⟨found.1, areRead_readMember bounded found.2 read⟩

end

/-! ## Reading what was read again -/

mutual

/-- The doubles in the data read back. Only values of any kind hold doubles. -/
def Shape.ReadsBack : (s : Shape) → s.Data → Prop
  | .int, _ => True
  | .text, _ => True
  | .bool, _ => True
  | .moment, _ => True
  | .any, v => Value.All Json.Number.ReadsBack v
  | .optional s, x => ∀ d, x = some d → s.ReadsBack d
  | .list s, ds => ds.Forall fun d => s.ReadsBack d
  | .record _ fields, d => fields.ReadsBack d

/-- The doubles in the data of every field read back. -/
def Fields.ReadsBack : (fs : Fields) → fs.Data → Prop
  | .nil, _ => True
  | .cons _ _ shape rest, (d, ds) => shape.ReadsBack d ∧ rest.ReadsBack ds

end

mutual

/-- Where no value of any kind is, there is no double. -/
theorem readsBack_of_nesting : ∀ {s : Shape} {n : Nat}, s.nesting? = some n → ∀ d : s.Data, s.ReadsBack d
  | .int, _, _, _ => trivial
  | .text, _, _, _ => trivial
  | .bool, _, _, _ => trivial
  | .moment, _, _, _ => trivial
  | .any, _, h, _ => by cases h
  | .optional s, n, h, _ => fun d _ => readsBack_of_nesting (s := s) h d
  | .list s, _, h, ds => by
    obtain ⟨inner, hinner, -⟩ := Option.map_eq_some_iff.1 h
    exact List.forall_iff_forall_mem.2 fun d _ => readsBack_of_nesting hinner d
  | .record _ fields, _, h, d => by
    obtain ⟨inner, hinner, -⟩ := Option.map_eq_some_iff.1 h
    exact fieldsReadBack_of_nesting hinner d

theorem fieldsReadBack_of_nesting : ∀ {fields : Fields} {n : Nat}, fields.nesting? = some n → ∀ d : fields.Data,
    fields.ReadsBack d
  | .nil, _, _, _ => trivial
  | .cons _ _ shape rest, _, h, (d, ds) => by
    obtain ⟨own, hown, h⟩ := Option.bind_eq_some_iff.1 h
    obtain ⟨others, hothers, -⟩ := Option.map_eq_some_iff.1 h
    exact ⟨readsBack_of_nesting hown d, fieldsReadBack_of_nesting hothers ds⟩

end

mutual

/-- What was read has a form of its own, if its doubles read back. -/
theorem plain_of_isRead : ∀ {s : Shape} {depth : Nat} {d : s.Data}, s.WellFormed → s.IsRead depth d →
    s.ReadsBack d → s.Plain d
  | .int, _, _, _, h, _ => h
  | .text, _, _, _, _, _ => trivial
  | .bool, _, _, _, _, _ => trivial
  | .moment, _, _, _, h, _ => h
  | .any, _, _, _, h, back => ⟨h.bounded.and back, h.ordered⟩
  | .optional s, depth, none, _, _, _ => trivial
  | .optional s, depth, some d, wellFormed, h, back =>
    ⟨plain_of_isRead wellFormed.2 (h d rfl) (back d rfl), write_ne_null wellFormed.1 d⟩
  | .list s, depth, ds, wellFormed, h, back => by
    refine List.forall_iff_forall_mem.2 fun d hd => ?_
    exact plain_of_isRead wellFormed (List.forall_iff_forall_mem.1 h.2 d hd) (List.forall_iff_forall_mem.1 back d hd)
  | .record _ fields, depth, d, wellFormed, h, back =>
    ⟨wellFormed.1, fieldsPlain_of_isRead wellFormed.2 h.2 back⟩

theorem fieldsPlain_of_isRead : ∀ {fields : Fields} {depth : Nat} {d : fields.Data}, fields.WellFormed →
    fields.IsRead depth d → fields.ReadsBack d → fields.Plain d
  | .nil, _, _, _, _, _ => trivial
  | .cons _ _ _ _, _, (_, _), wellFormed, h, back =>
    ⟨plain_of_isRead wellFormed.1 h.1 back.1, fieldsPlain_of_isRead wellFormed.2 h.2 back.2⟩

end

mutual

theorem depth_le_of_isRead : ∀ {s : Shape} {depth : Nat} {d : s.Data}, s.WellFormed → s.IsRead depth d →
    (s.write d).depth ≤ depth - 1
  | .int, _, _, _, _ => Nat.zero_le _
  | .text, _, _, _, _ => Nat.zero_le _
  | .bool, _, _, _, _ => Nat.zero_le _
  | .moment, _, _, _, _ => Nat.zero_le _
  | .any, _, _, _, h => h.depth_le
  | .optional _, _, none, _, _ => Nat.zero_le _
  | .optional s, depth, some d, wellFormed, h => @depth_le_of_isRead s depth d wellFormed.2 (h d rfl)
  | .list s, depth, ds, wellFormed, h => by
    have deepest : Json.itemsDepth (List.map s.write ds) ≤ depth - 1 - 1 := by
      refine Json.itemsDepth_le_iff.2 fun v hv => ?_
      obtain ⟨d, hd, rfl⟩ := List.mem_map.1 hv
      exact depth_le_of_isRead wellFormed (List.forall_iff_forall_mem.1 h.2 d hd)
    have deep : 1 < depth := h.1
    show Json.itemsDepth (List.map s.write ds) + 1 ≤ depth - 1
    omega
  | .record _ fields, depth, d, wellFormed, h => by
    have sorted := Json.sortMembers_perm (nodup_keys_of_write wellFormed.1 d)
    have deepest : Json.membersDepth (Json.sortMembers (fields.write d)) ≤ depth - 1 - 1 :=
      Json.membersDepth_le_iff.2 fun m hm => membersDepth_le_of_isRead wellFormed.2 h.2 m (sorted.mem_iff.1 hm)
    have deep : 1 < depth := h.1
    show Json.membersDepth (Json.sortMembers (fields.write d)) + 1 ≤ depth - 1
    omega

theorem membersDepth_le_of_isRead : ∀ {fields : Fields} {depth : Nat} {d : fields.Data}, fields.WellFormed →
    fields.IsRead depth d → ∀ m ∈ fields.write d, m.2.depth ≤ depth - 1
  | .nil, _, _, _, _, _, hm => absurd hm List.not_mem_nil
  | .cons key presence shape rest, depth, (d, ds), wellFormed, h, m, hm => by
    have others := membersDepth_le_of_isRead wellFormed.2 h.2 m
    rw [Fields.write] at hm
    split at hm
    · exact others hm
    · rcases List.mem_cons.1 hm with rfl | hm
      · exact depth_le_of_isRead wellFormed.1 h.1
      · exact others hm

end

/-- The text that is written of data from a text reads back as the data, if their doubles do. -/
theorem parse_text_of_parse {s : Shape} {text : String} {d : s.Data} (wellFormed : s.WellFormed)
    (h : s.parse text = .ok d) (back : s.ReadsBack d) : s.parse (s.write d).text = .ok d := by
  unfold Shape.parse at h
  obtain ⟨d', read, h⟩ := bind_eq_ok h
  split at h
  · cases h
  · cases h
    have isRead := isRead_read (Json.Document.bounded_ofChars text.toList) read
    have deep : (s.write d).depth ≤ Json.depthLimit - 1 := depth_le_of_isRead wellFormed isRead
    rw [parse_eq_parseWithin]
    exact parseWithin_written (plain_of_isRead wellFormed isRead back) (Nat.lt_of_le_of_lt deep (by decide))

end QueryGateway.Wire
