import QueryGateway.Proofs.Json.Trees
import QueryGateway.Proofs.Outcome

/-!
# Values that are read

What a reader makes of any text: its integers have 64 bits, the members of its objects are in the
order of their keys, and it is not nested deeper than the reader goes. So it can be written and
read again, as far as its doubles can.
-/

namespace QueryGateway.Json

open Text

/-! ## Numbers of numerals -/

theorem significand_le (cs : List Char) {m : Nat} (h : m ≤ maxWord64) : (significand m cs).1 ≤ maxWord64 := by
  induction cs generalizing m with
  | nil => exact h
  | cons c cs ih =>
    unfold significand
    split
    · exact h
    · next fits => exact ih (Nat.le_of_not_gt fits)

theorem bounded_integerNumber {negative : Bool} {m : Nat} {x : Number} (hm : m ≤ maxWord64)
    (h : integerNumber negative m = some x) : x.Bounded := by
  have word : (m : Int) ≤ maxWord64 := Int.ofNat_le.2 hm
  unfold integerNumber at h
  split_ifs at h with positive small
  · cases h
    exact ⟨Int.le_trans (by decide) (Int.natCast_nonneg m), word⟩
  · obtain ⟨d, -, rfl⟩ := Option.map_eq_some_iff.1 h
    trivial
  · cases h
    have low : m ≤ 2 ^ 63 := by
      rw [Bool.or_eq_true, not_or] at small
      simpa using small.2
    constructor
    · unfold minInt64
      omega
    · unfold maxWord64
      omega

theorem Numeral.bounded_value {n : Numeral} {stop : Mark} {x : Number} (h : n.value stop = .ok x) : x.Bounded := by
  obtain ⟨-, ⟨d, rfl⟩ | integer⟩ := value_eq_ok h
  · trivial
  · exact bounded_integerNumber (significand_le n.whole (Nat.zero_le _)) integer

/-! ## Numbers of trees -/

mutual

/-- All integers in the tree have 64 bits. -/
def Node.Bounded : Node → Prop
  | .number n _ _ => ∀ x, n = .ok x → x.Bounded
  | .array _ items _ => ItemsBounded items
  | .object _ members _ => MembersBounded members
  | .null _ => True
  | .bool _ _ => True
  | .string _ _ _ => True
  | .broken _ _ _ => True

/-- All integers in the items have 64 bits. -/
def ItemsBounded : List Node → Prop
  | [] => True
  | n :: ns => n.Bounded ∧ ItemsBounded ns

/-- All integers in the members have 64 bits. -/
def MembersBounded : List (Key × Node) → Prop
  | [] => True
  | (_, n) :: ms => n.Bounded ∧ MembersBounded ms

end

theorem bounded_wordNode (word : List Char) {n : Mark → Node} (h : ∀ m, (n m).Bounded) (c : Cursor) :
    (wordNode word n c).1.Bounded := by
  unfold wordNode
  split
  · exact h _
  · trivial

theorem bounded_numberNode (c : Cursor) : (numberNode c).1.Bounded := by
  unfold numberNode
  split
  · exact fun x hx => Numeral.bounded_value hx
  · trivial

theorem bounded_stringNode (c : Cursor) : (stringNode c).1.Bounded := by
  unfold stringNode
  dsimp only
  split <;> trivial

/-- The integers that the builders of trees meet have 64 bits. -/
structure BuildsBounded (fuel : Nat) : Prop where
  value : ∀ c, (valueNode fuel c).1.Bounded
  items : ∀ first c, ItemsBounded (itemNodes fuel first c).1
  itemThenMore : ∀ c, ItemsBounded (itemThenMore fuel c).1
  members : ∀ first c, MembersBounded (memberNodes fuel first c).1
  memberThenMore : ∀ c, MembersBounded (memberThenMore fuel c).1
  memberValue : ∀ c, (memberValue fuel c).1.Bounded

/-! Each builder takes its parts from builders with less fuel. -/

section

variable {fuel : Nat} (less : BuildsBounded fuel)

include less

theorem bounded_valueNode (c : Cursor) : (valueNode (fuel + 1) c).1.Bounded := by
  unfold valueNode
  split
  · trivial
  · exact bounded_wordNode _ (n := .null) (fun _ => trivial) c
  · exact bounded_wordNode _ (n := .bool true) (fun _ => trivial) c
  · exact bounded_wordNode _ (n := .bool false) (fun _ => trivial) c
  · exact bounded_stringNode _
  · exact less.items true _
  · exact less.members true _
  · split
    · exact bounded_numberNode c
    · trivial

theorem bounded_itemNodes (first : Bool) (c : Cursor) : ItemsBounded (itemNodes (fuel + 1) first c).1 := by
  unfold itemNodes
  split
  · trivial
  · trivial
  · dsimp only
    split
    · trivial
    · trivial
    · exact less.itemThenMore _
  · trivial
  · exact less.itemThenMore c

theorem bounded_itemThenMore (c : Cursor) : ItemsBounded (itemThenMore (fuel + 1) c).1 := by
  have node := less.value c
  unfold itemThenMore
  split
  · next built =>
    rw [built] at node
    exact ⟨node, less.items false _⟩
  · next built =>
    rw [built] at node
    exact ⟨node, trivial⟩

theorem bounded_memberNodes (first : Bool) (c : Cursor) : MembersBounded (memberNodes (fuel + 1) first c).1 := by
  unfold memberNodes
  split
  · trivial
  · trivial
  · dsimp only
    split
    · trivial
    · trivial
    · exact less.memberThenMore _
  · trivial
  · exact less.memberThenMore c

theorem bounded_memberThenMore (c : Cursor) : MembersBounded (memberThenMore (fuel + 1) c).1 := by
  unfold memberThenMore
  split
  · split
    · dsimp only
      split
      · exact ⟨less.memberValue _, less.members false _⟩
      · exact ⟨less.memberValue _, trivial⟩
    · trivial
    · trivial
  · trivial

theorem bounded_memberValue (c : Cursor) : (memberValue (fuel + 1) c).1.Bounded := by
  unfold memberValue
  split
  · exact less.value _
  · trivial
  · trivial

end

theorem buildsBounded (fuel : Nat) : BuildsBounded fuel := by
  induction fuel with
  | zero =>
    constructor
    all_goals intros
    all_goals trivial
  | succ fuel less =>
    constructor
    case value => exact bounded_valueNode less
    case items => exact bounded_itemNodes less
    case itemThenMore => exact bounded_itemThenMore less
    case members => exact bounded_memberNodes less
    case memberThenMore => exact bounded_memberThenMore less
    case memberValue => exact bounded_memberValue less

/-- All integers in the tree of a text have 64 bits. -/
theorem Document.bounded_ofChars (text : List Char) : (Document.ofChars text).root.Bounded :=
  (buildsBounded (4 * text.length + 4)).value _

/-! ## Members of objects -/

section

variable {α : Type} {key : String} {v : α} {ms : List (String × α)}

theorem mem_insertMember {m : String × α} (h : m ∈ insertMember key v ms) : m = (key, v) ∨ m ∈ ms := by
  induction ms with
  | nil => exact .inl (List.mem_singleton.1 h)
  | cons n ms ih =>
    obtain ⟨k, w⟩ := n
    unfold insertMember at h
    split_ifs at h with same before
    · rcases List.mem_cons.1 h with rfl | h
      · rw [beq_iff_eq.1 same]
        exact .inl rfl
      · exact .inr (List.mem_cons_of_mem _ h)
    · exact (List.mem_cons.1 h).imp_right id
    · rcases List.mem_cons.1 h with rfl | h
      · exact .inr List.mem_cons_self
      · exact (ih h).imp_right (List.mem_cons_of_mem _)

theorem KeyOrdered.insertMember (h : KeyOrdered ms) (key : String) (v : α) : KeyOrdered (insertMember key v ms) := by
  induction ms with
  | nil => exact List.pairwise_singleton _ _
  | cons n ms ih =>
    obtain ⟨k, w⟩ := n
    obtain ⟨first, rest⟩ := List.pairwise_cons.1 h
    unfold Json.insertMember
    split_ifs with same before
    · exact List.pairwise_cons.2 ⟨first, rest⟩
    · have smaller : key < k := (lt_iff key k).1 before
      refine List.pairwise_cons.2 ⟨fun m hm => ?_, h⟩
      rcases List.mem_cons.1 hm with rfl | hm
      · exact smaller
      · exact smaller.trans (first m hm)
    · have other : key ≠ k := by simpa using same
      have larger : k < key := lt_of_le_of_ne (not_lt.1 fun hlt => before ((lt_iff key k).2 hlt)) other.symm
      refine List.pairwise_cons.2 ⟨fun m hm => ?_, ih rest⟩
      rcases mem_insertMember hm with rfl | hm
      · exact larger
      · exact first m hm

/-- Each insertion keeps the order. -/
theorem KeyOrdered.foldl_insertMember {ns : List (String × α)} (h : KeyOrdered ns) (ms : List (String × α)) :
    KeyOrdered (ms.foldl (fun sorted (k, v) => Json.insertMember k v sorted) ns) := by
  induction ms generalizing ns with
  | nil => exact h
  | cons n ms ih => exact ih (h.insertMember n.1 n.2)

theorem keyOrdered_sortMembers (ms : List (String × α)) : KeyOrdered (sortMembers ms) :=
  KeyOrdered.foldl_insertMember List.Pairwise.nil ms

theorem mem_of_mem_foldl_insertMember {m : String × α} {ns : List (String × α)}
    (h : m ∈ ms.foldl (fun sorted (k, v) => insertMember k v sorted) ns) : m ∈ ms ∨ m ∈ ns := by
  induction ms generalizing ns with
  | nil => exact .inr h
  | cons n ms ih =>
    rcases ih h with hm | hm
    · exact .inl (List.mem_cons_of_mem _ hm)
    · rcases mem_insertMember hm with rfl | hm
      · exact .inl List.mem_cons_self
      · exact .inr hm

theorem mem_of_mem_sortMembers {m : String × α} (h : m ∈ sortMembers ms) : m ∈ ms :=
  (mem_of_mem_foldl_insertMember h).resolve_right List.not_mem_nil

end

/-! ## Reading -/

theorem itemsOrdered_iff {vs : List Value} : ItemsOrdered vs ↔ ∀ v ∈ vs, v.Ordered := by
  induction vs with
  | nil => exact iff_of_true trivial fun v hv => absurd hv List.not_mem_nil
  | cons v vs ih => rw [ItemsOrdered, ih, List.forall_mem_cons]

theorem membersOrdered_iff {ms : List (String × Value)} : MembersOrdered ms ↔ ∀ m ∈ ms, m.2.Ordered := by
  induction ms with
  | nil => exact iff_of_true trivial fun m hm => absurd hm List.not_mem_nil
  | cons m ms ih =>
    obtain ⟨k, v⟩ := m
    rw [MembersOrdered, ih, List.forall_mem_cons]

/-- What a reader that goes so deep may make of a text. -/
structure Value.IsRead (depth : Nat) (v : Value) : Prop where
  bounded : v.All Number.Bounded
  ordered : v.Ordered
  depth_le : v.depth ≤ depth - 1

theorem isRead_array {vs : List Value} {depth : Nat} (hd : 1 < depth) (h : ∀ v ∈ vs, v.IsRead (depth - 1)) :
    (Value.array vs).IsRead depth where
  bounded := itemsAll_iff.2 fun v hv => (h v hv).bounded
  ordered := itemsOrdered_iff.2 fun v hv => (h v hv).ordered
  depth_le := by
    have deepest : itemsDepth vs ≤ depth - 1 - 1 := itemsDepth_le_iff.2 fun v hv => (h v hv).depth_le
    show itemsDepth vs + 1 ≤ depth - 1
    omega

theorem isRead_ofMembers {ms : List (String × Value)} {depth : Nat} (hd : 1 < depth)
    (h : ∀ m ∈ ms, m.2.IsRead (depth - 1)) : (Value.ofMembers ms).IsRead depth where
  bounded := membersAll_iff.2 fun m hm => (h m (mem_of_mem_sortMembers hm)).bounded
  ordered := ⟨keyOrdered_sortMembers ms, membersOrdered_iff.2 fun m hm => (h m (mem_of_mem_sortMembers hm)).ordered⟩
  depth_le := by
    have deepest : membersDepth (sortMembers ms) ≤ depth - 1 - 1 :=
      membersDepth_le_iff.2 fun m hm => (h m (mem_of_mem_sortMembers hm)).depth_le
    show membersDepth (sortMembers ms) + 1 ≤ depth - 1
    omega

mutual

theorem Node.isRead_read : ∀ {n : Node} {depth : Nat} {v : Value}, n.Bounded → n.read depth = .ok v → v.IsRead depth
  | .null _, _, _, _, h => by
    cases h
    exact ⟨trivial, trivial, Nat.zero_le _⟩
  | .bool _ _, _, _, _, h => by
    cases h
    exact ⟨trivial, trivial, Nat.zero_le _⟩
  | .number _ _ _, _, _, bounded, h => by
    obtain ⟨x, hx, rfl⟩ := map_eq_ok h
    exact ⟨bounded x hx, trivial, Nat.zero_le _⟩
  | .string _ _ _, _, _, _, h => by
    obtain ⟨s, -, rfl⟩ := map_eq_ok h
    exact ⟨trivial, trivial, Nat.zero_le _⟩
  | .array _ items _, depth, v, bounded, h => by
    unfold Node.read at h
    split_ifs at h with deep
    obtain ⟨vs, read, h⟩ := bind_eq_ok h
    obtain ⟨-, -, h⟩ := bind_eq_ok h
    cases h
    exact isRead_array (Nat.lt_of_not_le deep) (isRead_readItems bounded read)
  | .object _ members _, depth, v, bounded, h => by
    unfold Node.read at h
    split_ifs at h with deep
    obtain ⟨ms, read, h⟩ := bind_eq_ok h
    obtain ⟨-, -, h⟩ := bind_eq_ok h
    cases h
    exact isRead_ofMembers (Nat.lt_of_not_le deep) (isRead_readMembers bounded read)
  | .broken _ _ _, _, _, _, h => by cases h

theorem isRead_readItems : ∀ {ns : List Node} {depth i : Nat} {vs : List Value}, ItemsBounded ns →
    readItems depth i ns = .ok vs → ∀ v ∈ vs, v.IsRead depth
  | [], _, _, _, _, h => by
    cases h
    exact fun v hv => absurd hv List.not_mem_nil
  | n :: ns, depth, i, vs, bounded, h => by
    obtain ⟨v, first, h⟩ := bind_eq_ok h
    obtain ⟨vs, rest, h⟩ := bind_eq_ok h
    cases h
    exact List.forall_mem_cons.2
      ⟨Node.isRead_read bounded.1 (mapError_eq_ok first), isRead_readItems bounded.2 rest⟩

theorem isRead_readMembers : ∀ {ns : List (Key × Node)} {depth : Nat} {ms : List (String × Value)},
    MembersBounded ns → readMembers depth ns = .ok ms → ∀ m ∈ ms, m.2.IsRead depth
  | [], _, _, _, h => by
    cases h
    exact fun m hm => absurd hm List.not_mem_nil
  | (k, n) :: ns, depth, ms, bounded, h => by
    obtain ⟨key, -, h⟩ := bind_eq_ok h
    obtain ⟨v, first, h⟩ := bind_eq_ok h
    obtain ⟨ms, rest, h⟩ := bind_eq_ok h
    cases h
    exact List.forall_mem_cons.2
      ⟨Node.isRead_read bounded.1 (mapError_eq_ok first), isRead_readMembers bounded.2 rest⟩

end

end QueryGateway.Json
