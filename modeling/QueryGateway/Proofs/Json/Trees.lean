import Mathlib.Data.List.Nodup
import QueryGateway.Proofs.Json.Written
import QueryGateway.Proofs.Text.Order

/-!
# Trees read back

A tree that shows a value is read as that value, as far as the reader goes into arrays and
objects. The members of an object come back in the order of their keys, which is how a value
keeps them.
-/

namespace QueryGateway.Json

open Text

/-! ## Members in the order of their keys -/

section

variable {α : Type} {key : String} {v : α} {ms ns : List (String × α)}

/-- The members are in the order of their keys, each key once. -/
def KeyOrdered (ms : List (String × α)) : Prop := ms.Pairwise fun m n => m.1 < n.1

theorem insertMember_perm (h : key ∉ ms.map Prod.fst) : (insertMember key v ms).Perm ((key, v) :: ms) := by
  induction ms with
  | nil => exact .refl _
  | cons m ms ih =>
    obtain ⟨k, w⟩ := m
    rw [List.map_cons, List.mem_cons, not_or] at h
    unfold insertMember
    rw [if_neg (by simpa using h.1)]
    split
    · exact .refl _
    · exact ((ih h.2).cons (k, w)).trans (.swap _ _ _)

/-- Along the fold, the members sorted so far differ from those to come. -/
theorem foldl_insertMember_perm (h : (ms.map Prod.fst ++ ns.map Prod.fst).Nodup) :
    (ms.foldl (fun sorted (k, v) => insertMember k v sorted) ns).Perm (ms ++ ns) := by
  induction ms generalizing ns with
  | nil => exact .refl _
  | cons m ms ih =>
    obtain ⟨k, v⟩ := m
    obtain ⟨hk, hn⟩ := List.nodup_cons.1 h
    have new : k ∉ ns.map Prod.fst := fun hmem => hk (List.mem_append_right _ hmem)
    have inserted : (insertMember k v ns).Perm ((k, v) :: ns) := insertMember_perm new
    have apart : (ms.map Prod.fst ++ (insertMember k v ns).map Prod.fst).Nodup := by
      refine (((inserted.map Prod.fst).append_left _).nodup_iff).2 ?_
      exact List.nodup_middle.2 (List.nodup_cons.2 ⟨hk, hn⟩)
    exact (ih apart).trans ((inserted.append_left ms).trans List.perm_middle)

/-- Members with different keys are all kept. -/
theorem sortMembers_perm (h : (ms.map Prod.fst).Nodup) : (sortMembers ms).Perm ms := by
  have apart : (ms.map Prod.fst ++ ([] : List (String × α)).map Prod.fst).Nodup := by simpa using h
  have fold := foldl_insertMember_perm apart
  rwa [List.append_nil] at fold

theorem insertMember_last (h : ∀ m ∈ ms, m.1 < key) : insertMember key v ms = ms ++ [(key, v)] := by
  induction ms with
  | nil => rfl
  | cons m ms ih =>
    obtain ⟨k, w⟩ := m
    have hk : k < key := h (k, w) List.mem_cons_self
    have notBefore : ¬ lt key k = true := fun hlt => lt_asymm hk ((lt_iff key k).1 hlt)
    unfold insertMember
    rw [if_neg (by simpa using hk.ne'), if_neg notBefore, ih fun m hm => h m (List.mem_cons_of_mem _ hm)]
    rfl

/-- Members that come in order are put behind those before them. -/
theorem foldl_insertMember_of_keyOrdered (h : KeyOrdered (ns ++ ms)) :
    ms.foldl (fun sorted (k, v) => insertMember k v sorted) ns = ns ++ ms := by
  induction ms generalizing ns with
  | nil => exact (List.append_nil ns).symm
  | cons m ms ih =>
    obtain ⟨k, v⟩ := m
    have before : ∀ m ∈ ns, m.1 < k := fun m hm => (List.pairwise_append.1 h).2.2 m hm _ List.mem_cons_self
    show ms.foldl _ (insertMember k v ns) = _
    rw [insertMember_last before, List.append_cons ns (k, v) ms]
    rw [List.append_cons] at h
    exact ih h

/-- Members in order stay as they are. -/
theorem sortMembers_of_keyOrdered (h : KeyOrdered ms) : sortMembers ms = ms :=
  foldl_insertMember_of_keyOrdered (List.nil_append ms ▸ h)

end

/-! ## Nesting -/

mutual

/-- How many arrays and objects stand in each other in a value. -/
def Value.depth : Value → Nat
  | .array items => itemsDepth items + 1
  | .object members => membersDepth members + 1
  | .null => 0
  | .bool _ => 0
  | .number _ => 0
  | .string _ => 0

/-- The largest depth of the items. -/
def itemsDepth : List Value → Nat
  | [] => 0
  | v :: vs => max v.depth (itemsDepth vs)

/-- The largest depth of the members. -/
def membersDepth : List (String × Value) → Nat
  | [] => 0
  | (_, v) :: ms => max v.depth (membersDepth ms)

end

theorem itemsDepth_le_iff {vs : List Value} {n : Nat} : itemsDepth vs ≤ n ↔ ∀ v ∈ vs, v.depth ≤ n := by
  induction vs with
  | nil => exact iff_of_true (Nat.zero_le n) fun v hv => absurd hv List.not_mem_nil
  | cons v vs ih => rw [itemsDepth, Nat.max_le, ih, List.forall_mem_cons]

theorem membersDepth_le_iff {ms : List (String × Value)} {n : Nat} : membersDepth ms ≤ n ↔ ∀ m ∈ ms, m.2.depth ≤ n := by
  induction ms with
  | nil => exact iff_of_true (Nat.zero_le n) fun m hm => absurd hm List.not_mem_nil
  | cons m ms ih =>
    obtain ⟨k, v⟩ := m
    rw [membersDepth, Nat.max_le, ih, List.forall_mem_cons]

/-! ## Reading a value -/

mutual

/-- All objects in the value have their members in order. -/
def Value.Ordered : Value → Prop
  | .array items => ItemsOrdered items
  | .object members => KeyOrdered members ∧ MembersOrdered members
  | .null => True
  | .bool _ => True
  | .number _ => True
  | .string _ => True

/-- All objects in the items have their members in order. -/
def ItemsOrdered : List Value → Prop
  | [] => True
  | v :: vs => v.Ordered ∧ ItemsOrdered vs

/-- All objects in the members have their members in order. -/
def MembersOrdered : List (String × Value) → Prop
  | [] => True
  | (_, v) :: ms => v.Ordered ∧ MembersOrdered ms

end

mutual

/-- The value with the members of its objects in the order of their keys; of two with one key the
later stays. -/
def Value.sorted : Value → Value
  | .array items => .array (sortedItems items)
  | .object members => .ofMembers (sortedMembers members)
  | .null => .null
  | .bool b => .bool b
  | .number n => .number n
  | .string s => .string s

/-- The items with the members of their objects in order. -/
def sortedItems : List Value → List Value
  | [] => []
  | v :: vs => v.sorted :: sortedItems vs

/-- The members, each with those of its objects in order. -/
def sortedMembers : List (String × Value) → List (String × Value)
  | [] => []
  | (k, v) :: ms => (k, v.sorted) :: sortedMembers ms

end

mutual

/-- A tree that shows a value is read as it, with members in order, if the reader goes deep enough. -/
theorem read_sorted : ∀ (v : Value) (n : Node) (depth : Nat), v.ShownBy n → v.depth < depth →
    n.read depth = .ok v.sorted
  | .null, n, depth, h, _ => by
    cases n with
    | null => rfl
    | _ => cases h
  | .bool b, n, depth, h, _ => by
    cases n with
    | bool c stop =>
      obtain rfl : c = b := h
      rfl
    | _ => cases h
  | .number x, n, depth, h, _ => by
    cases n with
    | number m start stop =>
      obtain rfl : m = .ok x := h
      rfl
    | _ => cases h
  | .string s, n, depth, h, _ => by
    cases n with
    | string t start stop =>
      obtain rfl : t = .ok s := h
      rfl
    | _ => cases h
  | .array vs, n, depth, h, hd => by
    cases n with
    | array start ns close =>
      cases close with
      | broken => cases h
      | closed stop =>
        rw [Value.depth] at hd
        have items := readItems_sorted vs ns (depth - 1) 0 h (by omega)
        rw [Node.read, if_neg (by omega), items]
        rfl
    | _ => cases h
  | .object ms, n, depth, h, hd => by
    cases n with
    | object start ns close =>
      cases close with
      | broken => cases h
      | closed stop =>
        rw [Value.depth] at hd
        have members := readMembers_sorted ms ns (depth - 1) h (by omega)
        rw [Node.read, if_neg (by omega), members]
        rfl
    | _ => cases h

theorem readItems_sorted : ∀ (vs : List Value) (ns : List Node) (depth i : Nat), ItemsShown vs ns →
    itemsDepth vs < depth → readItems depth i ns = .ok (sortedItems vs)
  | [], ns, depth, i, h, _ => by
    cases ns with
    | nil => rfl
    | cons => cases h
  | v :: vs, ns, depth, i, h, hd => by
    cases ns with
    | nil => cases h
    | cons n ns =>
      rw [itemsDepth] at hd
      rw [readItems, read_sorted v n depth h.1 (by omega), readItems_sorted vs ns depth (i + 1) h.2 (by omega)]
      rfl

theorem readMembers_sorted : ∀ (ms : List (String × Value)) (ns : List (Key × Node)) (depth : Nat),
    MembersShown ms ns → membersDepth ms < depth → readMembers depth ns = .ok (sortedMembers ms)
  | [], ns, depth, h, _ => by
    cases ns with
    | nil => rfl
    | cons => cases h
  | (k, v) :: ms, ns, depth, h, hd => by
    cases ns with
    | nil => cases h
    | cons n ns =>
      obtain ⟨key, n⟩ := n
      obtain ⟨hkey, hn, more⟩ := h
      rw [membersDepth] at hd
      rw [readMembers, hkey, read_sorted v n depth hn (by omega), readMembers_sorted ms ns depth more (by omega)]
      rfl

end

mutual

/-- A value whose members are in order stays as it is. -/
theorem Value.Ordered.sorted_eq : ∀ {v : Value}, v.Ordered → v.sorted = v
  | .null, _ => rfl
  | .bool _, _ => rfl
  | .number _, _ => rfl
  | .string _, _ => rfl
  | .array _, h => congrArg Value.array (ItemsOrdered.sorted_eq h)
  | .object _, h => by rw [Value.sorted, MembersOrdered.sorted_eq h.2, Value.ofMembers, sortMembers_of_keyOrdered h.1]

theorem ItemsOrdered.sorted_eq : ∀ {vs : List Value}, ItemsOrdered vs → sortedItems vs = vs
  | [], _ => rfl
  | _ :: _, h => by rw [sortedItems, Value.Ordered.sorted_eq h.1, ItemsOrdered.sorted_eq h.2]

theorem MembersOrdered.sorted_eq : ∀ {ms : List (String × Value)}, MembersOrdered ms → sortedMembers ms = ms
  | [], _ => rfl
  | (_, _) :: _, h => by rw [sortedMembers, Value.Ordered.sorted_eq h.1, MembersOrdered.sorted_eq h.2]

end

/-- A tree that shows a value with its members in order is read as it, if the reader goes deep
enough. -/
theorem read_shown (v : Value) (n : Node) (depth : Nat) (ordered : v.Ordered) (h : v.ShownBy n) (hd : v.depth < depth) :
    n.read depth = .ok v := by
  rw [read_sorted v n depth h hd, ordered.sorted_eq]

end QueryGateway.Json
