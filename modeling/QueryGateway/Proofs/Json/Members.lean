import Mathlib.Data.List.Perm.Basic
import QueryGateway.Proofs.Json.Accepted

/-!
# Members in any order

The members of an object may stand in a text in any order. The gateway keeps them in the order of
their keys, so that a value whose keys differ is kept in one form. Main statement: whatever order a
text has chosen, the value is read in that form.
-/

namespace QueryGateway.Json

open Text

/-! ## Values up to the order of members -/

mutual

/-- The values differ at most in the order of the members of objects. -/
def Value.Same : Value → Value → Prop
  | .null, .null => True
  | .bool b, .bool c => b = c
  | .number m, .number n => m = n
  | .string s, .string t => s = t
  | .array vs, .array ws => ItemsSame vs ws
  | .object ms, .object ns => ∃ ks, MembersSame ms ks ∧ ks.Perm ns
  | _, _ => False

/-- The items are the same one by one. -/
def ItemsSame : List Value → List Value → Prop
  | [], [] => True
  | v :: vs, w :: ws => v.Same w ∧ ItemsSame vs ws
  | _, _ => False

/-- The members have the same keys and values one by one. -/
def MembersSame : List (String × Value) → List (String × Value) → Prop
  | [], [] => True
  | (k, v) :: ms, (l, w) :: ns => k = l ∧ v.Same w ∧ MembersSame ms ns
  | _, _ => False

end

mutual

/-- No object in the value has a key twice. -/
def Value.Distinct : Value → Prop
  | .array items => ItemsDistinct items
  | .object members => (members.map Prod.fst).Nodup ∧ MembersDistinct members
  | .null => True
  | .bool _ => True
  | .number _ => True
  | .string _ => True

/-- No object in the items has a key twice. -/
def ItemsDistinct : List Value → Prop
  | [] => True
  | v :: vs => v.Distinct ∧ ItemsDistinct vs

/-- No object in the members has a key twice. -/
def MembersDistinct : List (String × Value) → Prop
  | [] => True
  | (_, v) :: ms => v.Distinct ∧ MembersDistinct ms

end

/-! ## The order of the keys -/

theorem KeyOrdered.nodup_keys {α : Type} {ms : List (String × α)} (h : KeyOrdered ms) : (ms.map Prod.fst).Nodup :=
  List.pairwise_map.2 (h.imp fun hlt => hlt.ne)

/-- Members in order are what becomes of them in any order. -/
theorem sortMembers_of_perm {α : Type} {ms ns : List (String × α)} (h : KeyOrdered ms) (perm : ms.Perm ns) :
    sortMembers ns = ms := by
  have keys : (ns.map Prod.fst).Nodup := (perm.map Prod.fst).nodup_iff.1 h.nodup_keys
  refine ((sortMembers_perm keys).trans perm.symm).eq_of_pairwise ?_ (keyOrdered_sortMembers ns) h
  exact fun a b _ _ hab hba => absurd hba (lt_asymm hab)

theorem sortedMembers_eq_map (ms : List (String × Value)) : sortedMembers ms = ms.map fun m => (m.1, m.2.sorted) := by
  induction ms with
  | nil => rfl
  | cons m ms ih => rw [sortedMembers, ih, List.map_cons]

mutual

/-- A value in order is what becomes of it in any order. -/
theorem Value.sorted_of_same : ∀ {v w : Value}, v.Ordered → v.Same w → w.sorted = v
  | .null, w, _, h => by
    cases w with
    | null => rfl
    | _ => cases h
  | .bool b, w, _, h => by
    cases w with
    | bool c => exact congrArg Value.bool (Eq.symm h)
    | _ => cases h
  | .number m, w, _, h => by
    cases w with
    | number n => exact congrArg Value.number (Eq.symm h)
    | _ => cases h
  | .string s, w, _, h => by
    cases w with
    | string t => exact congrArg Value.string (Eq.symm h)
    | _ => cases h
  | .array vs, w, ordered, h => by
    cases w with
    | array ws => exact congrArg Value.array (sortedItems_of_same ordered h)
    | _ => cases h
  | .object ms, w, ordered, h => by
    cases w with
    | object ns =>
      obtain ⟨ks, same, perm⟩ := h
      have members : ms.Perm (sortedMembers ns) := by
        have permuted := perm.map fun m : String × Value => (m.1, m.2.sorted)
        rwa [← sortedMembers_eq_map, ← sortedMembers_eq_map, sortedMembers_of_same ordered.2 same] at permuted
      exact congrArg Value.object (sortMembers_of_perm ordered.1 members)
    | _ => cases h

theorem sortedItems_of_same : ∀ {vs ws : List Value}, ItemsOrdered vs → ItemsSame vs ws → sortedItems ws = vs
  | [], ws, _, h => by
    cases ws with
    | nil => rfl
    | cons => cases h
  | v :: vs, ws, ordered, h => by
    cases ws with
    | nil => cases h
    | cons w ws => rw [sortedItems, Value.sorted_of_same ordered.1 h.1, sortedItems_of_same ordered.2 h.2]

theorem sortedMembers_of_same : ∀ {ms ns : List (String × Value)}, MembersOrdered ms → MembersSame ms ns →
    sortedMembers ns = ms
  | [], ns, _, h => by
    cases ns with
    | nil => rfl
    | cons => cases h
  | (k, v) :: ms, ns, ordered, h => by
    cases ns with
    | nil => cases h
    | cons n ns =>
      obtain ⟨l, w⟩ := n
      obtain ⟨rfl, same, more⟩ := h
      rw [sortedMembers, Value.sorted_of_same ordered.1 same, sortedMembers_of_same ordered.2 more]

end

/-! ## One form for each value -/

mutual

theorem Value.ordered_sorted : ∀ v : Value, v.sorted.Ordered
  | .null => trivial
  | .bool _ => trivial
  | .number _ => trivial
  | .string _ => trivial
  | .array vs => itemsOrdered_sorted vs
  | .object ms => by
    refine ⟨keyOrdered_sortMembers _, membersOrdered_iff.2 fun m hm => ?_⟩
    exact membersOrdered_iff.1 (membersOrdered_sorted ms) m (mem_of_mem_sortMembers hm)

theorem itemsOrdered_sorted : ∀ vs : List Value, ItemsOrdered (sortedItems vs)
  | [] => trivial
  | v :: vs => ⟨v.ordered_sorted, itemsOrdered_sorted vs⟩

theorem membersOrdered_sorted : ∀ ms : List (String × Value), MembersOrdered (sortedMembers ms)
  | [] => trivial
  | (_, v) :: ms => ⟨v.ordered_sorted, membersOrdered_sorted ms⟩

end

theorem membersSame_iff {ms ns : List (String × Value)} :
    MembersSame ms ns ↔ List.Forall₂ (fun m n => m.1 = n.1 ∧ m.2.Same n.2) ms ns := by
  induction ms generalizing ns with
  | nil => cases ns <;> simp [MembersSame]
  | cons m ms ih => cases ns <;> simp [MembersSame, ih, and_assoc]

mutual

/-- Where no key stands twice, members that are put in order are all kept. -/
theorem Value.Distinct.same_sorted : ∀ {v : Value}, v.Distinct → v.sorted.Same v
  | .null, _ => trivial
  | .bool _, _ => rfl
  | .number _, _ => rfl
  | .string _, _ => rfl
  | .array _, h => ItemsDistinct.same_sorted h
  | .object ms, h => by
    have keys : (sortedMembers ms).map Prod.fst = ms.map Prod.fst := by
      rw [sortedMembers_eq_map, List.map_map]
      rfl
    have perm : (sortMembers (sortedMembers ms)).Perm (sortedMembers ms) := sortMembers_perm (keys ▸ h.1)
    obtain ⟨ks, same, permuted⟩ := List.perm_comp_forall₂ perm (membersSame_iff.1 (MembersDistinct.same_sorted h.2))
    exact ⟨ks, membersSame_iff.2 same, permuted⟩

theorem ItemsDistinct.same_sorted : ∀ {vs : List Value}, ItemsDistinct vs → ItemsSame (sortedItems vs) vs
  | [], _ => trivial
  | _ :: _, h => ⟨Value.Distinct.same_sorted h.1, ItemsDistinct.same_sorted h.2⟩

theorem MembersDistinct.same_sorted : ∀ {ms : List (String × Value)}, MembersDistinct ms →
    MembersSame (sortedMembers ms) ms
  | [], _ => trivial
  | (_, _) :: _, h => ⟨rfl, Value.Distinct.same_sorted h.1, MembersDistinct.same_sorted h.2⟩

end

/-! ## Depth -/

theorem membersDepth_perm {ms ns : List (String × Value)} (h : ms.Perm ns) : membersDepth ms = membersDepth ns := by
  refine Nat.le_antisymm (membersDepth_le_iff.2 fun m hm => ?_) (membersDepth_le_iff.2 fun m hm => ?_)
  · exact membersDepth_le_iff.1 (Nat.le_refl _) m (h.mem_iff.1 hm)
  · exact membersDepth_le_iff.1 (Nat.le_refl _) m (h.mem_iff.2 hm)

mutual

/-- The order of members does not change how deep a value is nested. -/
theorem Value.Same.depth_eq : ∀ {v w : Value}, v.Same w → v.depth = w.depth
  | .null, w, h => by
    cases w with
    | null => rfl
    | _ => cases h
  | .bool _, w, h => by
    cases w with
    | bool => rfl
    | _ => cases h
  | .number _, w, h => by
    cases w with
    | number => rfl
    | _ => cases h
  | .string _, w, h => by
    cases w with
    | string => rfl
    | _ => cases h
  | .array _, w, h => by
    cases w with
    | array ws => exact congrArg (· + 1) (ItemsSame.depth_eq h)
    | _ => cases h
  | .object _, w, h => by
    cases w with
    | object ns =>
      obtain ⟨ks, same, perm⟩ := h
      exact congrArg (· + 1) ((MembersSame.depth_eq same).trans (membersDepth_perm perm))
    | _ => cases h

theorem ItemsSame.depth_eq : ∀ {vs ws : List Value}, ItemsSame vs ws → itemsDepth vs = itemsDepth ws
  | [], ws, h => by
    cases ws with
    | nil => rfl
    | cons => cases h
  | _ :: _, ws, h => by
    cases ws with
    | nil => cases h
    | cons w ws => rw [itemsDepth, itemsDepth, Value.Same.depth_eq h.1, ItemsSame.depth_eq h.2]

theorem MembersSame.depth_eq : ∀ {ms ns : List (String × Value)}, MembersSame ms ns →
    membersDepth ms = membersDepth ns
  | [], ns, h => by
    cases ns with
    | nil => rfl
    | cons => cases h
  | (_, _) :: _, ns, h => by
    cases ns with
    | nil => cases h
    | cons n ns =>
      obtain ⟨l, w⟩ := n
      rw [membersDepth, membersDepth, Value.Same.depth_eq h.2.1, MembersSame.depth_eq h.2.2]

end

/-! ## Texts of a value -/

/-- The text is one of the value: with white space anywhere between its parts, any spelling of its
strings, and the members of its objects in any order. -/
def Value.Spelled (v : Value) (t : List Char) : Prop :=
  ∃ w front u back, v.Same w ∧ t = front ++ (u ++ back) ∧ Blank front ∧ w.Written u ∧ Blank back

/-- Whatever text of a value is read, it is the value. -/
theorem parse_spelled {v : Value} {text : String} (ordered : v.Ordered) (hd : v.depth < depthLimit)
    (h : v.Spelled text.toList) : Value.parse text = .ok v := by
  obtain ⟨w, front, u, back, same, split, blankFront, written, blankBack⟩ := h
  obtain ⟨n, document, shown⟩ := Document.ofChars_written written blankFront blankBack
  have read : n.read depthLimit = .ok v := by
    rw [read_sorted w n depthLimit shown (same.depth_eq ▸ hd), Value.sorted_of_same ordered same]
  unfold Value.parse
  rw [split, document]
  dsimp only
  rw [read]
  rfl

end QueryGateway.Json
