/-!
# Sorting

Insertion sort. Items that the order puts on one level stay in the order they had.
-/

namespace QueryGateway

/-- A sorted list with an item put in front of the first one it may stand before. -/
def insertSorted {α : Type} (le : α → α → Bool) (a : α) : List α → List α
  | [] => [a]
  | b :: bs => if le a b then a :: b :: bs else b :: insertSorted le a bs

/-- The items of a list in order. -/
def sorted {α : Type} (le : α → α → Bool) (as : List α) : List α :=
  as.foldr (insertSorted le) []

/-- Sorting neither loses an item nor makes one. -/
theorem insertSorted_perm {α : Type} (le : α → α → Bool) (a : α) (as : List α) :
    (insertSorted le a as).Perm (a :: as) := by
  induction as with
  | nil => exact .refl _
  | cons b bs ih =>
    by_cases h : le a b
    · simp [insertSorted, h]
    · simpa [insertSorted, h] using (ih.cons b).trans (.swap a b bs)

/-- The sorted list has the items of the list. -/
theorem sorted_perm {α : Type} (le : α → α → Bool) (as : List α) : (sorted le as).Perm as := by
  induction as with
  | nil => exact .refl _
  | cons a as ih => exact (insertSorted_perm le a (sorted le as)).trans (ih.cons a)

/-- Putting an item in keeps the list in order, if any two items have an order. -/
theorem insertSorted_pairwise {α : Type} {le : α → α → Bool} (total : ∀ a b, le a b = true ∨ le b a = true)
    (trans : ∀ a b c, le a b = true → le b c = true → le a c = true) (a : α) {as : List α}
    (h : as.Pairwise fun b c => le b c = true) : (insertSorted le a as).Pairwise fun b c => le b c = true := by
  induction as with
  | nil => exact List.pairwise_singleton _ a
  | cons b bs ih =>
    obtain ⟨hb, hbs⟩ := List.pairwise_cons.1 h
    by_cases hab : le a b
    · rw [insertSorted, if_pos hab]
      refine List.pairwise_cons.2 ⟨fun c hc => ?_, h⟩
      rcases List.mem_cons.1 hc with rfl | hc
      · exact hab
      · exact trans a b c hab (hb c hc)
    · rw [insertSorted, if_neg hab]
      refine List.pairwise_cons.2 ⟨fun c hc => ?_, ih hbs⟩
      rcases List.mem_cons.1 ((insertSorted_perm le a bs).mem_iff.1 hc) with rfl | hc
      · exact (total c b).resolve_left hab
      · exact hb c hc

/-- The sorted list is in order. -/
theorem sorted_pairwise {α : Type} {le : α → α → Bool} (total : ∀ a b, le a b = true ∨ le b a = true)
    (trans : ∀ a b c, le a b = true → le b c = true → le a c = true) (as : List α) :
    (sorted le as).Pairwise fun b c => le b c = true := by
  induction as with
  | nil => exact .nil
  | cons a as ih => exact insertSorted_pairwise total trans a ih

/-- Items that are sorted by what is made of them are sorted before or after it is made. -/
theorem sorted_map {α β : Type} (le : β → β → Bool) (f : α → β) (as : List α) :
    sorted le (as.map f) = (sorted (fun a b => le (f a) (f b)) as).map f := by
  have insert (a : α) (bs : List α) :
      insertSorted le (f a) (bs.map f) = (insertSorted (fun a b => le (f a) (f b)) a bs).map f := by
    induction bs with
    | nil => rfl
    | cons b bs ih =>
      simp only [List.map_cons, insertSorted]
      split
      · rfl
      · rw [ih, List.map_cons]
  induction as with
  | nil => rfl
  | cons a as ih =>
    show insertSorted le (f a) (sorted le (as.map f)) = (insertSorted _ a (sorted _ as)).map f
    rw [ih, insert]

/-- An item that may stand before all others is put in front of them. -/
theorem insertSorted_of_forall {α : Type} {le : α → α → Bool} {a : α} {as : List α} (h : ∀ b ∈ as, le a b = true) :
    insertSorted le a as = a :: as := by
  cases as with
  | nil => rfl
  | cons b bs => rw [insertSorted, if_pos (h b List.mem_cons_self)]

/-- Items that are left out of a sorted list are left out before or after an item is put in. -/
theorem insertSorted_filter {α : Type} {le : α → α → Bool}
    (trans : ∀ a b c, le a b = true → le b c = true → le a c = true) (p : α → Bool) (a : α) {as : List α}
    (h : as.Pairwise fun b c => le b c = true) :
    (insertSorted le a as).filter p = if p a then insertSorted le a (as.filter p) else as.filter p := by
  induction as with
  | nil => cases hp : p a <;> simp [insertSorted, hp]
  | cons b bs ih =>
    obtain ⟨hb, hbs⟩ := List.pairwise_cons.1 h
    by_cases hab : le a b
    · -- What may stand before the first may stand before all that are left.
      have front : insertSorted le a ((b :: bs).filter p) = a :: (b :: bs).filter p := by
        refine insertSorted_of_forall fun c hc => ?_
        rcases List.mem_cons.1 (List.mem_filter.1 hc).1 with rfl | hc
        · exact hab
        · exact trans a b c hab (hb c hc)
      rw [insertSorted, if_pos hab, front, List.filter_cons]
    · rw [insertSorted, if_neg hab, List.filter_cons, List.filter_cons, ih hbs]
      cases hpb : p b <;> cases hpa : p a <;> simp [insertSorted, hab]

/-- Items that are left out are left out before or after the others are sorted. -/
theorem sorted_filter {α : Type} {le : α → α → Bool} (total : ∀ a b, le a b = true ∨ le b a = true)
    (trans : ∀ a b c, le a b = true → le b c = true → le a c = true) (p : α → Bool) (as : List α) :
    (sorted le as).filter p = sorted le (as.filter p) := by
  induction as with
  | nil => rfl
  | cons a as ih =>
    show (insertSorted le a (sorted le as)).filter p = _
    rw [insertSorted_filter trans p a (sorted_pairwise total trans as), ih, List.filter_cons]
    cases p a <;> rfl

end QueryGateway
