import QueryGateway.Proofs.Text.Splits

/-!
# White space around a text

To trim a text is to find what stands inside the white space around it. Two texts trim to one
exactly if they differ only in that white space, and what is inside has none around it.
-/

namespace QueryGateway.Text

/-- A text has characters, and no white space around them. -/
structure IsTidy (s : String) : Prop where
  nonempty : s ≠ ""
  trimmed : trim s = s

/-- Characters are others with nothing but white space around them. -/
def Surrounds (inside cs : List Char) : Prop :=
  ∃ front back, cs = front ++ inside ++ back ∧ (∀ c ∈ front, isBlank c = true) ∧ ∀ c ∈ back, isBlank c = true

/-- Two texts differ only in the white space around them. -/
def SameInside (s t : String) : Prop := ∃ inside, Surrounds inside s.toList ∧ Surrounds inside t.toList

variable {cs inside : List Char}

/-! ## Characters -/

theorem trimRight_append_blank {back : List Char} (h : ∀ c ∈ back, isBlank c = true) (cs : List Char) :
    trimRight (cs ++ back) = trimRight cs := by
  unfold trimRight
  rw [List.reverse_append, List.dropWhile_append_of_pos fun c hc => h c (List.mem_reverse.1 hc)]

/-- There is nothing behind what is trimmed on the right but white space. -/
theorem trimRight_append (cs : List Char) : ∃ back, cs = trimRight cs ++ back ∧ ∀ c ∈ back, isBlank c = true := by
  refine ⟨(cs.reverse.takeWhile isBlank).reverse, ?_, fun c hc => ?_⟩
  · unfold trimRight
    rw [← List.reverse_append, List.takeWhile_append_dropWhile, List.reverse_reverse]
  · exact List.mem_takeWhile_imp (List.mem_reverse.1 hc)

/-- White space around characters does not count. -/
theorem Surrounds.trimChars (h : Surrounds inside cs) : Text.trimChars cs = Text.trimChars inside := by
  obtain ⟨front, back, rfl, hfront, hback⟩ := h
  unfold Text.trimChars
  rw [List.append_assoc, List.dropWhile_append_of_pos hfront, List.dropWhile_append]
  split
  · -- There is nothing inside but white space.
    next empty =>
    rw [List.isEmpty_iff.1 empty, List.dropWhile_eq_nil_iff.2 hback]
  · exact trimRight_append_blank hback _

/-- What is trimmed away is white space on either side. -/
theorem surrounds_trimChars (cs : List Char) : Surrounds (trimChars cs) cs := by
  obtain ⟨back, hcs, hback⟩ := trimRight_append (cs.dropWhile isBlank)
  refine ⟨cs.takeWhile isBlank, back, ?_, fun c => List.mem_takeWhile_imp, hback⟩
  unfold trimChars
  rw [List.append_assoc, ← hcs, List.takeWhile_append_dropWhile]

theorem trimChars_eq_nil_iff (cs : List Char) : trimChars cs = [] ↔ ∀ c ∈ cs, isBlank c = true := by
  constructor
  · intro h
    obtain ⟨front, back, hcs, hfront, hback⟩ := surrounds_trimChars cs
    rw [hcs, h, List.append_nil]
    exact List.forall_mem_append.2 ⟨hfront, hback⟩
  · intro h
    unfold trimChars
    rw [List.dropWhile_eq_nil_iff.2 h]
    rfl

/-! ## Texts -/

/-- A text has nothing but white space. -/
def IsBlank (s : String) : Prop := ∀ c ∈ s.toList, isBlank c = true

/-- Nothing is left of such a text, and of no other. -/
theorem isEmpty_trim_iff (s : String) : (trim s).isEmpty = true ↔ IsBlank s := by
  rw [String.isEmpty_iff, ← String.toList_eq_nil_iff, IsBlank, ← trimChars_eq_nil_iff, trim, String.toList_ofList]

theorem toList_trim (s : String) : (trim s).toList = trimChars s.toList := String.toList_ofList

theorem trim_trim (s : String) : trim (trim s) = trim s := by
  unfold trim
  rw [String.toList_ofList, ← (surrounds_trimChars s.toList).trimChars]

theorem isTidy_trim {s : String} (h : trim s ≠ "") : IsTidy (trim s) := ⟨h, trim_trim s⟩

theorem sameInside_iff {s t : String} : SameInside s t ↔ trim s = trim t := by
  constructor
  · rintro ⟨inside, hs, ht⟩
    unfold trim
    rw [hs.trimChars, ht.trimChars]
  · intro h
    refine ⟨trimChars s.toList, surrounds_trimChars s.toList, ?_⟩
    rw [← toList_trim, h, toList_trim]
    exact surrounds_trimChars t.toList

end QueryGateway.Text
