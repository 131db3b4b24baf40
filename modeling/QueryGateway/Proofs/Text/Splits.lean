import Mathlib.Data.List.TakeWhile
import QueryGateway.Text

/-!
# Texts taken apart

A text that is put together of parts, with a separator that none of them holds, is taken apart
into these parts again.
-/

namespace QueryGateway.Text

variable {sep : Char} {cs : List Char}

/-! ## All occurrences of a separator -/

theorem splitAll_of_not_mem (h : sep ∉ cs) : splitAll sep cs = [cs] := by
  induction cs with
  | nil => rfl
  | cons c cs ih =>
    obtain ⟨hc, h⟩ := not_or.1 (mt List.mem_cons.2 h)
    rw [splitAll, ih h]
    exact if_neg (by simpa using Ne.symm hc)

theorem splitAll_ne_nil (sep : Char) (cs : List Char) : splitAll sep cs ≠ [] := by
  cases cs with
  | nil => exact List.cons_ne_nil _ _
  | cons c cs =>
    rw [splitAll]
    split
    · exact List.cons_ne_nil _ _
    · split <;> exact List.cons_ne_nil _ _

theorem splitAll_append (h : sep ∉ cs) (rest : List Char) :
    splitAll sep (cs ++ sep :: rest) = cs :: splitAll sep rest := by
  induction cs with
  | nil =>
    rw [List.nil_append, splitAll]
    cases parts : splitAll sep rest with
    | nil => exact absurd parts (splitAll_ne_nil sep rest)
    | cons part parts => exact if_pos (beq_self_eq_true sep)
  | cons c cs ih =>
    obtain ⟨hc, h⟩ := not_or.1 (mt List.mem_cons.2 h)
    rw [List.cons_append, splitAll, ih h]
    exact if_neg (by simpa using Ne.symm hc)

theorem splitAll_intercalate {part : List Char} {parts : List (List Char)} (h : ∀ p ∈ part :: parts, sep ∉ p) :
    splitAll sep (List.intercalate [sep] (part :: parts)) = part :: parts := by
  induction parts generalizing part with
  | nil =>
    rw [List.intercalate_singleton]
    exact splitAll_of_not_mem (h part List.mem_cons_self)
  | cons next parts ih =>
    rw [List.intercalate_cons_cons, List.append_assoc, List.singleton_append,
      splitAll_append (h part List.mem_cons_self), ih fun p hp => h p (List.mem_cons_of_mem part hp)]

/-- The text between separators is the text. -/
theorem intercalate_splitAll (sep : Char) (cs : List Char) : List.intercalate [sep] (splitAll sep cs) = cs := by
  induction cs with
  | nil => rfl
  | cons c cs ih =>
    rw [splitAll]
    cases hparts : splitAll sep cs with
    | nil => exact absurd hparts (splitAll_ne_nil sep cs)
    | cons part parts =>
      rw [hparts] at ih
      dsimp only
      split
      · next hc =>
        rw [List.intercalate_cons_cons, ih, beq_iff_eq.1 hc]
        rfl
      · cases parts with
        | nil =>
          rw [List.intercalate_singleton] at ih ⊢
          rw [ih]
        | cons next parts =>
          rw [List.intercalate_cons_cons] at ih ⊢
          rw [← ih]
          rfl

/-- No part holds the separator, and the parts hold no other characters than the text. -/
theorem mem_splitAll {part : List Char} (h : part ∈ splitAll sep cs) : sep ∉ part ∧ ∀ c ∈ part, c ∈ cs := by
  induction cs generalizing part with
  | nil =>
    rw [List.mem_singleton.1 h]
    exact ⟨List.not_mem_nil, nofun⟩
  | cons c cs ih =>
    rw [splitAll] at h
    cases parts : splitAll sep cs with
    | nil => exact absurd parts (splitAll_ne_nil sep cs)
    | cons first parts =>
      rw [parts] at h ih
      dsimp only at h
      split at h
      · rcases List.mem_cons.1 h with rfl | h
        · exact ⟨List.not_mem_nil, nofun⟩
        · exact ⟨(ih h).1, fun d hd => List.mem_cons_of_mem c ((ih h).2 d hd)⟩
      · next hc =>
        rcases List.mem_cons.1 h with rfl | h
        · obtain ⟨free, mem⟩ := ih List.mem_cons_self
          refine ⟨fun hsep => ?_, fun d hd => ?_⟩
          · rcases List.mem_cons.1 hsep with rfl | hsep
            · exact hc (beq_self_eq_true sep)
            · exact free hsep
          · rcases List.mem_cons.1 hd with rfl | hd
            · exact List.mem_cons_self
            · exact List.mem_cons_of_mem c (mem d hd)
        · obtain ⟨free, mem⟩ := ih (List.mem_cons_of_mem first h)
          exact ⟨free, fun d hd => List.mem_cons_of_mem c (mem d hd)⟩

/-- There is nothing but the parts and the separator between them. -/
theorem mem_intercalate {parts : List (List Char)} {c : Char} (h : c ∈ List.intercalate [sep] parts) :
    c = sep ∨ ∃ part ∈ parts, c ∈ part := by
  induction parts with
  | nil => cases h
  | cons part parts ih =>
    cases parts with
    | nil =>
      rw [List.intercalate_singleton] at h
      exact .inr ⟨part, List.mem_cons_self, h⟩
    | cons next parts =>
      rw [List.intercalate_cons_cons] at h
      rcases List.mem_append.1 h with h | h
      · rcases List.mem_append.1 h with h | h
        · exact .inr ⟨part, List.mem_cons_self, h⟩
        · exact .inl (List.mem_singleton.1 h)
      · rcases ih h with hsep | ⟨p, hp, hc⟩
        · exact .inl hsep
        · exact .inr ⟨p, List.mem_cons_of_mem part hp, hc⟩

/-! ## The first occurrence -/

theorem splitFirst_of_not_mem (h : sep ∉ cs) : splitFirst sep cs = none := by
  induction cs with
  | nil => rfl
  | cons c cs ih =>
    obtain ⟨hc, h⟩ := not_or.1 (mt List.mem_cons.2 h)
    rw [splitFirst, if_neg (by simpa using Ne.symm hc), ih h]
    rfl

theorem splitFirst_append (h : sep ∉ cs) (rest : List Char) :
    splitFirst sep (cs ++ sep :: rest) = some (cs, rest) := by
  induction cs with
  | nil => exact if_pos (beq_self_eq_true sep)
  | cons c cs ih =>
    obtain ⟨hc, h⟩ := not_or.1 (mt List.mem_cons.2 h)
    rw [List.cons_append, splitFirst, if_neg (by simpa using Ne.symm hc), ih h]
    rfl

theorem mem_of_splitFirst {before after : List Char} (h : splitFirst sep cs = some (before, after)) :
    cs = before ++ sep :: after ∧ sep ∉ before := by
  induction cs generalizing before with
  | nil => cases h
  | cons c cs ih =>
    rw [splitFirst] at h
    split at h
    · next hc =>
      cases h
      rw [beq_iff_eq.1 hc]
      exact ⟨rfl, List.not_mem_nil⟩
    · next hc =>
      obtain ⟨⟨front, rest⟩, hfront, heq⟩ := Option.map_eq_some_iff.1 h
      cases heq
      obtain ⟨rfl, free⟩ := ih hfront
      refine ⟨rfl, fun hsep => ?_⟩
      rcases List.mem_cons.1 hsep with rfl | hsep
      · exact hc (beq_self_eq_true sep)
      · exact free hsep

/-! ## Up to a character of a kind -/

/-- What stands in front of characters that stop a search is found by it. -/
theorem takeWhile_stops {p : Char → Bool} (h : ∀ c ∈ cs, p c = true) {rest : List Char}
    (stops : ∀ c ∈ rest.head?, p c = false) :
    (cs ++ rest).takeWhile p = cs ∧ (cs ++ rest).dropWhile p = rest := by
  induction cs with
  | nil =>
    cases rest with
    | nil => exact ⟨rfl, rfl⟩
    | cons c rest =>
      have hc : p c = false := stops c rfl
      simp [hc]
  | cons c cs ih =>
    obtain ⟨take, drop⟩ := ih fun d hd => h d (List.mem_cons_of_mem c hd)
    simp [h c List.mem_cons_self, take, drop]

/-- What a search leaves begins with what stops it. -/
theorem head_dropWhile {α : Type} {p : α → Bool} {cs : List α} : ∀ c ∈ (cs.dropWhile p).head?, p c = false := by
  induction cs with
  | nil => exact nofun
  | cons c cs ih =>
    intro d hd
    rw [List.dropWhile_cons] at hd
    split at hd
    · exact ih d hd
    · next hc =>
      cases hd
      simpa using hc

end QueryGateway.Text
