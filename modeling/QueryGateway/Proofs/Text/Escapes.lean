import QueryGateway.Text.Utf8

/-!
# Escapes

What is escaped stays as it is when it is escaped again, as long as neither the percent sign nor
the digits behind it are escaped. And a text without percent signs is not changed by reading
escapes.
-/

namespace QueryGateway.Text

/-- What holds of the first 128 characters holds of every ASCII character. -/
theorem forall_ascii {P : Char → Prop} (h : ∀ n, n < 0x80 → P (Char.ofNat n)) {c : Char} (hc : c.toNat < 0x80) :
    P c := by
  have := h c.toNat hc
  rwa [Char.ofNat_toNat] at this

/-- What comes before an ASCII character is one. -/
theorem ascii_of_le {c d : Char} (h : c ≤ d) (ascii : d.toNat < 0x80) : c.toNat < 0x80 :=
  Nat.lt_of_le_of_lt (UInt32.le_iff_toNat_le.1 h) ascii

theorem ascii_of_isDigit {c : Char} (h : isDigit c = true) : c.toNat < 0x80 := by
  simp only [isDigit, Bool.and_eq_true, decide_eq_true_eq] at h
  exact ascii_of_le h.2 (by decide)

theorem ascii_of_isLetter {c : Char} (h : isLetter c = true) : c.toNat < 0x80 := by
  simp only [isLetter, Bool.or_eq_true, Bool.and_eq_true, decide_eq_true_eq] at h
  rcases h with ⟨-, h⟩ | ⟨-, h⟩
  · exact ascii_of_le h (by decide)
  · exact ascii_of_le h (by decide)

theorem ascii_of_isHexDigit {c : Char} (h : isHexDigit c = true) : c.toNat < 0x80 := by
  unfold isHexDigit hexDigit? at h
  split at h
  · next bounds =>
    simp only [Bool.and_eq_true, decide_eq_true_eq] at bounds
    exact ascii_of_le bounds.2 (by decide)
  · split at h
    · next bounds =>
      simp only [Bool.and_eq_true, decide_eq_true_eq] at bounds
      exact ascii_of_le bounds.2 (by decide)
    · split at h
      · next bounds =>
        simp only [Bool.and_eq_true, decide_eq_true_eq] at bounds
        exact ascii_of_le bounds.2 (by decide)
      · cases h

/-- There is nothing to escape: all characters are ASCII, and none is of the set. -/
def Escaped (set : Char → Bool) (cs : List Char) : Prop := ∀ c ∈ cs, c.toNat < 0x80 ∧ set c = false

variable {set : Char → Bool} {cs : List Char}

/-- Escapes do not change what has nothing to escape. -/
theorem percentEncode_of_escaped (h : Escaped set cs) : percentEncode set cs = cs := by
  induction cs with
  | nil => rfl
  | cons c cs ih =>
    obtain ⟨small, plain⟩ := h c List.mem_cons_self
    have single : ¬(c.toNat ≥ 0x80 || set c) = true := by simp [small, plain]
    have rest := ih fun d hd => h d (List.mem_cons_of_mem c hd)
    unfold percentEncode at rest ⊢
    rw [List.flatMap_cons, if_neg single, rest]
    rfl

/-- A byte has two hexadecimal digits. -/
theorem lt_of_mem_utf8Char {c : Char} {b : Nat} (h : b ∈ utf8Char c) : b < 256 := by
  have bound : c.toNat < 0x110000 := by
    rcases c.valid with h | ⟨-, h⟩
    · have : c.toNat < 0xD800 := h
      omega
    · exact h
  unfold utf8Char at h
  dsimp only at h
  split at h
  · simp only [List.mem_cons, List.not_mem_nil, or_false] at h
    omega
  · split at h
    · simp only [List.mem_cons, List.not_mem_nil, or_false] at h
      omega
    · split at h <;> simp only [List.mem_cons, List.not_mem_nil, or_false] at h <;> omega

/-- A set leaves the characters of escapes alone. -/
structure SparesEscapes (set : Char → Bool) : Prop where
  percent : set '%' = false
  digits : ∀ d, d < 16 → set (hexChar true d) = false

/-- A character of a text with escapes is one that was not to be escaped, or part of an escape. -/
theorem mem_percentEncode {c : Char} (h : c ∈ percentEncode set cs) :
    (c ∈ cs ∧ c.toNat < 0x80 ∧ set c = false) ∨ c = '%' ∨ ∃ d < 16, c = hexChar true d := by
  unfold percentEncode at h
  obtain ⟨d, hd, hc⟩ := List.mem_flatMap.1 h
  split at hc
  · obtain ⟨b, hb, hc⟩ := List.mem_flatMap.1 hc
    have := lt_of_mem_utf8Char hb
    simp only [List.mem_cons, List.not_mem_nil, or_false] at hc
    rcases hc with rfl | rfl | rfl
    · exact .inr (.inl rfl)
    · exact .inr (.inr ⟨b / 16, by omega, rfl⟩)
    · exact .inr (.inr ⟨b % 16, by omega, rfl⟩)
  · next plain =>
    cases List.mem_singleton.1 hc
    simp only [Bool.or_eq_true, decide_eq_true_eq, not_or, Bool.not_eq_true] at plain
    exact .inl ⟨hd, by omega, plain.2⟩

theorem percentEncode_append (cs ds : List Char) :
    percentEncode set (cs ++ ds) = percentEncode set cs ++ percentEncode set ds := List.flatMap_append

/-- The escaped text begins as the text does, or with a percent sign. -/
theorem head?_percentEncode (c : Char) (cs : List Char) :
    (percentEncode set (c :: cs)).head? = some c ∨ (percentEncode set (c :: cs)).head? = some '%' := by
  unfold percentEncode
  rw [List.flatMap_cons]
  by_cases hc : (c.toNat ≥ 0x80 || set c) = true
  · refine .inr ?_
    rw [if_pos hc, utf8Char]
    repeat' split
    all_goals rfl
  · rw [if_neg hc]
    exact .inl rfl

theorem percentEncode_ne_nil (h : cs ≠ []) : percentEncode set cs ≠ [] := by
  cases cs with
  | nil => exact absurd rfl h
  | cons c cs =>
    intro empty
    have front : (percentEncode set (c :: cs)).head? = some c ∨ (percentEncode set (c :: cs)).head? = some '%' :=
      head?_percentEncode c cs
    rw [empty] at front
    simp at front

/-- Escapes bring in no character of a set that spares them. -/
theorem spared_percentEncode {other : Char → Bool} (spares : SparesEscapes other)
    (h : ∀ c ∈ cs, other c = false) : ∀ c ∈ percentEncode set cs, other c = false := by
  intro c hc
  rcases mem_percentEncode hc with ⟨hc, -⟩ | rfl | ⟨d, hd, rfl⟩
  · exact h c hc
  · exact spares.percent
  · exact spares.digits d hd

/-- Escapes at the end bring in no character of such a set either. -/
theorem last_percentEncode {other : Char → Bool} (spares : SparesEscapes other)
    (h : ∀ c ∈ cs.getLast?, other c = false) : ∀ c ∈ (percentEncode set cs).getLast?, other c = false := by
  rcases List.eq_nil_or_concat cs with rfl | ⟨front, last, rfl⟩
  · exact nofun
  · rw [List.concat_eq_append] at h ⊢
    intro c hc
    have alone : ∀ d ∈ [last], other d = false := fun d hd => by
      rw [List.mem_singleton.1 hd]
      exact h last (List.getLast?_concat)
    rw [percentEncode_append, List.getLast?_append] at hc
    cases hlast : (percentEncode set [last]).getLast? with
    | none => exact absurd (List.getLast?_eq_none_iff.1 hlast) (percentEncode_ne_nil (List.cons_ne_nil _ _))
    | some d =>
      rw [hlast] at hc
      cases hc
      exact spared_percentEncode spares alone c (List.mem_of_getLast? hlast)

/-- Nothing is left to escape behind the escapes. -/
theorem escaped_percentEncode (h : SparesEscapes set) (cs : List Char) : Escaped set (percentEncode set cs) := by
  have digit_lt : ∀ d, d < 16 → (hexChar true d).toNat < 0x80 := by decide
  intro c hc
  rcases mem_percentEncode hc with ⟨-, plain⟩ | rfl | ⟨d, hd, rfl⟩
  · exact plain
  · exact ⟨by decide, h.percent⟩
  · exact ⟨digit_lt d hd, h.digits d hd⟩

/-- Characters without percent signs and beyond no others than ASCII stand for themselves. -/
theorem percentDecode_plain (h : ∀ c ∈ cs, c.toNat < 0x80 ∧ c ≠ '%') : percentDecode cs = .ok cs := by
  have bytes : percentBytes cs = cs.map Char.toNat := by
    induction cs with
    | nil => rfl
    | cons c cs ih =>
      obtain ⟨small, plain⟩ := h c List.mem_cons_self
      rw [percentBytes, ih fun d hd => h d (List.mem_cons_of_mem c hd), utf8Char, if_pos small]
      · rfl
      · exact fun _ _ _ hc _ => plain hc
  have decoded : ∀ index, decodeFrom index (cs.map Char.toNat) = .ok cs := by
    clear bytes
    induction cs with
    | nil => exact fun _ => rfl
    | cons c cs ih =>
      intro index
      rw [List.map_cons, decodeFrom.eq_def]
      dsimp only
      rw [if_pos (h c List.mem_cons_self).1, ih (fun d hd => h d (List.mem_cons_of_mem c hd)), Char.ofNat_toNat]
      rfl
  rw [percentDecode, bytes]
  exact decoded 0

end QueryGateway.Text
