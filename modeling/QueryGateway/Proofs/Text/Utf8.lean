import Mathlib.Tactic.SplitIfs
import QueryGateway.Proofs.Outcome
import QueryGateway.Text.Utf8

/-!
# Bytes that are text

Main statement: bytes are decoded exactly if they are the UTF-8 form of a text, and to that text.
-/

namespace QueryGateway.Text

/-! ## Characters by their numbers -/

/-- The number of a character: below the surrogates, or between them and the end. -/
theorem toNat_valid (c : Char) : c.toNat < 0xD800 ∨ 0xDFFF < c.toNat ∧ c.toNat < 0x110000 := c.valid

theorem toNat_ofNat {n : Nat} (h : n < 0xD800 ∨ 0xDFFF < n ∧ n < 0x110000) : (Char.ofNat n).toNat = n := by
  have valid : n.isValidChar := h
  unfold Char.ofNat
  rw [dif_pos valid]
  rfl

/-- The second byte fits a first one. -/
theorem fitsSecond_iff (a b : Nat) : fitsSecond a b = true ↔
    0x80 ≤ b ∧ b ≤ 0xBF ∧ (a = 0xE0 → 0xA0 ≤ b) ∧ (a = 0xED → b ≤ 0x9F) ∧ (a = 0xF0 → 0x90 ≤ b) ∧
      (a = 0xF4 → b ≤ 0x8F) := by
  unfold fitsSecond secondRange
  simp only [beq_iff_eq, Bool.and_eq_true, decide_eq_true_eq]
  split_ifs <;> dsimp only <;> omega

theorem isContinuation_iff (b : Nat) : isContinuation b = true ↔ 0x80 ≤ b ∧ b ≤ 0xBF := by
  simp [isContinuation]

/-! ## One character -/

section

variable {index a b c d : Nat} (rest : List Nat)

theorem decodeFrom_one (ha : a < 0x80) :
    decodeFrom index (a :: rest) = (decodeFrom (index + 1) rest).map (Char.ofNat a :: ·) := by
  rw [decodeFrom.eq_def]
  exact if_pos ha

theorem decodeFrom_two (ha : 0xC2 ≤ a) (ha' : a < 0xE0) (hb : fitsSecond a b = true) :
    decodeFrom index (a :: b :: rest) =
      (decodeFrom (index + 2) rest).map (Char.ofNat ((a - 0xC0) * 64 + (b - 0x80)) :: ·) := by
  rw [decodeFrom.eq_def]
  dsimp only
  rw [if_neg (by omega), if_neg (by simp; omega), hb, if_neg (by decide), if_pos ha']

theorem decodeFrom_three (ha : 0xE0 ≤ a) (ha' : a < 0xF0) (hb : fitsSecond a b = true) (hc : isContinuation c = true) :
    decodeFrom index (a :: b :: c :: rest) = (decodeFrom (index + 3) rest).map
      (Char.ofNat ((a - 0xE0) * 4096 + (b - 0x80) * 64 + (c - 0x80)) :: ·) := by
  rw [decodeFrom.eq_def]
  dsimp only
  rw [if_neg (by omega), if_neg (by simp; omega), hb, if_neg (by decide), if_neg (by omega), hc, if_neg (by decide),
    if_pos ha']

theorem decodeFrom_four (ha : 0xF0 ≤ a) (ha' : a ≤ 0xF4) (hb : fitsSecond a b = true) (hc : isContinuation c = true)
    (hd : isContinuation d = true) :
    decodeFrom index (a :: b :: c :: d :: rest) = (decodeFrom (index + 4) rest).map
      (Char.ofNat ((a - 0xF0) * 262144 + (b - 0x80) * 4096 + (c - 0x80) * 64 + (d - 0x80)) :: ·) := by
  rw [decodeFrom.eq_def]
  dsimp only
  rw [if_neg (by omega), if_neg (by simp; omega), hb, if_neg (by decide), if_neg (by omega), hc, if_neg (by decide),
    if_neg (by omega), hd, if_neg (by decide)]

end

/-- The bytes of a character are read as this character. -/
theorem decodeFrom_utf8Char (x : Char) (index : Nat) (rest : List Nat) :
    ∃ next, decodeFrom index (utf8Char x ++ rest) = (decodeFrom next rest).map (x :: ·) := by
  have valid := toNat_valid x
  have back : ∀ n, n = x.toNat → Char.ofNat n = x := by
    rintro n rfl
    exact Char.ofNat_toNat x
  unfold utf8Char
  dsimp only
  split_ifs with h1 h2 h3
  · refine ⟨index + 1, (decodeFrom_one rest h1).trans ?_⟩
    rw [back _ rfl]
  · refine ⟨index + 2, (decodeFrom_two rest (by omega) (by omega) ((fitsSecond_iff _ _).2 (by omega))).trans ?_⟩
    rw [back _ (by omega)]
  · refine ⟨index + 3, (decodeFrom_three rest (by omega) (by omega) ((fitsSecond_iff _ _).2 (by omega))
      ((isContinuation_iff _).2 (by omega))).trans ?_⟩
    rw [back _ (by omega)]
  · refine ⟨index + 4, (decodeFrom_four rest (by omega) (by omega) ((fitsSecond_iff _ _).2 (by omega))
      ((isContinuation_iff _).2 (by omega)) ((isContinuation_iff _).2 (by omega))).trans ?_⟩
    rw [back _ (by omega)]

theorem decodeFrom_utf8 (cs : List Char) (index : Nat) : decodeFrom index (utf8 cs) = .ok cs := by
  induction cs generalizing index with
  | nil => rfl
  | cons c cs ih =>
    obtain ⟨next, h⟩ := decodeFrom_utf8Char c index (utf8 cs)
    rw [utf8, List.flatMap_cons, ← utf8, h, ih]
    rfl

section

variable {a b c d : Nat}

theorem utf8Char_one (ha : a < 0x80) : utf8Char (Char.ofNat a) = [a] := by
  unfold utf8Char
  rw [toNat_ofNat (by omega)]
  exact if_pos ha

theorem utf8Char_two (ha : 0xC2 ≤ a) (ha' : a < 0xE0) (hb : fitsSecond a b = true) :
    utf8Char (Char.ofNat ((a - 0xC0) * 64 + (b - 0x80))) = [a, b] := by
  rw [fitsSecond_iff] at hb
  unfold utf8Char
  rw [toNat_ofNat (by omega)]
  dsimp only
  rw [if_neg (by omega), if_pos (by omega)]
  simp only [List.cons.injEq, and_true]
  omega

theorem utf8Char_three (ha : 0xE0 ≤ a) (ha' : a < 0xF0) (hb : fitsSecond a b = true) (hc : isContinuation c = true) :
    utf8Char (Char.ofNat ((a - 0xE0) * 4096 + (b - 0x80) * 64 + (c - 0x80))) = [a, b, c] := by
  rw [fitsSecond_iff] at hb
  rw [isContinuation_iff] at hc
  unfold utf8Char
  rw [toNat_ofNat (by omega)]
  dsimp only
  rw [if_neg (by omega), if_neg (by omega), if_pos (by omega)]
  simp only [List.cons.injEq, and_true]
  omega

theorem utf8Char_four (ha : 0xF0 ≤ a) (ha' : a ≤ 0xF4) (hb : fitsSecond a b = true) (hc : isContinuation c = true)
    (hd : isContinuation d = true) :
    utf8Char (Char.ofNat ((a - 0xF0) * 262144 + (b - 0x80) * 4096 + (c - 0x80) * 64 + (d - 0x80))) = [a, b, c, d] := by
  rw [fitsSecond_iff] at hb
  rw [isContinuation_iff] at hc hd
  unfold utf8Char
  rw [toNat_ofNat (by omega)]
  dsimp only
  rw [if_neg (by omega), if_neg (by omega), if_neg (by omega)]
  simp only [List.cons.injEq, and_true]
  omega

end

/-- Bytes that are read are the bytes of a character and more behind them that is read. -/
theorem decodeFrom_cases {index : Nat} {bytes : List Nat} {cs : List Char} (h : decodeFrom index bytes = .ok cs) :
    (bytes = [] ∧ cs = []) ∨
      ∃ x next rest ds, bytes = utf8Char x ++ rest ∧ cs = x :: ds ∧ decodeFrom next rest = .ok ds := by
  rw [decodeFrom.eq_def] at h
  cases bytes with
  | nil =>
    cases h
    exact .inl ⟨rfl, rfl⟩
  | cons a rest =>
    right
    dsimp only at h
    -- The first byte says how many there are of the character.
    by_cases one : a < 0x80
    · rw [if_pos one] at h
      obtain ⟨ds, tail, rfl⟩ := map_eq_ok h
      exact ⟨_, _, rest, ds, by rw [utf8Char_one one]; rfl, rfl, tail⟩
    rw [if_neg one] at h
    by_cases stray : (a < 0xC2 || a > 0xF4) = true
    · rw [if_pos stray] at h
      cases h
    rw [if_neg stray] at h
    have range : 0xC2 ≤ a ∧ a ≤ 0xF4 := by simpa using stray
    cases rest with
    | nil => cases h
    | cons b rest =>
      dsimp only at h
      obtain ⟨hb, h⟩ := unless_eq_ok h
      by_cases two : a < 0xE0
      · rw [if_pos two] at h
        obtain ⟨ds, tail, rfl⟩ := map_eq_ok h
        exact ⟨_, _, rest, ds, by rw [utf8Char_two range.1 two hb]; rfl, rfl, tail⟩
      rw [if_neg two] at h
      cases rest with
      | nil => cases h
      | cons c rest =>
        dsimp only at h
        obtain ⟨hc, h⟩ := unless_eq_ok h
        by_cases three : a < 0xF0
        · rw [if_pos three] at h
          obtain ⟨ds, tail, rfl⟩ := map_eq_ok h
          exact ⟨_, _, rest, ds, by rw [utf8Char_three (by omega) three hb hc]; rfl, rfl, tail⟩
        rw [if_neg three] at h
        cases rest with
        | nil => cases h
        | cons d rest =>
          dsimp only at h
          obtain ⟨hd, h⟩ := unless_eq_ok h
          obtain ⟨ds, tail, rfl⟩ := map_eq_ok h
          exact ⟨_, _, rest, ds, by rw [utf8Char_four (by omega) range.2 hb hc hd]; rfl, rfl, tail⟩

theorem utf8_of_decodeFrom {index : Nat} {bytes : List Nat} {cs : List Char} (h : decodeFrom index bytes = .ok cs) :
    utf8 cs = bytes := by
  induction cs generalizing index bytes with
  | nil =>
    rcases decodeFrom_cases h with ⟨rfl, -⟩ | ⟨c, next, rest, ds, -, same, -⟩
    · rfl
    · cases same
  | cons c cs ih =>
    rcases decodeFrom_cases h with ⟨-, same⟩ | ⟨d, next, rest, ds, rfl, same, tail⟩
    · cases same
    · cases same
      rw [utf8, List.flatMap_cons, ← utf8, ih tail]

/-- Bytes are decoded to a text exactly if they are its UTF-8 form. -/
theorem decodeUtf8_eq_ok_iff {bytes : List Nat} {cs : List Char} : decodeUtf8 bytes = .ok cs ↔ utf8 cs = bytes :=
  ⟨utf8_of_decodeFrom, fun h => h ▸ decodeFrom_utf8 cs 0⟩

end QueryGateway.Text
