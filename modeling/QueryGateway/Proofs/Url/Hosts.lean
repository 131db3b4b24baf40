import QueryGateway.Proofs.Text.Escapes
import QueryGateway.Proofs.Url.Addresses

/-!
# Hosts

A host that is read is in its usual form: reading it again does not change it. For the schemes of
the web this is the ASCII form of a domain, where upper case letters and characters beyond ASCII
are gone for good.
-/

namespace QueryGateway.Url

open Text

/-- A host as it is printed: an address in brackets, or a name without any character that ends a
host. -/
inductive IsHost : List Char → Prop
  | address {inside : List Char} (h : ∀ c ∈ inside, isHexDigit c = true ∨ c = ':') :
      IsHost ('[' :: (inside ++ [']']))
  | name {cs : List Char} (h : Escaped isControl cs) (allowed : ∀ c ∈ cs, forbiddenInHost c = false)
      (ne : cs ≠ []) : IsHost cs

/-! ## Brackets -/

theorem bracketed?_append {inside : List Char} {ns : List Nat} (h : address6? inside = some ns) :
    bracketed? (inside ++ [']']) = some (address6Text ns) := by
  rw [bracketed?, List.reverse_append, List.reverse_singleton, List.singleton_append]
  show (address6? inside.reverse.reverse).map address6Text = some (address6Text ns)
  rw [List.reverse_reverse, h]
  rfl

/-- What stands in brackets reads back. -/
theorem bracketed?_fixed {cs : List Char} {host : String} (h : bracketed? cs = some host) :
    ∃ inside, host.toList = '[' :: (inside ++ [']']) ∧ (∀ c ∈ inside, isHexDigit c = true ∨ c = ':') ∧
      bracketed? (inside ++ [']']) = some host := by
  unfold bracketed? at h
  split at h
  · obtain ⟨ns, hns, rfl⟩ := Option.map_eq_some_iff.1 h
    obtain ⟨inside, text, chars, back⟩ := address6Text_inside ns
    exact ⟨inside, text, chars, bracketed?_append (back (isAddress6_of_address6? hns))⟩
  · cases h

/-! ## Opaque hosts -/

theorem sparesEscapes_isControl : SparesEscapes isControl := ⟨by decide, by decide⟩

theorem sparesEscapes_forbiddenInHost : SparesEscapes forbiddenInHost := ⟨by decide, by decide⟩

theorem opaqueHost?_name {cs : List Char} (h : Escaped isControl cs) (allowed : ∀ c ∈ cs, forbiddenInHost c = false) :
    opaqueHost? cs = some (String.ofList cs) := by
  unfold opaqueHost?
  split
  · exact absurd (allowed '[' List.mem_cons_self) (by decide)
  · have none : ¬cs.any forbiddenInHost = true := by
      simpa using allowed
    rw [if_neg none, percentEncode_of_escaped h]

/-- An opaque host reads back. -/
theorem opaqueHost?_fixed {cs : List Char} {host : String} (h : opaqueHost? cs = some host) (ne : cs ≠ []) :
    IsHost host.toList ∧ opaqueHost? host.toList = some host := by
  unfold opaqueHost? at h
  split at h
  · obtain ⟨inside, text, chars, back⟩ := bracketed?_fixed h
    rw [text]
    exact ⟨.address chars, back⟩
  · split at h
    · cases h
    · next allowed =>
      have spared : ∀ c ∈ percentEncode isControl cs, forbiddenInHost c = false :=
        spared_percentEncode sparesEscapes_forbiddenInHost fun c hc => by
          simpa using mt (fun hf => List.any_eq_true.2 ⟨c, hc, hf⟩) allowed
      have escaped := escaped_percentEncode sparesEscapes_isControl cs
      cases h
      rw [String.toList_ofList]
      exact ⟨.name escaped spared (percentEncode_ne_nil ne), opaqueHost?_name escaped spared⟩

/-! ## Characters of domains -/

/-- A character of a domain in its ASCII form. -/
structure IsDomainChar (c : Char) : Prop where
  ascii : c.toNat < 0x80
  allowed : forbiddenInDomain c = false
  folded : lowerChar c = c

theorem lowerChar_lowerChar (c : Char) : lowerChar (lowerChar c) = lowerChar c := by
  have letters : ∀ n, n < 91 → 65 ≤ n → lowerChar (Char.ofNat (n + 32)) = Char.ofNat (n + 32) := by decide
  rw [lowerChar.eq_def c]
  split
  · next upper =>
    simp only [Bool.and_eq_true, decide_eq_true_eq] at upper
    have low : 65 ≤ c.toNat := UInt32.le_iff_toNat_le.1 upper.1
    have high : c.toNat ≤ 90 := UInt32.le_iff_toNat_le.1 upper.2
    exact letters c.toNat (by omega) low
  · next other =>
    rw [lowerChar, if_neg other]

/-- Beyond ASCII there are no letters to put into lower case. -/
theorem lowerChar_of_large {c : Char} (h : 0x80 ≤ c.toNat) : lowerChar c = c := by
  rw [lowerChar, if_neg]
  simp only [Bool.and_eq_true, decide_eq_true_eq]
  rintro ⟨-, high⟩
  have : c.toNat ≤ 90 := UInt32.le_iff_toNat_le.1 high
  omega

/-- What a character is folded to is in lower case. -/
theorem lowerChar_of_mem_foldChar {c d : Char} (h : d ∈ foldChar c) : lowerChar d = d := by
  have shifted : ∀ n, 0x80 ≤ n → n < 0xD800 → lowerChar (Char.ofNat n) = Char.ofNat n := by
    intro n low high
    refine lowerChar_of_large ?_
    have valid : (Char.ofNat n).toNat = n := by
      rw [Char.ofNat, dif_pos (Or.inl high)]
      rfl
    rw [valid]
    exact low
  unfold foldChar at h
  dsimp only at h
  split at h
  · cases h
  · split at h
    · rw [List.mem_singleton.1 h]
      rfl
    · split at h
      · rw [List.mem_singleton.1 h]
        exact lowerChar_lowerChar _
      · split at h
        · next range =>
          rw [List.mem_singleton.1 h]
          simp only [Bool.or_eq_true, Bool.and_eq_true, decide_eq_true_eq] at range
          exact shifted _ (by omega) (by omega)
        · split at h
          · next range =>
            rw [List.mem_singleton.1 h]
            simp only [Bool.and_eq_true, decide_eq_true_eq] at range
            exact shifted _ (by omega) (by omega)
          · rw [List.mem_singleton.1 h]
            exact lowerChar_lowerChar c

theorem foldChar_of_isDomainChar {c : Char} (h : IsDomainChar c) : foldChar c = [c] := by
  have := h.ascii
  unfold foldChar
  dsimp only
  rw [if_neg (by simp; omega), if_neg (by simp; omega), if_neg (by simp; omega), if_neg (by simp; omega),
    if_neg (by simp; omega), h.folded]

/-! ## The ASCII form of a label -/

/-- Digits of base 36 are letters in lower case and figures. -/
theorem isDomainChar_base36 {d : Nat} (h : d < 36) : IsDomainChar (base36 d) ∧ base36 d ≠ '.' := by
  have all : ∀ d, d < 36 → (base36 d).toNat < 0x80 ∧ forbiddenInDomain (base36 d) = false ∧
      lowerChar (base36 d) = base36 d ∧ base36 d ≠ '.' := by decide
  obtain ⟨ascii, allowed, folded, dot⟩ := all d h
  exact ⟨⟨ascii, allowed, folded⟩, dot⟩

theorem mem_distanceDigits {fuel q k bias : Nat} {c : Char} (h : c ∈ distanceDigits fuel q k bias) :
    ∃ d < 36, c = base36 d := by
  induction fuel generalizing q k with
  | zero => cases h
  | succ fuel ih =>
    rw [distanceDigits] at h
    have threshold : (if k ≤ bias then 1 else if k ≥ bias + 26 then 26 else k - bias) ≤ 26 := by
      split
      · decide
      · split
        · exact Nat.le_refl 26
        · omega
    generalize (if k ≤ bias then 1 else if k ≥ bias + 26 then 26 else k - bias) = t at h threshold
    split at h
    · next small =>
      exact ⟨q, by omega, List.mem_singleton.1 h⟩
    · rcases List.mem_cons.1 h with rfl | h
      · have : (q - t) % (36 - t) < 36 - t := Nat.mod_lt _ (by omega)
        exact ⟨t + (q - t) % (36 - t), by omega, rfl⟩
      · exact ih h

/-- The encoder puts nothing but digits behind the basic characters. -/
theorem mem_labelChar {n basics c : Nat} {s : LabelState} {d : Char} (h : d ∈ (labelChar n basics s c).output) :
    d ∈ s.output ∨ ∃ b < 36, d = base36 b := by
  unfold labelChar at h
  split at h
  · exact .inl h
  · split at h
    · rcases List.mem_append.1 h with h | h
      · exact .inl h
      · exact .inr (mem_distanceDigits h)
    · exact .inl h

theorem mem_foldl_labelChar {n basics : Nat} {points : List Nat} {s : LabelState} {d : Char}
    (h : d ∈ (points.foldl (labelChar n basics) s).output) : d ∈ s.output ∨ ∃ b < 36, d = base36 b := by
  induction points generalizing s with
  | nil => exact .inl h
  | cons p points ih =>
    rcases ih h with h | h
    · exact mem_labelChar h
    · exact .inr h

theorem mem_labelPoints {fuel n basics : Nat} {points : List Nat} {s : LabelState} {d : Char}
    (h : d ∈ (labelPoints fuel n basics points s).output) : d ∈ s.output ∨ ∃ b < 36, d = base36 b := by
  induction fuel generalizing n s with
  | zero => exact .inl h
  | succ fuel ih =>
    rw [labelPoints] at h
    split at h
    · exact .inl h
    · rcases ih h with h | h
      · have h : d ∈ (points.foldl (labelChar _ basics) _).output := h
        rcases mem_foldl_labelChar h with h | h
        · exact .inl h
        · exact .inr h
      · exact .inr h

theorem asciiLabel_of_ascii {label : List Char} (h : ∀ c ∈ label, c.toNat < 0x80) : asciiLabel label = label := by
  rw [asciiLabel, if_pos]
  simpa using h

/-- The ASCII form of a label has characters of domains and no dots. -/
theorem mem_asciiLabel {label : List Char} (folded : ∀ c ∈ label, lowerChar c = c)
    (allowed : ∀ c ∈ label, forbiddenInDomain c = false) (dotless : '.' ∉ label) {c : Char}
    (h : c ∈ asciiLabel label) : IsDomainChar c ∧ c ≠ '.' := by
  have own : ∀ c ∈ label, c.toNat < 0x80 → IsDomainChar c ∧ c ≠ '.' := fun c hc ascii =>
    ⟨⟨ascii, allowed c hc, folded c hc⟩, fun hdot => dotless (hdot ▸ hc)⟩
  have dash : IsDomainChar '-' ∧ '-' ≠ '.' := ⟨⟨by decide, by decide, by decide⟩, by decide⟩
  have mark : ∀ d ∈ ['x', 'n', '-', '-'], IsDomainChar d ∧ d ≠ '.' := by
    intro d hd
    simp only [List.mem_cons, List.not_mem_nil, or_false] at hd
    rcases hd with rfl | rfl | rfl | rfl
    · exact ⟨⟨by decide, by decide, by decide⟩, by decide⟩
    · exact ⟨⟨by decide, by decide, by decide⟩, by decide⟩
    · exact dash
    · exact dash
  unfold asciiLabel at h
  dsimp only at h
  split at h
  · next ascii => exact own c h (by simpa using List.all_eq_true.1 ascii c.toNat (List.mem_map_of_mem h))
  · rcases List.mem_append.1 h with h | h
    · exact mark c h
    · rcases mem_labelPoints h with h | ⟨b, hb, rfl⟩
      · split at h
        · cases h
        · rcases List.mem_append.1 h with h | h
          · obtain ⟨hc, ascii⟩ := List.mem_filter.1 h
            exact own c hc (by simpa using ascii)
          · rw [List.mem_singleton.1 h]
            exact dash
      · exact isDomainChar_base36 hb

/-! ## The ASCII form of a domain -/

/-- A domain in its ASCII form has characters of domains only. -/
theorem isDomainChar_of_asciiDomain? {cs ds : List Char} (h : asciiDomain? cs = some ds) :
    ∀ c ∈ ds, IsDomainChar c := by
  unfold asciiDomain? at h
  obtain ⟨decoded, -, h⟩ := Option.bind_eq_some_iff.1 h
  dsimp only at h
  split at h
  · cases h
  · next allowed =>
    cases h
    intro c hc
    rcases mem_intercalate hc with rfl | ⟨label, hlabel, hc⟩
    · exact ⟨by decide, by decide, by decide⟩
    · obtain ⟨part, hpart, rfl⟩ := List.mem_map.1 hlabel
      obtain ⟨dotless, inFolded⟩ := mem_splitAll hpart
      refine (mem_asciiLabel (fun d hd => ?_) (fun d hd => ?_) dotless hc).1
      · obtain ⟨e, -, he⟩ := List.mem_flatMap.1 (inFolded d hd)
        exact lowerChar_of_mem_foldChar he
      · simpa using mt (fun hf => List.any_eq_true.2 ⟨d, inFolded d hd, hf⟩) allowed

/-- The ASCII form of a domain is its own ASCII form. -/
theorem asciiDomain?_of_isDomainChar {cs : List Char} (h : ∀ c ∈ cs, IsDomainChar c) :
    asciiDomain? cs = some cs := by
  have decoded : percentDecode cs = .ok cs := percentDecode_plain fun c hc =>
    ⟨(h c hc).ascii, fun percent => absurd (h c hc).allowed (by rw [percent]; decide)⟩
  have folded : cs.flatMap foldChar = cs := by
    clear decoded
    induction cs with
    | nil => rfl
    | cons c cs ih =>
      rw [List.flatMap_cons, foldChar_of_isDomainChar (h c List.mem_cons_self),
        ih fun d hd => h d (List.mem_cons_of_mem c hd)]
      rfl
  have allowed : ¬cs.any forbiddenInDomain = true := by
    simpa using fun c hc => (h c hc).allowed
  have labels : (splitAll '.' cs).map asciiLabel = splitAll '.' cs := by
    refine (List.map_congr_left fun label hlabel => ?_).trans (List.map_id _)
    exact asciiLabel_of_ascii fun c hc => (h c ((mem_splitAll hlabel).2 c hc)).ascii
  rw [asciiDomain?, decoded]
  show (if (cs.flatMap foldChar).any forbiddenInDomain = true then none
    else some (List.intercalate ['.'] ((splitAll '.' (cs.flatMap foldChar)).map asciiLabel))) = some cs
  rw [folded, if_neg allowed, labels, intercalate_splitAll]

/-! ## Hosts of the web -/

/-- What a domain in its ASCII form is as a host. -/
theorem webHost?_of_isDomainChar {cs : List Char} (h : ∀ c ∈ cs, IsDomainChar c) (ne : cs ≠ []) :
    webHost? cs =
      if endsInNumber cs then (address4? cs).map address4Text else some (String.ofList cs) := by
  unfold webHost?
  split
  · exact absurd (h '[' List.mem_cons_self).allowed (by decide)
  · rw [asciiDomain?_of_isDomainChar h]
    show (if cs.isEmpty = true then none else _) = _
    rw [if_neg (by simpa using ne)]

theorem isHost_of_isDomainChar {cs : List Char} (h : ∀ c ∈ cs, IsDomainChar c) (ne : cs ≠ []) : IsHost cs := by
  have weaker : ∀ c, IsDomainChar c → isControl c = false ∧ forbiddenInHost c = false := fun c hc =>
    forall_ascii (P := fun c => forbiddenInDomain c = false → isControl c = false ∧ forbiddenInHost c = false)
      (by decide) hc.ascii hc.allowed
  exact .name (fun c hc => ⟨(h c hc).ascii, (weaker c (h c hc)).1⟩) (fun c hc => (weaker c (h c hc)).2) ne

theorem isDomainChar_of_isDigit {c : Char} (h : isDigit c = true) : IsDomainChar c := by
  have ascii := ascii_of_isDigit h
  have facts := forall_ascii
    (P := fun c => isDigit c = true → forbiddenInDomain c = false ∧ lowerChar c = c) (by decide) ascii h
  exact ⟨ascii, facts.1, facts.2⟩

/-- The text of an address of version 4 has digits and dots only. -/
theorem isDomainChar_address4Text (n : Nat) : ∀ c ∈ (address4Text n).toList, IsDomainChar c := by
  intro c hc
  rw [toList_address4Text] at hc
  rcases mem_intercalate hc with rfl | ⟨part, hpart, hc⟩
  · exact ⟨by decide, by decide, by decide⟩
  · obtain ⟨k, -, rfl⟩ := List.mem_map.1 hpart
    exact isDomainChar_of_isDigit (isDigit_of_mem_toDigits hc)

/-- A host of the web reads back. -/
theorem webHost?_fixed {cs : List Char} {host : String} (h : webHost? cs = some host) :
    IsHost host.toList ∧ webHost? host.toList = some host := by
  unfold webHost? at h
  split at h
  · obtain ⟨inside, text, chars, back⟩ := bracketed?_fixed h
    rw [text]
    exact ⟨.address chars, back⟩
  · obtain ⟨domain, hdomain, h⟩ := Option.bind_eq_some_iff.1 h
    have chars := isDomainChar_of_asciiDomain? hdomain
    split at h
    · cases h
    · next nonempty =>
      have ne : domain ≠ [] := by simpa using nonempty
      split at h
      · obtain ⟨n, hn, rfl⟩ := Option.map_eq_some_iff.1 h
        have digits := isDomainChar_address4Text n
        have numbered := endsInNumber_address4Text n
        have written : (address4Text n).toList ≠ [] := by
          intro empty
          rw [empty] at numbered
          exact absurd numbered (by decide)
        refine ⟨isHost_of_isDomainChar digits written, ?_⟩
        rw [webHost?_of_isDomainChar digits written, if_pos numbered, address4?_address4Text (address4?_lt hn)]
        rfl
      · next unnumbered =>
        cases h
        rw [String.toList_ofList]
        refine ⟨isHost_of_isDomainChar chars ne, ?_⟩
        rw [webHost?_of_isDomainChar chars ne, if_neg unnumbered]

end QueryGateway.Url
