import QueryGateway.Proofs.Outcome
import QueryGateway.Sql.Lexer

/-!
# Strings in front of a line break

What the lexer reads at the front of a text stays the same when a line break and more text are
put behind the text, and so does what is left. Here this is shown of the readers of quoted text
of every kind, with the notions for it.
-/

namespace QueryGateway.Sql

open Text

variable {α : Type} {cs more : List Char}

/-- What was read, with a line break and more text behind what is left. -/
def followed {α : Type} (more : List Char) (r : α × List Char) : α × List Char := (r.1, r.2 ++ '\n' :: more)

@[simp] theorem followed_mk (a : α) (rest : List Char) : followed more (a, rest) = (a, rest ++ '\n' :: more) := rfl
@[simp] theorem followed_fst (r : α × List Char) : (followed more r).1 = r.1 := rfl
@[simp] theorem followed_snd (r : α × List Char) : (followed more r).2 = r.2 ++ '\n' :: more := rfl

/-- A character that does not stand in front of a text does not stand there with a line break behind the text. -/
theorem no_cons_followed {c : Char} (hc : c ≠ '\n') (h : ∀ ds, cs = c :: ds → False) (ds : List Char) :
    cs ++ '\n' :: more ≠ c :: ds := by
  cases cs with
  | nil => exact fun e => hc (List.cons.inj e).1.symm
  | cons d cs => exact fun e => h cs (by rw [(List.cons.inj e).1])

/-- A character that is no line break stands in front of the text or nowhere. -/
theorem append_break_eq_cons_iff {c : Char} (hc : c ≠ '\n') (ds : List Char) :
    cs ++ '\n' :: more = c :: ds ↔ ∃ es, cs = c :: es ∧ ds = es ++ '\n' :: more := by
  rw [List.append_eq_cons_iff]
  constructor
  · rintro (⟨-, h⟩ | h)
    · exact absurd (List.cons.inj h).1.symm hc
    · exact h
  · exact Or.inr

/-! ## Characters that satisfy a test -/

theorem spanChars_followed {p : Char → Bool} (h : p '\n' = false) (cs : List Char) :
    spanChars p (cs ++ '\n' :: more) = followed more (spanChars p cs) := by
  induction cs with
  | nil => simp [spanChars, h]
  | cons c cs ih =>
    simp only [List.cons_append, spanChars, ih]
    split <;> rfl

theorem spanChars_length (p : Char → Bool) (cs : List Char) : (spanChars p cs).2.length ≤ cs.length := by
  induction cs with
  | nil => exact Nat.le_refl 0
  | cons c cs ih =>
    unfold spanChars
    split
    · exact Nat.le_succ_of_le ih
    · exact Nat.le_refl _

/-! ## Quoted text -/

variable {s rest : List Char}

/-- A reader leaves no more than it was given, and reads the same in front of a line break. -/
def Stable (read : List Char → Option (α × List Char)) : Prop :=
  ∀ ⦃cs a rest⦄, read cs = some (a, rest) →
    rest.length ≤ cs.length ∧ ∀ more, read (cs ++ '\n' :: more) = some (a, rest ++ '\n' :: more)

theorem stable_quotedText {quote : Char} (hq : quote ≠ '\n') : Stable (quotedText quote) := by
  intro cs a rest h
  fun_induction quotedText quote cs generalizing a with
  | case1 => cases h
  | case2 c hc =>
    cases h
    simp [quotedText, hc, hq.symm]
  | case3 c hc d ds hd ih =>
    obtain ⟨⟨s, rest⟩, hs, he⟩ := Option.map_eq_some_iff.1 h
    cases he
    have ⟨shorter, same⟩ := ih hs
    exact ⟨by grind, fun more => by simp [quotedText, hc, hd, same]⟩
  | case4 c hc d ds hd =>
    cases h
    simp [quotedText, hc, hd]
  | case5 c cs hc ih =>
    obtain ⟨⟨s, rest⟩, hs, he⟩ := Option.map_eq_some_iff.1 h
    cases he
    have ⟨shorter, same⟩ := ih hs
    refine ⟨by grind, fun more => ?_⟩
    rw [List.cons_append, quotedText.eq_def]
    simp [hc, same]

/-- A character that is no backslash is read as in `quotedText`. -/
theorem backslashText_cons {quote c : Char} (hc : c ≠ '\\') (cs : List Char) :
    backslashText quote (c :: cs) =
      if c == quote then
        match cs with
        | [] => some ([], [])
        | d :: ds =>
          if d == quote then (backslashText quote ds).map fun (s, rest) => (c :: s, rest)
          else some ([], d :: ds)
      else (backslashText quote cs).map fun (s, rest) => (c :: s, rest) := by
  rw [backslashText.eq_def]
  split
  · cases ‹_ = ([] : List Char)›
  · next h => exact absurd (List.cons.inj h).1 hc
  · next h => exact absurd (List.cons.inj h).1 hc
  · next h => cases h; rfl

theorem stable_backslashText {quote : Char} (hq : quote ≠ '\n') : Stable (backslashText quote) := by
  intro cs a rest h
  fun_induction backslashText quote cs generalizing a with
  | case1 | case2 => cases h
  | case3 c cs ih =>
    obtain ⟨⟨s, rest⟩, hs, he⟩ := Option.map_eq_some_iff.1 h
    cases he
    have ⟨shorter, same⟩ := ih hs
    exact ⟨by grind, fun more => by simp [backslashText, same]⟩
  | case4 c hc alone =>
    cases h
    simp [backslashText_cons fun h => alone h rfl, hc, hq.symm]
  | case5 c hc d ds hd _ other ih =>
    obtain ⟨⟨s, rest⟩, hs, he⟩ := Option.map_eq_some_iff.1 h
    cases he
    have ⟨shorter, same⟩ := ih hs
    exact ⟨by grind, fun more => by simp [backslashText_cons fun h => other _ _ h rfl, hc, hd, same]⟩
  | case6 c hc d ds hd _ other =>
    cases h
    simp [backslashText_cons fun h => other _ _ h rfl, hc, hd]
  | case7 c cs alone other hc ih =>
    obtain ⟨⟨s, rest⟩, hs, he⟩ := Option.map_eq_some_iff.1 h
    cases he
    have ⟨shorter, same⟩ := ih hs
    have front : c ≠ '\\' := by
      cases cs with
      | nil => exact fun h => alone h rfl
      | cons d ds => exact fun h => other _ _ h rfl
    exact ⟨by grind, fun more => by simp [backslashText_cons front, hc, same]⟩

/-! ## Escape strings -/

theorem takeDigits_followed {digit : Char → Option Nat} (h : digit '\n' = none) (n : Nat) (cs : List Char) :
    takeDigits digit n (cs ++ '\n' :: more) = followed more (takeDigits digit n cs) := by
  fun_induction takeDigits digit n cs with
  | case1 => rfl
  | case2 => simp [takeDigits, h]
  | case3 n c cs hc ds rest hd ih => simp [takeDigits, hc, ih, hd]
  | case4 n c cs hc => simp [takeDigits, hc]

theorem takeDigits_length (digit : Char → Option Nat) (n : Nat) (cs : List Char) :
    (takeDigits digit n cs).2.length ≤ cs.length := by
  fun_induction takeDigits digit n cs with
  | case1 | case2 | case4 => exact Nat.le_refl _
  | case3 n c cs hc ds rest taken ih =>
    rw [taken] at ih
    exact Nat.le_succ_of_le ih

theorem stable_unicodeEscape (width : Nat) : Stable (unicodeEscape width) := by
  intro cs a rest h
  unfold unicodeEscape at h
  split at h
  · cases h
  · next enough =>
    obtain ⟨n, hn, h⟩ := Option.bind_eq_some_iff.1 h
    obtain ⟨c, hc, h⟩ := Option.bind_eq_some_iff.1 h
    cases h
    refine ⟨List.length_drop .. ▸ Nat.sub_le _ _, fun more => ?_⟩
    have enough : width ≤ cs.length := Nat.not_lt.1 enough
    unfold unicodeEscape
    rw [List.take_append_of_le_length enough, List.drop_append_of_le_length enough, if_neg (by simp; omega), hn]
    simp [hc]

theorem stable_escapedChar : Stable escapedChar := by
  have noHex more n cs : takeDigits hexDigit? n (cs ++ '\n' :: more) = followed more (takeDigits hexDigit? n cs) :=
    takeDigits_followed (by decide) n cs
  have noOctal more n cs : takeDigits octalDigit? n (cs ++ '\n' :: more) = followed more (takeDigits octalDigit? n cs) :=
    takeDigits_followed (by decide) n cs
  intro cs a rest h
  fun_cases escapedChar cs with
  | case1 => cases h
  | case2 cs | case3 cs | case4 cs | case5 cs | case6 cs =>
    cases h
    exact ⟨Nat.le_succ _, fun _ => rfl⟩
  | case7 cs =>
    have ⟨shorter, same⟩ := stable_unicodeEscape 4 h
    exact ⟨Nat.le_succ_of_le shorter, same⟩
  | case8 cs =>
    have ⟨shorter, same⟩ := stable_unicodeEscape 8 h
    exact ⟨Nat.le_succ_of_le shorter, same⟩
  | case9 cs left digits =>
    have := takeDigits_length hexDigit? 2 cs
    simp only [escapedChar, digits] at h this
    cases h
    exact ⟨Nat.le_succ_of_le this, fun more => by simp [escapedChar, noHex, digits]⟩
  | case10 cs ds left some digits =>
    simp only [escapedChar, digits, Option.bind_eq_some_iff, Option.map_eq_some_iff] at h
    obtain ⟨n, hn, c, hc, he⟩ := h
    cases he
    have := takeDigits_length hexDigit? 2 cs
    simp only [digits] at this
    exact ⟨Nat.le_succ_of_le this, fun more => by simp [escapedChar, noHex, digits, hn, hc]⟩
  | case11 c cs hb hf hn hr ht hu hU hx d hd ds left digits =>
    simp only [escapedChar, hd, digits, Option.bind_eq_some_iff, Option.map_eq_some_iff] at h
    obtain ⟨n, hn, c, hc, he⟩ := h
    cases he
    have := takeDigits_length octalDigit? 2 cs
    simp only [digits] at this
    exact ⟨Nat.le_succ_of_le this, fun more => by simp [escapedChar, hd, noOctal, digits, hn, hc]⟩
  | case12 c cs hb hf hn hr ht hu hU hx hd zero =>
    simp [escapedChar, hd, zero] at h
  | case13 c cs hb hf hn hr ht hu hU hx hd zero =>
    simp [escapedChar, hd, zero] at h
    obtain ⟨rfl, rfl⟩ := h
    exact ⟨Nat.le_succ _, fun more => by simp [escapedChar, hd, zero]⟩

-- The longer text is read with more fuel, so the induction on the fuel needs any more of it.
/-- Whatever fuel is enough is enough in front of a line break. -/
theorem escapeText_stable {fuel : Nat} (h : escapeText fuel cs = some (s, rest)) :
    rest.length ≤ cs.length ∧
      ∀ more k, escapeText (fuel + k) (cs ++ '\n' :: more) = some (s, rest ++ '\n' :: more) := by
  fun_induction escapeText fuel cs generalizing s rest with
  | case1 | case2 => cases h
  | case3 n =>
    cases h
    exact ⟨Nat.zero_le _, fun more k => by simp [Nat.add_right_comm n 1, escapeText]⟩
  | case4 n cs ih =>
    obtain ⟨⟨s, rest⟩, hs, he⟩ := Option.map_eq_some_iff.1 h
    cases he
    have ⟨shorter, same⟩ := ih hs
    exact ⟨by grind, fun more k => by simp [Nat.add_right_comm n 1, escapeText, same]⟩
  | case5 n c cs other =>
    cases h
    exact ⟨Nat.le_succ _, fun more k => by simp [Nat.add_right_comm n 1, escapeText]⟩
  | case6 n cs ih =>
    obtain ⟨⟨c, behind⟩, hc, h⟩ := Option.bind_eq_some_iff.1 h
    obtain ⟨⟨s, last⟩, hs, he⟩ := Option.map_eq_some_iff.1 h
    cases he
    have ⟨shorter, same⟩ := ih behind hs
    have ⟨shorter', same'⟩ := stable_escapedChar hc
    exact ⟨by grind, fun more k => by simp [Nat.add_right_comm n 1, escapeText, same', same]⟩
  | case7 n c cs alone doubled quote backslash ih =>
    obtain ⟨⟨s, rest⟩, hs, he⟩ := Option.map_eq_some_iff.1 h
    cases he
    have ⟨shorter, same⟩ := ih hs
    -- A quote alone at the end and one with a character behind it are cases of their own above.
    have noQuote : c ≠ '\'' := by
      cases cs with
      | nil => exact fun h => alone h rfl
      | cons d ds => exact fun h => quote _ _ h rfl
    exact ⟨by grind, fun more k => by simp [Nat.add_right_comm n 1, escapeText, noQuote, same]⟩

/-- The same of a reader that gives a reason where it fails. -/
def StableScan (read : Scan α) : Prop :=
  ∀ ⦃cs a rest⦄, read cs = .ok (a, rest) →
    rest.length ≤ cs.length ∧ ∀ more, read (cs ++ '\n' :: more) = .ok (a, rest ++ '\n' :: more)

theorem stable_fixedHex (width acc : Nat) : StableScan (fixedHex width acc) := by
  intro cs n rest h
  fun_induction fixedHex width acc cs with
  | case1 => cases h; exact ⟨Nat.le_refl _, fun _ => rfl⟩
  | case2 => cases h
  | case3 width acc c cs d hd ih =>
    have ⟨shorter, same⟩ := ih h
    exact ⟨Nat.le_succ_of_le shorter, fun more => by simp [fixedHex, hd, same]⟩
  | case4 => cases h

theorem stable_fixedHexChar (width : Nat) : StableScan (fixedHexChar width) := by
  intro cs c rest h
  obtain ⟨⟨n, left⟩, hn, h⟩ := bind_eq_ok h
  have ⟨shorter, same⟩ := stable_fixedHex width 0 hn
  dsimp only at h
  split at h
  · next scalar =>
    cases h
    refine ⟨shorter, fun more => ?_⟩
    unfold fixedHexChar
    rw [same]
    exact if_pos scalar
  · cases h

theorem unicodeText_stable {fuel : Nat} (h : unicodeText fuel cs = .ok (s, rest)) :
    rest.length ≤ cs.length ∧
      ∀ more k, unicodeText (fuel + k) (cs ++ '\n' :: more) = .ok (s, rest ++ '\n' :: more) := by
  fun_induction unicodeText fuel cs generalizing s rest with
  | case1 | case2 => cases h
  | case3 n =>
    cases h
    exact ⟨Nat.zero_le _, fun more k => by simp [Nat.add_right_comm n 1, unicodeText]⟩
  | case4 n cs ih | case6 n cs ih =>
    obtain ⟨⟨s, rest⟩, hs, h⟩ := bind_eq_ok h
    cases h
    have ⟨shorter, same⟩ := ih hs
    exact ⟨by grind, fun more k => by
      simp [Nat.add_right_comm n 1, unicodeText, same, bind, Except.bind, pure, Except.pure]⟩
  | case5 n c cs other =>
    cases h
    exact ⟨Nat.le_succ _, fun more k => by simp [Nat.add_right_comm n 1, unicodeText]⟩
  | case7 n cs ih =>
    obtain ⟨⟨c, behind⟩, hc, h⟩ := bind_eq_ok h
    obtain ⟨⟨s, last⟩, hs, h⟩ := bind_eq_ok h
    cases h
    have ⟨shorter, same⟩ := ih behind hs
    have ⟨shorter', same'⟩ := stable_fixedHexChar 6 hc
    exact ⟨by grind, fun more k => by
      simp [Nat.add_right_comm n 1, unicodeText, same', same, bind, Except.bind, pure, Except.pure]⟩
  | case8 n cs backslash plus ih =>
    obtain ⟨⟨c, behind⟩, hc, h⟩ := bind_eq_ok h
    obtain ⟨⟨s, last⟩, hs, h⟩ := bind_eq_ok h
    cases h
    have ⟨shorter, same⟩ := ih behind hs
    have ⟨shorter', same'⟩ := stable_fixedHexChar 4 hc
    refine ⟨by grind, fun more k => ?_⟩
    rw [Nat.add_right_comm n 1, List.cons_append, unicodeText.eq_8 _ _ (no_cons_followed (by decide) backslash)
      (no_cons_followed (by decide) plus), same']
    simp [same, bind, Except.bind, pure, Except.pure]
  | case9 n c cs alone doubled quote _ _ backslash ih =>
    obtain ⟨⟨s, rest⟩, hs, h⟩ := bind_eq_ok h
    cases h
    have ⟨shorter, same⟩ := ih hs
    have noQuote : c ≠ '\'' := by
      cases cs with
      | nil => exact fun h => alone h rfl
      | cons d ds => exact fun h => quote _ _ h rfl
    have noBackslash : c ≠ '\\' := backslash
    exact ⟨by grind, fun more k => by
      simp [Nat.add_right_comm n 1, unicodeText, noQuote, noBackslash, same, bind, Except.bind, pure, Except.pure]⟩

/-! ## Dollar quotes -/

theorem stable_dollarText : Stable dollarText := by
  intro cs s rest h
  fun_induction dollarText cs generalizing s with
  | case1 => cases h
  | case2 cs => cases h; exact ⟨by grind, fun _ => rfl⟩
  | case3 c cs other ih =>
    obtain ⟨⟨s, rest⟩, hs, he⟩ := Option.map_eq_some_iff.1 h
    cases he
    have ⟨shorter, same⟩ := ih hs
    refine ⟨Nat.le_succ_of_le shorter, fun more => ?_⟩
    have other' ds (hc : c = '$') : cs ++ '\n' :: more ≠ '$' :: ds :=
      no_cons_followed (by decide) (fun ds => other ds hc) ds
    rw [List.cons_append, dollarText.eq_3 _ _ other', same]
    rfl

theorem dropHead?_followed {front : List Char} (h : '\n' ∉ front) (cs : List Char) :
    dropHead? front (cs ++ '\n' :: more) = (dropHead? front cs).map (· ++ '\n' :: more) := by
  fun_induction dropHead? front cs with
  | case1 => rfl
  | case2 d ds =>
    have : d ≠ '\n' := fun e => h (e ▸ List.mem_cons_self)
    simp [dropHead?, this]
  | case3 d ds c cs same ih => simp [dropHead?, same, ih fun hd => h (List.mem_cons_of_mem _ hd)]
  | case4 d ds c cs other => simp [dropHead?, other]

theorem dropHead?_length {front : List Char} (h : dropHead? front cs = some rest) : rest.length ≤ cs.length := by
  fun_induction dropHead? front cs with
  | case1 => cases h; exact Nat.le_refl _
  | case3 d ds c cs same ih => exact Nat.le_succ_of_le (ih h)
  | _ => cases h

theorem stable_taggedText {closing : List Char} (mark : closing ≠ []) (hn : '\n' ∉ closing) :
    Stable (taggedText closing) := by
  intro cs s rest h
  fun_induction taggedText closing cs generalizing s with
  | case1 h => exact absurd (List.isEmpty_iff.1 ‹_›) mark
  | case2 => cases h
  | case3 c cs left found =>
    cases h
    exact ⟨dropHead?_length found, fun more => by
      rw [List.cons_append, taggedText, ← List.cons_append, dropHead?_followed hn, found]; rfl⟩
  | case4 c cs absent ih =>
    obtain ⟨⟨s, rest⟩, hs, he⟩ := Option.map_eq_some_iff.1 h
    cases he
    have ⟨shorter, same⟩ := ih hs
    refine ⟨Nat.le_succ_of_le shorter, fun more => ?_⟩
    rw [List.cons_append, taggedText, ← List.cons_append, dropHead?_followed hn, absent]
    simp [same]

theorem spanChars_all {p : Char → Bool} {c : Char} (h : c ∈ (spanChars p cs).1) : p c := by
  induction cs with
  | nil => cases h
  | cons d ds ih =>
    unfold spanChars at h
    split at h
    · next hd =>
      rcases List.mem_cons.1 h with rfl | h
      · exact hd
      · exact ih h
    · cases h

/-- Two dollar signs start a quoted string without a tag. -/
theorem scanDollar_dollar (body : List Char) :
    scanDollar ('$' :: body) =
      match dollarText body with
      | some (s, rest) => .ok (.dollar (String.ofList s) none, rest)
      | none => .error ⟨"Unterminated dollar-quoted string", 0⟩ :=
  rfl

section

variable {tag left body : List Char} (bare : ∀ ds, cs = '$' :: ds → False)
include bare

/-- A dollar sign with a tag behind it starts a quoted string. -/
theorem scanDollar_tagged (read : spanChars (fun c => isLetterOrDigit c || c == '_') cs = (tag, '$' :: body)) :
    scanDollar cs =
      match taggedText ('$' :: tag ++ ['$']) body with
      | some (s, rest) =>
        .ok (.dollar (String.ofList s) (if tag.isEmpty then none else some (String.ofList tag)), rest)
      | none => .error ⟨"Unterminated dollar-quoted, expected $", 0⟩ := by
  delta scanDollar
  dsimp only
  split
  · exact absurd rfl (bare _)
  · rw [read]
    rfl

/-- A dollar sign that neither another nor a tag follows starts a placeholder. -/
theorem scanDollar_placeholder (read : spanChars (fun c => isLetterOrDigit c || c == '_') cs = (tag, left))
    (untagged : ∀ ds, left = '$' :: ds → False) :
    scanDollar cs = .ok (.placeholder ("$" ++ String.ofList tag), left) := by
  delta scanDollar
  dsimp only
  split
  · exact absurd rfl (bare _)
  · rw [read]
    split
    · exact absurd ‹_› (untagged _)
    · rfl

end

theorem stable_scanDollar : StableScan scanDollar := by
  intro cs t rest h
  by_cases bare : ∀ ds, cs = '$' :: ds → False
  · have bare' more : ∀ ds, cs ++ '\n' :: more ≠ '$' :: ds := no_cons_followed (by decide) bare
    obtain ⟨tag, left, read⟩ : ∃ tag left, spanChars (fun c => isLetterOrDigit c || c == '_') cs = (tag, left) :=
      ⟨_, _, rfl⟩
    have length := spanChars_length (fun c => isLetterOrDigit c || c == '_') cs
    have read' more : spanChars (fun c => isLetterOrDigit c || c == '_') (cs ++ '\n' :: more) =
        (tag, left ++ '\n' :: more) := by
      rw [spanChars_followed (by decide), read, followed_mk]
    rw [read] at length
    by_cases untagged : ∀ ds, left = '$' :: ds → False
    · rw [scanDollar_placeholder bare read untagged] at h
      cases h
      exact ⟨length, fun more =>
        scanDollar_placeholder (bare' more) (read' more) (no_cons_followed (by decide) untagged)⟩
    · obtain ⟨body, rfl, -⟩ : ∃ body, left = '$' :: body ∧ ¬ False := by simpa using untagged
      rw [scanDollar_tagged bare read] at h
      -- The closing tag is found only where the text has it, for it has no line break.
      have noBreak : '\n' ∉ '$' :: tag ++ ['$'] := by
        have : '\n' ∉ tag := fun h => absurd (spanChars_all (by rw [read]; exact h)) (by decide)
        simpa using this
      split at h
      · next found =>
        cases h
        have ⟨shorter, same⟩ := stable_taggedText (by simp) noBreak found
        refine ⟨by grind, fun more => ?_⟩
        have read' := read' more
        rw [List.cons_append] at read'
        rw [scanDollar_tagged (bare' more) read', same]
      · cases h
  · obtain ⟨body, rfl, -⟩ : ∃ body, cs = '$' :: body ∧ ¬ False := by simpa using bare
    rw [scanDollar_dollar] at h
    split at h
    · next found =>
      cases h
      have ⟨shorter, same⟩ := stable_dollarText found
      refine ⟨Nat.le_succ_of_le shorter, fun more => ?_⟩
      rw [List.cons_append, scanDollar_dollar, same]
    · cases h

end QueryGateway.Sql
