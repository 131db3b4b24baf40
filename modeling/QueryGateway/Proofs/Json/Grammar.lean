import QueryGateway.Proofs.Json.Written

/-!
# The grammar of JSON

Which texts are JSON at all, by their shape alone: the rules have no limit on how deep values are
nested or how large numbers are, let a string hold lone halves of surrogate pairs, and let a key
stand twice. Main statement: a value is read only from a text of this grammar, so every other text
is refused.
-/

namespace QueryGateway.Json

open Text

/-! ## Numerals -/

/-- One digit or more. -/
def IsDigits (cs : List Char) : Prop := cs ≠ [] ∧ ∀ c ∈ cs, isDigit c = true

/-- The digits in front of the point: no zero stands in front of others. -/
def IsWhole (cs : List Char) : Prop := IsDigits cs ∧ (cs.head? = some '0' → cs = ['0'])

/-- Nothing, or a point and digits. -/
def IsFraction (cs : List Char) : Prop := cs = [] ∨ ∃ ds, cs = '.' :: ds ∧ IsDigits ds

/-- Nothing, or the letter, perhaps a sign, and digits. -/
def IsExponent (cs : List Char) : Prop :=
  cs = [] ∨ ∃ e sign ds, cs = e :: (sign ++ ds) ∧ (e = 'e' ∨ e = 'E') ∧ (sign = [] ∨ sign = ['+'] ∨ sign = ['-']) ∧
    IsDigits ds

/-- A numeral behind its sign. -/
def IsUnsignedNumeral (cs : List Char) : Prop :=
  ∃ whole fraction exponent, cs = whole ++ (fraction ++ exponent) ∧ IsWhole whole ∧ IsFraction fraction ∧
    IsExponent exponent

/-- The text of a number. -/
def IsNumeral (cs : List Char) : Prop := IsUnsignedNumeral cs ∨ ∃ ds, cs = '-' :: ds ∧ IsUnsignedNumeral ds

/-! ## Strings -/

/-- The letters of the short escapes. -/
def escapeLetters : List Char := ['"', '\\', '/', 'b', 'f', 'n', 'r', 't']

/-- What stands between the quotes of a string. -/
inductive IsContent : List Char → Prop
  | nil : IsContent []
  | plain {c : Char} {t : List Char} (control : 0x20 ≤ c.toNat) (quote : c ≠ '"') (backslash : c ≠ '\\') :
      IsContent t → IsContent (c :: t)
  | escaped {e : Char} {t : List Char} (letter : e ∈ escapeLetters) : IsContent t → IsContent ('\\' :: e :: t)
  | unit {x₁ x₂ x₃ x₄ : Char} {t : List Char} (digits : ∀ x ∈ [x₁, x₂, x₃, x₄], isHexDigit x = true) :
      IsContent t → IsContent ('\\' :: 'u' :: x₁ :: x₂ :: x₃ :: x₄ :: t)

/-- A string with its quotes. -/
def IsString (cs : List Char) : Prop := ∃ t, cs = '"' :: (t ++ ['"']) ∧ IsContent t

/-! ## Values -/

mutual

/-- The text of a value, from its first character to its last. -/
inductive IsValue : List Char → Prop
  | nullWord : IsValue ['n', 'u', 'l', 'l']
  | trueWord : IsValue ['t', 'r', 'u', 'e']
  | falseWord : IsValue ['f', 'a', 'l', 's', 'e']
  | number {t : List Char} : IsNumeral t → IsValue t
  | string {t : List Char} : IsString t → IsValue t
  | array {blanks t : List Char} : Blank blanks → IsItems true t → IsValue ('[' :: (blanks ++ (t ++ [']'])))
  | object {blanks t : List Char} : Blank blanks → IsMembers true t →
      IsValue ('\x7b' :: (blanks ++ (t ++ ['\x7d'])))

/-- Items, with commas in front of all but the first. -/
inductive IsItems : Bool → List Char → Prop
  | nil {first : Bool} : IsItems first []
  | cons {first : Bool} {lead u blanks w : List Char} : Leads first lead → IsValue u → Blank blanks →
      IsItems false w → IsItems first (lead ++ (u ++ (blanks ++ w)))

/-- Members, with commas in front of all but the first. -/
inductive IsMembers : Bool → List Char → Prop
  | nil {first : Bool} : IsMembers first []
  | cons {first : Bool} {lead key b₁ b₂ u b₃ w : List Char} : Leads first lead → IsString key → Blank b₁ →
      Blank b₂ → IsValue u → Blank b₃ → IsMembers false w →
      IsMembers first (lead ++ (key ++ (b₁ ++ (':' :: (b₂ ++ (u ++ (b₃ ++ w)))))))

end

/-- The text is JSON: one value with white space around it. -/
def IsJson (cs : List Char) : Prop :=
  ∃ front u back, cs = front ++ (u ++ back) ∧ Blank front ∧ IsValue u ∧ Blank back

/-- JSON starts with a bracket, a quote, a sign, a digit or one of three letters. -/
theorem IsValue.starts {t : List Char} (h : IsValue t) :
    ∃ c cs, t = c :: cs ∧ (c ∈ ['n', 't', 'f', '"', '[', '\x7b', '-'] ∨ isDigit c = true) := by
  cases h with
  | nullWord => exact ⟨_, _, rfl, .inl (by decide)⟩
  | trueWord => exact ⟨_, _, rfl, .inl (by decide)⟩
  | falseWord => exact ⟨_, _, rfl, .inl (by decide)⟩
  | array => exact ⟨_, _, rfl, .inl (by decide)⟩
  | object => exact ⟨_, _, rfl, .inl (by decide)⟩
  | string h =>
    obtain ⟨u, rfl, -⟩ := h
    exact ⟨_, _, rfl, .inl (by decide)⟩
  | number h =>
    rcases h with ⟨whole, fraction, exponent, rfl, ⟨⟨some, digits⟩, -⟩, -⟩ | ⟨ds, rfl, -⟩
    · obtain ⟨d, ds, rfl⟩ := List.exists_cons_of_ne_nil some
      exact ⟨d, _, rfl, .inr (digits d List.mem_cons_self)⟩
    · exact ⟨_, _, rfl, .inl (by decide)⟩

theorem IsJson.starts {c : Char} {cs : List Char} (h : IsJson (c :: cs)) (hc : isSpace c = false) :
    c ∈ ['n', 't', 'f', '"', '[', '\x7b', '-'] ∨ isDigit c = true := by
  obtain ⟨front, u, back, text, blank, value, -⟩ := h
  obtain ⟨d, ds, rfl, starts⟩ := value.starts
  cases front with
  | nil =>
    obtain rfl : c = d := (List.cons.inj text).1
    exact starts
  | cons b bs =>
    obtain rfl : c = b := (List.cons.inj text).1
    rw [blank c List.mem_cons_self] at hc
    cases hc

/-! ## What is taken from a text -/

/-- What a step of the reader takes from the text at a cursor has a shape, unless it stops there, and
then something else is so. -/
def Takes (P : List Char → Prop) (stopped : Prop) (c : Cursor) : Option Cursor → Prop
  | some after => ∃ t, c.rest = t ++ after.rest ∧ P t
  | none => stopped

/-- What is taken behind something else is taken together with it. -/
theorem Takes.behind {P Q : List Char → Prop} {stopped stopped' : Prop} {c c' : Cursor} {o : Option Cursor}
    {front : List Char} (text : c.rest = front ++ c'.rest) (h : Takes P stopped c' o) (stops : stopped → stopped')
    (shape : ∀ t, P t → Q (front ++ t)) : Takes Q stopped' c o := by
  cases o with
  | none => exact stops h
  | some after =>
    obtain ⟨t, taken, ht⟩ := h
    exact ⟨front ++ t, by rw [text, taken, List.append_assoc], shape t ht⟩

theorem skipSpace_takes (c : Cursor) : ∃ blanks, c.rest = blanks ++ c.skipSpace.rest ∧ Blank blanks :=
  ⟨c.rest.takeWhile isSpace, List.takeWhile_append_dropWhile.symm, fun _ h => List.mem_takeWhile_imp h⟩

/-- A character and the white space behind it. -/
theorem advance_takes {c : Cursor} {d : Char} {cs : List Char} (h : c.rest = d :: cs) :
    c.rest = [d] ++ (c.advance 1).rest ∧
      ∃ blanks, c.rest = d :: blanks ++ (c.advance 1).skipSpace.rest ∧ Blank blanks := by
  obtain ⟨blanks, spaced, blank⟩ := skipSpace_takes (c.advance 1)
  have first : c.rest = d :: (c.advance 1).rest := by
    rw [Cursor.advance, h]
    rfl
  exact ⟨first, blanks, first.trans (congrArg (d :: ·) spaced), blank⟩

theorem expectWord_takes {word cs : List Char} {mark : Mark} {after : Cursor} (h : expectWord mark word cs = .ok after) :
    cs = word ++ after.rest := by
  induction word generalizing mark cs with
  | nil =>
    cases h
    rfl
  | cons w ws ih =>
    cases cs with
    | nil => cases h
    | cons c cs =>
      rw [expectWord] at h
      split at h
      · next same =>
        rw [beq_iff_eq.1 same, ih h]
        rfl
      · cases h

/-! ## Numerals that are taken -/

theorem takeDigits_takes {c after : Cursor} {ds : List Char} (h : takeDigits c = (ds, after)) (some : ds ≠ []) :
    c.rest = ds ++ after.rest ∧ IsDigits ds := by
  cases h
  exact ⟨List.takeWhile_append_dropWhile.symm, some, fun _ h => List.mem_takeWhile_imp h⟩

theorem scanSome_takes {c after : Cursor} {ds : List Char} (h : scanSome c = .ok (ds, after)) :
    c.rest = ds ++ after.rest ∧ IsDigits ds := by
  unfold scanSome at h
  split at h
  · cases h
  · next some taken =>
    cases h
    exact takeDigits_takes taken some

theorem scanWhole_takes {c after : Cursor} {ds : List Char} (h : scanWhole c = .ok (ds, after)) :
    c.rest = ds ++ after.rest ∧ IsWhole ds := by
  unfold scanWhole at h
  split at h
  · cases h
  · cases h
  · next ds after some single taken =>
    cases h
    obtain ⟨text, digits⟩ := takeDigits_takes taken some
    refine ⟨text, digits, fun zero => ?_⟩
    match ds, zero, single with
    | [d], zero, _ => rw [Option.some.inj zero]
    | d :: e :: ds, zero, single =>
      obtain rfl : d = '0' := Option.some.inj zero
      exact absurd rfl (single e ds)

theorem scanFraction_takes {c after : Cursor} {fraction : Option (List Char)} (h : scanFraction c = .ok (fraction, after)) :
    ∃ t, c.rest = t ++ after.rest ∧ IsFraction t := by
  unfold scanFraction at h
  split at h
  · next cs point =>
    obtain ⟨⟨ds, behind⟩, scanned, same⟩ := map_eq_ok h
    cases same
    obtain ⟨text, digits⟩ := scanSome_takes scanned
    exact ⟨'.' :: ds, by rw [point]; exact congrArg (List.cons '.') text, .inr ⟨ds, rfl, digits⟩⟩
  · cases h
    exact ⟨[], rfl, .inl rfl⟩

theorem scanSign_takes (c : Cursor) :
    ∃ sign, c.rest = sign ++ (scanSign c).2.rest ∧ (sign = [] ∨ sign = ['+'] ∨ sign = ['-']) := by
  unfold scanSign
  split
  · next text => exact ⟨['+'], text, .inr (.inl rfl)⟩
  · next text => exact ⟨['-'], text, .inr (.inr rfl)⟩
  · exact ⟨[], rfl, .inl rfl⟩

theorem scanExponent_takes {c after : Cursor} {exponent : Option (Bool × List Char)}
    (h : scanExponent c = .ok (exponent, after)) : ∃ t, c.rest = t ++ after.rest ∧ IsExponent t := by
  unfold scanExponent at h
  split at h
  · next e cs text =>
    split at h
    · next letter =>
      obtain ⟨⟨ds, behind⟩, scanned, same⟩ := map_eq_ok h
      cases same
      obtain ⟨sign, signed, isSign⟩ := scanSign_takes ⟨c.mark + 1, cs⟩
      obtain ⟨digitsText, digits⟩ := scanSome_takes (c := (scanSign ⟨c.mark + 1, cs⟩).2) scanned
      refine ⟨e :: (sign ++ ds), ?_, .inr ⟨e, sign, ds, rfl, by simpa using letter, isSign, digits⟩⟩
      rw [text, show cs = _ from signed, digitsText]
      simp
    · cases h
      exact ⟨[], rfl, .inl rfl⟩
  · cases h
    exact ⟨[], rfl, .inl rfl⟩

theorem scanUnsigned_takes {negative : Bool} {c after : Cursor} {n : Numeral}
    (h : scanUnsigned negative c = .ok (n, after)) : ∃ t, c.rest = t ++ after.rest ∧ IsUnsignedNumeral t := by
  obtain ⟨⟨whole, c₁⟩, h₁, h⟩ := bind_eq_ok h
  obtain ⟨⟨fraction, c₂⟩, h₂, h⟩ := bind_eq_ok h
  obtain ⟨⟨exponent, c₃⟩, h₃, h⟩ := bind_eq_ok h
  cases h
  obtain ⟨text₁, isWhole⟩ := scanWhole_takes h₁
  obtain ⟨t₂, text₂, isFraction⟩ := scanFraction_takes h₂
  obtain ⟨t₃, text₃, isExponent⟩ := scanExponent_takes h₃
  refine ⟨whole ++ (t₂ ++ t₃), ?_, whole, t₂, t₃, rfl, isWhole, isFraction, isExponent⟩
  rw [text₁, text₂, text₃]
  simp

theorem scanNumeral_takes {c after : Cursor} {n : Numeral} (h : scanNumeral c = .ok (n, after)) :
    ∃ t, c.rest = t ++ after.rest ∧ IsNumeral t := by
  obtain ⟨mark, cs⟩ := c
  cases cs with
  | nil => cases h
  | cons d ds =>
    by_cases minus : d = '-'
    · subst minus
      obtain ⟨t, text, unsigned⟩ := scanUnsigned_takes h
      exact ⟨'-' :: t, congrArg (List.cons '-') text, .inr ⟨t, rfl, unsigned⟩⟩
    · rw [scanNumeral_unsigned minus] at h
      obtain ⟨t, text, unsigned⟩ := scanUnsigned_takes h
      exact ⟨t, text, .inl unsigned⟩

/-! ## Strings that are taken -/

theorem isHexDigit_of_hexUnit? {a b c d : Char} {n : Nat} (h : hexUnit? a b c d = some n) :
    ∀ x ∈ [a, b, c, d], isHexDigit x = true := by
  have all : ∀ (cs : List Char) (acc : Nat), numeralFrom 16 hexDigit? acc cs = some n →
      ∀ x ∈ cs, isHexDigit x = true := by
    intro cs
    induction cs with
    | nil => exact fun _ _ x hx => absurd hx List.not_mem_nil
    | cons y ys ih =>
      intro acc h
      rw [numeralFrom] at h
      cases digit : hexDigit? y with
      | none => simp [digit] at h
      | some v =>
        rw [digit] at h
        exact List.forall_mem_cons.2 ⟨by rw [isHexDigit, digit]; rfl, ih _ h⟩
  exact all _ 0 h

theorem mem_escapeLetters_of_unescape? {e c : Char} (h : unescape? e = some c) : e ∈ escapeLetters := by
  unfold unescape? at h
  split at h <;> first | cases h; done | decide

/-- A string that is closed is one of the grammar. -/
theorem scanString_takes {mark : Mark} {cs : List Char} (h : (scanString mark cs).1.ending = .closed) :
    ∃ t, cs = t ++ '"' :: (scanString mark cs).2 ∧ IsContent t := by
  fun_induction scanString mark cs with
  | case1 => cases h
  | case2 mark cs => exact ⟨[], rfl, .nil⟩
  | case3 => cases h
  | case4 mark a b c d cs n digits ih =>
    obtain ⟨t, text, content⟩ := ih h
    exact ⟨'\\' :: 'u' :: a :: b :: c :: d :: t, congrArg ('\\' :: 'u' :: a :: b :: c :: d :: ·) text,
      content.unit (isHexDigit_of_hexUnit? digits)⟩
  | case5 mark a b c d cs digits =>
    unfold wrongDigits at h
    split at h <;> cases h
  | case6 mark cs short =>
    unfold wrongDigits at h
    split at h <;> cases h
  | case7 mark e cs _ _ c letter ih =>
    obtain ⟨t, text, content⟩ := ih h
    exact ⟨'\\' :: e :: t, congrArg ('\\' :: e :: ·) text, content.escaped (mem_escapeLetters_of_unescape? letter)⟩
  | case8 => cases h
  | case9 => cases h
  | case10 mark c cs quote last _ _ other control ih =>
    obtain ⟨t, text, content⟩ := ih h
    have backslash : c ≠ '\\' := by
      intro same
      cases cs with
      | nil => exact last same rfl
      | cons e cs => exact other e cs same rfl
    exact ⟨c :: t, congrArg (c :: ·) text, content.plain (Nat.le_of_not_lt control) quote backslash⟩

/-! ## Trees -/

/-- An array or an object that is not closed. -/
def Close.Broken (close : Close) : Prop := ∃ read skip, close = .broken read skip

/-- The builder stopped at the tree or inside of it. -/
def Node.Stopped : Node → Prop
  | .broken .. => True
  | .array _ _ close => close.Broken
  | .object _ _ close => close.Broken
  | .null _ => False
  | .bool .. => False
  | .number .. => False
  | .string .. => False

/-- Such a tree cannot be read, however deep the reader goes. -/
theorem Node.Stopped.read_ne_ok {n : Node} (h : n.Stopped) (depth : Nat) (v : Value) : n.read depth ≠ .ok v := by
  intro hv
  unfold Node.read at hv
  split at hv
  case h_5 | h_6 =>
    obtain ⟨read, skip, rfl⟩ := h
    split at hv
    · cases hv
    · obtain ⟨vs, -, hv⟩ := bind_eq_ok hv
      cases hv
  case h_7 => cases hv
  all_goals exact h

theorem stringNode_takes (c : Cursor) :
    Takes (fun t => ∃ u, t = u ++ ['"'] ∧ IsContent u) (stringNode c).1.Stopped c (stringNode c).2 := by
  unfold stringNode
  dsimp only
  split
  · next closed =>
    have closed : (scanString c.mark c.rest).1.ending = .closed := by
      cases ending : (scanString c.mark c.rest).1.ending <;> rw [ending] at closed <;> first | rfl | cases closed
    obtain ⟨t, text, content⟩ := scanString_takes closed
    exact ⟨t ++ ['"'], text.trans (List.append_cons _ _ _), t, rfl, content⟩
  · exact trivial

theorem wordNode_takes {word : List Char} (h : IsValue word) (n : Mark → Node) (c : Cursor) :
    Takes IsValue (wordNode word n c).1.Stopped c (wordNode word n c).2 := by
  unfold wordNode
  split
  · next after expected => exact ⟨word, expectWord_takes expected, h⟩
  · exact trivial

theorem numberNode_takes (c : Cursor) : Takes IsValue (numberNode c).1.Stopped c (numberNode c).2 := by
  unfold numberNode
  split
  · next n after scanned =>
    obtain ⟨t, text, numeral⟩ := scanNumeral_takes scanned
    exact ⟨t, text, .number numeral⟩
  · exact trivial

/-- What the builders of trees take from a text is of the grammar, unless they stop. -/
structure BuildsGrammar (fuel : Nat) : Prop where
  value : ∀ c, Takes IsValue (valueNode fuel c).1.Stopped c (valueNode fuel c).2
  items : ∀ first c, Takes (fun t => ∃ u, t = u ++ [']'] ∧ IsItems first u) (itemNodes fuel first c).2.1.Broken c
    (itemNodes fuel first c).2.2
  itemThenMore : ∀ c, Takes (fun t => ∃ u, t = u ++ [']'] ∧ ∀ first lead, Leads first lead → IsItems first (lead ++ u))
    (itemThenMore fuel c).2.1.Broken c (itemThenMore fuel c).2.2
  members : ∀ first c, Takes (fun t => ∃ u, t = u ++ ['\x7d'] ∧ IsMembers first u) (memberNodes fuel first c).2.1.Broken
    c (memberNodes fuel first c).2.2
  memberThenMore : ∀ c,
    Takes (fun t => ∃ u, t = u ++ ['\x7d'] ∧ ∀ first lead, Leads first lead → IsMembers first (lead ++ u))
      (memberThenMore fuel c).2.1.Broken c (memberThenMore fuel c).2.2
  memberValue : ∀ c, Takes (fun t => ∃ blanks u, t = ':' :: (blanks ++ u) ∧ Blank blanks ∧ IsValue u)
    (memberValue fuel c).1.Stopped c (memberValue fuel c).2

theorem broken_stuck (read skip : Cause) (mark : Mark) : (stuck read skip mark).Broken := ⟨_, _, rfl⟩

/-- What leads to the rest of a list is taken together with it. -/
theorem takes_led {IsRest : Bool → List Char → Prop} {first : Bool} {lead : List Char} {close : Char} {stopped : Prop}
    {c c' : Cursor} {o : Option Cursor} (text : c.rest = lead ++ c'.rest) (leads : Leads first lead)
    (h : Takes (fun t => ∃ u, t = u ++ [close] ∧ ∀ first lead, Leads first lead → IsRest first (lead ++ u)) stopped c' o) :
    Takes (fun t => ∃ u, t = u ++ [close] ∧ IsRest first u) stopped c o := by
  refine h.behind text id ?_
  rintro t ⟨u, same, rest⟩
  exact ⟨lead ++ u, by rw [same, List.append_assoc], rest first lead leads⟩

/-! Each builder takes its parts from builders with less fuel. -/

section

variable {fuel : Nat} (less : BuildsGrammar fuel)

include less

theorem valueNode_takes (c : Cursor) : Takes IsValue (valueNode (fuel + 1) c).1.Stopped c (valueNode (fuel + 1) c).2 := by
  unfold valueNode
  split
  · exact trivial
  · exact wordNode_takes .nullWord _ c
  · exact wordNode_takes .trueWord _ c
  · exact wordNode_takes .falseWord _ c
  · next quote =>
    refine (stringNode_takes (c.advance 1)).behind (advance_takes quote).1 id ?_
    rintro t ⟨u, same, content⟩
    exact .string ⟨u, congrArg ('"' :: ·) same, content⟩
  · next bracket =>
    obtain ⟨-, blanks, text, blank⟩ := advance_takes bracket
    refine (less.items true _).behind text id ?_
    rintro t ⟨u, same, items⟩
    rw [same]
    exact .array blank items
  · next brace =>
    obtain ⟨-, blanks, text, blank⟩ := advance_takes brace
    refine (less.members true _).behind text id ?_
    rintro t ⟨u, same, members⟩
    rw [same]
    exact .object blank members
  · split
    · exact numberNode_takes c
    · exact trivial

theorem itemNodes_takes (first : Bool) (c : Cursor) :
    Takes (fun t => ∃ u, t = u ++ [']'] ∧ IsItems first u) (itemNodes (fuel + 1) first c).2.1.Broken c
      (itemNodes (fuel + 1) first c).2.2 := by
  unfold itemNodes
  split
  · exact broken_stuck _ _ _
  · next bracket => exact ⟨[']'], (advance_takes bracket).1, [], rfl, .nil⟩
  · next comma =>
    obtain ⟨-, blanks, text, blank⟩ := advance_takes comma
    dsimp only
    split
    · exact broken_stuck _ _ _
    · exact broken_stuck _ _ _
    · exact takes_led text ⟨blanks, rfl, blank⟩ (less.itemThenMore _)
  · exact broken_stuck _ _ _
  · exact takes_led (List.nil_append _).symm rfl (less.itemThenMore c)

theorem itemThenMore_takes (c : Cursor) :
    Takes (fun t => ∃ u, t = u ++ [']'] ∧ ∀ first lead, Leads first lead → IsItems first (lead ++ u))
      (itemThenMore (fuel + 1) c).2.1.Broken c (itemThenMore (fuel + 1) c).2.2 := by
  have value := less.value c
  unfold itemThenMore
  split
  · next node after built =>
    rw [built] at value
    obtain ⟨u, taken, value⟩ := value
    obtain ⟨blanks, spaced, blank⟩ := skipSpace_takes after
    have text : c.rest = u ++ blanks ++ after.skipSpace.rest := by rw [taken, spaced, List.append_assoc]
    refine (less.items false _).behind text id ?_
    rintro t ⟨w, same, items⟩
    refine ⟨u ++ (blanks ++ w), ?_, fun first lead hl => ?_⟩
    · simp [same]
    · exact .cons hl value blank items
  · exact broken_stuck _ _ _

theorem memberNodes_takes (first : Bool) (c : Cursor) :
    Takes (fun t => ∃ u, t = u ++ ['\x7d'] ∧ IsMembers first u) (memberNodes (fuel + 1) first c).2.1.Broken c
      (memberNodes (fuel + 1) first c).2.2 := by
  unfold memberNodes
  split
  · exact broken_stuck _ _ _
  · next brace => exact ⟨['\x7d'], (advance_takes brace).1, [], rfl, .nil⟩
  · next comma =>
    obtain ⟨-, blanks, text, blank⟩ := advance_takes comma
    dsimp only
    split
    · exact broken_stuck _ _ _
    · exact broken_stuck _ _ _
    · exact takes_led text ⟨blanks, rfl, blank⟩ (less.memberThenMore _)
  · exact broken_stuck _ _ _
  · exact takes_led (List.nil_append _).symm rfl (less.memberThenMore c)

theorem memberThenMore_takes (c : Cursor) :
    Takes (fun t => ∃ u, t = u ++ ['\x7d'] ∧ ∀ first lead, Leads first lead → IsMembers first (lead ++ u))
      (memberThenMore (fuel + 1) c).2.1.Broken c (memberThenMore (fuel + 1) c).2.2 := by
  unfold memberThenMore
  split
  · next quote =>
    split
    · next after scanned =>
      have key := stringNode_takes (c.advance 1)
      rw [scanned] at key
      obtain ⟨_, keyText, k, rfl, content⟩ := key
      obtain ⟨b₁, spaced₁, blank₁⟩ := skipSpace_takes after
      have value := less.memberValue after.skipSpace
      dsimp only
      split
      · next behind built =>
        rw [built] at value
        obtain ⟨_, valueText, b₂, u, rfl, blank₂, value⟩ := value
        obtain ⟨b₃, spaced₃, blank₃⟩ := skipSpace_takes behind
        have text : c.rest = '"' :: (k ++ ['"']) ++ (b₁ ++ (':' :: (b₂ ++ (u ++ b₃)))) ++ behind.skipSpace.rest := by
          rw [(advance_takes quote).1, keyText, spaced₁, valueText, spaced₃]
          simp
        refine (less.members false _).behind text id ?_
        rintro t ⟨w, same, members⟩
        refine ⟨'"' :: (k ++ ['"']) ++ (b₁ ++ (':' :: (b₂ ++ (u ++ (b₃ ++ w))))), ?_, fun first lead hl => ?_⟩
        · simp [same]
        · exact .cons hl ⟨k, rfl, content⟩ blank₁ blank₂ value blank₃ members
      · exact broken_stuck _ _ _
    · exact ⟨_, _, rfl⟩
    · exact broken_stuck _ _ _
  · exact broken_stuck _ _ _

theorem memberValue_takes (c : Cursor) :
    Takes (fun t => ∃ blanks u, t = ':' :: (blanks ++ u) ∧ Blank blanks ∧ IsValue u)
      (memberValue (fuel + 1) c).1.Stopped c (memberValue (fuel + 1) c).2 := by
  unfold memberValue
  split
  · next colon =>
    obtain ⟨-, blanks, text, blank⟩ := advance_takes colon
    exact (less.value _).behind text id fun t value => ⟨blanks, t, rfl, blank, value⟩
  · exact trivial
  · exact trivial

end

theorem buildsGrammar (fuel : Nat) : BuildsGrammar fuel := by
  induction fuel with
  | zero =>
    constructor
    case value => exact fun c => trivial
    case memberValue => exact fun c => trivial
    all_goals intros
    all_goals exact broken_stuck _ _ _
  | succ fuel less =>
    constructor
    case value => exact valueNode_takes less
    case items => exact itemNodes_takes less
    case itemThenMore => exact itemThenMore_takes less
    case members => exact memberNodes_takes less
    case memberThenMore => exact memberThenMore_takes less
    case memberValue => exact memberValue_takes less

/-- A text is JSON if its tree is built to the end, and nothing else follows. -/
theorem isJson_of_built {text : List Char} (built : ¬ (Document.ofChars text).root.Stopped)
    (all : (Document.ofChars text).trailing = none) : IsJson text := by
  have taken := (buildsGrammar (4 * text.length + 4)).value (Cursor.skipSpace ⟨0, text⟩)
  obtain ⟨front, frontText, blankFront⟩ := skipSpace_takes ⟨0, text⟩
  unfold Document.ofChars at built all
  dsimp only at built all
  cases behind : (valueNode (4 * text.length + 4) (Cursor.skipSpace ⟨0, text⟩)).2 with
  | none =>
    rw [behind] at taken
    exact absurd taken built
  | some after =>
    rw [behind] at taken all
    obtain ⟨u, valueText, value⟩ := taken
    obtain ⟨back, backText, blankBack⟩ := skipSpace_takes after
    have nothing : after.skipSpace.rest = [] := by
      cases rest : after.skipSpace.rest with
      | nil => rfl
      | cons c cs => simp [rest] at all
    refine ⟨front, u, back, ?_, blankFront, value, blankBack⟩
    rw [show text = _ from frontText, valueText, backText, nothing, List.append_nil]

/-- A value is read from JSON only. -/
theorem isJson_of_parse {text : String} {v : Value} (h : Value.parse text = .ok v) : IsJson text.toList := by
  obtain ⟨w, read, h⟩ := bind_eq_ok h
  refine isJson_of_built (fun stopped => stopped.read_ne_ok _ _ read) ?_
  cases behind : (Document.ofChars text.toList).trailing with
  | none => rfl
  | some f => simp [behind] at h

end QueryGateway.Json
