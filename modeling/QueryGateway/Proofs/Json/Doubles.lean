import Mathlib.Data.List.TakeWhile
import QueryGateway.Proofs.Json.Numeral
import QueryGateway.Proofs.Outcome

/-!
# Doubles read back

The reader of doubles rounds twice, so a double need not be read from its own text. Those that are
read from it as a document are read from it inside of any other document: a numeral that ends
where its text ends also ends there when something follows that does not go on with it.
-/

namespace QueryGateway

namespace Double
open Text

/-- The text of the double is read as the double. -/
def ReadsBack (x : Double) : Prop := Json.Value.parse x.text = .ok (.number (.double x))

instance (x : Double) : Decidable x.ReadsBack :=
  match h : Json.Value.parse x.text with
  | .ok (.number n) => decidable_of_iff (n = .double x) (by simp [ReadsBack, h])
  | .ok .null => isFalse (by simp [ReadsBack, h])
  | .ok (.bool _) => isFalse (by simp [ReadsBack, h])
  | .ok (.string _) => isFalse (by simp [ReadsBack, h])
  | .ok (.array _) => isFalse (by simp [ReadsBack, h])
  | .ok (.object _) => isFalse (by simp [ReadsBack, h])
  | .error _ => isFalse (by simp [ReadsBack, h])

/-- Most doubles read back, but not all: rounding twice loses a digit of this one. -/
example : ReadsBack ⟨false, 4503599627370496, -53⟩ ∧ ¬ ReadsBack ⟨false, 7212539907354464, -47⟩ := by decide +kernel

/-! ## Characters of a double -/

/-- A character that may stand in the text of a double. -/
def IsMark (c : Char) : Prop := isDigit c = true ∨ c = '-' ∨ c = '.' ∨ c = 'e'

theorem noSpace_of_isMark {c : Char} (h : IsMark c) : Json.isSpace c = false := by
  rcases h with digit | rfl | rfl | rfl
  · rw [Bool.eq_false_iff]
    intro space
    have blank : c = ' ' ∨ c = '\n' ∨ c = '\t' ∨ c = '\x0d' := by simpa [Json.isSpace, or_assoc] using space
    rcases blank with rfl | rfl | rfl | rfl <;> cases digit
  · rfl
  · rfl
  · rfl

/-- The text begins with a digit, and numbers are made of what else stands in it. -/
def IsUnsigned (cs : List Char) : Prop := (∃ d ds, cs = d :: ds ∧ isDigit d = true) ∧ ∀ c ∈ cs, IsMark c

theorem isUnsigned_digits_append {ds rest : List Char} (some : ds ≠ []) (digits : ∀ c ∈ ds, isDigit c = true)
    (marks : ∀ c ∈ rest, IsMark c) : IsUnsigned (ds ++ rest) := by
  obtain ⟨d, ds, rfl⟩ := List.exists_cons_of_ne_nil some
  refine ⟨⟨d, ds ++ rest, rfl, digits d List.mem_cons_self⟩, fun c hc => ?_⟩
  rcases List.mem_append.1 hc with hc | hc
  · exact .inl (digits c hc)
  · exact marks c hc

theorem isUnsigned_plainDigits (m : Nat) (e : Int) : IsUnsigned (plainDigits m e).toList := by
  have digits : ∀ c ∈ Nat.toDigits 10 m, isDigit c = true := fun c hc => isDigit_of_mem_toDigits hc
  have zero : ∀ n, ∀ c ∈ List.replicate n '0', IsMark c := by
    intro n c hc
    obtain rfl := List.eq_of_mem_replicate hc
    exact .inl rfl
  have shown : (toString m).toList = Nat.toDigits 10 m := Nat.toList_repr
  unfold plainDigits
  dsimp only
  rw [shown]
  split_ifs with whole front
  · -- An integer, with zeros behind it.
    have marks : ∀ c ∈ List.replicate e.toNat '0' ++ ['.', '0'], IsMark c := by
      intro c hc
      rcases List.mem_append.1 hc with hc | hc
      · exact zero _ c hc
      · rcases List.mem_cons.1 hc with rfl | hc
        · exact .inr (.inr (.inl rfl))
        · exact zero 1 c hc
    have unsigned := isUnsigned_digits_append (Nat.toDigits_ne_nil (n := m) (b := 10)) digits marks
    simpa [zeros] using unsigned
  · -- The point stands between the digits.
    have some : (Nat.toDigits 10 m).take ((Nat.toDigits 10 m).length + e).toNat ≠ [] := by
      intro none
      rcases List.take_eq_nil_iff.1 none with none | none
      · omega
      · exact Nat.toDigits_ne_nil none
    have marks : ∀ c ∈ '.' :: (Nat.toDigits 10 m).drop ((Nat.toDigits 10 m).length + e).toNat, IsMark c := by
      intro c hc
      rcases List.mem_cons.1 hc with rfl | hc
      · exact .inr (.inr (.inl rfl))
      · exact .inl (digits c (List.mem_of_mem_drop hc))
    have unsigned := isUnsigned_digits_append some (fun c hc => digits c (List.mem_of_mem_take hc)) marks
    simpa using unsigned
  · -- Zeros stand behind the point.
    have marks : ∀ c ∈ '.' :: (List.replicate (-((Nat.toDigits 10 m).length + e)).toNat '0' ++ Nat.toDigits 10 m),
        IsMark c := by
      intro c hc
      rcases List.mem_cons.1 hc with rfl | hc
      · exact .inr (.inr (.inl rfl))
      · rcases List.mem_append.1 hc with hc | hc
        · exact zero _ c hc
        · exact .inl (digits c hc)
    have front : ∀ c ∈ ['0'], isDigit c = true := by simp [isDigit]
    have unsigned := isUnsigned_digits_append (List.cons_ne_nil '0' []) front marks
    simpa [zeros] using unsigned

theorem isMark_int {i : Int} {c : Char} (h : c ∈ (toString i).toList) : IsMark c := by
  rw [toList_toString_int] at h
  rcases List.mem_append.1 h with h | h
  · split at h
    · exact .inr (.inl (List.mem_singleton.1 h))
    · cases h
  · exact .inl (isDigit_of_mem_toDigits h)

/-- The text of a double is a minus at most, and then begins with a digit. -/
theorem toList_text (x : Double) :
    ∃ cs, x.text.toList = (if x.negative then ['-'] else []) ++ cs ∧ IsUnsigned cs := by
  have sign : (if x.negative then "-" else "").toList = if x.negative then ['-'] else [] := by
    split <;> rfl
  have digits : ∀ c ∈ Nat.toDigits 10 x.digits.1, isDigit c = true := fun c hc => isDigit_of_mem_toDigits hc
  have shown : (toString x.digits.1).toList = Nat.toDigits 10 x.digits.1 := Nat.toList_repr
  unfold text
  dsimp only
  split
  · exact ⟨_, by rw [String.toList_append, sign], isUnsigned_plainDigits x.digits.1 x.digits.2⟩
  · rw [shown]
    obtain ⟨d, ds, front⟩ := List.exists_cons_of_ne_nil (Nat.toDigits_ne_nil (n := x.digits.1) (b := 10))
    rw [front] at digits ⊢
    generalize ((d :: ds).length : Int) + x.digits.2 - 1 = power
    have marks : ∀ c ∈ (if (d :: ds).length ≤ 1 then [] else '.' :: ds) ++ 'e' :: (toString power).toList,
        IsMark c := by
      intro c hc
      rcases List.mem_append.1 hc with hc | hc
      · split at hc
        · cases hc
        · rcases List.mem_cons.1 hc with rfl | hc
          · exact .inr (.inr (.inl rfl))
          · exact .inl (digits c (List.mem_cons_of_mem d hc))
      · rcases List.mem_cons.1 hc with rfl | hc
        · exact .inr (.inr (.inr rfl))
        · exact isMark_int hc
    refine ⟨[d] ++ _, ?_, isUnsigned_digits_append (List.cons_ne_nil d []) (fun c hc => ?_) marks⟩
    · split_ifs <;> simp
    · exact digits c (List.mem_singleton.1 hc ▸ List.mem_cons_self)

end Double
namespace Json

open Text


/-! ## Numerals in front of other text -/

/-- What is scanned of a text is scanned of it also in front of what ends a numeral. -/
def ScansAhead {α : Type} (scan : Cursor → Except (Fault × Fault) (α × Cursor)) : Prop :=
  ∀ {mark : Mark} {cs : List Char} {x : α} {after : Cursor}, scan ⟨mark, cs⟩ = .ok (x, after) →
    ∀ (mark' : Mark) {rest : List Char}, EndsNumeral rest →
      ∃ stop, scan ⟨mark', cs ++ rest⟩ = .ok (x, ⟨stop, after.rest ++ rest⟩)

theorem takeDigits_ahead (mark mark' : Mark) (cs : List Char) {rest : List Char} (h : EndsNumeral rest) :
    ∃ stop, takeDigits ⟨mark', cs ++ rest⟩ =
      ((takeDigits ⟨mark, cs⟩).1, ⟨stop, (takeDigits ⟨mark, cs⟩).2.rest ++ rest⟩) := by
  have ends : ∀ c ∈ (cs.dropWhile isDigit ++ rest).head?, isDigit c = false := by
    intro c hc
    cases hdrop : cs.dropWhile isDigit with
    | nil =>
      rw [hdrop] at hc
      exact (h c hc).1
    | cons d ds =>
      rw [hdrop] at hc
      cases hc
      have stops := List.head?_dropWhile_not isDigit cs
      rw [hdrop] at stops
      exact stops
  have digits : ∀ c ∈ cs.takeWhile isDigit, isDigit c = true := fun c hc => List.mem_takeWhile_imp hc
  have taken := takeDigits_append digits ends mark'
  rw [← List.append_assoc, List.takeWhile_append_dropWhile] at taken
  exact ⟨_, taken⟩

theorem scanWhole_ahead : ScansAhead scanWhole := by
  intro mark cs ds after h mark' rest ends
  obtain ⟨stop, taken⟩ := takeDigits_ahead mark mark' cs ends
  unfold scanWhole at h
  split at h
  · cases h
  · cases h
  · next some single front =>
    cases h
    rw [front] at taken
    refine ⟨stop, ?_⟩
    unfold scanWhole
    rw [taken]
    split
    · next heq => exact absurd (congrArg Prod.fst heq) some
    · next heq => exact absurd (congrArg Prod.fst heq) (single _ _)
    · next heq => rw [← heq]

theorem scanSome_ahead : ScansAhead scanSome := by
  intro mark cs ds after h mark' rest ends
  obtain ⟨stop, taken⟩ := takeDigits_ahead mark mark' cs ends
  unfold scanSome at h
  split at h
  · cases h
  · next some front =>
    cases h
    rw [front] at taken
    refine ⟨stop, ?_⟩
    unfold scanSome
    rw [taken]
    split
    · next heq => exact absurd (congrArg Prod.fst heq) some
    · next heq => rw [← heq]

theorem scanFraction_ahead : ScansAhead scanFraction := by
  intro mark cs fraction after h mark' rest ends
  cases cs with
  | nil =>
    cases h
    refine ⟨mark', ?_⟩
    unfold scanFraction
    split
    · next point => exact absurd rfl (ends '.' (by rw [show rest = _ from point]; rfl)).2.1
    · rfl
  | cons c cs =>
    by_cases point : c = '.'
    · subst point
      obtain ⟨⟨ds, behind⟩, scanned, heq⟩ := map_eq_ok h
      cases heq
      obtain ⟨stop, ahead⟩ := scanSome_ahead scanned (mark' + 1) ends
      refine ⟨stop, ?_⟩
      show (scanSome ⟨mark' + 1, cs ++ rest⟩).map _ = _
      rw [ahead]
      rfl
    · have other : ∀ mark ds, scanFraction ⟨mark, c :: ds⟩ = .ok (none, ⟨mark, c :: ds⟩) := by
        intro mark ds
        unfold scanFraction
        split
        · next heq => exact absurd (List.cons.inj heq).1 point
        · rfl
      rw [other] at h
      cases h
      exact ⟨mark', other mark' (cs ++ rest)⟩

theorem scanSign_ahead (mark mark' : Mark) {cs : List Char} (h : cs ≠ []) (rest : List Char) :
    ∃ stop, scanSign ⟨mark', cs ++ rest⟩ =
      ((scanSign ⟨mark, cs⟩).1, ⟨stop, (scanSign ⟨mark, cs⟩).2.rest ++ rest⟩) := by
  obtain ⟨c, cs, rfl⟩ := List.exists_cons_of_ne_nil h
  by_cases plus : c = '+'
  · subst plus
    exact ⟨mark' + 1, rfl⟩
  by_cases minus : c = '-'
  · subst minus
    exact ⟨mark' + 1, rfl⟩
  have other : ∀ mark ds, scanSign ⟨mark, c :: ds⟩ = (false, ⟨mark, c :: ds⟩) := by
    intro mark ds
    unfold scanSign
    split
    · next heq => exact absurd (List.cons.inj heq).1 plus
    · next heq => exact absurd (List.cons.inj heq).1 minus
    · rfl
  rw [List.cons_append, other, other]
  exact ⟨mark', rfl⟩

theorem scanExponent_ahead : ScansAhead scanExponent := by
  intro mark cs exponent after h mark' rest ends
  cases cs with
  | nil =>
    cases h
    refine ⟨mark', ?_⟩
    cases rest with
    | nil => rfl
    | cons c rest =>
      obtain ⟨-, -, small, large⟩ := ends c rfl
      exact if_neg (by simp [small, large])
  | cons c cs =>
    by_cases letter : (c == 'e' || c == 'E') = true
    · have scan : ∀ mark ds, scanExponent ⟨mark, c :: ds⟩ = (scanSome (scanSign ⟨mark + 1, ds⟩).2).map
          fun scanned => (some ((scanSign ⟨mark + 1, ds⟩).1, scanned.1), scanned.2) := fun mark ds => if_pos letter
      rw [scan] at h
      obtain ⟨⟨digits, behind⟩, scanned, heq⟩ := map_eq_ok h
      cases heq
      have some : cs ≠ [] := by
        rintro rfl
        cases scanned
      obtain ⟨stop, sign⟩ := scanSign_ahead (mark + 1) (mark' + 1) some rest
      obtain ⟨stop', ahead⟩ := scanSome_ahead scanned stop ends
      refine ⟨stop', ?_⟩
      rw [List.cons_append, scan, sign]
      dsimp only
      rw [ahead]
      rfl
    · have other : ∀ mark ds, scanExponent ⟨mark, c :: ds⟩ = .ok (none, ⟨mark, c :: ds⟩) :=
        fun mark ds => if_neg letter
      rw [other] at h
      cases h
      exact ⟨mark', other mark' (cs ++ rest)⟩

/-- The numeral behind its sign. -/
def scanUnsigned (negative : Bool) (c : Cursor) : Except (Fault × Fault) (Numeral × Cursor) := do
  let (whole, c) ← scanWhole c
  let (fraction, c) ← scanFraction c
  let (exponent, c) ← scanExponent c
  return (⟨negative, whole, fraction, exponent⟩, c)

theorem scanUnsigned_ahead (negative : Bool) : ScansAhead (scanUnsigned negative) := by
  intro mark cs n after h mark' rest ends
  obtain ⟨⟨whole, c₁⟩, h₁, h⟩ := bind_eq_ok h
  obtain ⟨⟨fraction, c₂⟩, h₂, h⟩ := bind_eq_ok h
  obtain ⟨⟨exponent, c₃⟩, h₃, h⟩ := bind_eq_ok h
  cases h
  obtain ⟨m₁, ahead₁⟩ := scanWhole_ahead h₁ mark' ends
  obtain ⟨m₂, ahead₂⟩ := scanFraction_ahead h₂ m₁ ends
  obtain ⟨m₃, ahead₃⟩ := scanExponent_ahead h₃ m₂ ends
  refine ⟨m₃, ?_⟩
  unfold scanUnsigned
  rw [ahead₁]
  show (scanFraction ⟨m₁, c₁.rest ++ rest⟩ >>= _) = _
  rw [ahead₂]
  show (scanExponent ⟨m₂, c₂.rest ++ rest⟩ >>= _) = _
  rw [ahead₃]
  rfl

theorem scanNumeral_unsigned {c : Char} (h : c ≠ '-') (mark : Mark) (cs : List Char) :
    scanNumeral ⟨mark, c :: cs⟩ = scanUnsigned false ⟨mark, c :: cs⟩ := by
  unfold scanNumeral
  dsimp only
  split
  · next heq => exact absurd (List.cons.inj heq).1 h
  · rfl

theorem scanNumeral_ahead : ScansAhead scanNumeral := by
  intro mark cs n after h mark' rest ends
  cases cs with
  | nil => cases h
  | cons c cs =>
    by_cases minus : c = '-'
    · subst minus
      exact scanUnsigned_ahead true h (mark' + 1) ends
    · rw [scanNumeral_unsigned minus] at h
      rw [List.cons_append, scanNumeral_unsigned minus]
      exact scanUnsigned_ahead false h mark' ends

/-! ## What a numeral leaves -/

/-- What is left of a text stands at its end. -/
def LeavesEnd {α : Type} (scan : Cursor → Except (Fault × Fault) (α × Cursor)) : Prop :=
  ∀ {c : Cursor} {x : α} {after : Cursor}, scan c = .ok (x, after) → after.rest <:+ c.rest

theorem scanWhole_leavesEnd : LeavesEnd scanWhole := by
  intro c ds after h
  unfold scanWhole at h
  split at h
  · cases h
  · cases h
  · next front =>
    cases h
    obtain rfl : _ = after := congrArg Prod.snd front
    exact List.dropWhile_suffix isDigit

theorem scanSome_leavesEnd : LeavesEnd scanSome := by
  intro c ds after h
  unfold scanSome at h
  split at h
  · cases h
  · next front =>
    cases h
    obtain rfl : _ = after := congrArg Prod.snd front
    exact List.dropWhile_suffix isDigit

theorem scanFraction_leavesEnd : LeavesEnd scanFraction := by
  intro c fraction after h
  unfold scanFraction at h
  split at h
  · next cs point =>
    obtain ⟨⟨ds, behind⟩, scanned, heq⟩ := map_eq_ok h
    cases heq
    rw [point]
    exact (scanSome_leavesEnd scanned).trans (List.suffix_cons '.' cs)
  · cases h
    exact List.suffix_refl _

theorem scanSign_suffix (c : Cursor) : (scanSign c).2.rest <:+ c.rest := by
  unfold scanSign
  split
  · next cs sign => exact sign ▸ List.suffix_cons '+' cs
  · next cs sign => exact sign ▸ List.suffix_cons '-' cs
  · exact List.suffix_refl _

theorem scanExponent_leavesEnd : LeavesEnd scanExponent := by
  intro c exponent after h
  unfold scanExponent at h
  split at h
  · next e cs letter =>
    split at h
    · obtain ⟨⟨ds, behind⟩, scanned, heq⟩ := map_eq_ok h
      cases heq
      rw [letter]
      exact ((scanSome_leavesEnd scanned).trans (scanSign_suffix ⟨c.mark + 1, cs⟩)).trans (List.suffix_cons e cs)
    · cases h
      exact List.suffix_refl _
  · cases h
    exact List.suffix_refl _

theorem scanUnsigned_leavesEnd (negative : Bool) : LeavesEnd (scanUnsigned negative) := by
  intro c n after h
  obtain ⟨⟨whole, c₁⟩, h₁, h⟩ := bind_eq_ok h
  obtain ⟨⟨fraction, c₂⟩, h₂, h⟩ := bind_eq_ok h
  obtain ⟨⟨exponent, c₃⟩, h₃, h⟩ := bind_eq_ok h
  cases h
  exact ((scanExponent_leavesEnd h₃).trans (scanFraction_leavesEnd h₂)).trans (scanWhole_leavesEnd h₁)

theorem scanNumeral_leavesEnd : LeavesEnd scanNumeral := by
  intro c n after h
  obtain ⟨mark, cs⟩ := c
  cases cs with
  | nil => cases h
  | cons c cs =>
    by_cases minus : c = '-'
    · subst minus
      exact (scanUnsigned_leavesEnd true h).trans (List.suffix_cons '-' cs)
    · rw [scanNumeral_unsigned minus] at h
      exact scanUnsigned_leavesEnd false h

/-! ## Numbers of numerals -/

theorem scaled_eq_ok {y : Option Double} {stop : Mark} {x : Number}
    (h : (match y.map Number.double with
      | some v => .ok v
      | none => .error (.here .outOfRange stop) : Except Fault Number) = .ok x) : ∃ d, y = some d ∧ x = .double d := by
  cases y with
  | none => cases h
  | some d => exact ⟨d, rfl, (Except.ok.inj h).symm⟩

/-- A number that is not too large is the same wherever the numeral stands, and a double or else the
integer of the digits. -/
theorem Numeral.value_eq_ok {n : Numeral} {stop : Mark} {x : Number} (h : n.value stop = .ok x) :
    (∀ stop', n.value stop' = .ok x) ∧
      ((∃ d, x = .double d) ∨ integerNumber n.negative (significand 0 n.whole).1 = some x) := by
  obtain ⟨negative, whole, fraction, exponent⟩ := n
  cases exponent with
  | none =>
    cases fraction with
    | none =>
      unfold Numeral.value at h ⊢
      dsimp only at h ⊢
      split at h
      · next fits =>
        simp only [if_pos fits]
        cases number : integerNumber negative (significand 0 whole).1 with
        | none =>
          rw [number] at h
          cases h
        | some v =>
          rw [number] at h
          cases h
          exact ⟨fun _ => rfl, .inr rfl⟩
      · next large =>
        obtain ⟨d, value, rfl⟩ := scaled_eq_ok h
        simp only [if_neg large, value]
        exact ⟨fun _ => rfl, .inl ⟨d, rfl⟩⟩
    | some digits =>
      obtain ⟨d, value, rfl⟩ := scaled_eq_ok h
      refine ⟨fun stop' => ?_, .inl ⟨d, rfl⟩⟩
      unfold Numeral.value
      dsimp only
      rw [value]
      rfl
  | some e =>
    obtain ⟨down, ds⟩ := e
    unfold Numeral.value at h ⊢
    dsimp only at h ⊢
    cases read : exponentValue 0 0 ds with
    | ok e =>
      simp only [read] at h ⊢
      obtain ⟨d, value, rfl⟩ := scaled_eq_ok h
      rw [value]
      exact ⟨fun _ => rfl, .inl ⟨d, rfl⟩⟩
    | error taken =>
      simp only [read] at h ⊢
      split_ifs at h with large
      · cases h
        exact ⟨fun _ => if_neg large, .inl ⟨_, rfl⟩⟩

/-! ## Doubles inside of a document -/

/-- The text of a double begins as a number does, and holds no white space. -/
theorem toList_text_cons (x : Double) : ∃ c cs, x.text.toList = c :: cs ∧ (c = '-' ∨ isDigit c = true) ∧
    ∀ d ∈ c :: cs, isSpace d = false := by
  obtain ⟨cs, text, ⟨d, ds, rfl, digit⟩, marks⟩ := x.toList_text
  have blank : ∀ e ∈ d :: ds, isSpace e = false := fun e he => Double.noSpace_of_isMark (marks e he)
  rw [text]
  split
  · exact ⟨'-', d :: ds, rfl, .inl rfl, List.forall_mem_cons.2 ⟨rfl, blank⟩⟩
  · exact ⟨d, ds, rfl, .inr digit, blank⟩

/-- A double that is read from its text is the number of a numeral that takes up the text. -/
theorem scanNumeral_text {x : Double} (h : x.ReadsBack) :
    ∃ n stop, scanNumeral ⟨0, x.text.toList⟩ = .ok (n, ⟨stop, []⟩) ∧ n.value stop = .ok (.double x) := by
  obtain ⟨c, cs, text, first, blank⟩ := toList_text_cons x
  obtain ⟨v, read, h⟩ := bind_eq_ok h
  have start : Cursor.skipSpace ⟨0, c :: cs⟩ = ⟨0, c :: cs⟩ := by
    unfold Cursor.skipSpace
    simp [blank c List.mem_cons_self]
  unfold Document.ofChars at read h
  dsimp only at read h
  rw [text] at read h ⊢
  rw [start, valueNode_number first] at read h
  unfold numberNode at read h
  cases scanned : scanNumeral ⟨0, c :: cs⟩ with
  | error f =>
    rw [scanned] at read
    cases read
  | ok found =>
    obtain ⟨n, after⟩ := found
    rw [scanned] at read h
    obtain ⟨y, value, rfl⟩ := map_eq_ok read
    dsimp only [Option.bind_some] at h
    split at h
    · cases h
    · next nothing =>
      cases h
      have behind : after.rest.dropWhile isSpace = [] := by
        simpa [Cursor.skipSpace] using nothing
      have nil : after.rest = [] := by
        refine List.eq_nil_iff_forall_not_mem.2 fun d hd => ?_
        have space := List.dropWhile_eq_nil_iff.1 behind d hd
        rw [blank d ((scanNumeral_leavesEnd scanned).mem hd)] at space
        cases space
      exact ⟨n, after.mark, by rw [← nil], value⟩

end Json

end QueryGateway
