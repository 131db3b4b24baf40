import QueryGateway.Proofs.Json.Doubles
import QueryGateway.Proofs.Json.Quoted

/-!
# Outlines

What a JSON text says, apart from how it is set: the white space between its parts, the spelling
of its strings and the digits of its numbers. An outline is a tree that may hold what cannot be
read, a number that is too large or a string with a lone half of a surrogate pair. Main statement:
the tree of a text that is laid out from an outline fits the outline.
-/

namespace QueryGateway.Json

open Text

/-- What a JSON text says. A number that is too large is `none`, and so is a string with a lone half
of a surrogate pair. -/
inductive Outline
  | null
  | bool (b : Bool)
  | number (n : Option Number)
  | string (s : Option String)
  | array (items : List Outline)
  | object (members : List (Option String × Outline))

/-! ## Numbers -/

/-- The text is a numeral to its end, and its number is this, or it is too large. -/
def Numbers (t : List Char) (n : Option Number) : Prop :=
  ∃ numeral stop, scanNumeral ⟨0, t⟩ = .ok (numeral, ⟨stop, []⟩) ∧ (numeral.value stop).toOption = n

/-- Whether a number is too large does not depend on where it stands. -/
theorem toOption_value (n : Numeral) (stop stop' : Mark) : (n.value stop).toOption = (n.value stop').toOption := by
  cases h : n.value stop with
  | ok x => rw [(Numeral.value_eq_ok h).1 stop']
  | error f =>
    cases h' : n.value stop' with
    | ok x =>
      rw [(Numeral.value_eq_ok h').1 stop] at h
      cases h
    | error f' => rfl

/-- A numeral begins with its sign or a digit. -/
theorem Numbers.starts {t : List Char} {n : Option Number} (h : Numbers t n) :
    ∃ c cs, t = c :: cs ∧ (c = '-' ∨ isDigit c = true) := by
  obtain ⟨numeral, stop, scanned, -⟩ := h
  cases t with
  | nil => cases scanned
  | cons c cs =>
    refine ⟨c, cs, rfl, ?_⟩
    by_cases minus : c = '-'
    · exact .inl minus
    · rw [scanNumeral_unsigned minus] at scanned
      obtain ⟨⟨whole, after⟩, scanned, -⟩ := bind_eq_ok scanned
      by_contra other
      have digit : isDigit c = false := by simpa [minus] using other
      simp [scanWhole, takeDigits, digit] at scanned

/-- A number is read up to where it ends. -/
theorem numberNode_numbers {t : List Char} {n : Option Number} (h : Numbers t n) (mark : Mark) {rest : List Char}
    (hr : EndsNumeral rest) :
    ∃ number start stop, numberNode ⟨mark, t ++ rest⟩ = (.number number start stop, some ⟨stop, rest⟩) ∧
      number.toOption = n := by
  obtain ⟨numeral, stop, scanned, rfl⟩ := h
  obtain ⟨stop', ahead⟩ := scanNumeral_ahead scanned mark hr
  refine ⟨numeral.value stop', mark, stop', ?_, toOption_value numeral stop' stop⟩
  unfold numberNode
  rw [ahead]
  rfl

/-! ## Texts of an outline -/

/-- Nothing but white space. -/
def Blank (cs : List Char) : Prop := ∀ c ∈ cs, isSpace c = true

/-- What stands in front of an item or a member: a comma, unless it is the first. -/
def Leads (first : Bool) (cs : List Char) : Prop :=
  if first then cs = [] else ∃ blanks, cs = ',' :: blanks ∧ Blank blanks

mutual

/-- The text is laid out from the outline. -/
def Outline.LaidOut : Outline → List Char → Prop
  | .null, t => t = "null".toList
  | .bool b, t => t = (if b then "true" else "false").toList
  | .number n, t => Numbers t n
  | .string s, t => ∃ u, t = '"' :: (u ++ ['"']) ∧ Quotes u s
  | .array items, t => ∃ blanks u, t = '[' :: (blanks ++ (u ++ [']'])) ∧ Blank blanks ∧ ItemsLaidOut true items u
  | .object members, t =>
    ∃ blanks u, t = '\x7b' :: (blanks ++ (u ++ ['\x7d'])) ∧ Blank blanks ∧ MembersLaidOut true members u

/-- The text is laid out from the items, with the commas in front of all but the first. -/
def ItemsLaidOut (first : Bool) : List Outline → List Char → Prop
  | [], t => t = []
  | o :: os, t => ∃ lead u blanks w, t = lead ++ (u ++ (blanks ++ w)) ∧ Leads first lead ∧ o.LaidOut u ∧
      Blank blanks ∧ ItemsLaidOut false os w

/-- The text is laid out from the members, with the commas in front of all but the first. -/
def MembersLaidOut (first : Bool) : List (Option String × Outline) → List Char → Prop
  | [], t => t = []
  | (k, o) :: ms, t => ∃ lead key b₁ b₂ u b₃ w,
      t = lead ++ ('"' :: (key ++ ('"' :: (b₁ ++ (':' :: (b₂ ++ (u ++ (b₃ ++ w)))))))) ∧ Leads first lead ∧
      Quotes key k ∧ Blank b₁ ∧ Blank b₂ ∧ o.LaidOut u ∧ Blank b₃ ∧ MembersLaidOut false ms w

end

/-! ## Trees of an outline -/

mutual

/-- The tree is closed throughout and says what the outline does. -/
def Outline.Fits : Outline → Node → Prop
  | .null, .null _ => True
  | .bool b, .bool c _ => c = b
  | .number n, .number m _ _ => m.toOption = n
  | .string s, .string t _ _ => t.toOption = s
  | .array os, .array _ ns (.closed _) => ItemsFit os ns
  | .object ms, .object _ ns (.closed _) => MembersFit ms ns
  | _, _ => False

/-- The trees fit the items one by one. -/
def ItemsFit : List Outline → List Node → Prop
  | [], [] => True
  | o :: os, n :: ns => o.Fits n ∧ ItemsFit os ns
  | _, _ => False

/-- The keys and trees fit the members one by one. -/
def MembersFit : List (Option String × Outline) → List (Key × Node) → Prop
  | [], [] => True
  | (k, o) :: ms, (key, n) :: ns => key.text.toOption = k ∧ o.Fits n ∧ MembersFit ms ns
  | _, _ => False

end

theorem Outline.Fits.null {n : Node} (h : Outline.null.Fits n) : ∃ stop, n = .null stop := by
  cases n with
  | null stop => exact ⟨stop, rfl⟩
  | _ => exact h.elim

theorem Outline.Fits.bool {b : Bool} {n : Node} (h : (Outline.bool b).Fits n) : ∃ stop, n = .bool b stop := by
  cases n with
  | bool c stop => exact ⟨stop, congrArg (Node.bool · stop) h⟩
  | _ => exact h.elim

theorem Outline.Fits.number {x : Option Number} {n : Node} (h : (Outline.number x).Fits n) :
    ∃ m start stop, n = .number m start stop ∧ m.toOption = x := by
  cases n with
  | number m start stop => exact ⟨m, start, stop, rfl, h⟩
  | _ => exact h.elim

theorem Outline.Fits.string {s : Option String} {n : Node} (h : (Outline.string s).Fits n) :
    ∃ t start stop, n = .string t start stop ∧ t.toOption = s := by
  cases n with
  | string t start stop => exact ⟨t, start, stop, rfl, h⟩
  | _ => exact h.elim

theorem Outline.Fits.array {os : List Outline} {n : Node} (h : (Outline.array os).Fits n) :
    ∃ start ns stop, n = .array start ns (.closed stop) ∧ ItemsFit os ns := by
  cases n with
  | array start ns close =>
    cases close with
    | closed stop => exact ⟨start, ns, stop, rfl, h⟩
    | broken => exact h.elim
  | _ => exact h.elim

theorem Outline.Fits.object {ms : List (Option String × Outline)} {n : Node} (h : (Outline.object ms).Fits n) :
    ∃ start ns stop, n = .object start ns (.closed stop) ∧ MembersFit ms ns := by
  cases n with
  | object start ns close =>
    cases close with
    | closed stop => exact ⟨start, ns, stop, rfl, h⟩
    | broken => exact h.elim
  | _ => exact h.elim

theorem ItemsFit.nil {ns : List Node} (h : ItemsFit [] ns) : ns = [] := by
  cases ns with
  | nil => rfl
  | cons => exact h.elim

theorem ItemsFit.cons {o : Outline} {os : List Outline} {ns : List Node} (h : ItemsFit (o :: os) ns) :
    ∃ n rest, ns = n :: rest ∧ o.Fits n ∧ ItemsFit os rest := by
  cases ns with
  | nil => exact h.elim
  | cons n rest => exact ⟨n, rest, rfl, h⟩

theorem MembersFit.nil {ns : List (Key × Node)} (h : MembersFit [] ns) : ns = [] := by
  cases ns with
  | nil => rfl
  | cons => exact h.elim

theorem MembersFit.cons {k : Option String} {o : Outline} {ms : List (Option String × Outline)}
    {ns : List (Key × Node)} (h : MembersFit ((k, o) :: ms) ns) :
    ∃ key n rest, ns = (key, n) :: rest ∧ key.text.toOption = k ∧ o.Fits n ∧ MembersFit ms rest := by
  cases ns with
  | nil => exact h.elim
  | cons n rest => exact ⟨n.1, n.2, rest, rfl, h⟩

/-! ## Where a value ends and begins -/

theorem skipSpace_blank {blanks : List Char} (h : Blank blanks) {rest : List Char}
    (hr : ∀ c ∈ rest.head?, isSpace c = false) (mark : Mark) :
    ∃ m, Cursor.skipSpace ⟨mark, blanks ++ rest⟩ = ⟨m, rest⟩ := by
  have stops : rest.dropWhile isSpace = rest := by
    cases rest with
    | nil => rfl
    | cons c cs => simp [hr c rfl]
  refine ⟨mark + ((blanks ++ rest).takeWhile isSpace).length, ?_⟩
  unfold Cursor.skipSpace
  dsimp only
  rw [List.dropWhile_append_of_pos h, stops]

theorem Blank.endsNumeral {blanks : List Char} (h : Blank blanks) {rest : List Char} (hr : EndsNumeral rest) :
    EndsNumeral (blanks ++ rest) := by
  cases blanks with
  | nil => exact hr
  | cons b bs =>
    intro c hc
    cases hc
    have space : b = ' ' ∨ b = '\n' ∨ b = '\t' ∨ b = '\x0d' := by
      simpa [isSpace, or_assoc] using h b List.mem_cons_self
    rcases space with rfl | rfl | rfl | rfl <;> decide

/-- What may stand behind an item or a member. -/
def Follows (rest : List Char) : Prop := ∃ c cs, rest = c :: cs ∧ (c = ',' ∨ c = ']' ∨ c = '\x7d')

theorem Follows.endsNumeral {rest : List Char} (h : Follows rest) : EndsNumeral rest := by
  obtain ⟨c, cs, rfl, rfl | rfl | rfl⟩ := h <;> intro c hc <;> cases hc <;> decide

theorem Follows.noSpace {rest : List Char} (h : Follows rest) : ∀ c ∈ rest.head?, isSpace c = false := by
  obtain ⟨c, cs, rfl, rfl | rfl | rfl⟩ := h <;> intro c hc <;> cases hc <;> rfl

theorem ItemsLaidOut.follows {os : List Outline} {t : List Char} (h : ItemsLaidOut false os t) (rest : List Char) :
    Follows (t ++ ']' :: rest) := by
  cases os with
  | nil =>
    cases h
    exact ⟨']', rest, rfl, .inr (.inl rfl)⟩
  | cons o os =>
    obtain ⟨_, u, blanks, w, rfl, ⟨bs, rfl, _⟩, _⟩ := h
    exact ⟨',', _, rfl, .inl rfl⟩

theorem MembersLaidOut.follows {ms : List (Option String × Outline)} {t : List Char} (h : MembersLaidOut false ms t)
    (rest : List Char) : Follows (t ++ '\x7d' :: rest) := by
  cases ms with
  | nil =>
    cases h
    exact ⟨'\x7d', rest, rfl, .inr (.inr rfl)⟩
  | cons m ms =>
    obtain ⟨_, _, _, _, _, _, _, rfl, ⟨bs, rfl, _⟩, _⟩ := h
    exact ⟨',', _, rfl, .inl rfl⟩

/-- How a value may begin. -/
def StartsValue (c : Char) : Prop := isSpace c = false ∧ c ≠ ']' ∧ c ≠ ','

instance (c : Char) : Decidable (StartsValue c) := inferInstanceAs (Decidable (_ ∧ _))

theorem StartsValue.noSpace {c : Char} (h : StartsValue c) (cs : List Char) :
    ∀ d ∈ (c :: cs).head?, isSpace d = false := by
  intro d hd
  cases hd
  exact h.1

theorem startsValue_of_isDigit {c : Char} (h : isDigit c = true) : StartsValue c := by
  have other {d : Char} (hd : isDigit d = false) : c ≠ d := by
    rintro rfl
    rw [h] at hd
    cases hd
  refine ⟨?_, other rfl, other rfl⟩
  simp only [isSpace, Bool.or_eq_false_iff, beq_eq_false_iff_ne]
  exact ⟨⟨⟨other rfl, other rfl⟩, other rfl⟩, other rfl⟩

theorem startsValue_of_number {c : Char} (h : c = '-' ∨ isDigit c = true) : StartsValue c := by
  rcases h with rfl | digit
  · decide
  · exact startsValue_of_isDigit digit

theorem Outline.LaidOut.starts {o : Outline} {t : List Char} (h : o.LaidOut t) :
    ∃ c cs, t = c :: cs ∧ StartsValue c := by
  cases o with
  | null => exact ⟨'n', _, h, by decide⟩
  | bool b =>
    cases b with
    | false => exact ⟨'f', _, h, by decide⟩
    | true => exact ⟨'t', _, h, by decide⟩
  | number n =>
    obtain ⟨c, cs, rfl, first⟩ := Numbers.starts h
    exact ⟨c, cs, rfl, startsValue_of_number first⟩
  | string s =>
    obtain ⟨u, rfl, _⟩ := h
    exact ⟨'"', _, rfl, by decide⟩
  | array items =>
    obtain ⟨_, _, rfl, _⟩ := h
    exact ⟨'[', _, rfl, by decide⟩
  | object members =>
    obtain ⟨_, _, rfl, _⟩ := h
    exact ⟨'\x7b', _, rfl, by decide⟩

theorem ItemsLaidOut.noSpace {os : List Outline} {t : List Char} (h : ItemsLaidOut true os t) (rest : List Char) :
    ∀ c ∈ (t ++ ']' :: rest).head?, isSpace c = false := by
  cases os with
  | nil =>
    obtain rfl : t = [] := h
    intro c hc
    cases hc
    rfl
  | cons o os =>
    obtain ⟨lead, u, blanks, w, rfl, rfl, value, _⟩ := h
    obtain ⟨c, cs, rfl, starts⟩ := value.starts
    exact starts.noSpace _

theorem MembersLaidOut.noSpace {ms : List (Option String × Outline)} {t : List Char} (h : MembersLaidOut true ms t)
    (rest : List Char) : ∀ c ∈ (t ++ '\x7d' :: rest).head?, isSpace c = false := by
  cases ms with
  | nil =>
    obtain rfl : t = [] := h
    intro c hc
    cases hc
    rfl
  | cons m ms =>
    obtain ⟨_, _, _, _, _, _, _, rfl, rfl, _⟩ := h
    intro c hc
    cases hc
    rfl

/-! ## One step of the reader -/

theorem valueNode_array (fuel : Nat) (mark : Mark) (cs : List Char) :
    valueNode (fuel + 1) ⟨mark, '[' :: cs⟩ =
      (.array mark (itemNodes fuel true (Cursor.skipSpace ⟨mark + 1, cs⟩)).1
          (itemNodes fuel true (Cursor.skipSpace ⟨mark + 1, cs⟩)).2.1,
        (itemNodes fuel true (Cursor.skipSpace ⟨mark + 1, cs⟩)).2.2) := rfl

theorem valueNode_object (fuel : Nat) (mark : Mark) (cs : List Char) :
    valueNode (fuel + 1) ⟨mark, '\x7b' :: cs⟩ =
      (.object mark (memberNodes fuel true (Cursor.skipSpace ⟨mark + 1, cs⟩)).1
          (memberNodes fuel true (Cursor.skipSpace ⟨mark + 1, cs⟩)).2.1,
        (memberNodes fuel true (Cursor.skipSpace ⟨mark + 1, cs⟩)).2.2) := rfl

/-- A string is read up to its closing quote. -/
theorem stringNode_quotes {t : List Char} {s : Option String} (h : Quotes t s) (mark : Mark) (rest : List Char) :
    ∃ text start stop, stringNode ⟨mark, t ++ '"' :: rest⟩ = (.string text start stop, some ⟨stop, rest⟩) ∧
      text.toOption = s := by
  obtain ⟨ps, cut, rfl⟩ := h
  obtain ⟨q, scanned, closed, pieces⟩ := scanString_cut cut mark rest
  refine ⟨q.decode, mark - 1, q.mark + 1, ?_, decode_of_pieces closed pieces⟩
  unfold stringNode
  dsimp only
  rw [scanned]
  dsimp only
  rw [closed]
  rfl

/-- In front of an item, the comma is passed over if there has to be one. -/
theorem itemNodes_lead {first : Bool} {lead : List Char} (h : Leads first lead) {c : Char} (hc : StartsValue c)
    (fuel : Nat) (mark : Mark) (cs : List Char) :
    ∃ m, itemNodes (fuel + 1) first ⟨mark, lead ++ c :: cs⟩ = itemThenMore fuel ⟨m, c :: cs⟩ := by
  cases first with
  | true =>
    obtain rfl : lead = [] := h
    refine ⟨mark, itemNodes.eq_6 _ fuel (fun h => ?_) (fun _ h => ?_)⟩
    · cases h
    · cases h
      exact hc.2.1 rfl
  | false =>
    obtain ⟨blanks, rfl, blank⟩ := h
    obtain ⟨m, skipped⟩ := skipSpace_blank blank (hc.noSpace cs) (mark + 1)
    refine ⟨m, ?_⟩
    rw [List.cons_append, itemNodes.eq_4 _ fuel _ rfl]
    have behind : (Cursor.advance 1 ⟨mark, ',' :: (blanks ++ c :: cs)⟩).skipSpace = ⟨m, c :: cs⟩ := skipped
    rw [behind]
    dsimp only
    split
    · next h => cases h
    · next h =>
      cases h
      exact absurd rfl hc.2.1
    · rfl

/-- In front of a member, the comma is passed over if there has to be one. -/
theorem memberNodes_lead {first : Bool} {lead : List Char} (h : Leads first lead) (fuel : Nat) (mark : Mark)
    (cs : List Char) :
    ∃ m, memberNodes (fuel + 1) first ⟨mark, lead ++ '"' :: cs⟩ = memberThenMore fuel ⟨m, '"' :: cs⟩ := by
  cases first with
  | true =>
    obtain rfl : lead = [] := h
    exact ⟨mark, rfl⟩
  | false =>
    obtain ⟨blanks, rfl, blank⟩ := h
    have quote : StartsValue '"' := by decide
    obtain ⟨m, skipped⟩ := skipSpace_blank blank (quote.noSpace cs) (mark + 1)
    refine ⟨m, ?_⟩
    rw [List.cons_append, memberNodes.eq_4 _ fuel _ rfl]
    have behind : (Cursor.advance 1 ⟨mark, ',' :: (blanks ++ '"' :: cs)⟩).skipSpace = ⟨m, '"' :: cs⟩ := skipped
    rw [behind]
    rfl

/-- A key is read up to the colon, and the value behind it. -/
theorem memberThenMore_key {t : List Char} {k : Option String} (h : Quotes t k) {b₁ b₂ : List Char}
    (blank₁ : Blank b₁) (blank₂ : Blank b₂) {c : Char} (hc : StartsValue c) (fuel : Nat) (mark : Mark)
    (cs : List Char) :
    ∃ m key, key.text.toOption = k ∧ ∀ node behind, valueNode fuel ⟨m, c :: cs⟩ = (node, some behind) →
      memberThenMore (fuel + 2) ⟨mark, '"' :: (t ++ '"' :: (b₁ ++ ':' :: (b₂ ++ c :: cs)))⟩ =
        ((key, node) :: (memberNodes (fuel + 1) false behind.skipSpace).1,
          (memberNodes (fuel + 1) false behind.skipSpace).2) := by
  obtain ⟨text, start, stop, read, shown⟩ := stringNode_quotes h (mark + 1) (b₁ ++ ':' :: (b₂ ++ c :: cs))
  have colon : ∀ d ∈ (':' :: (b₂ ++ c :: cs)).head?, isSpace d = false := by
    intro d hd
    cases hd
    rfl
  obtain ⟨m₁, skipped₁⟩ := skipSpace_blank blank₁ colon stop
  obtain ⟨m₂, skipped₂⟩ := skipSpace_blank blank₂ (hc.noSpace cs) (m₁ + 1)
  refine ⟨m₂, ⟨text, m₁⟩, shown, fun node behind value => ?_⟩
  have key : stringNode (Cursor.advance 1 ⟨mark, '"' :: (t ++ '"' :: (b₁ ++ ':' :: (b₂ ++ c :: cs)))⟩) = _ := read
  have member : memberValue (fuel + 1) ⟨m₁, ':' :: (b₂ ++ c :: cs)⟩ = (node, some behind) := by
    have space : (Cursor.advance 1 ⟨m₁, ':' :: (b₂ ++ c :: cs)⟩).skipSpace = ⟨m₂, c :: cs⟩ := skipped₂
    rw [memberValue.eq_2]
    dsimp only
    rw [space, value]
    rfl
  rw [memberThenMore.eq_2]
  dsimp only
  rw [key]
  dsimp only
  rw [skipped₁, member]
  rfl

/-! ## Reading -/

mutual

/-- A text that is laid out from an outline is read as a tree that fits it, if what follows does not go on
with a number. The counter is large enough: no step but the fourth at most takes nothing. -/
theorem valueNode_laidOut : ∀ (o : Outline) (t : List Char), o.LaidOut t → ∀ (fuel : Nat) (mark : Mark)
    (rest : List Char), 4 * t.length ≤ fuel + 2 → EndsNumeral rest →
    ∃ n m, valueNode fuel ⟨mark, t ++ rest⟩ = (n, some ⟨m, rest⟩) ∧ o.Fits n
  | .null, t, h, fuel, mark, rest, hf, hr => by
    obtain rfl : t = "null".toList := h
    obtain ⟨fuel, rfl⟩ : ∃ f, fuel = f + 1 := ⟨fuel - 1, by simp at hf; omega⟩
    exact ⟨.null (mark + 4), mark + 4, rfl, trivial⟩
  | .bool b, t, h, fuel, mark, rest, hf, hr => by
    obtain rfl : t = (if b then "true" else "false").toList := h
    cases b with
    | false =>
      obtain ⟨fuel, rfl⟩ : ∃ f, fuel = f + 1 := ⟨fuel - 1, by simp at hf; omega⟩
      exact ⟨.bool false (mark + 5), mark + 5, rfl, rfl⟩
    | true =>
      obtain ⟨fuel, rfl⟩ : ∃ f, fuel = f + 1 := ⟨fuel - 1, by simp at hf; omega⟩
      exact ⟨.bool true (mark + 4), mark + 4, rfl, rfl⟩
  | .number n, t, h, fuel, mark, rest, hf, hr => by
    obtain ⟨c, cs, rfl, first⟩ := Numbers.starts h
    obtain ⟨fuel, rfl⟩ : ∃ f, fuel = f + 1 := ⟨fuel - 1, by simp at hf; omega⟩
    obtain ⟨number, start, stop, read, fits⟩ := numberNode_numbers h mark hr
    refine ⟨.number number start stop, stop, ?_, fits⟩
    rw [← read]
    exact valueNode_number first fuel mark (cs ++ rest)
  | .string s, t, h, fuel, mark, rest, hf, hr => by
    obtain ⟨u, rfl, quotes⟩ := h
    obtain ⟨fuel, rfl⟩ : ∃ f, fuel = f + 1 := ⟨fuel - 1, by simp at hf; omega⟩
    obtain ⟨text, start, stop, read, fits⟩ := stringNode_quotes quotes (mark + 1) rest
    refine ⟨.string text start stop, stop, ?_, fits⟩
    rw [← read]
    simp [valueNode, Cursor.advance]
  | .array items, t, h, fuel, mark, rest, hf, hr => by
    obtain ⟨blanks, u, rfl, blank, written⟩ := h
    simp only [List.length_cons, List.length_append] at hf
    obtain ⟨fuel, rfl⟩ : ∃ f, fuel = f + 1 := ⟨fuel - 1, by omega⟩
    obtain ⟨m, skipped⟩ := skipSpace_blank blank (ItemsLaidOut.noSpace written rest) (mark + 1)
    obtain ⟨ns, stop, k, read, fits⟩ := itemNodes_laidOut items true u written fuel m rest (by omega)
    refine ⟨.array mark ns (.closed k), stop, ?_, fits⟩
    have text : '[' :: (blanks ++ (u ++ [']'])) ++ rest = '[' :: (blanks ++ (u ++ ']' :: rest)) := by simp
    rw [text, valueNode_array, skipped, read]
  | .object members, t, h, fuel, mark, rest, hf, hr => by
    obtain ⟨blanks, u, rfl, blank, written⟩ := h
    simp only [List.length_cons, List.length_append] at hf
    obtain ⟨fuel, rfl⟩ : ∃ f, fuel = f + 1 := ⟨fuel - 1, by omega⟩
    obtain ⟨m, skipped⟩ := skipSpace_blank blank (MembersLaidOut.noSpace written rest) (mark + 1)
    obtain ⟨ns, stop, k, read, fits⟩ := memberNodes_laidOut members true u written fuel m rest (by omega)
    refine ⟨.object mark ns (.closed k), stop, ?_, fits⟩
    have text : '\x7b' :: (blanks ++ (u ++ ['\x7d'])) ++ rest = '\x7b' :: (blanks ++ (u ++ '\x7d' :: rest)) := by
      simp
    rw [text, valueNode_object, skipped, read]

/-- The items of an array are read up to its end. -/
theorem itemNodes_laidOut : ∀ (os : List Outline) (first : Bool) (t : List Char), ItemsLaidOut first os t →
    ∀ (fuel : Nat) (mark : Mark) (rest : List Char), 4 * t.length + 1 ≤ fuel →
    ∃ ns m k, itemNodes fuel first ⟨mark, t ++ ']' :: rest⟩ = (ns, .closed k, some ⟨m, rest⟩) ∧ ItemsFit os ns
  | [], first, t, h, fuel, mark, rest, hf => by
    obtain rfl : t = [] := h
    obtain ⟨fuel, rfl⟩ : ∃ f, fuel = f + 1 := ⟨fuel - 1, by omega⟩
    refine ⟨[], mark + 1, mark + 1, ?_, trivial⟩
    rw [List.nil_append, itemNodes.eq_3 _ fuel first rest rfl]
    rfl
  | o :: os, first, t, h, fuel, mark, rest, hf => by
    obtain ⟨lead, u, blanks, w, rfl, leads, value, blank, more⟩ := h
    obtain ⟨c, cs, hu, starts⟩ := value.starts
    simp only [List.length_append] at hf
    have pos : 1 ≤ u.length := by simp [hu]
    obtain ⟨fuel, rfl⟩ : ∃ f, fuel = f + 2 := ⟨fuel - 2, by omega⟩
    -- What stands behind the item is a comma or the bracket, so neither goes on with a number.
    have follows := ItemsLaidOut.follows more rest
    obtain ⟨m₁, led⟩ := itemNodes_lead leads starts (fuel + 1) mark (cs ++ (blanks ++ (w ++ ']' :: rest)))
    obtain ⟨n, m₂, read, fits⟩ := valueNode_laidOut o u value fuel m₁ (blanks ++ (w ++ ']' :: rest)) (by omega)
      (blank.endsNumeral follows.endsNumeral)
    obtain ⟨m₃, skipped⟩ := skipSpace_blank blank follows.noSpace m₂
    obtain ⟨ns, stop, k, readMore, fitsMore⟩ := itemNodes_laidOut os false w more fuel m₃ rest (by omega)
    refine ⟨n :: ns, stop, k, ?_, fits, fitsMore⟩
    have text : lead ++ (u ++ (blanks ++ w)) ++ ']' :: rest =
        lead ++ c :: (cs ++ (blanks ++ (w ++ ']' :: rest))) := by simp [hu]
    rw [text, led, itemThenMore]
    rw [hu] at read
    simp only [List.cons_append] at read
    rw [read]
    dsimp only
    rw [skipped, readMore]

/-- The members of an object are read up to its end. -/
theorem memberNodes_laidOut : ∀ (ms : List (Option String × Outline)) (first : Bool) (t : List Char),
    MembersLaidOut first ms t →
    ∀ (fuel : Nat) (mark : Mark) (rest : List Char), 4 * t.length + 1 ≤ fuel →
    ∃ ns m k, memberNodes fuel first ⟨mark, t ++ '\x7d' :: rest⟩ = (ns, .closed k, some ⟨m, rest⟩) ∧
      MembersFit ms ns
  | [], first, t, h, fuel, mark, rest, hf => by
    obtain rfl : t = [] := h
    obtain ⟨fuel, rfl⟩ : ∃ f, fuel = f + 1 := ⟨fuel - 1, by omega⟩
    refine ⟨[], mark + 1, mark + 1, ?_, trivial⟩
    rw [List.nil_append, memberNodes.eq_3 _ fuel first rest rfl]
    rfl
  | (k, o) :: ms, first, t, h, fuel, mark, rest, hf => by
    obtain ⟨lead, key, b₁, b₂, u, b₃, w, rfl, leads, quotes, blank₁, blank₂, value, blank₃, more⟩ := h
    obtain ⟨c, cs, rfl, starts⟩ := value.starts
    simp only [List.length_append, List.length_cons] at hf
    obtain ⟨fuel, rfl⟩ : ∃ f, fuel = f + 3 := ⟨fuel - 3, by omega⟩
    -- Three steps lead to the value: past the comma, past the key and past the colon.
    have follows := MembersLaidOut.follows more rest
    obtain ⟨m₁, led⟩ := memberNodes_lead leads (fuel + 2) mark
      (key ++ '"' :: (b₁ ++ ':' :: (b₂ ++ c :: (cs ++ (b₃ ++ (w ++ '\x7d' :: rest))))))
    obtain ⟨m₂, fitsKey, hkey, step⟩ := memberThenMore_key quotes blank₁ blank₂ starts fuel m₁
      (cs ++ (b₃ ++ (w ++ '\x7d' :: rest)))
    obtain ⟨n, m₃, read, fits⟩ := valueNode_laidOut o (c :: cs) value fuel m₂ (b₃ ++ (w ++ '\x7d' :: rest))
      (by simp only [List.length_cons]; omega) (blank₃.endsNumeral follows.endsNumeral)
    obtain ⟨m₄, skipped⟩ := skipSpace_blank blank₃ follows.noSpace m₃
    obtain ⟨ns, stop, close, readMore, fitsMore⟩ :=
      memberNodes_laidOut ms false w more (fuel + 1) m₄ rest (by omega)
    refine ⟨(fitsKey, n) :: ns, stop, close, ?_, hkey, fits, fitsMore⟩
    have text : lead ++ ('"' :: (key ++ ('"' :: (b₁ ++ (':' :: (b₂ ++ (c :: cs ++ (b₃ ++ w)))))))) ++ '\x7d' :: rest =
        lead ++ '"' :: (key ++ '"' :: (b₁ ++ ':' :: (b₂ ++ c :: (cs ++ (b₃ ++ (w ++ '\x7d' :: rest)))))) := by
      simp
    rw [text, led, step n _ read, skipped, readMore]

end

/-- A text that is laid out from an outline, with white space around it, is a document that fits the
outline and holds nothing else. -/
theorem Document.ofChars_laidOut {o : Outline} {t front back : List Char} (h : o.LaidOut t) (hf : Blank front)
    (hb : Blank back) :
    ∃ n, Document.ofChars (front ++ (t ++ back)) = ⟨n, none⟩ ∧ o.Fits n := by
  obtain ⟨c, cs, rfl, starts⟩ := h.starts
  have nothing : EndsNumeral [] := by simp [EndsNumeral]
  have ends : EndsNumeral back := by simpa using hb.endsNumeral nothing
  obtain ⟨m₁, skipped₁⟩ := skipSpace_blank hf (starts.noSpace (cs ++ back)) 0
  obtain ⟨n, m₂, read, fits⟩ := valueNode_laidOut o (c :: cs) h
    (4 * (front ++ (c :: cs ++ back)).length + 4) m₁ back (by simp; omega) ends
  obtain ⟨m₃, skipped₂⟩ : ∃ m, Cursor.skipSpace ⟨m₂, back ++ []⟩ = ⟨m, []⟩ := skipSpace_blank hb (by simp) m₂
  refine ⟨n, ?_, fits⟩
  rw [List.append_nil] at skipped₂
  unfold Document.ofChars
  rw [List.cons_append] at read ⊢
  rw [skipped₁, read]
  simp [skipped₂]

/-- The text says what the outline does, and nothing else. -/
def Outline.SaidBy (o : Outline) (text : String) : Prop :=
  ∃ front t back, text.toList = front ++ (t ++ back) ∧ Blank front ∧ o.LaidOut t ∧ Blank back

theorem Outline.SaidBy.fits {o : Outline} {text : String} (h : o.SaidBy text) :
    (Document.ofChars text.toList).trailing = none ∧ o.Fits (Document.ofChars text.toList).root := by
  obtain ⟨front, t, back, same, blankFront, laidOut, blankBack⟩ := h
  obtain ⟨n, read, fits⟩ := Document.ofChars_laidOut laidOut blankFront blankBack
  rw [same, read]
  exact ⟨rfl, fits⟩

/-! ## What a tree is read as -/

mutual

/-- The value that an outline says, if it has at most so many arrays and objects in each other, less
one, and nothing in it that cannot be read. -/
def Outline.value : Nat → Outline → Option Value
  | _, .null => some .null
  | _, .bool b => some (.bool b)
  | _, .number n => n.map .number
  | _, .string s => s.map .string
  | depth, .array items => if depth ≤ 1 then none else (itemsValue (depth - 1) items).map .array
  | depth, .object members => if depth ≤ 1 then none else (membersValue (depth - 1) members).map .ofMembers

/-- The values that items say. -/
def itemsValue : Nat → List Outline → Option (List Value)
  | _, [] => some []
  | depth, o :: os => do
    let v ← o.value depth
    let vs ← itemsValue depth os
    return v :: vs

/-- The members that members say. -/
def membersValue : Nat → List (Option String × Outline) → Option (List (String × Value))
  | _, [] => some []
  | depth, (k, o) :: ms => do
    let key ← k
    let v ← o.value depth
    let rest ← membersValue depth ms
    return (key, v) :: rest

end

mutual

/-- A tree is read as the value of its outline. -/
theorem Outline.Fits.toOption_read : ∀ {o : Outline} {n : Node}, o.Fits n → ∀ depth : Nat,
    (n.read depth).toOption = o.value depth
  | .null, n, h, depth => by
    obtain ⟨stop, rfl⟩ := Outline.Fits.null h
    rfl
  | .bool b, n, h, depth => by
    obtain ⟨stop, rfl⟩ := Outline.Fits.bool h
    rfl
  | .number x, n, h, depth => by
    obtain ⟨m, start, stop, rfl, rfl⟩ := Outline.Fits.number h
    exact toOption_map m _
  | .string s, n, h, depth => by
    obtain ⟨t, start, stop, rfl, rfl⟩ := Outline.Fits.string h
    exact toOption_map t _
  | .array os, n, h, depth => by
    obtain ⟨start, ns, stop, rfl, items⟩ := Outline.Fits.array h
    rw [Node.read, Outline.value, ← ItemsFit.toOption_read items (depth - 1) 0]
    split
    · rfl
    · cases readItems (depth - 1) 0 ns <;> rfl
  | .object ms, n, h, depth => by
    obtain ⟨start, ns, stop, rfl, members⟩ := Outline.Fits.object h
    rw [Node.read, Outline.value, ← MembersFit.toOption_read members (depth - 1)]
    split
    · rfl
    · cases readMembers (depth - 1) ns <;> rfl

theorem ItemsFit.toOption_read : ∀ {os : List Outline} {ns : List Node}, ItemsFit os ns → ∀ depth i : Nat,
    (readItems depth i ns).toOption = itemsValue depth os
  | [], ns, h, depth, i => by
    obtain rfl := ItemsFit.nil h
    rfl
  | o :: os, ns, h, depth, i => by
    obtain ⟨n, rest, rfl, first, more⟩ := ItemsFit.cons h
    rw [readItems, itemsValue, ← first.toOption_read depth, ← ItemsFit.toOption_read more depth (i + 1)]
    cases n.read depth with
    | error f => rfl
    | ok v => cases readItems depth (i + 1) rest <;> rfl

theorem MembersFit.toOption_read : ∀ {ms : List (Option String × Outline)} {ns : List (Key × Node)},
    MembersFit ms ns → ∀ depth : Nat, (readMembers depth ns).toOption = membersValue depth ms
  | [], ns, h, depth => by
    obtain rfl := MembersFit.nil h
    rfl
  | (k, o) :: ms, ns, h, depth => by
    obtain ⟨key, n, rest, rfl, rfl, first, more⟩ := MembersFit.cons h
    rw [readMembers, membersValue, ← first.toOption_read depth, ← MembersFit.toOption_read more depth]
    cases key.text with
    | error f => rfl
    | ok k =>
      cases n.read depth with
      | error f => rfl
      | ok v => cases readMembers depth rest <;> rfl

end

mutual

/-- Whatever an outline says can be skipped, also what cannot be read. -/
theorem Outline.Fits.skipFault : ∀ {o : Outline} {n : Node}, o.Fits n → n.skipFault = none
  | .null, n, h => by
    obtain ⟨stop, rfl⟩ := Outline.Fits.null h
    rfl
  | .bool b, n, h => by
    obtain ⟨stop, rfl⟩ := Outline.Fits.bool h
    rfl
  | .number x, n, h => by
    obtain ⟨m, start, stop, rfl, -⟩ := Outline.Fits.number h
    rfl
  | .string s, n, h => by
    obtain ⟨t, start, stop, rfl, -⟩ := Outline.Fits.string h
    rfl
  | .array os, n, h => by
    obtain ⟨start, ns, stop, rfl, items⟩ := Outline.Fits.array h
    rw [Node.skipFault, ItemsFit.skipFault items]
    rfl
  | .object ms, n, h => by
    obtain ⟨start, ns, stop, rfl, members⟩ := Outline.Fits.object h
    rw [Node.skipFault, MembersFit.skipFault members]
    rfl

theorem ItemsFit.skipFault : ∀ {os : List Outline} {ns : List Node}, ItemsFit os ns → itemsSkipFault ns = none
  | [], ns, h => by
    obtain rfl := ItemsFit.nil h
    rfl
  | o :: os, ns, h => by
    obtain ⟨n, rest, rfl, first, more⟩ := ItemsFit.cons h
    rw [itemsSkipFault, first.skipFault, ItemsFit.skipFault more]
    rfl

theorem MembersFit.skipFault : ∀ {ms : List (Option String × Outline)} {ns : List (Key × Node)},
    MembersFit ms ns → membersSkipFault ns = none
  | [], ns, h => by
    obtain rfl := MembersFit.nil h
    rfl
  | (k, o) :: ms, ns, h => by
    obtain ⟨key, n, rest, rfl, -, first, more⟩ := MembersFit.cons h
    rw [membersSkipFault, first.skipFault, MembersFit.skipFault more]
    rfl

end

end QueryGateway.Json
