import QueryGateway.Proofs.Json.Outlines

/-!
# Values read back

A value may be written with white space between its parts and with any spelling of its
strings, and the members of an object stand in the order in which it lists them. However it
is written, the tree of the text shows the value. The writer's text, which has no white
space, is one way to write it.
-/

namespace QueryGateway.Json

open Text

/-! ## Texts of a value -/

mutual

/-- The text writes the value. Of numbers, integers of 64 bits are written so, and doubles that
read back. -/
def Value.Written : Value → List Char → Prop
  | .null, t => t = "null".toList
  | .bool b, t => t = (if b then "true" else "false").toList
  | .number (.int i), t => minInt64 ≤ i ∧ i ≤ maxWord64 ∧ t = (toString i).toList
  | .number (.double x), t => x.ReadsBack ∧ t = x.text.toList
  | .string s, t => ∃ u, t = '"' :: (u ++ ['"']) ∧ Spells u s.toList
  | .array items, t => ∃ blanks u, t = '[' :: (blanks ++ (u ++ [']'])) ∧ Blank blanks ∧ ItemsWritten true items u
  | .object members, t =>
    ∃ blanks u, t = '\x7b' :: (blanks ++ (u ++ ['\x7d'])) ∧ Blank blanks ∧ MembersWritten true members u

/-- The text writes the items, with the commas in front of all but the first. -/
def ItemsWritten (first : Bool) : List Value → List Char → Prop
  | [], t => t = []
  | v :: vs, t => ∃ lead u blanks w, t = lead ++ (u ++ (blanks ++ w)) ∧ Leads first lead ∧ v.Written u ∧
      Blank blanks ∧ ItemsWritten false vs w

/-- The text writes the members, with the commas in front of all but the first. -/
def MembersWritten (first : Bool) : List (String × Value) → List Char → Prop
  | [], t => t = []
  | (k, v) :: ms, t => ∃ lead key b₁ b₂ u b₃ w,
      t = lead ++ ('"' :: (key ++ ('"' :: (b₁ ++ (':' :: (b₂ ++ (u ++ (b₃ ++ w)))))))) ∧ Leads first lead ∧
      Spells key k.toList ∧ Blank b₁ ∧ Blank b₂ ∧ v.Written u ∧ Blank b₃ ∧ MembersWritten false ms w

end

/-! ## Trees that show a value -/

mutual

/-- The tree shows the value, and nothing is wrong in it. -/
def Value.ShownBy : Value → Node → Prop
  | .null, .null _ => True
  | .bool b, .bool c _ => c = b
  | .number n, .number m _ _ => m = .ok n
  | .string s, .string t _ _ => t = .ok s
  | .array vs, .array _ ns (.closed _) => ItemsShown vs ns
  | .object ms, .object _ ns (.closed _) => MembersShown ms ns
  | _, _ => False

/-- The trees show the values one by one. -/
def ItemsShown : List Value → List Node → Prop
  | [], [] => True
  | v :: vs, n :: ns => v.ShownBy n ∧ ItemsShown vs ns
  | _, _ => False

/-- The keys and trees show the members one by one. -/
def MembersShown : List (String × Value) → List (Key × Node) → Prop
  | [], [] => True
  | (k, v) :: ms, (key, n) :: ns => key.text = .ok k ∧ v.ShownBy n ∧ MembersShown ms ns
  | _, _ => False

end

/-! ## The outline of a value -/

mutual

/-- What a text of the value says. -/
def Value.outline : Value → Outline
  | .null => .null
  | .bool b => .bool b
  | .number n => .number (some n)
  | .string s => .string (some s)
  | .array items => .array (itemsOutline items)
  | .object members => .object (membersOutline members)

/-- What a text of the items says. -/
def itemsOutline : List Value → List Outline
  | [] => []
  | v :: vs => v.outline :: itemsOutline vs

/-- What a text of the members says. -/
def membersOutline : List (String × Value) → List (Option String × Outline)
  | [] => []
  | (k, v) :: ms => (some k, v.outline) :: membersOutline ms

end

/-- The digits of an integer of 64 bits are its number. -/
theorem numbers_int {i : Int} (low : minInt64 ≤ i) (high : i ≤ maxWord64) :
    Numbers (toString i).toList (some (.int i)) := by
  have nothing : EndsNumeral [] := by simp [EndsNumeral]
  obtain ⟨stop, scanned⟩ := scanNumeral_int i nothing 0
  rw [List.append_nil] at scanned
  refine ⟨intNumeral i, stop, scanned, ?_⟩
  rw [value_intNumeral low high]
  rfl

theorem numbers_double {x : Double} (h : x.ReadsBack) : Numbers x.text.toList (some (.double x)) := by
  obtain ⟨n, stop, scanned, value⟩ := scanNumeral_text h
  refine ⟨n, stop, scanned, ?_⟩
  rw [value]
  rfl

mutual

/-- A text that writes a value is laid out from its outline. -/
theorem Value.Written.laidOut : ∀ {v : Value} {t : List Char}, v.Written t → v.outline.LaidOut t
  | .null, _, h => h
  | .bool _, _, h => h
  | .number (.int _), _, h => by
    obtain ⟨low, high, rfl⟩ := h
    exact numbers_int low high
  | .number (.double _), _, h => by
    obtain ⟨back, rfl⟩ := h
    exact numbers_double back
  | .string _, _, h => by
    obtain ⟨u, text, spells⟩ := h
    exact ⟨u, text, spells.quotes⟩
  | .array _, _, h => by
    obtain ⟨blanks, u, text, blank, items⟩ := h
    exact ⟨blanks, u, text, blank, ItemsWritten.laidOut items⟩
  | .object _, _, h => by
    obtain ⟨blanks, u, text, blank, members⟩ := h
    exact ⟨blanks, u, text, blank, MembersWritten.laidOut members⟩

theorem ItemsWritten.laidOut : ∀ {first : Bool} {vs : List Value} {t : List Char}, ItemsWritten first vs t →
    ItemsLaidOut first (itemsOutline vs) t
  | _, [], _, h => h
  | _, _ :: _, _, h => by
    obtain ⟨lead, u, blanks, w, text, leads, value, blank, more⟩ := h
    exact ⟨lead, u, blanks, w, text, leads, value.laidOut, blank, ItemsWritten.laidOut more⟩

theorem MembersWritten.laidOut : ∀ {first : Bool} {ms : List (String × Value)} {t : List Char},
    MembersWritten first ms t → MembersLaidOut first (membersOutline ms) t
  | _, [], _, h => h
  | _, (_, _) :: _, _, h => by
    obtain ⟨lead, key, b₁, b₂, u, b₃, w, text, leads, spells, blank₁, blank₂, value, blank₃, more⟩ := h
    exact ⟨lead, key, b₁, b₂, u, b₃, w, text, leads, spells.quotes, blank₁, blank₂, value.laidOut, blank₃,
      MembersWritten.laidOut more⟩

end

mutual

/-- A tree that fits the outline of a value shows the value. -/
theorem Value.shownBy_of_fits : ∀ {v : Value} {n : Node}, v.outline.Fits n → v.ShownBy n
  | .null, n, h => by
    obtain ⟨stop, rfl⟩ := Outline.Fits.null h
    exact trivial
  | .bool b, n, h => by
    obtain ⟨stop, rfl⟩ := Outline.Fits.bool h
    exact rfl
  | .number x, n, h => by
    obtain ⟨m, start, stop, rfl, known⟩ := Outline.Fits.number h
    exact toOption_eq_some known
  | .string s, n, h => by
    obtain ⟨t, start, stop, rfl, known⟩ := Outline.Fits.string h
    exact toOption_eq_some known
  | .array vs, n, h => by
    obtain ⟨start, ns, stop, rfl, items⟩ := Outline.Fits.array h
    exact itemsShown_of_fit items
  | .object ms, n, h => by
    obtain ⟨start, ns, stop, rfl, members⟩ := Outline.Fits.object h
    exact membersShown_of_fit members

theorem itemsShown_of_fit : ∀ {vs : List Value} {ns : List Node}, ItemsFit (itemsOutline vs) ns → ItemsShown vs ns
  | [], ns, h => by
    obtain rfl := ItemsFit.nil h
    exact trivial
  | v :: vs, ns, h => by
    obtain ⟨n, rest, rfl, first, more⟩ := ItemsFit.cons h
    exact ⟨Value.shownBy_of_fits first, itemsShown_of_fit more⟩

theorem membersShown_of_fit : ∀ {ms : List (String × Value)} {ns : List (Key × Node)},
    MembersFit (membersOutline ms) ns → MembersShown ms ns
  | [], ns, h => by
    obtain rfl := MembersFit.nil h
    exact trivial
  | (k, v) :: ms, ns, h => by
    obtain ⟨key, n, rest, rfl, known, first, more⟩ := MembersFit.cons h
    exact ⟨toOption_eq_some known, Value.shownBy_of_fits first, membersShown_of_fit more⟩

end

/-- A text that writes a value, with white space around it, is a document that shows the value
and nothing else. -/
theorem Document.ofChars_written {v : Value} {t front back : List Char} (h : v.Written t) (hf : Blank front)
    (hb : Blank back) :
    ∃ n, Document.ofChars (front ++ (t ++ back)) = ⟨n, none⟩ ∧ v.ShownBy n := by
  obtain ⟨n, read, fits⟩ := Document.ofChars_laidOut h.laidOut hf hb
  exact ⟨n, read, Value.shownBy_of_fits fits⟩

/-! ## Numbers in a value -/

mutual

/-- All numbers in the value are such. -/
def Value.All (P : Number → Prop) : Value → Prop
  | .null => True
  | .bool _ => True
  | .number n => P n
  | .string _ => True
  | .array items => ItemsAll P items
  | .object members => MembersAll P members

/-- All numbers in the items are such. -/
def ItemsAll (P : Number → Prop) : List Value → Prop
  | [] => True
  | v :: vs => v.All P ∧ ItemsAll P vs

/-- All numbers in the members are such. -/
def MembersAll (P : Number → Prop) : List (String × Value) → Prop
  | [] => True
  | (_, v) :: ms => v.All P ∧ MembersAll P ms

end

section

variable {P Q : Number → Prop}

theorem itemsAll_iff {vs : List Value} : ItemsAll P vs ↔ ∀ v ∈ vs, v.All P := by
  induction vs with
  | nil => exact iff_of_true trivial fun v hv => absurd hv List.not_mem_nil
  | cons v vs ih => rw [ItemsAll, ih, List.forall_mem_cons]

theorem membersAll_iff {ms : List (String × Value)} : MembersAll P ms ↔ ∀ m ∈ ms, m.2.All P := by
  induction ms with
  | nil => exact iff_of_true trivial fun m hm => absurd hm List.not_mem_nil
  | cons m ms ih =>
    obtain ⟨k, v⟩ := m
    rw [MembersAll, ih, List.forall_mem_cons]

mutual

theorem Value.All.and : ∀ {v : Value}, v.All P → v.All Q → v.All fun n => P n ∧ Q n
  | .null, _, _ => trivial
  | .bool _, _, _ => trivial
  | .number _, hp, hq => ⟨hp, hq⟩
  | .string _, _, _ => trivial
  | .array _, hp, hq => ItemsAll.and hp hq
  | .object _, hp, hq => MembersAll.and hp hq

theorem ItemsAll.and : ∀ {vs : List Value}, ItemsAll P vs → ItemsAll Q vs → ItemsAll (fun n => P n ∧ Q n) vs
  | [], _, _ => trivial
  | _ :: _, hp, hq => ⟨hp.1.and hq.1, ItemsAll.and hp.2 hq.2⟩

theorem MembersAll.and : ∀ {ms : List (String × Value)}, MembersAll P ms → MembersAll Q ms →
    MembersAll (fun n => P n ∧ Q n) ms
  | [], _, _ => trivial
  | (_, _) :: _, hp, hq => ⟨hp.1.and hq.1, MembersAll.and hp.2 hq.2⟩

end

end

section

variable (P : Number → Prop) [DecidablePred P]

mutual

/-- Whether all numbers in the value are such. -/
def Value.decideAll : (v : Value) → Decidable (v.All P)
  | .null => isTrue trivial
  | .bool _ => isTrue trivial
  | .number n => inferInstanceAs (Decidable (P n))
  | .string _ => isTrue trivial
  | .array items => decideItemsAll items
  | .object members => decideMembersAll members

/-- Whether all numbers in the items are such. -/
def decideItemsAll : (vs : List Value) → Decidable (ItemsAll P vs)
  | [] => isTrue trivial
  | v :: vs => @instDecidableAnd _ _ (v.decideAll) (decideItemsAll vs)

/-- Whether all numbers in the members are such. -/
def decideMembersAll : (ms : List (String × Value)) → Decidable (MembersAll P ms)
  | [] => isTrue trivial
  | (_, v) :: ms => @instDecidableAnd _ _ (v.decideAll) (decideMembersAll ms)

end

instance (v : Value) : Decidable (v.All P) := v.decideAll P

end

/-- The number is an integer of 64 bits, signed or not, if it is one. -/
def Number.Bounded : Number → Prop
  | .int i => minInt64 ≤ i ∧ i ≤ maxWord64
  | .double _ => True

/-- The number reads back from its text if it is a double. -/
def Number.ReadsBack : Number → Prop
  | .int _ => True
  | .double x => x.ReadsBack

instance : DecidablePred Number.ReadsBack
  | .int _ => isTrue trivial
  | .double x => inferInstanceAs (Decidable x.ReadsBack)

/-- The number is not changed by writing and reading it. -/
def Number.Steady (n : Number) : Prop := n.Bounded ∧ n.ReadsBack

mutual

/-- All numbers in the value are integers of 64 bits, signed or not. -/
def Value.Whole : Value → Prop
  | .null => True
  | .bool _ => True
  | .number (.int i) => minInt64 ≤ i ∧ i ≤ maxWord64
  | .number (.double _) => False
  | .string _ => True
  | .array items => ItemsWhole items
  | .object members => MembersWhole members

/-- All numbers in the items are integers of 64 bits. -/
def ItemsWhole : List Value → Prop
  | [] => True
  | v :: vs => v.Whole ∧ ItemsWhole vs

/-- All numbers in the members are integers of 64 bits. -/
def MembersWhole : List (String × Value) → Prop
  | [] => True
  | (_, v) :: ms => v.Whole ∧ MembersWhole ms

end

mutual

/-- Integers of 64 bits are not changed. -/
theorem Value.Whole.steady : ∀ {v : Value}, v.Whole → v.All Number.Steady
  | .null, _ => trivial
  | .bool _, _ => trivial
  | .number (.int _), h => ⟨h, trivial⟩
  | .number (.double _), h => h.elim
  | .string _, _ => trivial
  | .array _, h => ItemsWhole.steady h
  | .object _, h => MembersWhole.steady h

theorem ItemsWhole.steady : ∀ {vs : List Value}, ItemsWhole vs → ItemsAll Number.Steady vs
  | [], _ => trivial
  | _ :: _, h => ⟨h.1.steady, ItemsWhole.steady h.2⟩

theorem MembersWhole.steady : ∀ {ms : List (String × Value)}, MembersWhole ms → MembersAll Number.Steady ms
  | [], _ => trivial
  | (_, _) :: _, h => ⟨h.1.steady, MembersWhole.steady h.2⟩

end

/-! ## The text of the writer -/

theorem blank_nil : Blank [] := by
  intro c hc
  cases hc

mutual

/-- The writer's text of a value writes it. -/
theorem Value.text_written : ∀ v : Value, v.All Number.Steady → v.Written v.text.toList
  | .null, _ => rfl
  | .bool _, _ => rfl
  | .number (.int _), h => ⟨h.1.1, h.1.2, rfl⟩
  | .number (.double _), h => ⟨h.2, rfl⟩
  | .string s, _ => by
    obtain ⟨t, text, spells⟩ := toList_quote s
    exact ⟨t, text, spells⟩
  | .array items, h => by
    have written := itemsText_written items h true [] rfl
    have inner : (if items.isEmpty then [] else [] ++ (itemsText items).toList) = (itemsText items).toList := by
      cases items <;> simp [itemsText]
    rw [inner] at written
    exact ⟨[], _, by simp [Value.text], blank_nil, written⟩
  | .object members, h => by
    have written := membersText_written members h true [] rfl
    have inner : (if members.isEmpty then [] else [] ++ (membersText members).toList) =
        (membersText members).toList := by
      cases members <;> simp [membersText]
    rw [inner] at written
    exact ⟨[], _, by simp [Value.text], blank_nil, written⟩

theorem itemsText_written : ∀ vs : List Value, ItemsAll Number.Steady vs → ∀ (first : Bool) (lead : List Char),
    Leads first lead → ItemsWritten first vs (if vs.isEmpty then [] else lead ++ (itemsText vs).toList)
  | [], _, _, _, _ => rfl
  | [v], h, first, lead, hl => by
    refine ⟨lead, v.text.toList, [], [], ?_, hl, Value.text_written v h.1, blank_nil, rfl⟩
    simp [itemsText]
  | v :: w :: vs, h, first, lead, hl => by
    have more := itemsText_written (w :: vs) h.2 false [','] ⟨[], rfl, blank_nil⟩
    refine ⟨lead, v.text.toList, [], _, ?_, hl, Value.text_written v h.1, blank_nil, more⟩
    simp [itemsText]

theorem membersText_written : ∀ ms : List (String × Value), MembersAll Number.Steady ms →
    ∀ (first : Bool) (lead : List Char),
    Leads first lead → MembersWritten first ms (if ms.isEmpty then [] else lead ++ (membersText ms).toList)
  | [], _, _, _, _ => rfl
  | [(k, v)], h, first, lead, hl => by
    obtain ⟨t, text, spells⟩ := toList_quote k
    refine ⟨lead, t, [], [], v.text.toList, [], [], ?_, hl, spells, blank_nil, blank_nil,
      Value.text_written v h.1, blank_nil, rfl⟩
    simp [membersText, text]
  | (k, v) :: m :: ms, h, first, lead, hl => by
    obtain ⟨t, text, spells⟩ := toList_quote k
    have more := membersText_written (m :: ms) h.2 false [','] ⟨[], rfl, blank_nil⟩
    refine ⟨lead, t, [], [], v.text.toList, [], _, ?_, hl, spells, blank_nil, blank_nil,
      Value.text_written v h.1, blank_nil, more⟩
    simp [membersText, text]

end

/-- The writer's text of a value says what the value does, also with white space around it. -/
theorem Value.saidBy_text (v : Value) (h : v.All Number.Steady) {front back : List Char} (hf : Blank front)
    (hb : Blank back) {text : String} (same : text.toList = front ++ (v.text.toList ++ back)) :
    v.outline.SaidBy text := ⟨front, v.text.toList, back, same, hf, (Value.text_written v h).laidOut, hb⟩

end QueryGateway.Json
