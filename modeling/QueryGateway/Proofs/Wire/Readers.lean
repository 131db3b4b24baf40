import QueryGateway.Proofs.Json.Layouts
import QueryGateway.Proofs.Wire.Accepted

/-!
# What readers make of a text

A reader goes through the members of an object one by one and keeps what it has found in slots.
`Shape.take` says what comes of it by the outline of the text alone: for each field, what stands
under its key, wherever that is among the members. It fails where the reader does, but for the
message. Main statement: what is read of a text is what is taken of its outline.
-/

namespace QueryGateway.Wire

open Json (Value Node Fault Key Outline)
open Text

/-! ## Taking data of an outline -/

/-- The members with the keys that can be read, if all of them can. -/
def keyed (members : List (Option String × Outline)) : Option (List (String × Outline)) :=
  members.mapM fun m => m.1.map fun key => (key, m.2)

/-- What stands under a key. -/
def under (key : String) (members : List (String × Outline)) : List Outline :=
  members.filterMap fun m => if m.1 = key then some m.2 else none

/-- What is found once at most, or is absent. -/
def once {α : Type} (absent : Option α) (take : Outline → Option α) : List Outline → Option α
  | [] => absent
  | [o] => take o
  | _ :: _ :: _ => none

/-- Two results together, if there are both. -/
def both {α β : Type} (x : Option α) (y : Option β) : Option (α × β) :=
  x.bind fun a => y.map fun b => (a, b)

def takeInt : Outline → Option Int
  | .number (some (.int i)) => if i ≤ maxInt64 then some i else none
  | _ => none

def takeText : Outline → Option String
  | .string s => s
  | _ => none

def takeBool : Outline → Option Bool
  | .bool b => some b
  | _ => none

def takeMoment (o : Outline) : Option Moment := (takeText o).bind fun s => (Moment.parseRelaxed s).toOption

/-- Nothing for null, and else what is taken. -/
def takeOptional {α : Type} (take : Outline → Option α) : Outline → Option (Option α)
  | .null => some none
  | o => (take o).map some

/-- What is taken of each item of an array. -/
def takeList {α : Type} (depth : Nat) (take : Outline → Option α) : Outline → Option (List α)
  | .array items => if depth ≤ 1 then none else items.mapM take
  | _ => none

/-- What is taken of the items of an array, or of the members of an object. -/
def takeRecord {α : Type} (depth : Nat) (takeItems : List Outline → Option α)
    (takeMembers : List (String × Outline) → Option α) : Outline → Option α
  | .array items => if depth ≤ 1 then none else takeItems items
  | .object members => if depth ≤ 1 then none else (keyed members).bind takeMembers
  | _ => none

mutual

/-- The data of a shape that an outline says, with so many more arrays and objects in each other. -/
def Shape.take : (s : Shape) → Nat → Outline → Option s.Data
  | .int, _, o => takeInt o
  | .text, _, o => takeText o
  | .bool, _, o => takeBool o
  | .moment, _, o => takeMoment o
  | .any, depth, o => o.value depth
  | .optional s, depth, o => takeOptional (fun o => s.take depth o) o
  | .list s, depth, o => takeList depth (fun o => s.take (depth - 1) o) o
  | .record _ fields, depth, o =>
    takeRecord depth (fun items => fields.takeItems (depth - 1) items)
      (fun members => fields.takeMembers (depth - 1) members) o

/-- The fields of a record that items say in their order. -/
def Fields.takeItems : (fs : Fields) → Nat → List Outline → Option fs.Data
  | .nil, _, [] => some ()
  | .nil, _, _ :: _ => none
  | .cons _ _ shape rest, depth, o :: items => both (shape.take depth o) (rest.takeItems depth items)
  | .cons _ presence shape rest, depth, [] =>
    both (if presence.trailing then shape.absent else none) (rest.takeItems depth [])

/-- The fields of a record that members say: each field is what stands under its key, once at most. -/
def Fields.takeMembers : (fs : Fields) → Nat → List (String × Outline) → Option fs.Data
  | .nil, _, _ => some ()
  | .cons key _ shape rest, depth, members =>
    both (once shape.absent (fun o => shape.take depth o) (under key members)) (rest.takeMembers depth members)

end

theorem take_list (s : Shape) (depth : Nat) (items : List Outline) :
    (Shape.list s).take depth (.array items) = if depth ≤ 1 then none else items.mapM fun o => s.take (depth - 1) o :=
  rfl

theorem take_record_array (name : String) (fields : Fields) (depth : Nat) (items : List Outline) :
    (Shape.record name fields).take depth (.array items) =
      if depth ≤ 1 then none else fields.takeItems (depth - 1) items := rfl

theorem take_record_object (name : String) (fields : Fields) (depth : Nat) (members : List (Option String × Outline)) :
    (Shape.record name fields).take depth (.object members) =
      if depth ≤ 1 then none else (keyed members).bind fun members => fields.takeMembers (depth - 1) members := rfl

/-- The fields of a record, of which some have been found before the members. -/
def Fields.takeOver : (fs : Fields) → Nat → List (String × Outline) → fs.Slots → Option fs.Data
  | .nil, _, _, _ => some ()
  | .cons key _ shape rest, depth, members, (slot, slots) =>
    both (once (slot.or shape.absent) (fun o => if slot.isSome then none else shape.take depth o) (under key members))
      (rest.takeOver depth members slots)

theorem takeOver_empty : ∀ (fields : Fields) (depth : Nat) (members : List (String × Outline)),
    fields.takeOver depth members fields.empty = fields.takeMembers depth members
  | .nil, _, _ => rfl
  | .cons _ _ _ rest, depth, members => congrArg (both _) (takeOver_empty rest depth members)

/-- Without members, what has been found is all there is. -/
theorem toOption_complete : ∀ {fields : Fields} (depth : Nat) (slots : fields.Slots),
    (fields.complete slots).toOption = fields.takeOver depth [] slots
  | .nil, _, _ => rfl
  | .cons key presence shape rest, depth, (slot, slots) => by
    have field : once (slot.or shape.absent) (fun o => if slot.isSome then none else shape.take depth o)
        (under key []) = slot.or shape.absent := rfl
    rw [Fields.complete, Fields.takeOver, field, ← toOption_complete depth slots]
    cases slot.or shape.absent with
    | none => rfl
    | some d => cases rest.complete slots <;> rfl

/-! ## Members -/

theorem under_cons (key name : String) (o : Outline) (members : List (String × Outline)) :
    under key ((name, o) :: members) = if name = key then o :: under key members else under key members := by
  unfold under
  split
  · next same => simp [same]
  · next other => simp [other]

/-- A member of another record is none of this. -/
theorem takeOver_other : ∀ {fields : Fields} {key : String}, key ∉ fields.keys → ∀ (depth : Nat) (o : Outline)
    (members : List (String × Outline)) (slots : fields.Slots),
    fields.takeOver depth ((key, o) :: members) slots = fields.takeOver depth members slots
  | .nil, _, _, _, _, _, _ => rfl
  | .cons name _ shape rest, key, h, depth, o, members, (slot, slots) => by
    obtain ⟨other, h⟩ := not_or.1 (mt List.mem_cons.2 h)
    rw [Fields.takeOver, Fields.takeOver, under_cons, if_neg other, takeOver_other h]

/-- What is found first has to be all there is. -/
theorem once_cons {α : Type} (absent : Option α) (take : Outline → Option α) (o : Outline) (os : List Outline) :
    once absent take (o :: os) = (take o).bind fun d => once (some d) (fun _ => none) os := by
  cases os with
  | nil => simp [once]
  | cons o' os => cases os <;> simp [once]

theorem both_bind {α β γ : Type} (x : Option α) (y : Option γ) (f : γ → Option β) :
    both x (y.bind f) = y.bind fun c => both x (f c) := by
  cases x <;> cases y <;> rfl

theorem toOption_wrongType {α : Type} (s : Shape) (n : Node) : (wrongType s n : Except Fault α).toOption = none := by
  unfold wrongType
  cases found n <;> rfl

theorem skip_eq_ok {o : Outline} {n : Node} (h : o.Fits n) : skip n = .ok () := by
  unfold skip
  rw [h.skipFault]

/-! ## Plain data -/

section Plain

variable (depth : Nat) {o : Outline} {n : Node} (h : o.Fits n)

include h

theorem toOption_read_int : (Shape.int.read depth n).toOption = takeInt o := by
  cases n with
  | number m start stop =>
    cases o with
    | number x =>
      obtain rfl : m.toOption = x := h
      cases m with
      | error f => exact toOption_wrongType _ _
      | ok m =>
        cases m with
        | double x => exact toOption_wrongType _ _
        | int i =>
          show Except.toOption (if i ≤ maxInt64 then .ok i else .error _) = if i ≤ maxInt64 then some i else none
          split <;> rfl
    | _ => exact h.elim
  | _ => cases o <;> first | exact h.elim | exact toOption_wrongType _ _

theorem toOption_read_text : (Shape.text.read depth n).toOption = takeText o := by
  cases n with
  | string t start stop =>
    cases o with
    | string s =>
      obtain rfl : t.toOption = s := h
      cases t with
      | ok s => rfl
      | error f => exact toOption_wrongType _ _
    | _ => exact h.elim
  | _ => cases o <;> first | exact h.elim | exact toOption_wrongType _ _

theorem toOption_read_bool : (Shape.bool.read depth n).toOption = takeBool o := by
  cases n with
  | bool c stop =>
    cases o with
    | bool b => exact congrArg some h
    | _ => exact h.elim
  | _ => cases o <;> first | exact h.elim | exact toOption_wrongType _ _

theorem toOption_read_moment : (Shape.moment.read depth n).toOption = takeMoment o := by
  cases n with
  | string t start stop =>
    cases o with
    | string s =>
      obtain rfl : t.toOption = s := h
      cases t with
      | ok s => exact toOption_mapError _ _
      | error f => exact toOption_wrongType _ _
    | _ => exact h.elim
  | _ => cases o <;> first | exact h.elim | exact toOption_wrongType _ _

end Plain

/-! ## Arrays and objects -/

/-- The items of an array are taken one by one. -/
theorem toOption_readList {α : Type} {read : Node → Except Fault α} {take : Outline → Option α}
    (item : ∀ {o n}, o.Fits n → (read n).toOption = take o) :
    ∀ {os : List Outline} {ns : List Node} (i : Nat), Json.ItemsFit os ns →
      (readList read i ns).toOption = os.mapM take
  | [], ns, i, h => by
    obtain rfl := Json.ItemsFit.nil h
    rfl
  | o :: os, ns, i, h => by
    obtain ⟨n, rest, rfl, first, more⟩ := Json.ItemsFit.cons h
    rw [readList, List.mapM_cons, ← item first, ← toOption_readList item (i + 1) more]
    cases read n with
    | error f => rfl
    | ok d => cases readList read (i + 1) rest <;> rfl

theorem keyed_cons (k : Option String) (o : Outline) (ms : List (Option String × Outline)) :
    keyed ((k, o) :: ms) = k.bind fun key => (keyed ms).map fun members => (key, o) :: members := by
  unfold keyed
  rw [List.mapM_cons]
  cases k with
  | none => rfl
  | some key => cases List.mapM (fun m : Option String × Outline => m.1.map fun key => (key, m.2)) ms <;> rfl

/-- The members read one after the other are found in their slots, if each is found in its own. -/
theorem toOption_readMembers {fields : Fields} {depth : Nat} {stop : Json.Mark}
    {step : String → Key → Node → fields.Slots → Except Fault fields.Slots}
    (member : ∀ {key k o n members slots}, o.Fits n → (step key k n slots).toOption.bind
      (fields.takeOver depth members) = fields.takeOver depth ((key, o) :: members) slots) :
    ∀ {ms : List (Option String × Outline)} {ns : List (Key × Node)} {slots : fields.Slots}, Json.MembersFit ms ns →
      (readMembers step ns slots >>= fun slots => finish fields slots (.closed stop)).toOption =
        (keyed ms).bind fun members => fields.takeOver depth members slots
  | [], ns, slots, h => by
    obtain rfl := Json.MembersFit.nil h
    have complete := toOption_complete depth slots
    rw [← toOption_mapError] at complete
    exact complete
  | (k, o) :: ms, ns, slots, h => by
    obtain ⟨key, n, rest, rfl, rfl, first, more⟩ := Json.MembersFit.cons h
    rw [readMembers, keyed_cons]
    cases key.text with
    | error f => rfl
    | ok name =>
      show ((step name key n slots >>= fun s => readMembers step rest s) >>= fun slots =>
        finish fields slots (.closed stop)).toOption = _
      rw [bind_assoc, toOption_bind]
      simp only [toOption_readMembers member more]
      -- The members behind are all read, or else nothing comes of it on either side.
      cases known : keyed ms with
      | none => cases (step name key n slots).toOption <;> rfl
      | some members => exact member first

theorem toOption_endOfRecord {os : List Outline} {ns : List Node} (h : Json.ItemsFit os ns) (stop : Json.Mark)
    (depth : Nat) : (endOfRecord ns (.closed stop)).toOption = Fields.nil.takeItems depth os := by
  cases os with
  | nil =>
    obtain rfl := Json.ItemsFit.nil h
    rfl
  | cons o os =>
    obtain ⟨n, rest, rfl, -⟩ := Json.ItemsFit.cons h
    rfl

theorem toOption_leftOut (name : String) (total i : Nat) (presence : Presence) (shape : Shape) (stop : Json.Mark) :
    (leftOut name total i presence shape (.closed stop)).toOption =
      if presence.trailing then shape.absent else none := by
  unfold leftOut
  dsimp only
  cases presence.trailing with
  | false => rfl
  | true => cases shape.absent <;> rfl

theorem toOption_both {ε α β : Type} (x : Except ε α) (y : Except ε β) :
    (do let a ← x; let b ← y; return (a, b) : Except ε (α × β)).toOption = both x.toOption y.toOption := by
  cases x with
  | error e => rfl
  | ok a => cases y <;> rfl

mutual

/-- What is read of a tree is what is taken of its outline. -/
theorem toOption_read : ∀ {s : Shape}, s.WellFormed → ∀ (depth : Nat) {o : Outline} {n : Node}, o.Fits n →
    (s.read depth n).toOption = s.take depth o
  | .int, _, depth, o, n, h => toOption_read_int depth h
  | .text, _, depth, o, n, h => toOption_read_text depth h
  | .bool, _, depth, o, n, h => toOption_read_bool depth h
  | .moment, _, depth, o, n, h => toOption_read_moment depth h
  | .any, _, depth, o, n, h => h.toOption_read depth
  | .optional s, hs, depth, o, n, h => by
    have some := toOption_read hs.2 depth h
    -- Only a null is taken as absent, and the tree is null if the outline is.
    cases n with
    | null stop =>
      cases o with
      | null => rfl
      | _ => exact h.elim
    | _ =>
      rw [Shape.take]
      cases o <;> first | exact h.elim | exact (toOption_map _ _).trans (congrArg (Option.map _) some)
  | .list s, hs, depth, o, n, h => by
    cases n with
    | array start ns close =>
      cases o with
      | array os =>
        obtain ⟨_, _, stop, same, items⟩ := Outline.Fits.array h
        cases same
        have item : ∀ {o n}, o.Fits n → (s.read (depth - 1) n).toOption = s.take (depth - 1) o :=
          toOption_read (show s.WellFormed from hs) (depth - 1)
        rw [take_list]
        by_cases hd : depth ≤ 1
        · rw [if_pos hd]
          exact congrArg Except.toOption (if_pos hd)
        · rw [read_list_closed s (Nat.lt_of_not_le hd), if_neg hd]
          exact toOption_readList item 0 items
      | _ => exact h.elim
    | _ => cases o <;> first | exact h.elim | exact toOption_wrongType _ _
  | .record name fields, hs, depth, o, n, h => by
    cases n with
    | array start ns close =>
      cases o with
      | array os =>
        obtain ⟨_, _, stop, same, items⟩ := Outline.Fits.array h
        cases same
        have taken := toOption_readItems hs.2 name fields.length (depth - 1) 0 stop items
        rw [take_record_array]
        by_cases hd : depth ≤ 1
        · rw [if_pos hd]
          exact congrArg Except.toOption (if_pos hd)
        · rw [if_neg hd, ← taken]
          exact congrArg Except.toOption (if_neg hd)
      | _ => exact h.elim
    | object start ns close =>
      cases o with
      | object ms =>
        obtain ⟨_, _, stop, same, members⟩ := Outline.Fits.object h
        cases same
        rw [take_record_object]
        by_cases hd : depth ≤ 1
        · rw [if_pos hd]
          exact congrArg Except.toOption (if_pos hd)
        · rw [read_record_closed name fields (Nat.lt_of_not_le hd), if_neg hd]
          -- In front of the members no slot is filled, and each member moves from the list to its slot.
          simp only [← takeOver_empty]
          exact toOption_readMembers (fun fits => toOption_readMember hs.2 hs.1 (depth - 1) _ _ _ _ fits) members
      | _ => exact h.elim
    | _ => cases o <;> first | exact h.elim | exact toOption_wrongType _ _

theorem toOption_readItems : ∀ {fields : Fields}, fields.WellFormed → ∀ (name : String) (total depth i : Nat)
    (stop : Json.Mark) {os : List Outline} {ns : List Node}, Json.ItemsFit os ns →
    (fields.readItems name total depth i ns (.closed stop)).toOption = fields.takeItems depth os
  | .nil, _, name, total, depth, i, stop, os, ns, h => toOption_endOfRecord h stop depth
  | .cons _ presence shape rest, hf, name, total, depth, i, stop, [], ns, h => by
    obtain rfl := Json.ItemsFit.nil h
    have more := toOption_readItems hf.2 name total depth (i + 1) stop h
    rw [Fields.takeItems, ← more, ← toOption_leftOut name total i presence shape stop, ← toOption_both]
    rfl
  | .cons _ presence shape rest, hf, name, total, depth, i, stop, o :: os, ns, h => by
    obtain ⟨n, ns, rfl, first, others⟩ := Json.ItemsFit.cons h
    have item : ((shape.read depth n).mapError (·.inside (.index i))).toOption = shape.take depth o :=
      (toOption_mapError _ _).trans (toOption_read hf.1 depth first)
    have more := toOption_readItems hf.2 name total depth (i + 1) stop others
    rw [Fields.takeItems, ← more, ← item, ← toOption_both]
    rfl

theorem toOption_readMember : ∀ {fields : Fields}, fields.WellFormed → fields.keys.Nodup → ∀ (depth : Nat)
    (key : String) (k : Key) (members : List (String × Outline)) (slots : fields.Slots) {o : Outline} {n : Node},
    o.Fits n →
    (fields.readMember depth key k n slots).toOption.bind (fields.takeOver depth members) =
      fields.takeOver depth ((key, o) :: members) slots
  | .nil, _, _, depth, key, k, members, slots, o, n, h => by
    rw [Fields.readMember, skip_eq_ok h]
    rfl
  | .cons name presence shape rest, hf, hk, depth, key, k, members, (slot, slots), o, n, h => by
    obtain ⟨new, hk⟩ := List.nodup_cons.1 hk
    by_cases same : key = name
    · subst same
      have item : ((shape.read depth n).mapError (·.inside (.key key))).toOption = shape.take depth o :=
        (toOption_mapError _ _).trans (toOption_read hf.1 depth h)
      rw [Fields.takeOver, under_cons, if_pos rfl, once_cons, takeOver_other new]
      -- A field that has been found takes no other member, and one that has not takes this.
      cases slot with
      | some d =>
        have found : (Fields.cons key presence shape rest).readMember depth key k n (some d, slots) =
            .error (.here (.duplicateField key) k.after) := if_pos (beq_self_eq_true key)
        rw [found]
        rfl
      | none =>
        have read : ((Fields.cons key presence shape rest).readMember depth key k n (none, slots)).toOption =
            (shape.take depth o).map fun d => (some d, slots) := by
          rw [← item, ← toOption_map]
          exact congrArg Except.toOption (if_pos (beq_self_eq_true key))
        rw [read]
        cases shape.take depth o <;> rfl
    · have more := toOption_readMember hf.2 hk depth key k members slots h
      have read : ((Fields.cons name presence shape rest).readMember depth key k n (slot, slots)).toOption =
          (rest.readMember depth key k n slots).toOption.map fun slots => (slot, slots) := by
        rw [← toOption_map]
        exact congrArg Except.toOption (if_neg (by simpa using same))
      rw [Fields.takeOver, under_cons, if_neg same, ← more, both_bind, read]
      cases (rest.readMember depth key k n slots).toOption <;> rfl

end

/-! ## Trees that are not finished -/

/-- Fields are not read from an array that is not closed. -/
theorem toOption_readItems_broken : ∀ (fields : Fields) (name : String) (total depth i : Nat) (read skip : Fault)
    (ns : List Node), (fields.readItems name total depth i ns (.broken read skip)).toOption = none
  | .nil, _, _, _, _, _, _, [] => rfl
  | .nil, _, _, _, _, _, _, _ :: _ => rfl
  | .cons _ _ _ _, _, _, _, _, _, _, [] => rfl
  | .cons _ presence shape rest, name, total, depth, i, read, skip, n :: ns => by
    have more := toOption_readItems_broken rest name total depth (i + 1) read skip ns
    have item := toOption_both ((shape.read depth n).mapError (·.inside (.index i)))
      (rest.readItems name total depth (i + 1) ns (.broken read skip))
    rw [more] at item
    refine Eq.trans item ?_
    cases ((shape.read depth n).mapError (·.inside (.index i))).toOption <;> rfl

/-- Nothing is read of a tree at which the builder stopped. -/
theorem toOption_read_stopped : ∀ (s : Shape) (depth : Nat) {n : Node}, n.Stopped → (s.read depth n).toOption = none
  | .int, depth, n, h => by cases n <;> first | exact h.elim | exact toOption_wrongType _ _
  | .text, depth, n, h => by cases n <;> first | exact h.elim | exact toOption_wrongType _ _
  | .bool, depth, n, h => by cases n <;> first | exact h.elim | exact toOption_wrongType _ _
  | .moment, depth, n, h => by cases n <;> first | exact h.elim | exact toOption_wrongType _ _
  | .any, depth, n, h => by
    show (n.read depth).toOption = none
    cases hv : n.read depth with
    | error f => rfl
    | ok v => exact absurd hv (h.read_ne_ok depth v)
  | .optional s, depth, n, h => by
    have none := toOption_read_stopped s depth h
    cases n with
    | null => exact h.elim
    | _ => exact (toOption_map _ _).trans (congrArg (Option.map _) none)
  | .list s, depth, n, h => by
    cases n with
    | array start ns close =>
      obtain ⟨read, skip, rfl⟩ := h
      by_cases hd : depth ≤ 1
      · exact congrArg Except.toOption (if_pos hd)
      · refine (congrArg Except.toOption (if_neg hd)).trans ?_
        cases readList (fun n => s.read (depth - 1) n) 0 ns <;> rfl
    | _ => first | exact h.elim | exact toOption_wrongType _ _
  | .record name fields, depth, n, h => by
    cases n with
    | array start ns close =>
      obtain ⟨read, skip, rfl⟩ := h
      by_cases hd : depth ≤ 1
      · exact congrArg Except.toOption (if_pos hd)
      · refine (congrArg Except.toOption (if_neg hd)).trans ?_
        exact toOption_readItems_broken fields name fields.length (depth - 1) 0 read skip ns
    | object start ns close =>
      obtain ⟨read, skip, rfl⟩ := h
      by_cases hd : depth ≤ 1
      · exact congrArg Except.toOption (if_pos hd)
      · refine (congrArg Except.toOption (if_neg hd)).trans ?_
        cases readMembers (fun key k n s => fields.readMember (depth - 1) key k n s) ns fields.empty <;> rfl
    | _ => first | exact h.elim | exact toOption_wrongType _ _

/-! ## Texts -/

/-- What is read of a text is what is taken of its outline. -/
theorem parse_eq_ok_iff {s : Shape} (hs : s.WellFormed) {o : Outline} {text : String} (h : o.SaidBy text)
    (d : s.Data) : s.parse text = .ok d ↔ s.take Json.depthLimit o = some d := by
  obtain ⟨all, fits⟩ := h.fits
  rw [← toOption_read hs Json.depthLimit fits]
  unfold Shape.parse
  dsimp only
  rw [all]
  cases s.read Json.depthLimit (Json.Document.ofChars text.toList).root with
  | error f => exact ⟨nofun, nofun⟩
  | ok d' =>
    constructor
    · intro same
      exact congrArg some (Except.ok.inj same)
    · intro same
      exact congrArg Except.ok (Option.some.inj same)

/-- A text of which something is read says something. -/
theorem saidBy_of_parse {s : Shape} {text : String} {d : s.Data} (h : s.parse text = .ok d) :
    ∃ o : Outline, o.SaidBy text := by
  obtain ⟨d', read, h⟩ := bind_eq_ok h
  have all : (Json.Document.ofChars text.toList).trailing = none := by
    cases behind : (Json.Document.ofChars text.toList).trailing with
    | none => rfl
    | some f => simp [behind] at h
  have built : ¬ (Json.Document.ofChars text.toList).root.Stopped := by
    intro stopped
    have nothing := toOption_read_stopped s Json.depthLimit stopped
    rw [read] at nothing
    cases nothing
  exact (Json.isJson_of_built built all).saidBy

end QueryGateway.Wire
