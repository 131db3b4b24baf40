import QueryGateway.Json.Node
import QueryGateway.Moment.Reading
import QueryGateway.Text.Visible
import QueryGateway.Wire.Shape

/-!
# Reading data

Reads data of a shape from the tree of a JSON text. A record is an object, whose
members come in any order and may be more than are asked for, or an array of its
fields in their order. The first fault in the order of the text is the one reported;
that a field is missing is noticed at the end of its record.
-/

namespace QueryGateway.Wire

open Json (Node Key Close Fault Cause Mark)

/-! ## What is expected and what is found -/

/-- How messages name a shape. -/
def Shape.expected : Shape → String
  | .int => "i64"
  | .text => "a string"
  | .bool => "a boolean"
  | .moment => "an RFC 3339 formatted date and time string"
  | .any => "any valid JSON value"
  | .optional _ => "option"
  | .list _ => "a sequence"
  | .record name _ => "struct " ++ name

/-- How messages name a number. -/
def numberFound : Json.Number → String
  | .int n => "integer `" ++ toString n ++ "`"
  | .double x => "floating point `" ++ x.text ++ "`"

/-- How messages name a value, and the mark they give for it. -/
def found : Node → Except Fault (String × Mark)
  | .null stop => .ok ("null", stop)
  | .bool b stop => .ok ("boolean `" ++ (if b then "true" else "false") ++ "`", stop)
  | .number n _ stop => n.map fun n => (numberFound n, stop)
  | .string s _ stop => s.map fun s => ("string " ++ Text.visible s, stop)
  | .array start .. => .ok ("sequence", start)
  | .object start .. => .ok ("map", start)
  | .broken _ read _ => .error read

/-- A value of the wrong type. -/
def wrongType {α : Type} (s : Shape) (n : Node) : Except Fault α := do
  let (what, mark) ← found n
  throw (.here (.wrongType what s.expected) mark)

/-- Nothing, if a value can be skipped. -/
def skip (n : Node) : Except Fault Unit :=
  match n.skipFault with
  | none => .ok ()
  | some f => .error f

/-! ## Slots -/

/-- The fields of a record of which some have been read. -/
def Fields.Slots : Fields → Type
  | .nil => Unit
  | .cons _ _ shape rest => Option shape.Data × rest.Slots

/-- No field has been read. -/
def Fields.empty : (fs : Fields) → fs.Slots
  | .nil => ()
  | .cons _ _ _ rest => (none, rest.empty)

/-- The data of a field that is left out. -/
def Shape.absent : (s : Shape) → Option s.Data
  | .optional _ => some none
  | .int => none
  | .text => none
  | .bool => none
  | .moment => none
  | .any => none
  | .list _ => none
  | .record .. => none

/-- The fields of a record, or the first that is missing. -/
def Fields.complete : (fs : Fields) → fs.Slots → Except String fs.Data
  | .nil, _ => .ok ()
  | .cons key _ shape rest, (slot, slots) => do
    let d ← match slot.or shape.absent with
      | some d => .ok d
      | none => .error key
    let ds ← rest.complete slots
    return (d, ds)

/-! ## Arrays -/

/-- Reads the items of an array one after the other. -/
def readList {α : Type} (read : Node → Except Fault α) : Nat → List Node → Except Fault (List α)
  | _, [] => .ok []
  | i, n :: ns => do
    let d ← (read n).mapError (·.inside (.index i))
    let ds ← readList read (i + 1) ns
    return d :: ds

/-- The fault of an array that goes on behind the fields of its record. -/
def endOfRecord : List Node → Close → Except Fault Unit
  | n :: _, _ => .error (.here .trailing (n.start + 1))
  | [], .closed _ => .ok ()
  | [], .broken read _ =>
    .error (match read.cause with
      | .noListComma => .here .trailing read.mark
      | .endOfValue => .here .trailing read.mark
      | _ => read)

/-- What an array that ends too early is called. -/
def elements (name : String) (n : Nat) : String :=
  "struct " ++ name ++ " with " ++ toString n ++ (if n == 1 then " element" else " elements")

/-- The data of a field left out at the end of an array, of which so many items were
there. -/
def leftOut (name : String) (total i : Nat) (presence : Presence) (shape : Shape) :
    Close → Except Fault shape.Data
  | .broken read _ => .error read
  | .closed stop =>
    match presence.trailing, shape.absent with
    | true, some d => .ok d
    | _, _ => .error (.here (.wrongLength i (elements name total)) stop)

/-! ## Objects -/

/-- Reads the members of an object one after the other. -/
def readMembers {σ : Type} (step : String → Key → Node → σ → Except Fault σ) :
    List (Key × Node) → σ → Except Fault σ
  | [], s => .ok s
  | (k, n) :: ms, s => do
    let key ← k.text
    let s ← step key k n s
    readMembers step ms s

/-- The fields of an object, once its members are read. -/
def finish (fields : Fields) (slots : fields.Slots) : Close → Except Fault fields.Data
  | .broken read _ => .error read
  | .closed stop => (fields.complete slots).mapError fun key => .here (.missingField key) stop

/-! ## Reading -/

mutual

/-- Data of a shape from a node, with so many more arrays and objects in each
other. -/
def Shape.read : (s : Shape) → Nat → Node → Except Fault s.Data
  | .int, _, n =>
    match n with
    | .number (.ok (.int i)) _ stop =>
      if i ≤ Text.maxInt64 then .ok i
      else .error (.here (.wrongValue (numberFound (.int i)) "i64") stop)
    | n => wrongType .int n
  | .text, _, n =>
    match n with
    | .string (.ok s) _ _ => .ok s
    | n => wrongType .text n
  | .bool, _, n =>
    match n with
    | .bool b _ => .ok b
    | n => wrongType .bool n
  | .moment, _, n =>
    match n with
    | .string (.ok s) _ stop =>
      (Moment.parseRelaxed s).mapError fun e => .here (.badInstant e.message) stop
    | n => wrongType .moment n
  | .any, depth, n => n.read depth
  | .optional s, depth, n =>
    match n with
    | .null _ => .ok none
    | n => (s.read depth n).map some
  | .list s, depth, n =>
    match n with
    | .array start items close =>
      if depth ≤ 1 then .error (Json.tooDeepAt start)
      else do
        let ds ← readList (fun n => s.read (depth - 1) n) 0 items
        close.read
        return ds
    | n => wrongType (.list s) n
  | .record name fields, depth, n =>
    match n with
    | .array start items close =>
      if depth ≤ 1 then .error (Json.tooDeepAt start)
      else fields.readItems name fields.length (depth - 1) 0 items close
    | .object start members close =>
      if depth ≤ 1 then .error (Json.tooDeepAt start)
      else do
        let slots ← readMembers (fun key k n s => fields.readMember (depth - 1) key k n s) members fields.empty
        finish fields slots close
    | n => wrongType (.record name fields) n

/-- The fields of a record from the items of an array. -/
def Fields.readItems : (fs : Fields) → String → Nat → Nat → Nat → List Node → Close → Except Fault fs.Data
  | .nil, _, _, _, _, items, close => endOfRecord items close
  | .cons _ presence shape rest, name, total, depth, i, items, close =>
    match items with
    | n :: ns => do
      let d ← (shape.read depth n).mapError (·.inside (.index i))
      let ds ← rest.readItems name total depth (i + 1) ns close
      return (d, ds)
    | [] => do
      let d ← leftOut name total i presence shape close
      let ds ← rest.readItems name total depth (i + 1) [] close
      return (d, ds)

/-- Reads a member into the slot of its field; a member that is no field is
skipped. -/
def Fields.readMember : (fs : Fields) → Nat → String → Key → Node → fs.Slots → Except Fault fs.Slots
  | .nil, _, key, _, n, slots => do
    (skip n).mapError (·.inside (.key key))
    return slots
  | .cons name _ shape rest, depth, key, k, n, (slot, slots) =>
    if key == name then
      match slot with
      | some _ => .error (.here (.duplicateField name) k.after)
      | none => do
        let d ← (shape.read depth n).mapError (·.inside (.key key))
        return (some d, slots)
    else do
      let slots ← rest.readMember depth key k n slots
      return (slot, slots)

end

/-- Data of a shape from a text. -/
def Shape.parse (s : Shape) (text : String) : Except Fault s.Data := do
  let doc := Json.Document.ofChars text.toList
  let d ← s.read Json.depthLimit doc.root
  match doc.trailing with
  | some f => .error f
  | none => .ok d

end QueryGateway.Wire
