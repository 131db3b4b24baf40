import QueryGateway.Json.Quoted

/-!
# Nodes

A JSON text as a tree with marks. The tree is built as far as the text goes well;
where it does not, the tree holds the fault at that place. So a reader that asks for
certain data meets what is wrong in the order of the text, whether the text is
broken or the data are not those asked for.

A text is judged differently where a value is read and where it is skipped: a
skipped value may hold numbers that are too large and lone halves of surrogate
pairs, and some faults are named otherwise. So a broken place holds two faults.
-/

namespace QueryGateway.Json

open Text

/-! ## Trees -/

/-- The key of a member. `after` is the mark of what follows it and white space. -/
structure Key where
  text : Except Fault String
  after : Mark

/-- The end of an array or object: closed in front of a mark, or at a fault. -/
inductive Close
  | closed (stop : Mark)
  | broken (read skip : Fault)

/-- A value with the marks of its start and its end. -/
inductive Node
  | null (stop : Mark)
  | bool (b : Bool) (stop : Mark)
  | number (n : Except Fault Number) (start stop : Mark)
  | string (s : Except Fault String) (start stop : Mark)
  | array (start : Mark) (items : List Node) (close : Close)
  | object (start : Mark) (members : List (Key × Node)) (close : Close)
  | broken (start : Mark) (read skip : Fault)

/-- The mark in front of a value. -/
def Node.start : Node → Mark
  | .null stop => stop - 4
  | .bool b stop => if b then stop - 4 else stop - 5
  | .number _ start _ => start
  | .string _ start _ => start
  | .array start .. => start
  | .object start .. => start
  | .broken start .. => start

/-! ## Building -/

/-- White space between the parts of a text. -/
def isSpace (c : Char) : Bool :=
  c == ' ' || c == '\n' || c == '\t' || c == '\x0d'

/-- A cursor behind the white space. -/
def Cursor.skipSpace (c : Cursor) : Cursor :=
  let blanks := c.rest.takeWhile isSpace
  ⟨c.mark + blanks.length, c.rest.dropWhile isSpace⟩

/-- A cursor behind so many characters of one byte. -/
def Cursor.advance (n : Nat) (c : Cursor) : Cursor :=
  ⟨c.mark + n, c.rest.drop n⟩

/-- A cursor behind the given letters, or else the fault in the way. -/
def expectWord (mark : Mark) : List Char → List Char → Except Fault Cursor
  | [], cs => .ok ⟨mark, cs⟩
  | _ :: _, [] => .error (.here .endOfValue mark)
  | w :: ws, c :: cs => if w == c then expectWord (mark + 1) ws cs else .error (.here .noWord (mark + 1))

/-- A value with a fault that is the same for reading and skipping. -/
def brokenAt (start : Mark) (f : Fault) : Node × Option Cursor := (.broken start f f, none)

/-- One of the words `null`, `true` and `false`. -/
def wordNode (word : List Char) (node : Mark → Node) (c : Cursor) : Node × Option Cursor :=
  match expectWord c.mark word c.rest with
  | .ok after => (node after.mark, some after)
  | .error f => brokenAt c.mark f

/-- A number. -/
def numberNode (c : Cursor) : Node × Option Cursor :=
  match scanNumeral c with
  | .ok (n, after) => (.number (n.value after.mark) c.mark after.mark, some after)
  | .error (read, skip) => (.broken c.mark read skip, none)

/-- The fault of reading a string that cannot be skipped. -/
def readFault (q : Quoted) (skip : Fault) : Fault :=
  match q.decode with
  | .ok _ => skip
  | .error f => f

/-- A string; the cursor stands behind the opening quote. -/
def stringNode (c : Cursor) : Node × Option Cursor :=
  let (q, rest) := scanString c.mark c.rest
  match q.ending.skipFault q.mark with
  | none => (.string q.decode (c.mark - 1) (q.mark + 1), some ⟨q.mark + 1, rest⟩)
  | some skip => (.broken (c.mark - 1) (readFault q skip) skip, none)

/-- A place where a list cannot go on. -/
def stuck (read skip : Cause) (mark : Mark) : Close :=
  .broken (.here read mark) (.here skip mark)

mutual

/-- The value at a cursor, and the cursor behind it unless the text is broken. -/
def valueNode : Nat → Cursor → Node × Option Cursor
  | 0, c => brokenAt c.mark (.here .endOfValue c.mark)
  | fuel + 1, c =>
    match c.rest with
    | [] => brokenAt c.mark (.here .endOfValue c.mark)
    | 'n' :: _ => wordNode ['n', 'u', 'l', 'l'] .null c
    | 't' :: _ => wordNode ['t', 'r', 'u', 'e'] (.bool true) c
    | 'f' :: _ => wordNode ['f', 'a', 'l', 's', 'e'] (.bool false) c
    | '"' :: _ => stringNode (c.advance 1)
    | '[' :: _ =>
      let (items, close, after) := itemNodes fuel true (c.advance 1).skipSpace
      (.array c.mark items close, after)
    | '\x7b' :: _ =>
      let (members, close, after) := memberNodes fuel true (c.advance 1).skipSpace
      (.object c.mark members close, after)
    | ch :: _ =>
      if ch == '-' || isDigit ch then numberNode c
      else brokenAt c.mark (.here .noValue (c.mark + 1))

/-- The items of an array from a cursor on. -/
def itemNodes : Nat → Bool → Cursor → List Node × Close × Option Cursor
  | 0, _, c => ([], stuck .endOfList .endOfList c.mark, none)
  | fuel + 1, first, c =>
    match c.rest, first with
    | [], _ => ([], stuck .endOfList .endOfList c.mark, none)
    | ']' :: _, _ => ([], .closed (c.mark + 1), some (c.advance 1))
    | ',' :: _, false =>
      let c := (c.advance 1).skipSpace
      match c.rest with
      | [] => ([], stuck .endOfValue .endOfValue c.mark, none)
      | ']' :: _ => ([], stuck .trailingComma .noValue (c.mark + 1), none)
      | _ => itemThenMore fuel c
    | _, false => ([], stuck .noListComma .noListComma (c.mark + 1), none)
    | _, true => itemThenMore fuel c

/-- An item of an array and those behind it. -/
def itemThenMore : Nat → Cursor → List Node × Close × Option Cursor
  | 0, c => ([], stuck .endOfList .endOfList c.mark, none)
  | fuel + 1, c =>
    match valueNode fuel c with
    | (node, some after) =>
      let (more, close, after) := itemNodes fuel false after.skipSpace
      (node :: more, close, after)
    | (node, none) => ([node], stuck .endOfList .endOfList c.mark, none)

/-- The members of an object from a cursor on. -/
def memberNodes : Nat → Bool → Cursor → List (Key × Node) × Close × Option Cursor
  | 0, _, c => ([], stuck .endOfObject .endOfObject c.mark, none)
  | fuel + 1, first, c =>
    match c.rest, first with
    | [], _ => ([], stuck .endOfObject .endOfObject c.mark, none)
    | '\x7d' :: _, _ => ([], .closed (c.mark + 1), some (c.advance 1))
    | ',' :: _, false =>
      let c := (c.advance 1).skipSpace
      match c.rest with
      | [] => ([], stuck .endOfValue .endOfObject c.mark, none)
      | '\x7d' :: _ => ([], stuck .trailingComma .keyNotString (c.mark + 1), none)
      | _ => memberThenMore fuel c
    | _, false => ([], stuck .noObjectComma .noObjectComma (c.mark + 1), none)
    | _, true => memberThenMore fuel c

/-- A member of an object and those behind it. -/
def memberThenMore : Nat → Cursor → List (Key × Node) × Close × Option Cursor
  | 0, c => ([], stuck .endOfObject .endOfObject c.mark, none)
  | fuel + 1, c =>
    match c.rest with
    | '"' :: _ =>
      match stringNode (c.advance 1) with
      | (.string text _ _, some after) =>
        let after := after.skipSpace
        let (node, behind) := memberValue fuel after
        let key : Key := ⟨text, after.mark⟩
        match behind with
        | some behind =>
          let (more, close, behind) := memberNodes fuel false behind.skipSpace
          ((key, node) :: more, close, behind)
        | none => ([(key, node)], stuck .endOfObject .endOfObject c.mark, none)
      | (.broken _ read skip, _) => ([], .broken read skip, none)
      | _ => ([], stuck .endOfObject .endOfObject c.mark, none)
    | _ => ([], stuck .keyNotString .keyNotString (c.mark + 1), none)

/-- The value of a member, behind a colon. -/
def memberValue : Nat → Cursor → Node × Option Cursor
  | 0, c => brokenAt c.mark (.here .endOfObject c.mark)
  | fuel + 1, c =>
    match c.rest with
    | ':' :: _ => valueNode fuel (c.advance 1).skipSpace
    | [] => brokenAt c.mark (.here .endOfObject c.mark)
    | _ => brokenAt c.mark (.here .noColon (c.mark + 1))

end

/-- A whole text: its value, and the fault of something that follows it. -/
structure Document where
  root : Node
  trailing : Option Fault

/-- The tree of a text. Every step but the fourth at most takes a character. -/
def Document.ofChars (text : List Char) : Document :=
  let (root, after) := valueNode (4 * text.length + 4) (Cursor.skipSpace ⟨0, text⟩)
  let trailing := after.bind fun c =>
    let c := c.skipSpace
    if c.rest.isEmpty then none else some (.here .trailing (c.mark + 1))
  ⟨root, trailing⟩

/-! ## Reading -/

/-- How many arrays and objects may stand in each other, plus one. -/
def depthLimit : Nat := 128

/-- The fault of a value at which too many arrays and objects are open. -/
def tooDeepAt (start : Mark) : Fault := .here .tooDeep (start + 1)

/-- Nothing, if an array or object is closed. -/
def Close.read : Close → Except Fault Unit
  | .closed _ => .ok ()
  | .broken read _ => .error read

mutual

/-- The value of a node, with so many more arrays and objects in each other. -/
def Node.read : Nat → Node → Except Fault Value
  | _, .null _ => .ok .null
  | _, .bool b _ => .ok (.bool b)
  | _, .number n _ _ => n.map .number
  | _, .string s _ _ => s.map .string
  | depth, .array start items close =>
    if depth ≤ 1 then .error (tooDeepAt start)
    else do
      let vs ← readItems (depth - 1) 0 items
      close.read
      return .array vs
  | depth, .object start members close =>
    if depth ≤ 1 then .error (tooDeepAt start)
    else do
      let ms ← readMembers (depth - 1) members
      close.read
      return .ofMembers ms
  | _, .broken _ read _ => .error read

/-- The values of items, counted from a number on. -/
def readItems : Nat → Nat → List Node → Except Fault (List Value)
  | _, _, [] => .ok []
  | depth, i, n :: ns => do
    let v ← (n.read depth).mapError (·.inside (.index i))
    let vs ← readItems depth (i + 1) ns
    return v :: vs

/-- The members in the order of the text. -/
def readMembers : Nat → List (Key × Node) → Except Fault (List (String × Value))
  | _, [] => .ok []
  | depth, (k, n) :: ms => do
    let key ← k.text
    let v ← (n.read depth).mapError (·.inside (.key key))
    let rest ← readMembers depth ms
    return (key, v) :: rest

end

/-! ## Skipping -/

/-- The fault of skipping the end of an array or object. -/
def Close.skipFault : Close → Option Fault
  | .closed _ => none
  | .broken _ skip => some skip

mutual

/-- The first fault of skipping a value. -/
def Node.skipFault : Node → Option Fault
  | .array _ items close => (itemsSkipFault items).or close.skipFault
  | .object _ members close => (membersSkipFault members).or close.skipFault
  | .broken _ _ skip => some skip
  | .null _ => none
  | .bool _ _ => none
  | .number _ _ _ => none
  | .string _ _ _ => none

/-- The first fault of skipping items. -/
def itemsSkipFault : List Node → Option Fault
  | [] => none
  | n :: ns => n.skipFault.or (itemsSkipFault ns)

/-- The first fault of skipping members. -/
def membersSkipFault : List (Key × Node) → Option Fault
  | [] => none
  | (_, n) :: ms => n.skipFault.or (membersSkipFault ms)

end

/-- The value that a text writes. -/
def Value.parse (text : String) : Except Fault Value := do
  let doc := Document.ofChars text.toList
  let v ← doc.root.read depthLimit
  match doc.trailing with
  | some f => .error f
  | none => .ok v

end QueryGateway.Json
