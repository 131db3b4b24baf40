import QueryGateway.Toml.Token

/-!
# The layout of a TOML text

`layout` arranges the tokens of a text as lines: headers of tables, and keys with
values. It says which token stands where it cannot stand, and looks into no token
but comments and line breaks. Where a key or a scalar value is left out, an empty
one stands in for it, to be refused when it is read.

A text ends behind its last token, so that readers take the byte `finish` of that end
and treat no tokens as the end of the text.
-/

namespace QueryGateway.Toml

open Text

/-- A word of a text: a key, or a scalar value. `quote` is absent if it has none. -/
structure Word where
  quote : Option Quote
  piece : Piece
  deriving DecidableEq, Repr

/-- An empty word, for one left out. -/
def Word.missing (start : Nat) : Word := ⟨none, start, []⟩

/-- A value as it is written. -/
inductive Node
  | scalar (word : Word)
  | list (items : List Node) (span : Span)
  | table (members : List (List Word × Node)) (span : Span)
  deriving Repr

/-- The head of a table: `[path]`, or `[[path]]` for the next table of a list. -/
structure Header where
  isList : Bool
  path : List Word
  span : Span
  deriving Repr

/-- A line that says something. -/
inductive Line
  | header (h : Header)
  | assign (path : List Word) (value : Node)
  deriving Repr

/-- How deep values may be nested. -/
def depthLimit : Nat := 80

/-! ## Reading tokens -/

/-- The byte in front of the next token. -/
def place (finish : Nat) : List Token → Nat
  | t :: _ => t.piece.start
  | [] => finish

/-- A refusal. -/
def refuse {α : Type} (cause : Cause) (span : Span) : Except Fault α := .error ⟨cause, span⟩

/-- A refusal at a place. -/
def refuseAt {α : Type} (cause : Cause) (place : Nat) : Except Fault α := refuse cause (.at place)

/-- The next token and what follows it, if it is of a kind. -/
def take? (kind : TokenKind) : List Token → Option (Piece × List Token)
  | t :: ts => if t.kind == kind then some (t.piece, ts) else none
  | [] => none

/-- The tokens without a blank in front. -/
def skipBlank (ts : List Token) : List Token :=
  ((take? .blank ts).map (·.2)).getD ts

/-- A line break has its second character. -/
def checkLineEnd (p : Piece) : Except Fault Unit :=
  if p.text == ['\r'] then refuseAt .loneReturn p.stop else .ok ()

/-- A character that may stand in a comment. -/
def isCommentChar (c : Char) : Bool :=
  c == '\t' || (' ' ≤ c && c != '\x7f')

/-- A comment has no control characters. -/
def checkComment (p : Piece) : Except Fault Unit :=
  match p.text.dropWhile isCommentChar with
  | [] => .ok ()
  | rest => refuseAt .badComment (p.before rest)

/-- Checks a comment or a line break. -/
def checkToken (t : Token) : Except Fault Unit :=
  match t.kind with
  | .comment => checkComment t.piece
  | .lineEnd => checkLineEnd t.piece
  | _ => .ok ()

/-- What follows this line, whatever it holds. -/
def skipLine : List Token → Except Fault (List Token)
  | [] => .ok []
  | t :: ts => do
    checkToken t
    if t.kind == .lineEnd then .ok ts else skipLine ts

/-- What follows a line of which only a comment may be left. -/
def endLine : List Token → Except Fault (List Token)
  | [] => .ok []
  | t :: ts => do
    match t.kind with
    | .blank => endLine ts
    | .comment => checkComment t.piece; endLine ts
    | .lineEnd => checkLineEnd t.piece; .ok ts
    | _ => refuseAt .strayText t.piece.start

/-! ## Keys -/

/-- A word, if a token is one. -/
def Token.word? (t : Token) : Option Word :=
  match t.kind with
  | .quoted q => some ⟨some q, t.piece⟩
  | .plain => some ⟨none, t.piece⟩
  | _ => none

/-- Reads the parts of a key. `due` says that a part has to come now. The answer says
whether a part stands where the last one has to be. -/
def readPath (finish : Nat) : Bool → List Token → List Word × Bool × List Token
  | due, [] => (if due then [.missing finish] else [], !due, [])
  | due, t :: ts =>
    match t.kind, due, t.word? with
    | .blank, _, _ => readPath finish due ts
    | .dot, true, _ =>
      let (path, whole, rest) := readPath finish true ts
      (.missing t.piece.start :: path, whole, rest)
    | .dot, false, _ => readPath finish true ts
    | _, true, some w =>
      let (path, whole, rest) := readPath finish false ts
      (w :: path, whole, rest)
    | _, true, none => ([.missing t.piece.start], false, t :: ts)
    | _, false, _ => ([], true, t :: ts)

/-! ## Values -/

/-- Takes the tokens that continue a plain value: dots, plain tokens, and a plain
token behind a blank. -/
def joinPlain (text : List Char) : List Token → List Char × List Token
  | s :: t :: ts =>
    if s.kind == .dot || s.kind == .plain then joinPlain (text ++ s.piece.text) (t :: ts)
    else if s.kind == .blank && t.kind == .plain then
      joinPlain (text ++ s.piece.text ++ t.piece.text) ts
    else (text, s :: t :: ts)
  | [s] => if s.kind == .dot || s.kind == .plain then (text ++ s.piece.text, []) else (text, [s])
  | [] => (text, [])

/-- The scalar value that a token starts; `none` if it starts none. -/
def readScalar? (t : Token) (ts : List Token) : Option (Node × List Token) :=
  match t.kind with
  | .quoted q => some (.scalar ⟨some q, t.piece⟩, ts)
  | .plain | .dot =>
    let (text, rest) := joinPlain t.piece.text ts
    some (.scalar ⟨none, t.piece.start, text⟩, rest)
  | _ => none

/-- What comes next in an inline table. -/
inductive Due
  | key
  | equals (path : List Word)
  | value (path : List Word)
  | comma
  deriving Repr

/-- How messages name what comes next. -/
def Due.name : Due → String
  | key => "key"
  | equals _ => "`=`"
  | value _ => "value"
  | comma => "`,`"

mutual

/-- Reads the value behind an equals sign. The answer says whether there is one. -/
def readValue (finish : Nat) : Nat → Nat → List Token → Except Fault (Node × Bool × List Token)
  | 0, _, ts => refuseAt .tooDeep (place finish ts)
  | _ + 1, _, [] => .ok (.scalar (.missing finish), false, [])
  | fuel + 1, depth, t :: ts =>
    match t.kind with
    | .equals => refuse .secondAssignment t.piece.span
    | .closeTable => refuseAt .noInlineOpening t.piece.start
    | .closeList => refuseAt .noListOpening t.piece.start
    | .openList | .openTable => do
      let (v, rest) ← readGroup finish fuel depth t ts
      .ok (v, true, rest)
    | _ =>
      match readScalar? t ts with
      | some (v, rest) => .ok (v, true, rest)
      | none => .ok (.scalar (.missing t.piece.start), false, t :: ts)

/-- Reads the list or the inline table that a token opens. -/
def readGroup (finish : Nat) : Nat → Nat → Token → List Token → Except Fault (Node × List Token)
  | 0, _, t, _ => refuse .tooDeep t.piece.span
  | _ + 1, 0, t, _ => refuse .tooDeep t.piece.span
  | fuel + 1, depth + 1, t, ts => do
    if t.kind == .openList then
      let (items, stop, rest) ← readItems finish fuel depth true ts
      .ok (.list items ⟨t.piece.start, stop⟩, rest)
    else
      let (members, stop, rest) ← readMembers finish fuel depth .key ts
      .ok (.table members ⟨t.piece.start, stop⟩, rest)

/-- Reads the items of a list and its closing bracket, and gives the byte behind that.
`due` says that an item may come now. -/
def readItems (finish : Nat) :
    Nat → Nat → Bool → List Token → Except Fault (List Node × Nat × List Token)
  | 0, _, _, ts => refuseAt .tooDeep (place finish ts)
  | _ + 1, _, _, [] => refuseAt .unclosedList finish
  | fuel + 1, depth, due, t :: ts => do
    let separated : Except Fault Unit :=
      if due then .ok () else refuseAt .noListComma t.piece.start
    match t.kind with
    | .blank | .comment | .lineEnd =>
      checkToken t
      readItems finish fuel depth due ts
    | .comma =>
      if due then refuse .extraListComma t.piece.span else readItems finish fuel depth true ts
    | .equals => refuse .assignmentInList t.piece.span
    | .closeList => .ok ([], t.piece.stop, ts)
    | .closeTable =>
      separated
      refuseAt .noInlineOpening t.piece.start
    | .openList | .openTable =>
      separated
      let (v, rest) ← readGroup finish fuel depth t ts
      let (items, stop, rest) ← readItems finish fuel depth false rest
      .ok (v :: items, stop, rest)
    | .dot | .plain | .quoted _ =>
      separated
      match readScalar? t ts with
      | some (v, rest) =>
        let (items, stop, rest) ← readItems finish fuel depth false rest
        .ok (v :: items, stop, rest)
      | none => readItems finish fuel depth due ts

/-- Reads the members of an inline table and its closing brace, and gives the byte
behind that. -/
def readMembers (finish : Nat) :
    Nat → Nat → Due → List Token → Except Fault (List (List Word × Node) × Nat × List Token)
  | 0, _, _, ts => refuseAt .tooDeep (place finish ts)
  | _ + 1, _, _, [] => refuseAt .unclosedInline finish
  | fuel + 1, depth, due, t :: ts => do
    match t.kind with
    | .blank | .comment | .lineEnd =>
      checkToken t
      readMembers finish fuel depth due ts
    | .comma =>
      match due with
      | .comma => readMembers finish fuel depth .key ts
      | due => refuseAt (.extraInlineComma due.name) t.piece.start
    | .equals =>
      match due with
      | .key => readMembers finish fuel depth (.value [.missing t.piece.start]) ts
      | .equals path => readMembers finish fuel depth (.value path) ts
      | due => refuseAt (.extraInlineAssignment due.name) t.piece.start
    | .closeTable =>
      match due with
      | .equals _ => refuseAt .noInlineAssignment t.piece.start
      | .value path => .ok ([(path, .scalar (.missing t.piece.start))], t.piece.stop, ts)
      | _ => .ok ([], t.piece.stop, ts)
    | .closeList =>
      match due with
      | .equals _ => refuseAt .noInlineAssignment t.piece.start
      | .value _ => refuseAt .noListOpening t.piece.start
      | due => refuseAt (.noInlineKey due.name) t.piece.start
    | .openList | .openTable =>
      match due with
      | .equals _ => refuseAt .noInlineAssignment t.piece.start
      | .value path =>
        let (v, rest) ← readGroup finish fuel depth t ts
        let (members, stop, rest) ← readMembers finish fuel depth .comma rest
        .ok ((path, v) :: members, stop, rest)
      | due => refuseAt (.noInlineKey due.name) t.piece.start
    | .dot | .plain | .quoted _ =>
      match due, readScalar? t ts with
      | .key, _ =>
        let (path, _, rest) := readPath finish true (t :: ts)
        readMembers finish fuel depth (.equals path) rest
      | .equals _, _ => refuseAt .noInlineAssignment t.piece.start
      | .value path, some (v, rest) =>
        let (members, stop, rest) ← readMembers finish fuel depth .comma rest
        .ok ((path, v) :: members, stop, rest)
      | _, _ => refuseAt .noInlineComma t.piece.start

end

/-! ## Lines -/

/-- The byte behind the last token in front of others that is no blank. -/
def stopBefore (front rest : List Token) : Nat :=
  let between := front.take (front.length - rest.length)
  match between.reverse.find? fun t => t.kind != .blank with
  | some t => t.piece.stop
  | none => 0

/-- Reads a header behind its first bracket. -/
def readHeader (finish : Nat) (opening : Piece) (ts : List Token) :
    Except Fault (Header × List Token) := do
  let second := take? .openList ts
  let isList := second.isSome
  let ts := (second.map (·.2)).getD ts
  let (path, whole, rest) := readPath finish true ts
  let header (stop : Nat) : Header := ⟨isList, path, opening.start, stop⟩
  match take? .closeList rest, isList with
  | some (closing, rest), false => .ok (header closing.stop, ← endLine rest)
  | some (closing, rest), true =>
    match take? .closeList rest with
    | some (closing, rest) => .ok (header closing.stop, ← endLine rest)
    | none => refuseAt (.unclosedListHeader "]") closing.stop
  | none, _ =>
    if whole then
      refuseAt (if isList then .unclosedListHeader "]]" else .unclosedHeader) (stopBefore ts rest)
    else .ok (header (place finish rest), ← skipLine rest)

/-- Reads a key and its value. -/
def readAssign (finish : Nat) (absent : Cause) (ts : List Token) :
    Except Fault (Line × List Token) := do
  let (path, _, rest) := readPath finish true ts
  match take? .equals rest with
  | some (_, rest) =>
    let rest := skipBlank rest
    let (v, present, rest) ← readValue finish (2 * rest.length + 2) depthLimit rest
    let rest ← if present then endLine rest else skipLine rest
    .ok (.assign path v, rest)
  | none => refuseAt absent (place finish rest)

/-- Reads the lines of a text. Each round takes a token at least. -/
def readLines (finish : Nat) : Nat → List Token → Except Fault (List Line)
  | fuel + 1, t :: ts => do
    match t.kind with
    | .blank | .comment | .lineEnd =>
      checkToken t
      readLines finish fuel ts
    | .openList =>
      let (h, rest) ← readHeader finish t.piece ts
      .ok (.header h :: (← readLines finish fuel rest))
    | .closeList => refuseAt .noHeaderOpening t.piece.start
    | .comma | .openTable | .closeTable => refuseAt .noKey t.piece.start
    | kind =>
      let absent := if kind == .dot then Cause.pathWithoutValue else Cause.keyWithoutValue
      let (line, rest) ← readAssign finish absent (t :: ts)
      .ok (line :: (← readLines finish fuel rest))
  | _, _ => .ok []

/-- The lines of a text. -/
def layout (text : List Char) : Except Fault (List Line) :=
  let ts := tokens text
  readLines (utf8Length text) ts.length ts

end QueryGateway.Toml
