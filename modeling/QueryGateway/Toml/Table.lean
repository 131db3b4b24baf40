import QueryGateway.Toml.Scalar

/-!
# Tables of TOML

`Document.parse` reads a text as a table. Keys and values are read in the order of the
text, and each goes into the table that its header and its path name; a key that is
given twice is refused where it stands for the second time.

A table remembers how it came about, because that decides what may still be added to
it: a path of dots may not add to a table that has a header of its own, and nothing
may add to an inline table.
-/

namespace QueryGateway.Toml

open Text

/-- How a table came about. -/
inductive Origin
  /-- By a header of its own, or as the whole text. -/
  | header
  /-- By the header of a table inside of it. -/
  | outer
  /-- By a path of dots. -/
  | path
  | inline
  deriving DecidableEq, Repr

/-- A table made only by what lies inside of it. -/
def Origin.isImplicit : Origin → Bool
  | outer | path => true
  | header | inline => false

/-- A value with its stretch of the text. `tables` are those of headers in two
brackets. -/
inductive Value
  | scalar (s : Scalar)
  | list (items : List (Span × Value))
  | tables (items : List (Span × Value))
  | table (origin : Origin) (members : List (String × Span × Value))
  deriving Repr

/-- The members of a table. -/
abbrev Members := List (String × Span × Value)

/-- How messages name the kind of a value. -/
def Value.kind : Value → String
  | scalar (.string _) => "string"
  | scalar (.integer _) => "integer"
  | scalar (.float _) => "float"
  | scalar (.boolean _) => "boolean"
  | scalar .moment => "datetime"
  | list _ => "array"
  | tables _ => "array"
  | table .inline _ => "inline table"
  | table _ _ => "table"

/-- A key with its stretch of the text. -/
structure Key where
  name : String
  span : Span
  deriving DecidableEq, Repr

/-- A table that is being filled. -/
structure Table where
  origin : Origin
  members : Members
  deriving Repr

namespace Table

/-- A table as a value. -/
def value (t : Table) : Value := .table t.origin t.members

/-- The member of a name. -/
def find? (t : Table) (name : String) : Option (Span × Value) := t.members.lookup name

/-- A table with a member set; one that is new comes last. -/
def set (t : Table) (name : String) (v : Span × Value) : Table :=
  if t.members.any fun m => m.1 == name then
    { t with members := t.members.map fun m => if m.1 == name then (name, v) else m }
  else { t with members := t.members ++ [(name, v)] }

/-- A table without a member. -/
def erase (t : Table) (name : String) : Table :=
  { t with members := t.members.filter fun m => m.1 != name }

end Table

/-! ## Following a path -/

/-- A table with a change made to the table that a path leads to. `dotted` says that
the path is one of dots, and not one of a header. Tables that are missing on the way
are made. -/
def alter (dotted : Bool) (change : Table → Except Fault Table) :
    List Key → Table → Except Fault Table
  | [], t => change t
  | k :: ks, t => do
    match t.find? k.name with
    | none =>
      let inner ← alter dotted change ks ⟨if dotted then .path else .outer, []⟩
      .ok (t.set k.name (k.span, inner.value))
    | some (span, .table origin members) =>
      if origin == .inline then refuse (.notExtensible "inline table") k.span
      else if dotted && !origin.isImplicit then refuse .duplicateKey k.span
      else
        let inner ← alter dotted change ks ⟨origin, members⟩
        .ok (t.set k.name (span, inner.value))
    | some (span, .tables items) =>
      match items.getLast? with
      | some (last, .table origin members) =>
        let inner ← alter dotted change ks ⟨origin, members⟩
        .ok (t.set k.name (span, .tables (items.dropLast ++ [(last, inner.value)])))
      | _ => refuse (.notExtensible "array") k.span
    | some (_, v) => refuse (.notExtensible v.kind) k.span

/-- A table with a value added to the table that a path leads to. -/
def insert (path : List Key) (key : Key) (span : Span) (v : Value) (t : Table) :
    Except Fault Table :=
  let dotted := !path.isEmpty
  let add (parent : Table) : Except Fault Table :=
    if (parent.origin == .path) != dotted || (parent.find? key.name).isSome then
      refuse .duplicateKey key.span
    else .ok (parent.set key.name (span, v))
  alter dotted add path t

/-! ## Values -/

/-- The keys that words stand for, where the last one is apart. -/
def readKeys : List Word → Except Fault (List Key × Key)
  | [] => .ok ([], ⟨"", .at 0⟩)
  | [w] => do
    .ok ([], ⟨← readKey w, w.piece.span⟩)
  | w :: ws => do
    let name ← readKey w
    let (path, last) ← readKeys ws
    .ok (⟨name, w.piece.span⟩ :: path, last)

mutual

/-- Reads a value as it is written. -/
def Node.read : Node → Except Fault (Span × Value)
  | .scalar w => do
    .ok (w.piece.span, .scalar (← readScalar w))
  | .list items span => do
    .ok (span, .list (← readNodes items))
  | .table members span => do
    let t ← readInline members ⟨.inline, []⟩
    .ok (span, t.value)

/-- Reads values. -/
def readNodes : List Node → Except Fault (List (Span × Value))
  | [] => .ok []
  | n :: ns => do
    let v ← n.read
    let vs ← readNodes ns
    .ok (v :: vs)

/-- Reads the members of an inline table. -/
def readInline : List (List Word × Node) → Table → Except Fault Table
  | [], t => .ok t
  | (words, n) :: more, t => do
    let (path, key) ← readKeys words
    let (span, v) ← n.read
    readInline more (← insert path key span v t)

end

/-! ## Documents -/

/-- A header with its keys. -/
structure Heading where
  isList : Bool
  path : List Key
  key : Key
  span : Span
  deriving Repr

/-- A text while it is read: the whole table, and the table that is filled now with
its header. The first table is filled without one. -/
structure Reading where
  root : Table
  heading : Option Heading
  current : Table
  deriving Repr

/-- Puts the table that is filled now into its place. -/
def Reading.finish (r : Reading) : Except Fault Table :=
  match r.heading with
  | none => .ok r.current
  | some h =>
    let place (parent : Table) : Except Fault Table :=
      if h.isList then
        match parent.find? h.key.name with
        | none => .ok (parent.set h.key.name (h.span, .tables [(h.span, r.current.value)]))
        | some (span, .tables items) =>
          .ok (parent.set h.key.name (span, .tables (items ++ [(h.span, r.current.value)])))
        | some _ => refuse .duplicateKey h.key.span
      else .ok (parent.set h.key.name (h.span, r.current.value))
    alter false place h.path r.root

/-- The table that a path leads to. -/
def follow : List Key → Table → Option Table
  | [], t => some t
  | k :: ks, t =>
    match t.find? k.name with
    | some (_, .table origin members) => follow ks ⟨origin, members⟩
    | some (_, .tables items) =>
      match items.getLast? with
      | some (_, .table origin members) => follow ks ⟨origin, members⟩
      | _ => none
    | _ => none

/-- What a table holds at its header: what the headers of tables inside of it have put
there. A table that came about in another way may not have a header too. -/
def startTable (h : Heading) (root : Table) : Except Fault (Table × Table) := do
  if h.isList then .ok (root, ⟨.header, []⟩)
  else
    let check (parent : Table) : Except Fault Table :=
      match parent.find? h.key.name with
      | none | some (_, .table .outer _) => .ok parent
      | some _ => refuse .duplicateKey h.key.span
    let root ← alter false check h.path root
    let held := (follow (h.path ++ [h.key]) root).map (·.members)
    .ok (root, ⟨.header, held.getD []⟩)

/-- Reads a line. -/
def Reading.step (r : Reading) : Line → Except Fault Reading
  | .header h => do
    let root ← r.finish
    let (path, key) ← readKeys h.path
    let heading : Heading := ⟨h.isList, path, key, h.span⟩
    let (root, current) ← startTable heading root
    .ok ⟨root, some heading, current⟩
  | .assign words n => do
    let (path, key) ← readKeys words
    let (span, v) ← n.read
    .ok { r with current := ← insert path key span v r.current }

/-- Reads lines. -/
def Reading.run (r : Reading) : List Line → Except Fault Table
  | [] => r.finish
  | l :: ls => do
    (← r.step l).run ls

/-- Reads a text as a table. -/
def parse (text : List Char) : Except Fault Members := do
  let lines ← layout text
  let start : Table := ⟨.header, []⟩
  let whole ← Reading.run ⟨start, none, start⟩ lines
  .ok whole.members

end QueryGateway.Toml
