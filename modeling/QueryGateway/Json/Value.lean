import QueryGateway.Double

/-!
# JSON values

The values of JSON documents and their compact text. A number is an integer that
fits 64 bits, signed or not, or else a double. The members of an object are kept
in the order of their keys, each key once.
-/

namespace QueryGateway.Json

open Text

/-- A number of a JSON document. -/
inductive Number
  | int (n : Int)
  | double (x : Double)
  deriving DecidableEq, Repr

/-- A JSON value. -/
inductive Value
  | null
  | bool (b : Bool)
  | number (n : Number)
  | string (s : String)
  | array (items : List Value)
  | object (members : List (String × Value))
  deriving Repr

instance : Inhabited Value := ⟨.null⟩

/-! ## Objects -/

/-- Members with one set, in the order of their keys; an old value of the key is
replaced. -/
def insertMember {α : Type} (key : String) (v : α) : List (String × α) → List (String × α)
  | [] => [(key, v)]
  | (k, w) :: rest =>
    if key == k then (k, v) :: rest
    else if lt key k then (key, v) :: (k, w) :: rest
    else (k, w) :: insertMember key v rest

/-- Members in any order, put in the order of their keys; of two with one key the
later stays. -/
def sortMembers {α : Type} (members : List (String × α)) : List (String × α) :=
  members.foldl (fun sorted (k, v) => insertMember k v sorted) []

/-- The object with the given members. -/
def Value.ofMembers (members : List (String × Value)) : Value :=
  .object (sortMembers members)

/-- The member of an object with a key. -/
def Value.member? (key : String) : Value → Option Value
  | .object members => members.lookup key
  | _ => none

/-- An integer. -/
def Value.int (n : Int) : Value := .number (.int n)

/-! ## Text -/

/-- A character inside a string, escaped if it has to be. -/
def escapeChar (c : Char) : String :=
  match c with
  | '"' => "\\\""
  | '\\' => "\\\\"
  | '\x08' => "\\b"
  | '\x0c' => "\\f"
  | '\n' => "\\n"
  | '\r' => "\\r"
  | '\t' => "\\t"
  | c =>
    if c.toNat < 0x20 then
      "\\u00" ++ String.ofList [hexChar false (c.toNat / 16), hexChar false (c.toNat % 16)]
    else String.ofList [c]

/-- A text in quotes. -/
def quote (s : String) : String :=
  "\"" ++ String.join (s.toList.map escapeChar) ++ "\""

/-- The text of a number. -/
def Number.text : Number → String
  | int n => toString n
  | double x => x.text

mutual

/-- The text of a value without any space. -/
def Value.text : Value → String
  | .null => "null"
  | .bool b => if b then "true" else "false"
  | .number n => n.text
  | .string s => quote s
  | .array items => "[" ++ itemsText items ++ "]"
  | .object members => "\x7b" ++ membersText members ++ "\x7d"

/-- The text of the items of an array, with commas. -/
def itemsText : List Value → String
  | [] => ""
  | [v] => v.text
  | v :: w :: rest => v.text ++ "," ++ itemsText (w :: rest)

/-- The text of the members of an object, with commas. -/
def membersText : List (String × Value) → String
  | [] => ""
  | [(k, v)] => quote k ++ ":" ++ v.text
  | (k, v) :: m :: rest => quote k ++ ":" ++ v.text ++ "," ++ membersText (m :: rest)

end

end QueryGateway.Json
