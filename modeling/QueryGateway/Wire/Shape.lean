import QueryGateway.Json.Value
import QueryGateway.Moment

/-!
# Shapes

The forms of the JSON documents that clients send and get. A shape is a value of its
own, and `Shape.Data` is the type of the data of a shape, so one reader and one
writer serve every record.
-/

namespace QueryGateway.Wire

/-! ## Shapes -/

/-- When a field may be left out, besides as a member of an object where every field
that may be null also may be left out. -/
structure Presence where
  /-- It may be left out at the end of an array. -/
  trailing : Bool
  /-- It is not written if it is null. -/
  hidden : Bool
  deriving DecidableEq, Repr

mutual

/-- The form of a JSON value. -/
inductive Shape
  /-- An integer of 64 bits. -/
  | int
  | text
  | bool
  /-- A moment of universal time. -/
  | moment
  /-- Any JSON value. -/
  | any
  /-- Null or a value. -/
  | optional (s : Shape)
  | list (s : Shape)
  | record (name : String) (fields : Fields)

/-- The fields of a record in their order. -/
inductive Fields
  | nil
  | cons (key : String) (presence : Presence) (shape : Shape) (rest : Fields)

end

/-- A field of the usual kind in front of others. -/
def field (key : String) (shape : Shape) (rest : Fields) : Fields :=
  .cons key ⟨false, false⟩ shape rest

/-! ## Data -/

mutual

/-- The type of the data of a shape. -/
def Shape.Data : Shape → Type
  | .int => Int
  | .text => String
  | .bool => Bool
  | .moment => Moment
  | .any => Json.Value
  | .optional s => Option s.Data
  | .list s => List s.Data
  | .record _ fields => fields.Data

/-- The type of the data of fields. -/
def Fields.Data : Fields → Type
  | .nil => Unit
  | .cons _ _ shape rest => shape.Data × rest.Data

end

/-- How many fields there are. -/
def Fields.length : Fields → Nat
  | .nil => 0
  | .cons _ _ _ rest => rest.length + 1

/-- The data of a shape is null. -/
def Shape.isNull : (s : Shape) → s.Data → Bool
  | .optional _, x => x.isNone
  | .int, _ => false
  | .text, _ => false
  | .bool, _ => false
  | .moment, _ => false
  | .any, _ => false
  | .list _, _ => false
  | .record .., _ => false

/-! ## Writing -/

mutual

/-- Data as JSON. -/
def Shape.write : (s : Shape) → s.Data → Json.Value
  | .int, n => .int n
  | .text, s => .string s
  | .bool, b => .bool b
  | .moment, t => .string t.zuluText
  | .any, v => v
  | .optional s, x => match x with
    | none => .null
    | some d => s.write d
  | .list s, ds => .array (ds.map fun d => s.write d)
  | .record _ fields, d => .ofMembers (fields.write d)

/-- The members of fields. -/
def Fields.write : (fs : Fields) → fs.Data → List (String × Json.Value)
  | .nil, _ => []
  | .cons key presence shape rest, (d, ds) =>
    if presence.hidden && shape.isNull d then rest.write ds
    else (key, shape.write d) :: rest.write ds

end

end QueryGateway.Wire
