import QueryGateway.Json.Node
import QueryGateway.Moment.Reading

/-!
# Cells

The cells of a result. The server sends every value as text; the type of its column
says which JSON value it becomes. Integers, doubles, truth values, JSON and moments
are converted, if the text is one. Every other text stays as it is, so nothing is
lost: exact decimals keep their digits, and what is no number stays readable.
-/

namespace QueryGateway.Postgres

open Text

/-- A text as it is. -/
def verbatim (text : String) : Json.Value := .string text

/-- A converted value, or else the text as it is. -/
def orVerbatim (text : String) : Option Json.Value → Json.Value
  | some v => v
  | none => verbatim text

/-- A truth value. -/
def boolCell : String → Option Json.Value
  | "t" => some (.bool true)
  | "f" => some (.bool false)
  | _ => none

/-- An integer of 64 bits. -/
def intCell (text : String) : Option Json.Value :=
  (int64? text.toList).map Json.Value.int

/-- A finite double. -/
def doubleCell (text : String) : Option Json.Value :=
  (Double.parse text).map fun x => .number (.double x)

/-- A JSON document. -/
def jsonCell (text : String) : Option Json.Value :=
  (Json.Value.parse text).toOption

/-- A moment without a zone, as the server writes it. -/
def timestampPattern : List Moment.Part :=
  Moment.datePattern ++ .space :: Moment.clockPattern

/-- A moment without a zone. -/
def timestampCell (text : String) : Option Json.Value :=
  ((Moment.readFields timestampPattern text).bind Moment.Fields.localMoment).toOption.map
    fun t => .string t.text

/-- A moment with a zone, in universal time. -/
def timestampZoneCell (text : String) : Option Json.Value :=
  ((Moment.readFields (timestampPattern ++ [.zone true true]) text).bind
    Moment.Fields.universal).toOption.map fun t => .string t.offsetText

/-- The value of a text of a type. -/
def cellValue (type text : String) : Json.Value :=
  orVerbatim text <|
    match type with
    | "BOOL" => boolCell text
    | "INT2" => intCell text
    | "INT4" => intCell text
    | "INT8" => intCell text
    | "OID" => intCell text
    | "FLOAT4" => doubleCell text
    | "FLOAT8" => doubleCell text
    | "JSON" => jsonCell text
    | "JSONB" => jsonCell text
    | "TIMESTAMP" => timestampCell text
    | "TIMESTAMPTZ" => timestampZoneCell text
    | _ => none

end QueryGateway.Postgres
