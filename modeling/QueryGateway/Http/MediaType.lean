import QueryGateway.Text

/-!
# Media types

`isJsonType` says whether the value of a `content-type` header names JSON: it is a media
type with all its parameters well formed, and its type is `application` with the
subtype `json` or the suffix `+json`. Letters count in either case.
-/

namespace QueryGateway.Http

open Text

/-- A character of the names and plain values of a media type. -/
def isTokenChar (c : Char) : Bool :=
  isAlnum c || ['!', '#', '$', '%', '&', '\'', '+', '-', '.', '^', '_', '\x60', '|', '~'].contains c

/-- A character of a value in quotes. -/
def isQuotedChar (c : Char) : Bool := ' ' ≤ c && c.toNat < 127

/-- A character of the value of a header: a tab, or none of the control characters of ASCII. -/
def isHeaderChar (c : Char) : Bool := c == '\t' || (' ' ≤ c && c.toNat != 127)

/-- Characters of a name with at least one of them. -/
def isToken (cs : List Char) : Bool := !cs.isEmpty && cs.all isTokenChar

/-- The parameters behind a semicolon are well formed: names, each with a plain value
or one in quotes. Each round takes a character at least. -/
def parametersFit : Nat → List Char → Bool
  | _, [] => true
  | 0, _ => false
  | fuel + 1, ' ' :: cs => parametersFit fuel cs
  | fuel + 1, cs =>
    match splitFirst '=' cs with
    | none => false
    | some (name, '"' :: quoted) =>
      match splitFirst '"' quoted with
      | some (value, rest) =>
        isToken name && !value.isEmpty && value.all isQuotedChar &&
          (match rest.dropWhile (· == ' ') with
          | [] => true
          | ';' :: rest => parametersFit fuel rest
          | _ => false)
      | none => false
    | some (name, plain) =>
      match splitFirst ';' plain with
      | some (value, rest) => isToken name && isToken value && parametersFit fuel rest
      | none => isToken name && plain.all isTokenChar

/-- A subtype without its suffix, and the suffix: what stands behind the last plus sign
that is not its first character. -/
def splitSuffix (subtype : List Char) : List Char × Option (List Char) :=
  match splitFirst '+' subtype.reverse with
  | some (suffix, front) =>
    if front.isEmpty then (subtype, none) else (front.reverse, some suffix.reverse)
  | none => (subtype, none)

/-- A type and a subtype name JSON. -/
def namesJson (type subtype : List Char) : Bool :=
  let (name, suffix) := splitSuffix (subtype.map lowerChar)
  type.map lowerChar == "application".toList &&
    (name == "json".toList || suffix == some "json".toList)

/-- The value of a header names JSON. -/
def isJsonType (value : String) : Bool :=
  match splitFirst '/' value.toList with
  | none => false
  | some (type, rest) =>
    isToken type &&
      match splitFirst ';' rest with
      | some (subtype, parameters) =>
        isToken subtype && parametersFit parameters.length parameters && namesJson type subtype
      | none => rest.all isTokenChar && namesJson type rest

end QueryGateway.Http
