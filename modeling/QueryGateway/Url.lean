import QueryGateway.Url.Host

/-!
# URLs

Absolute URLs as browsers read them: blanks around the text and line breaks in it do
not count, the schemes of the web have domains and paths that start with a slash,
and what may not stand in a part is escaped. A URL that is read and printed is in its
usual form.

`redact` is what messages and logs show instead of a connection's URL: the password
is replaced, and a text that is no URL is not shown at all.
-/

namespace QueryGateway

open Text

namespace Url

/-- What stands between the slashes and the path: credentials, host and its number. The
credentials are escaped, and absent ones are empty. -/
structure Authority where
  username : String
  password : String
  host : String
  portNumber : Option Nat
  deriving DecidableEq, Repr

/-- The path of a URL: a text of its own for a scheme without slashes, or segments
behind slashes. -/
inductive Path
  | opaquely (text : String)
  | segments (parts : List String)
  deriving DecidableEq, Repr

end Url

/-- A URL in its parts. -/
structure Url where
  scheme : String
  authority : Option Url.Authority
  path : Url.Path
  query : Option String
  fragment : Option String
  deriving DecidableEq, Repr

namespace Url

/-! ## Schemes -/

/-- What a scheme means for the other parts. -/
inductive Kind
  /-- A scheme of the web with the number its hosts usually listen on. -/
  | web (usual : Nat)
  | file
  | other
  deriving DecidableEq, Repr

/-- The kind of a scheme. -/
def kindOf (scheme : String) : Kind :=
  match scheme with
  | "http" => .web 80
  | "ws" => .web 80
  | "https" => .web 443
  | "wss" => .web 443
  | "ftp" => .web 21
  | "file" => .file
  | _ => .other

/-- A backslash is a slash. -/
def Kind.backslash : Kind → Bool
  | other => false
  | _ => true

/-- The number that hosts usually listen on. -/
def Kind.usualNumber : Kind → Option Nat
  | web p => some p
  | _ => none

/-- A character of a scheme behind the first. -/
def isSchemeChar (c : Char) : Bool := isAlnum c || c == '+' || c == '-' || c == '.'

/-- The scheme in lower case, and what follows the colon. -/
def splitScheme (cs : List Char) : Option (String × List Char) :=
  match cs with
  | c :: _ =>
    if isLetter c then
      match cs.dropWhile isSchemeChar with
      | ':' :: rest => some (String.ofList ((cs.takeWhile isSchemeChar).map lowerChar), rest)
      | _ => none
    else none
  | [] => none

/-! ## Escapes -/

/-- Characters that are escaped in a fragment. -/
def inFragment (c : Char) : Bool := isControl c || [' ', '"', '<', '>', '\x60'].contains c

/-- Characters that are escaped in a path. -/
def inPath (c : Char) : Bool := inFragment c || ['#', '?', '\x7b', '\x7d'].contains c

/-- Characters that are escaped in credentials. -/
def inUserinfo (c : Char) : Bool :=
  inPath c || ['/', ':', ';', '=', '@', '[', '\\', ']', '^', '|'].contains c

/-- Characters that are escaped in a query; on the web also the apostrophe. -/
def inQuery (kind : Kind) (c : Char) : Bool :=
  isControl c || [' ', '"', '#', '<', '>'].contains c || (kind.backslash && c == '\'')

/-- A text with escapes. -/
def escape (set : Char → Bool) (cs : List Char) : String :=
  String.ofList (percentEncode set cs)

/-! ## Authorities -/

/-- A character that ends the authority. -/
def endsAuthority (kind : Kind) (c : Char) : Bool :=
  c == '/' || c == '?' || c == '#' || (kind.backslash && c == '\\')

/-- What stands in front of the last occurrence of a character, and what follows
it. -/
def splitLast (sep : Char) (cs : List Char) : Option (List Char × List Char) :=
  (splitFirst sep cs.reverse).map fun (after, before) => (before.reverse, after.reverse)

/-- User name and password from the text in front of the at sign. -/
def credentials (cs : List Char) : String × String :=
  match splitFirst ':' cs with
  | some (user, password) => (escape inUserinfo user, escape inUserinfo password)
  | none => (escape inUserinfo cs, "")

/-- A host in front of a colon outside brackets, and what follows the host. -/
def splitHost : Bool → List Char → List Char × List Char
  | _, [] => ([], [])
  | inside, c :: cs =>
    if c == ':' && !inside then ([], c :: cs)
    else
      let inside := if c == '[' then true else if c == ']' then false else inside
      let (host, rest) := splitHost inside cs
      (c :: host, rest)

/-- The number behind the colon of a host, and what follows its digits. The usual
number of a scheme and no digits at all are no number. -/
def readPort (kind : Kind) (cs : List Char) : Option (Option Nat × List Char) :=
  let ds := cs.takeWhile isDigit
  let rest := cs.dropWhile isDigit
  let stops := match rest with
    | [] => true
    | c :: _ => c == '\\'
  match decimal? ds with
  | none => if stops then some (none, rest) else none
  | some n => if stops && n ≤ 65535 then some (if kind.usualNumber == some n then none else some n, rest) else none

/-- The host of a kind of scheme. -/
def readHost (kind : Kind) (cs : List Char) : Option String :=
  if kind.backslash then webHost? cs else opaqueHost? cs

/-- An authority from its text, and what is left of the text; `more` says whether
anything follows it. -/
def readAuthority (kind : Kind) (cs : List Char) (more : Bool) : Option (Authority × List Char) := do
  let (user, password, place) ← match splitLast '@' cs with
    | none => some ("", "", cs)
    | some ([], place) => if place.isEmpty && more then none else some ("", "", place)
    | some (info, place) => some ((credentials info).1, (credentials info).2, place)
  let (hostText, rest) := splitHost false place
  if hostText.isEmpty then
    if kind.backslash || !rest.isEmpty || user != "" || password != "" then none
    else some (⟨user, password, "", none⟩, [])
  else
    let host ← readHost kind hostText
    match rest with
    | ':' :: digits => do
      let (number, rest) ← readPort kind digits
      some (⟨user, password, host, number⟩, rest)
    | rest => some (⟨user, password, host, none⟩, rest)

/-! ## Paths -/

/-- A segment that stays where it is. -/
def isDot (segment : String) : Bool :=
  lower segment == "." || lower segment == "%2e"

/-- A segment that goes back. -/
def isDoubleDot (segment : String) : Bool :=
  [".." , ".%2e", "%2e.", "%2e%2e"].contains (lower segment)

/-- Segments put behind those in front, which are reversed. A dot or two at the end
leave an empty segment. -/
def resolve : List String → List String → List String
  | front, [] => front.reverse
  | front, s :: ss =>
    if isDoubleDot s then resolve (if ss.isEmpty then "" :: front.drop 1 else front.drop 1) ss
    else if isDot s then resolve (if ss.isEmpty then "" :: front else front) ss
    else resolve (s :: front) ss

/-- The segments of a path behind its first slash. -/
def readSegments (kind : Kind) (cs : List Char) : List String :=
  let slashed := if kind.backslash then cs.map fun c => if c == '\\' then '/' else c else cs
  resolve [] ((splitAll '/' slashed).map (escape inPath))

/-- A character that ends a path. -/
def endsPath (c : Char) : Bool := c == '?' || c == '#'

/-- Query and fragment behind a path. -/
def readTail (kind : Kind) (cs : List Char) : Option String × Option String :=
  let (front, fragment) := match splitFirst '#' cs with
    | some (front, fragment) => (front, some (escape inFragment fragment))
    | none => (cs, none)
  match front with
  | '?' :: query => (some (escape (inQuery kind) query), fragment)
  | _ => (none, fragment)

/-- A URL from its scheme, its authority and what follows them. `path` gives the path
of a text up to its end. -/
def withRest (kind : Kind) (scheme : String) (authority : Option Authority)
    (path : List Char → Path) (cs : List Char) : Url :=
  let (query, fragment) := readTail kind (cs.dropWhile (!endsPath ·))
  ⟨scheme, authority, path (cs.takeWhile (!endsPath ·)), query, fragment⟩

/-- The path of a web URL, which always starts with a slash. -/
def webPath (kind : Kind) (cs : List Char) : Path :=
  match cs with
  | '/' :: rest => .segments (readSegments kind rest)
  | '\\' :: rest => .segments (readSegments kind rest)
  | rest => .segments (readSegments kind rest)

/-- The path behind the authority of any other URL, which may be absent. -/
def otherPath (kind : Kind) (cs : List Char) : Path :=
  match cs with
  | [] => .segments []
  | '/' :: rest => .segments (readSegments kind rest)
  | rest => .segments (readSegments kind rest)

/-! ## Reading -/

/-- A URL behind the slashes of its authority. -/
def readBehindSlashes (kind : Kind) (scheme : String) (cs : List Char) : Option Url := do
  let text := cs.takeWhile (!endsAuthority kind ·)
  let rest := cs.dropWhile (!endsAuthority kind ·)
  let (authority, left) ← readAuthority kind text (!rest.isEmpty)
  let path := if kind.backslash then webPath kind else otherPath kind
  some (withRest kind scheme (some authority) path (left ++ rest))

/-- A slash of a scheme of the web. -/
def isSlash (c : Char) : Bool := c == '/' || c == '\\'

/-- The path of a file, without empty segments in front. -/
def filePath (cs : List Char) : Path :=
  let cs := match cs with
    | c :: rest => if isSlash c then rest else cs
    | [] => []
  match (readSegments .file cs).dropWhile (· == "") with
  | [] => .segments [""]
  | parts => .segments parts

/-- A host of a file; the own one is left out. -/
def fileHost (cs : List Char) : Option String :=
  if cs.isEmpty then some ""
  else (webHost? cs).map fun h => if h == "localhost" then "" else h

/-- The URL of a file. -/
def readFile (cs : List Char) : Option Url := do
  let (host, rest) ← match cs with
    | a :: b :: rest =>
      if isSlash a && isSlash b then do
        let host ← fileHost (rest.takeWhile (!endsAuthority .file ·))
        some (host, rest.dropWhile (!endsAuthority .file ·))
      else some ("", cs)
    | _ => some ("", cs)
  some (withRest .file "file" (some ⟨"", "", host, none⟩) filePath rest)

/-- The characters that count: without blanks and controls at the ends, and without
tabulators and line breaks. -/
def significant (s : String) : List Char :=
  let isEdge (c : Char) : Bool := c.toNat ≤ 0x20
  let inner := (s.toList.dropWhile isEdge).reverse.dropWhile isEdge
  inner.reverse.filter fun c => c != '\t' && c != '\n' && c != '\x0d'

/-- The URL that a text is. -/
def parse (s : String) : Option Url := do
  let (scheme, rest) ← splitScheme (significant s)
  match kindOf scheme with
  | .web usual => readBehindSlashes (.web usual) scheme (rest.dropWhile isSlash)
  | .file => readFile rest
  | .other =>
    match rest with
    | '/' :: '/' :: rest => readBehindSlashes .other scheme rest
    | '/' :: rest => some (withRest .other scheme none (fun cs => .segments (readSegments .other cs)) rest)
    | rest => some (withRest .other scheme none (fun cs => .opaquely (escape isControl cs)) rest)

/-! ## Printing -/

/-- The credentials in front of the host. -/
def Authority.userinfo (a : Authority) : String :=
  if a.username == "" && a.password == "" then ""
  else a.username ++ (if a.password == "" then "" else ":" ++ a.password) ++ "@"

/-- The text of an authority. -/
def Authority.text (a : Authority) : String :=
  a.userinfo ++ a.host ++ (match a.portNumber with | some p => ":" ++ toString p | none => "")

/-- The text of a path. -/
def Path.text : Path → String
  | .opaquely text => text
  | .segments parts => String.join (parts.map ("/" ++ ·))

/-- The text of the part in front of a path, which a path that starts with two
slashes is kept apart from. -/
def frontText (authority : Option Authority) (path : Path) : String :=
  match authority, path with
  | some a, _ => "//" ++ a.text
  | none, .segments ("" :: _ :: _) => "/."
  | none, _ => ""

/-- The text of a URL. -/
def text (u : Url) : String :=
  u.scheme ++ ":" ++ frontText u.authority u.path ++ u.path.text
    ++ (match u.query with | some q => "?" ++ q | none => "")
    ++ (match u.fragment with | some f => "#" ++ f | none => "")

/-! ## Redaction -/

/-- What is shown for a text that is no URL. -/
def unparseable : String := "<unparseable url>"

/-- An authority with its password hidden. -/
def Authority.redact (a : Authority) : Authority :=
  if a.password == "" then a else { a with password := "***" }

/-- What is shown for a text that may be a URL with a password. -/
def redact (s : String) : String :=
  match parse s with
  | some u => { u with authority := u.authority.map Authority.redact }.text
  | none => unparseable

end Url

end QueryGateway
