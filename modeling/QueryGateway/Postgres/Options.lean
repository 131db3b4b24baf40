import QueryGateway.Error
import QueryGateway.Url
import QueryGateway.Text.Visible

/-!
# Connection options

What a connection URL says about a session with a database server, and what the
gateway adds to it: its own name, and settings that make the session read-only, bound
its statements and pin the text forms of values. The added settings stand behind all
that the URL sets, and of two settings of one name a server takes the last.
-/

namespace QueryGateway.Postgres

open Text

/-! ## Faults -/

/-- Why a text is no natural number of some width. -/
inductive NumberFault
  | empty
  | invalidDigit
  | tooLarge
  deriving DecidableEq, Repr

/-- The message of a number fault. -/
def NumberFault.message : NumberFault → String
  | empty => "cannot parse integer from empty string"
  | invalidDigit => "invalid digit found in string"
  | tooLarge => "number too large to fit in target type"

/-- Why the options of a URL are refused. -/
inductive OptionFault
  | sslMode (mode : String)
  | number (fault : NumberFault)
  | address
  | encoding (fault : Utf8Fault)
  deriving DecidableEq, Repr

/-- The message of an option fault. -/
def OptionFault.message (f : OptionFault) : String :=
  "error with configuration: " ++
    match f with
    | sslMode mode => "error with configuration: unknown value " ++ visible mode ++ " for `ssl_mode`"
    | number fault => fault.message
    | address => "invalid IP address syntax"
    | encoding fault => fault.message

/-! ## Values -/

/-- The number of digits, up to a greatest one. -/
def boundedDigits (most : Nat) : Nat → List Char → Except NumberFault Nat
  | n, [] => .ok n
  | n, c :: cs =>
    match digit? c with
    | none => .error .invalidDigit
    | some d => if n * 10 + d > most then .error .tooLarge else boundedDigits most (n * 10 + d) cs

/-- A natural number up to a greatest one, perhaps with a plus sign. -/
def boundedNumber (most : Nat) : List Char → Except NumberFault Nat
  | [] => .error .empty
  | ['+'] => .error .invalidDigit
  | '+' :: cs => boundedDigits most 0 cs
  | cs => boundedDigits most 0 cs

/-- An address of version 4 or 6. -/
def isAddress (cs : List Char) : Bool :=
  (Url.dottedGroups? cs).isSome || (Url.address6? cs).isSome

/-- How a session is encrypted. -/
def sslModes : List String := ["disable", "allow", "prefer", "require", "verify-ca", "verify-full"]

/-- Characters with escapes, where what is no text becomes replacement characters. -/
def decodeLossy : Nat → List Nat → List Char
  | 0, _ => []
  | fuel + 1, bytes =>
    match decodeUtf8 bytes with
    | .ok cs => cs
    | .error f =>
      (decodeUtf8 (bytes.take f.index)).toOption.getD [] ++ '\ufffd' ::
        match f.length with
        | some n => decodeLossy fuel (bytes.drop (f.index + n))
        | none => []

/-- A name or value of a query, where a plus sign is a blank. -/
def queryText (cs : List Char) : String :=
  let bytes := percentBytes (cs.map fun c => if c == '+' then ' ' else c)
  String.ofList (decodeLossy (bytes.length + 1) bytes)

/-- The names and values of a query. -/
def queryPairs (query : String) : List (String × String) :=
  let parts := (splitAll '&' query.toList).filter (!·.isEmpty)
  parts.map fun part =>
    match splitFirst '=' part with
    | some (name, value) => (queryText name, queryText value)
    | none => (queryText part, "")

/-! ## Options -/

/-- What a session is opened with. The settings are a text of their own, which the
server takes apart again. -/
structure Options where
  host : String
  portNumber : Nat
  user : Option String
  password : Option String
  database : Option String
  sslMode : String
  applicationName : Option String
  settings : Option String
  deriving DecidableEq, Repr

/-- The options of a URL that says nothing. -/
def Options.initial : Options :=
  ⟨"localhost", 5432, none, none, none, "prefer", none, none⟩

/-- Settings with a text behind them. -/
def addSettings (settings : Option String) (text : String) : String :=
  match settings with
  | some s => if s == "" then text else s ++ " " ++ text
  | none => text

/-- A character of a setting, escaped if it would end the setting. -/
def settingChar (c : Char) : List Char :=
  if c == '\\' || c == ' ' then ['\\', c] else [c]

/-- A setting as an argument of the server. -/
def settingText (name value : String) : String :=
  "-c " ++ String.ofList ((name ++ "=" ++ value).toList.flatMap settingChar)

/-- Options with one more setting. -/
def Options.set (o : Options) (name value : String) : Options :=
  { o with settings := some (addSettings o.settings (settingText name value)) }

/-- The name in `options[name]`. -/
def settingName? (key : String) : Option String :=
  match dropHead? "options[".toList key.toList with
  | some rest =>
    match rest.reverse with
    | ']' :: name => some (String.ofList name.reverse)
    | _ => none
  | none => none

/-- Options with what a name and value of the URL's query say. -/
def Options.apply (o : Options) (key value : String) : Except OptionFault Options :=
  match key with
  | "sslmode" => sslMode
  | "ssl-mode" => sslMode
  | "statement-cache-capacity" => (number maxWord64).map fun _ => o
  | "host" => .ok { o with host := value }
  | "hostaddr" => if isAddress value.toList then .ok { o with host := value } else .error .address
  | "port" => (number 65535).map fun n => { o with portNumber := n }
  | "dbname" => .ok { o with database := some value }
  | "user" => .ok { o with user := some value }
  | "password" => .ok { o with password := some value }
  | "application_name" => .ok { o with applicationName := some value }
  | "options" =>
    .ok { o with settings := some (match o.settings with | some s => s ++ " " ++ value | none => value) }
  | key =>
    match settingName? key with
    | some name => .ok (o.set name value)
    | none => .ok o
where
  /-- The options with the value as mode. -/
  sslMode : Except OptionFault Options :=
    if sslModes.contains (lower value) then .ok { o with sslMode := lower value }
    else .error (.sslMode value)
  /-- The value as a number. -/
  number (most : Nat) : Except OptionFault Nat :=
    (boundedNumber most value.toList).mapError .number

/-- A part of a URL without its escapes; an empty part is absent. -/
def urlPart (s : String) : Except OptionFault (Option String) :=
  if s == "" then .ok none
  else ((percentDecode s.toList).mapError .encoding).map fun cs => some (String.ofList cs)

/-- Options with the names and values of a query, one after the other. -/
def Options.applyAll : Options → List (String × String) → Except OptionFault Options
  | o, [] => .ok o
  | o, (key, value) :: rest => do
    let o ← o.apply key value
    o.applyAll rest

/-- The options that the parts of a URL in front of its query say. -/
def Options.ofAuthority (u : Url) : Except OptionFault Options := do
  let a := u.authority.getD ⟨"", "", "", none⟩
  let user ← urlPart a.username
  let password ← urlPart a.password
  let database ← urlPart (String.ofList (u.path.text.toList.dropWhile (· == '/')))
  let host ← match percentBytes a.host.toList with
    | [] => .ok Options.initial.host
    | 0x2F :: _ => (urlPart a.host).map fun h => h.getD ""
    | _ => .ok a.host
  return { Options.initial with host, portNumber := a.portNumber.getD 5432, user, password, database }

/-- The options that a URL says. -/
def Options.ofUrl (u : Url) : Except OptionFault Options := do
  let o ← Options.ofAuthority u
  o.applyAll (queryPairs (u.query.getD ""))

/-! ## What the gateway adds -/

/-- How long a server may take to answer, in seconds. -/
structure Limits where
  connect : Nat
  statement : Nat
  deriving DecidableEq, Repr

/-- The settings that every session gets, in their order. -/
def pinnedSettings (limits : Limits) : List (String × String) :=
  [("default_transaction_read_only", "on"),
   ("statement_timeout", toString (limits.statement * 1000)),
   ("DateStyle", "ISO"),
   ("TimeZone", "UTC"),
   ("IntervalStyle", "postgres"),
   ("extra_float_digits", "3")]

/-- The name the gateway gives itself. -/
def gatewayName : String := "dbq"

/-- Options with the name and the settings of the gateway. -/
def Options.pin (limits : Limits) (o : Options) : Options :=
  (pinnedSettings limits).foldl (fun o (name, value) => o.set name value)
    { o with applicationName := some gatewayName }

/-- The options of a session with the server of a URL. -/
def connectOptions (limits : Limits) (url : String) : Except RemoteError Options :=
  match Url.parse url with
  | none => .error (.unsupportedUrl (Url.redact url))
  | some u =>
    if u.scheme == "postgres" || u.scheme == "postgresql" then
      match Options.ofUrl u with
      | .ok o => .ok (o.pin limits)
      | .error f => .error (.unsupportedUrl f.message)
    else .error (.unsupportedUrl ("scheme '" ++ u.scheme ++ "' is not supported"))

/-- What the server is told at the start of a session. -/
def Options.startup (o : Options) : List (String × String) :=
  let part (name : String) (value : Option String) : List (String × String) :=
    match value with
    | some v => [(name, v)]
    | none => []
  part "user" o.user ++ part "database" o.database
    ++ part "application_name" o.applicationName ++ part "options" o.settings

end QueryGateway.Postgres
