import QueryGateway.Proofs.Config.Sources

/-!
# Layers of settings

A setting comes from the environment, if it is one of the two that the environment sets, else from the
document, else it is the default, whether the document leaves out the key or the whole section. Main
statement: what is loaded are the layers in this order, for every document and however its file is named,
and it is refused exactly if the path of the catalog is blank or one of the times is zero, by the first
of these faults.
-/

namespace QueryGateway.Config

open Text Toml

/-! ## The document -/

/-- A section: its name, and its keys in their order. -/
structure Part where
  name : String
  keys : List String

def serverPart : Part := ⟨"server", ["bind", "cors_origins"]⟩
def catalogPart : Part := ⟨"catalog", ["sqlite_path"]⟩
def remotePart : Part := ⟨"upstream", ["connect_timeout_secs", "statement_timeout_secs"]⟩
def loggingPart : Part := ⟨"logging", ["filter"]⟩

/-- The members of a section, which has them by name or in the order of its keys. -/
def membersOf (keys : List String) : Value → Members
  | .table _ members => members
  | .list items | .tables items => keys.zip items
  | .scalar _ => []

/-- What the value of a section says for a key, if anything. -/
def within (part : Part) (v : Value) (key : String) : Option Value := ((membersOf part.keys v).lookup key).map Prod.snd

/-- What a document says for a key of a section, if anything. -/
def given (doc : Members) (part : Part) (key : String) : Option Value :=
  (doc.lookup part.name).bind fun v => within part v.2 key

/-- A value is a text. -/
def IsText (v : Value) (s : String) : Prop := v = .scalar (.string s)

/-- A value is a number of seconds. -/
def IsSeconds (v : Value) (n : Nat) : Prop := v = .scalar (.integer n)

/-- A value is a list of texts. -/
def AreTexts (v : Value) (ss : List String) : Prop :=
  ∃ items : List (Span × Value), (v = .list items ∨ v = .tables items) ∧
    items.map Prod.snd = ss.map fun s => .scalar (.string s)

/-- A setting is what the document says, or else the default. -/
def Settled {α : Type} (is : Value → α → Prop) (said : Option Value) (default x : α) : Prop :=
  match said with
  | some v => is v x
  | none => x = default

/-- A setting is the value of a variable, if that is set and not blank. -/
def Overridden (vars : Variables) (name : String) (x : String) (otherwise : Prop) : Prop :=
  (∃ v, vars name = some v ∧ ¬ IsBlank v ∧ x = v) ∨ (∀ v, vars name = some v → IsBlank v) ∧ otherwise

/-- Settings are the defaults, under a document, under the environment. -/
structure Merged (doc : Members) (vars : Variables) (c : Config) : Prop where
  bind : Overridden vars "DBQ_BIND" c.server.bind
    (Settled IsText (given doc serverPart "bind") "127.0.0.1:8000" c.server.bind)
  origins : Settled AreTexts (given doc serverPart "cors_origins") ["*"] c.server.corsOrigins
  path : Overridden vars "DBQ_SQLITE_PATH" c.catalog.sqlitePath
    (Settled IsText (given doc catalogPart "sqlite_path") "data/dbq-catalog.sqlite" c.catalog.sqlitePath)
  connect : Settled IsSeconds (given doc remotePart "connect_timeout_secs") 10 c.remote.connectSeconds
  statement : Settled IsSeconds (given doc remotePart "statement_timeout_secs") 30 c.remote.statementSeconds
  filter : Settled IsText (given doc loggingPart "filter") "info" c.logging.filter

/-! ## One merge -/

section Unique

variable {α : Type} {is : Value → α → Prop}

theorem Settled.unique (h : ∀ v x y, is v x → is v y → x = y) {said : Option Value} {default x y : α}
    (hx : Settled is said default x) (hy : Settled is said default y) : x = y := by
  cases said with
  | some v => exact h v x y hx hy
  | none => exact Eq.trans hx (Eq.symm hy)

theorem isText_unique (v : Value) (s t : String) (hs : IsText v s) (ht : IsText v t) : s = t := by
  cases hs.symm.trans ht
  rfl

theorem isSeconds_unique (v : Value) (m n : Nat) (hm : IsSeconds v m) (hn : IsSeconds v n) : m = n := by
  have same : Value.scalar (.integer m) = .scalar (.integer n) := hm.symm.trans hn
  exact Int.ofNat.inj (Scalar.integer.inj (Value.scalar.inj same))

theorem areTexts_unique (v : Value) (ss ts : List String) (hs : AreTexts v ss) (ht : AreTexts v ts) : ss = ts := by
  obtain ⟨xs, hv, hs⟩ := hs
  obtain ⟨ys, hv', ht⟩ := ht
  have same : xs = ys := by
    rcases hv with rfl | rfl <;> rcases hv' with hv' | hv' <;> cases hv' <;> rfl
  rw [same] at hs
  exact List.map_inj_right (fun s t h => Scalar.string.inj (Value.scalar.inj h)) |>.1 (hs.symm.trans ht)

theorem Overridden.unique {vars : Variables} {name x y : String} {p q : Prop} (hx : Overridden vars name x p)
    (hy : Overridden vars name y q) (h : p → q → x = y) : x = y := by
  rcases hx with ⟨v, set, full, rfl⟩ | ⟨unset, hp⟩
  · rcases hy with ⟨w, set', -, rfl⟩ | ⟨unset, -⟩
    · exact Option.some.inj (set.symm.trans set')
    · exact absurd (unset x set) full
  · rcases hy with ⟨w, set, full, -⟩ | ⟨-, hq⟩
    · exact absurd (unset w set) full
    · exact h hp hq

end Unique

variable {doc : Members} {vars vars' : Variables} {c d : Config}

/-- But for the two that it sets, settings do not depend on the environment. -/
theorem Merged.beside (hc : Merged doc vars c) (hd : Merged doc vars' d) :
    c.server.corsOrigins = d.server.corsOrigins ∧ c.remote = d.remote ∧ c.logging = d.logging := by
  have connect := hc.connect.unique isSeconds_unique hd.connect
  have statement := hc.statement.unique isSeconds_unique hd.statement
  have filter := hc.filter.unique isText_unique hd.filter
  refine ⟨hc.origins.unique areTexts_unique hd.origins, ?_, ?_⟩
  · exact congrArg₂ RemoteLimits.mk connect statement
  · exact congrArg LoggingConfig.mk filter

/-- The layers come to one configuration. -/
theorem Merged.unique (hc : Merged doc vars c) (hd : Merged doc vars d) : c = d := by
  obtain ⟨origins, remote, logging⟩ := hc.beside hd
  have bind := hc.bind.unique hd.bind (Settled.unique isText_unique)
  have path := hc.path.unique hd.path (Settled.unique isText_unique)
  have server : c.server = d.server := congrArg₂ ServerConfig.mk bind origins
  have catalog : c.catalog = d.catalog := congrArg CatalogConfig.mk path
  cases c
  cases d
  cases server
  cases catalog
  cases remote
  cases logging
  rfl

/-! ## Readers -/

/-- What a reader gives is what the value is. -/
def Gives {α : Type} (read : Read α) (is : Value → α → Prop) : Prop := ∀ span v x, read span v = .ok x → is v x

theorem wrongKind_ne_ok {α : Type} (expected : String) (span : Span) (v : Value) (x : α) :
    wrongKind expected span v ≠ .ok x := by
  unfold wrongKind
  dsimp only
  split
  any_goals split
  all_goals exact fun h => nomatch h

theorem readText_gives : Gives readText IsText := by
  intro span v s h
  unfold readText at h
  split at h
  · cases h
    rfl
  · exact absurd h (wrongKind_ne_ok _ _ _ _)

theorem readSeconds_gives : Gives readSeconds IsSeconds := by
  intro span v n h
  unfold readSeconds at h
  split at h
  · next m =>
    split at h
    · next bounds =>
      cases h
      have positive : 0 ≤ m := by
        simp only [Bool.and_eq_true, decide_eq_true_eq] at bounds
        exact bounds.1
      rw [IsSeconds, Int.toNat_of_nonneg positive]
    · split at h
      · cases h
      · exact absurd h (wrongKind_ne_ok _ _ _ _)
  · exact absurd h (wrongKind_ne_ok _ _ _ _)

theorem readTexts_gives : Gives readTexts AreTexts := by
  have all {items : List (Span × Value)} {ss : List String} (h : (items.mapM fun item => readText item.1 item.2) = .ok ss) :
      items.map Prod.snd = ss.map fun s => .scalar (.string s) :=
    map_of_mapM_eq_ok h fun item _ s hs => readText_gives item.1 item.2 s hs
  intro span v ss h
  unfold readTexts at h
  split at h
  · exact ⟨_, .inl rfl, all h⟩
  · exact ⟨_, .inr rfl, all h⟩
  · exact absurd h (wrongKind_ne_ok _ _ _ _)

theorem readRecord_ok {name : String} {keys : List String} {span : Span} {v : Value} {members : Members}
    (h : readRecord name keys span v = .ok members) : members = membersOf keys v := by
  unfold readRecord at h
  split at h
  · cases h
    rfl
  · cases h
    rfl
  · cases h
    rfl
  · cases h
    rfl
  · exact absurd h (wrongKind_ne_ok _ _ _ _)

theorem settled_of_readMember {α : Type} {read : Read α} {is : Value → α → Prop} (gives : Gives read is)
    {members : Members} {key : String} {default x : α} (h : readMember members key read default = .ok x) :
    Settled is ((members.lookup key).map Prod.snd) default x := by
  unfold readMember at h
  cases found : members.lookup key with
  | none =>
    rw [found] at h
    cases h
    rfl
  | some v =>
    rw [found] at h
    exact gives v.1 v.2 x h

/-- A field of a section is settled if reading the section settles it: where the section is left out, it
has the default that it has in the section. -/
theorem settled_of_section {ρ α : Type} {read : Read ρ} {is : Value → α → Prop} {key : String} {whole : ρ} (part : Part)
    (field : ρ → α) (gives : Gives read fun v r => Settled is (within part v key) (field whole) (field r))
    {r : ρ} (h : readMember doc part.name read whole = .ok r) : Settled is (given doc part key) (field whole) (field r) := by
  have settled := settled_of_readMember gives h
  unfold given
  cases found : doc.lookup part.name with
  | none =>
    rw [found] at settled
    exact congrArg field settled
  | some v =>
    rw [found] at settled
    exact settled

/-! ## Sections -/

theorem catalog_path : Gives CatalogConfig.read fun v r =>
    Settled IsText (within catalogPart v "sqlite_path") "data/dbq-catalog.sqlite" r.sqlitePath := by
  intro span v r h
  obtain ⟨members, record, h⟩ := bind_eq_ok h
  obtain ⟨path, hpath, h⟩ := bind_eq_ok h
  cases h
  cases readRecord_ok record
  exact settled_of_readMember readText_gives hpath

theorem logging_filter : Gives LoggingConfig.read fun v r =>
    Settled IsText (within loggingPart v "filter") "info" r.filter := by
  intro span v r h
  obtain ⟨members, record, h⟩ := bind_eq_ok h
  obtain ⟨filter, hfilter, h⟩ := bind_eq_ok h
  cases h
  cases readRecord_ok record
  exact settled_of_readMember readText_gives hfilter

theorem server_fields {span : Span} {v : Value} {r : ServerConfig} (h : ServerConfig.read span v = .ok r) :
    Settled IsText (within serverPart v "bind") "127.0.0.1:8000" r.bind ∧
      Settled AreTexts (within serverPart v "cors_origins") ["*"] r.corsOrigins := by
  obtain ⟨members, record, h⟩ := bind_eq_ok h
  obtain ⟨bind, hbind, h⟩ := bind_eq_ok h
  obtain ⟨origins, horigins, h⟩ := bind_eq_ok h
  cases h
  cases readRecord_ok record
  exact ⟨settled_of_readMember readText_gives hbind, settled_of_readMember readTexts_gives horigins⟩

theorem remote_fields {span : Span} {v : Value} {r : RemoteLimits} (h : RemoteLimits.read span v = .ok r) :
    Settled IsSeconds (within remotePart v "connect_timeout_secs") 10 r.connectSeconds ∧
      Settled IsSeconds (within remotePart v "statement_timeout_secs") 30 r.statementSeconds := by
  obtain ⟨members, record, h⟩ := bind_eq_ok h
  obtain ⟨connect, hconnect, h⟩ := bind_eq_ok h
  obtain ⟨statement, hstatement, h⟩ := bind_eq_ok h
  cases h
  cases readRecord_ok record
  exact ⟨settled_of_readMember readSeconds_gives hconnect, settled_of_readMember readSeconds_gives hstatement⟩

/-! ## The environment -/

theorem overridden_setting {name x : String} {p : String → Prop} (h : p x) :
    Overridden vars name ((setting? vars name).getD x) (p ((setting? vars name).getD x)) := by
  cases found : setting? vars name with
  | some v =>
    obtain ⟨set, full⟩ := setting_eq_some_iff.1 found
    exact .inl ⟨v, set, full, rfl⟩
  | none =>
    refine .inr ⟨fun v set => ?_, h⟩
    by_cases blank : IsBlank v
    · exact blank
    · cases found.symm.trans (setting_eq_some_iff.2 ⟨set, blank⟩)

/-- What a document is read as is its merge, once the environment wins over it. -/
theorem merged_of_ofMembers (h : ofMembers doc = .ok d) (vars : Variables) : Merged doc vars (d.override vars) := by
  obtain ⟨catalog, hcatalog, h⟩ := bind_eq_ok h
  obtain ⟨logging, hlogging, h⟩ := bind_eq_ok h
  obtain ⟨server, hserver, h⟩ := bind_eq_ok h
  obtain ⟨remote, hremote, h⟩ := bind_eq_ok h
  cases h
  have bind := settled_of_section serverPart ServerConfig.bind (fun _ _ _ h => (server_fields h).1) hserver
  have path := settled_of_section catalogPart CatalogConfig.sqlitePath catalog_path hcatalog
  exact {
    bind := overridden_setting bind
    origins := settled_of_section serverPart ServerConfig.corsOrigins (fun _ _ _ h => (server_fields h).2) hserver
    path := overridden_setting path
    connect := settled_of_section remotePart RemoteLimits.connectSeconds (fun _ _ _ h => (remote_fields h).1) hremote
    statement := settled_of_section remotePart RemoteLimits.statementSeconds (fun _ _ _ h => (remote_fields h).2) hremote
    filter := settled_of_section loggingPart LoggingConfig.filter logging_filter hlogging }

/-! ## Naming a file -/

/-- A path is asked for, or else the environment names it, or else it is `dbq.toml`. -/
inductive Names (vars : Variables) (path : String) : Option String → Prop
  | asked : Names vars path (some path)
  | environment (h : vars "DBQ_CONFIG" = some path) : Names vars path none
  | default (unset : vars "DBQ_CONFIG" = none) (h : path = "dbq.toml") : Names vars path none

/-- A text is that of the file that is named. -/
def Provides (asked : Option String) (vars : Variables) (files : String → File) (text : List Char) : Prop :=
  ∃ path, Names vars path asked ∧ files path = .bytes (utf8 text)

variable {asked : Option String} {files : String → File} {text : List Char} {path : String}

theorem load_of_names (h : Names vars path asked) (there : files path ≠ .absent) :
    load asked vars files = loadFrom (some path) vars files := by
  have unasked (named : defaultPath vars = path) : load none vars files = loadFrom (some path) vars files := by
    rw [load_unasked, named, Option.filter_some, if_pos (by simpa using there)]
  cases h with
  | asked => rfl
  | environment h => exact unasked (by rw [defaultPath, h]; rfl)
  | default unset h => exact unasked (by rw [defaultPath, unset, h]; rfl)

theorem load_of_provides (h : Provides asked vars files text) : ∃ path, load asked vars files =
    (ofToml text).mapError (.malformed path text) >>= fun d => validate (d.override vars) := by
  obtain ⟨path, names, content⟩ := h
  refine ⟨path, ?_⟩
  rw [load_of_names names (by rw [content]; exact nofun), loadFrom, readFrom, ofFile_utf8 content]

theorem load_of_parsed (h : Provides asked vars files text) (parsed : ofToml text = .ok d) :
    load asked vars files = validate (d.override vars) := by
  obtain ⟨path, loads⟩ := load_of_provides h
  simp only [loads, parsed, Except.mapError, bind, Except.bind]

/-- Where nothing is said against the text, it was read. -/
theorem parsed_of_load (h : Provides asked vars files text)
    (sound : ∀ path fault, load asked vars files ≠ .error (.malformed path text fault)) : ∃ d, ofToml text = .ok d := by
  obtain ⟨path, loads⟩ := load_of_provides h
  cases parsed : ofToml text with
  | ok d => exact ⟨d, rfl⟩
  | error fault =>
    rw [parsed] at loads
    exact absurd loads (sound path fault)

theorem merged_of_load (h : Provides asked vars files text) (loaded : load asked vars files = .ok c) :
    ∃ doc, Toml.parse text = .ok doc ∧ Merged doc vars c ∧ c.validate = .ok c := by
  obtain ⟨d, parsed⟩ := parsed_of_load h (by rw [loaded]; exact nofun)
  rw [load_of_parsed h parsed, validate_eq_ok_iff] at loaded
  obtain ⟨valid, rfl⟩ := loaded
  obtain ⟨doc, hdoc, members⟩ := bind_eq_ok parsed
  exact ⟨doc, hdoc, merged_of_ofMembers members vars, validate_eq_ok_iff.2 ⟨valid, rfl⟩⟩

/-! ## Validity -/

/-- A result is settings as they are, if they are valid, or else the first of their faults: a blank path
of the catalog, no time for a statement, no time to connect. -/
structure Checked (m : Config) (result : Except LoadError Config) : Prop where
  path : result = .error (.invalid .noSqlitePath) ↔ IsBlank m.catalog.sqlitePath
  statement : result = .error (.invalid .noStatementTime) ↔
    ¬ IsBlank m.catalog.sqlitePath ∧ m.remote.statementSeconds = 0
  connect : result = .error (.invalid .noConnectTime) ↔
    ¬ IsBlank m.catalog.sqlitePath ∧ m.remote.statementSeconds ≠ 0 ∧ m.remote.connectSeconds = 0
  valid : result = .ok m ↔
    ¬ IsBlank m.catalog.sqlitePath ∧ m.remote.statementSeconds ≠ 0 ∧ m.remote.connectSeconds ≠ 0

theorem checked_validate (m : Config) : Checked m m.validate := by
  have blank := isEmpty_trim_iff m.catalog.sqlitePath
  unfold validate invalid?
  by_cases path : IsBlank m.catalog.sqlitePath
  · rw [if_pos (blank.2 path)]
    constructor <;> simp [path]
  · rw [if_neg (mt blank.1 path)]
    by_cases statement : m.remote.statementSeconds = 0
    · rw [if_pos (by simpa using statement)]
      constructor <;> simp [path, statement]
    · rw [if_neg (by simpa using statement)]
      by_cases connect : m.remote.connectSeconds = 0
      · rw [if_pos (by simpa using connect)]
        constructor <;> simp [path, statement, connect]
      · rw [if_neg (by simpa using connect)]
        constructor <;> simp [path, statement, connect]

/-- (1) What is loaded of a document, however its file is named, is the defaults under the document under
the environment, its path of the catalog is not blank and its times are positive. (2) But for the address
and the path it is the same in any two environments. (3) A document that can be read is merged into one
configuration, and that is loaded or refused by the first of its faults. (4) A path in the environment
stands in for a blank one in the document. -/
theorem layers_merged :
    (∀ text asked vars files c, Provides asked vars files text → load asked vars files = .ok c →
      ∃ doc, Toml.parse text = .ok doc ∧ Merged doc vars c ∧ ¬ IsBlank c.catalog.sqlitePath ∧
        0 < c.remote.statementSeconds ∧ 0 < c.remote.connectSeconds) ∧
    (∀ text asked vars files asked' vars' files' c c', Provides asked vars files text →
      Provides asked' vars' files' text → load asked vars files = .ok c → load asked' vars' files' = .ok c' →
        c.server.corsOrigins = c'.server.corsOrigins ∧ c.remote = c'.remote ∧ c.logging = c'.logging) ∧
    (∀ text d, ofToml text = .ok d → ∃ doc, Toml.parse text = .ok doc ∧
      ∀ asked vars files, Provides asked vars files text →
        ∃ m, (∀ c, Merged doc vars c ↔ c = m) ∧ Checked m (load asked vars files)) ∧
    ∀ text asked vars files path, Provides asked vars files text → vars "DBQ_SQLITE_PATH" = some path →
      ¬ IsBlank path → load asked vars files ≠ .error (.invalid .noSqlitePath) := by
  refine ⟨fun text asked vars files c provides loaded => ?_,
    fun text asked vars files asked' vars' files' c c' provides provides' loaded loaded' => ?_,
    fun text d parsed => ?_, fun text asked vars files path provides set full refused => ?_⟩
  · obtain ⟨doc, parsed, merged, valid⟩ := merged_of_load provides loaded
    obtain ⟨path, statement, connect⟩ := (checked_validate c).valid.1 valid
    exact ⟨doc, parsed, merged, path, Nat.pos_of_ne_zero statement, Nat.pos_of_ne_zero connect⟩
  · obtain ⟨doc, parsed, merged, -⟩ := merged_of_load provides loaded
    obtain ⟨doc', parsed', merged', -⟩ := merged_of_load provides' loaded'
    cases parsed.symm.trans parsed'
    exact merged.beside merged'
  · obtain ⟨doc, hdoc, members⟩ := bind_eq_ok parsed
    refine ⟨doc, hdoc, fun asked vars files provides => ?_⟩
    have merged := merged_of_ofMembers members vars
    refine ⟨d.override vars, fun c => ⟨fun h => h.unique merged, fun h => h ▸ merged⟩, ?_⟩
    rw [load_of_parsed provides parsed]
    exact checked_validate _
  · obtain ⟨d, hd⟩ := parsed_of_load provides (by rw [refused]; exact nofun)
    rw [load_of_parsed provides hd, (checked_validate _).path, override_sqlitePath,
      setting_eq_some_iff.2 ⟨set, full⟩] at refused
    exact full refused

/-- A document with a blank path is refused for it, and is loaded where the environment has another
path; the times are those of the document and of the defaults. -/
theorem blank_path_stood_in_for :
    let text := "[catalog]\nsqlite_path = \" \"\n[upstream]\nconnect_timeout_secs = 5".toList
    let files := only "dbq.toml" (.bytes (utf8 text))
    let here := onlySet "DBQ_SQLITE_PATH" "x.db"
    let there := onlySet "DBQ_SQLITE_PATH" " y.db"
    let c : Config := { catalog := ⟨"x.db"⟩, remote := ⟨5, 30⟩ }
    let c' : Config := { catalog := ⟨" y.db"⟩, remote := ⟨5, 30⟩ }
    (load none here files = .ok c ∧ ∃ doc, Toml.parse text = .ok doc ∧ Merged doc here c) ∧
      (load (some "dbq.toml") there files = .ok c' ∧ c.remote = c'.remote) ∧
      (∃ doc m, Toml.parse text = .ok doc ∧ Merged doc (fun _ => none) m ∧ IsBlank m.catalog.sqlitePath) ∧
      load none here files ≠ .error (.invalid .noSqlitePath) := by
  intro text files here there c c'
  obtain ⟨merged, beside, checked, standsIn⟩ := layers_merged
  have provides : Provides none here files text := ⟨"dbq.toml", .default rfl rfl, rfl⟩
  have provides' : Provides (some "dbq.toml") there files text := ⟨"dbq.toml", .asked, rfl⟩
  have bare : Provides none (fun _ => none) files text := ⟨"dbq.toml", .default rfl rfl, rfl⟩
  have full : ¬ IsBlank "x.db" := fun blank => absurd (blank 'x' (by decide)) (by decide)
  have parsed : ofToml text = .ok { catalog := ⟨" "⟩, remote := ⟨5, 30⟩ } := by decide +kernel
  have loaded : load none here files = .ok c := by
    rw [load_of_parsed provides parsed]
    decide +kernel
  have loaded' : load (some "dbq.toml") there files = .ok c' := by
    rw [load_of_parsed provides' parsed]
    decide +kernel
  have refused : load none (fun _ => none) files = .error (.invalid .noSqlitePath) := by
    rw [load_of_parsed bare parsed]
    decide +kernel
  refine ⟨⟨loaded, ?_⟩, ⟨loaded', ?_⟩, ?_, ?_⟩
  · obtain ⟨doc, hdoc, layers, -⟩ := merged text none here files c provides loaded
    exact ⟨doc, hdoc, layers⟩
  · exact (beside text none here files (some "dbq.toml") there files c c' provides provides' loaded loaded').2.1
  · obtain ⟨doc, hdoc, each⟩ := checked text _ parsed
    obtain ⟨m, one, result⟩ := each none (fun _ => none) files bare
    exact ⟨doc, m, hdoc, (one m).2 rfl, result.path.1 refused⟩
  · exact standsIn text none here files "x.db" provides rfl full

end QueryGateway.Config
