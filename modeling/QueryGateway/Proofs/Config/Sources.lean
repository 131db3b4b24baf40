import Mathlib.Tactic.Push
import QueryGateway.Config
import QueryGateway.Proofs.Outcome
import QueryGateway.Proofs.Text.Trimming
import QueryGateway.Proofs.Text.Utf8

/-!
# Which file the settings come from

A path that is asked for is read. Without one, so the documentation, the file that the environment names
is looked at and then `dbq.toml`, and the defaults hold if neither is there. Main statement: this is what
happens exactly unless the environment names a path where nothing is and there is a `dbq.toml` that does
not come to the defaults. That file is not looked at. A file that is chosen and broken is an error in
every case.
-/

namespace QueryGateway.Config

open Text

variable {asked : Option String} {vars : Variables} {files : String → File} {path : String}

/-! ## What the documentation says -/

/-- The path that is asked for, or else the first of the one that the environment names and `dbq.toml`
where anything is. -/
def documentedPath (asked : Option String) (vars : Variables) (files : String → File) : Option String :=
  asked.or (((vars "DBQ_CONFIG").toList ++ ["dbq.toml"]).find? fun path => files path != .absent)

/-- The settings of a file, or else the defaults. -/
def readFrom (files : String → File) : Option String → Except LoadError Config
  | some path => ofFile files path
  | none => .ok {}

/-- What they come to in an environment. -/
def loadFrom (path? : Option String) (vars : Variables) (files : String → File) : Except LoadError Config := do
  let c ← readFrom files path?
  validate (c.override vars)

/-- No path is asked for, the environment names one where nothing is, and there is a `dbq.toml`. -/
structure Overlooks (asked : Option String) (vars : Variables) (files : String → File) : Prop where
  unasked : asked = none
  named : ∃ path, vars "DBQ_CONFIG" = some path ∧ files path = .absent
  there : files "dbq.toml" ≠ .absent

/-- A file that is overlooked matters: it is broken, or its settings are not the defaults. -/
def Matters (vars : Variables) (files : String → File) : Prop :=
  ∀ c, ofFile files "dbq.toml" = .ok c → c.override vars ≠ ({} : Config).override vars

/-- What is at a path cannot be read or makes no settings, and the error says which. -/
inductive Broken (path : String) : File → LoadError → Prop
  | absent : Broken path .absent (.unreadable path .absent)
  | directory : Broken path .directory (.unreadable path .directory)
  | denied : Broken path .denied (.unreadable path .denied)
  | notText {content : List Nat} (h : ∀ text, utf8 text ≠ content) : Broken path (.bytes content) (.unreadable path .notText)
  | malformed {text : List Char} {fault : Toml.Fault} (h : ofToml text = .error fault) :
    Broken path (.bytes (utf8 text)) (.malformed path text fault)

/-! ## Files -/

theorem text_utf8 (text : List Char) : (File.bytes (utf8 text)).text = .ok text := by
  have decoded : decodeUtf8 (utf8 text) = .ok text := decodeUtf8_eq_ok_iff.2 rfl
  simp only [File.text, decoded]

theorem text_notText {content : List Nat} (h : ∀ text, utf8 text ≠ content) :
    (File.bytes content).text = .error .notText := by
  cases decoded : decodeUtf8 content with
  | error fault => simp only [File.text, decoded]
  | ok text => exact absurd (decodeUtf8_eq_ok_iff.1 decoded) (h text)

theorem ofFile_utf8 {text : List Char} (h : files path = .bytes (utf8 text)) :
    ofFile files path = (ofToml text).mapError (.malformed path text) := by
  simp only [ofFile, h, text_utf8]
  cases ofToml text <;> rfl

theorem ofFile_unreadable {fault : ReadFault} (h : (files path).text = .error fault) :
    ofFile files path = .error (.unreadable path fault) := by
  unfold ofFile
  rw [h]

theorem Broken.ofFile {e : LoadError} (h : Broken path (files path) e) : ofFile files path = .error e := by
  generalize content : files path = file at h
  cases h with
  | absent => exact ofFile_unreadable (by rw [content]; rfl)
  | directory => exact ofFile_unreadable (by rw [content]; rfl)
  | denied => exact ofFile_unreadable (by rw [content]; rfl)
  | notText h => exact ofFile_unreadable (by rw [content, text_notText h])
  | malformed fault =>
    rw [ofFile_utf8 content, fault]
    rfl

/-- What one file says does not depend on any other. -/
theorem ofFile_congr {files' : String → File} (h : files path = files' path) : ofFile files path = ofFile files' path := by
  unfold ofFile
  rw [h]

/-! ## Validity -/

theorem validate_eq_ok_iff {c d : Config} : c.validate = .ok d ↔ c.invalid? = none ∧ c = d := by
  unfold validate
  cases c.invalid? with
  | none => simp
  | some what => simp

theorem loadFrom_eq_ok_iff {path? : Option String} {c : Config} : loadFrom path? vars files = .ok c ↔
    ∃ d, readFrom files path? = .ok d ∧ (d.override vars).invalid? = none ∧ d.override vars = c := by
  constructor
  · intro h
    obtain ⟨d, hd, h⟩ := bind_eq_ok h
    exact ⟨d, hd, validate_eq_ok_iff.1 h⟩
  · rintro ⟨d, hd, h⟩
    simp only [loadFrom, hd, bind, Except.bind]
    exact validate_eq_ok_iff.2 h

theorem setting_eq_some_iff {name v : String} :
    setting? vars name = some v ↔ vars name = some v ∧ ¬ IsBlank v := by
  unfold setting?
  rw [Option.filter_eq_some_iff, ← isEmpty_trim_iff]
  simp

@[simp] theorem override_sqlitePath (c : Config) (vars : Variables) :
    (c.override vars).catalog.sqlitePath = (setting? vars "DBQ_SQLITE_PATH").getD c.catalog.sqlitePath := rfl

@[simp] theorem override_remote (c : Config) (vars : Variables) : (c.override vars).remote = c.remote := rfl

/-- The defaults are valid in every environment. -/
theorem default_valid (vars : Variables) : (({} : Config).override vars).invalid? = none := by
  have path : (trim ((setting? vars "DBQ_SQLITE_PATH").getD ({} : Config).catalog.sqlitePath)).isEmpty = false := by
    cases set : setting? vars "DBQ_SQLITE_PATH" with
    | none => decide +kernel
    | some v => exact Bool.eq_false_iff.2 (mt (isEmpty_trim_iff v).1 (setting_eq_some_iff.1 set).2)
  unfold invalid?
  rw [override_sqlitePath, override_remote, path]
  rfl

/-! ## Which path is read -/

/-- Without a path that is asked for, only one path is looked at. -/
theorem load_unasked (vars : Variables) (files : String → File) :
    load none vars files =
      loadFrom ((some (defaultPath vars)).filter fun path => files path != .absent) vars files := by
  unfold load loadFrom
  by_cases absent : files (defaultPath vars) = .absent
  · simp [absent, readFrom, Option.filter_some]
  · simp [absent, readFrom, Option.filter_some]

theorem load_of_overlooks (h : Overlooks asked vars files) : load asked vars files = .ok (({} : Config).override vars) := by
  obtain ⟨rfl, ⟨path, named, absent⟩, -⟩ := h
  have unread : (some (defaultPath vars)).filter (fun path => files path != .absent) = none := by
    simp [defaultPath, named, absent, Option.filter_some]
  rw [load_unasked, unread]
  exact loadFrom_eq_ok_iff.2 ⟨{}, rfl, default_valid vars, rfl⟩

theorem documentedPath_of_overlooks (h : Overlooks asked vars files) :
    documentedPath asked vars files = some "dbq.toml" := by
  obtain ⟨rfl, ⟨path, named, absent⟩, there⟩ := h
  simp [documentedPath, named, absent, there]

/-- Any other time it is the documented one. -/
theorem load_of_not_overlooks (h : ¬ Overlooks asked vars files) :
    load asked vars files = loadFrom (documentedPath asked vars files) vars files := by
  cases asked with
  | some path => rfl
  | none =>
    have same : (some (defaultPath vars)).filter (fun path => files path != .absent) =
        documentedPath none vars files := by
      cases named : vars "DBQ_CONFIG" with
      | none => by_cases absent : files "dbq.toml" = .absent <;> simp [documentedPath, defaultPath, named, absent, Option.filter_some]
      | some path =>
        by_cases absent : files path = .absent
        · have default : files "dbq.toml" = .absent :=
            not_not.1 fun there => h ⟨rfl, ⟨path, named, absent⟩, there⟩
          simp [documentedPath, defaultPath, named, absent, default, Option.filter_some]
        · simp [documentedPath, defaultPath, named, absent, Option.filter_some]
    rw [load_unasked, same]

/-- (1) Settings are loaded as documented exactly unless a `dbq.toml` is overlooked that matters: no path
is asked for, the environment names one where nothing is, and the defaults hold, although there is a
`dbq.toml` that is broken or comes to other settings. (2) A path that is asked for is read, and no other
file. (3) Unless a `dbq.toml` is overlooked, a chosen file that is not there, is a directory, may not be
read, is no UTF-8 or makes no settings is the error that says so. -/
theorem documented_file_read_iff (asked : Option String) (vars : Variables) (files : String → File) :
    (load asked vars files = loadFrom (documentedPath asked vars files) vars files ↔
      ¬ (Overlooks asked vars files ∧ Matters vars files)) ∧
    (∀ path files', asked = some path → files path = files' path → load asked vars files = load asked vars files') ∧
    ∀ path e, ¬ Overlooks asked vars files → documentedPath asked vars files = some path →
      Broken path (files path) e → load asked vars files = .error e := by
  refine ⟨?_, fun path files' explicit same => ?_, fun path e seen chosen broken => ?_⟩
  · by_cases overlooks : Overlooks asked vars files
    · rw [load_of_overlooks overlooks, documentedPath_of_overlooks overlooks, eq_comm, loadFrom_eq_ok_iff]
      have defaults : (∃ c, ofFile files "dbq.toml" = .ok c ∧ c.override vars = ({} : Config).override vars) ↔
          ¬ Matters vars files := by
        unfold Matters
        push Not
        rfl
      rw [not_and, ← defaults]
      constructor
      · rintro ⟨c, hc, -, same⟩ -
        exact ⟨c, hc, same⟩
      · intro h
        obtain ⟨c, hc, same⟩ := h overlooks
        exact ⟨c, hc, same ▸ default_valid vars, same⟩
    · exact iff_of_true (load_of_not_overlooks overlooks) fun h => overlooks h.1
  · rw [explicit]
    show (ofFile files path >>= fun c => validate (c.override vars)) = ofFile files' path >>= _
    rw [ofFile_congr same]
  · rw [load_of_not_overlooks seen, chosen]
    show (ofFile files path >>= fun c => validate (c.override vars)) = _
    rw [broken.ofFile]
    rfl

/-- Files of a directory: one at a path, and nothing at any other. -/
def only (path : String) (file : File) : String → File := fun other => if other = path then file else .absent

/-- Variables of an environment: one that is set, and no other. -/
def onlySet (name value : String) : Variables := fun other => if other = name then some value else none

/-- The settings of a `dbq.toml` do not matter beside a file that the environment names, a missing file
that is asked for is an error, and so is a `dbq.toml` that is no UTF-8. -/
theorem named_file_read :
    let named := utf8 "[server]\nbind = \"e:1\"".toList
    let files : String → File := fun path => if path = "e.toml" then .bytes named else only "dbq.toml" .directory path
    load none (onlySet "DBQ_CONFIG" "e.toml") files = .ok { server := { bind := "e:1" } } ∧
      load (some "e.toml") (fun _ => none) files = load (some "e.toml") (fun _ => none) (only "e.toml" (.bytes named)) ∧
      load (some "f.toml") (fun _ => none) files = .error (.unreadable "f.toml" .absent) ∧
      load none (fun _ => none) (only "dbq.toml" (.bytes [0xFF])) = .error (.unreadable "dbq.toml" .notText) := by
  intro named files
  have seen : ¬ Overlooks none (onlySet "DBQ_CONFIG" "e.toml") files := by
    rintro ⟨-, ⟨path, set, absent⟩, -⟩
    cases set
    exact absurd absent (by decide)
  have unset : ¬ Overlooks none (fun _ => none) (only "dbq.toml" (.bytes [0xFF])) :=
    fun h => nomatch h.named
  have noText : ∀ text, utf8 text ≠ [0xFF] := by
    intro text h
    have decoded : (decodeUtf8 [0xFF]).toOption = some text := by rw [decodeUtf8_eq_ok_iff.2 h]; rfl
    exact absurd (decoded.symm.trans (by decide : (decodeUtf8 [0xFF]).toOption = none)) (by simp)
  refine ⟨?_, ?_, ?_, ?_⟩
  · rw [(documented_file_read_iff none _ files).1.2 fun h => seen h.1]
    decide +kernel
  · exact (documented_file_read_iff (some "e.toml") _ files).2.1 "e.toml" _ rfl (by decide)
  · exact (documented_file_read_iff (some "f.toml") _ files).2.2 "f.toml" _ (fun h => nomatch h.unasked) rfl .absent
  · exact (documented_file_read_iff none _ _).2.2 "dbq.toml" _ unset (by decide) (.notText noText)

/-- Where the environment names a path where nothing is, the defaults hold, although the documented file
is `dbq.toml` and sets another address. -/
theorem default_file_overlooked :
    let vars := onlySet "DBQ_CONFIG" "does/not/exist.toml"
    let files := only "dbq.toml" (.bytes (utf8 "[server]\nbind = \"f:1\"".toList))
    documentedPath none vars files = some "dbq.toml" ∧ load none vars files = .ok {} ∧
      loadFrom (documentedPath none vars files) vars files = .ok { server := { bind := "f:1" } } ∧
      load none vars files ≠ loadFrom (documentedPath none vars files) vars files := by
  decide +kernel

end QueryGateway.Config
