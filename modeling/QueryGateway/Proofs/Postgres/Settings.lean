import QueryGateway.Postgres.Options
import QueryGateway.Proofs.Outcome
import QueryGateway.Proofs.Text.Numerals

/-!
# The settings of a session

A URL can have settings of its own, in two spellings and any number of them. Main statement: the text
of settings that a server gets has those of the URL in their order, and all that the gateway pins
behind them.
-/

namespace QueryGateway.Postgres

open Text

/-! ## What a query says -/

/-- A setting of a query: a text that holds settings, or a name and its value. -/
inductive Setting
  | written (text : String)
  | named (name value : String)
  deriving DecidableEq, Repr

namespace Setting

/-- The setting of a name and value of a query: `options=…` or `options[name]=…`. -/
def ofPair? (pair : String × String) : Option Setting :=
  if pair.1 = "options" then some (.written pair.2) else (settingName? pair.1).map fun name => .named name pair.2

/-- The text of a setting for the server. -/
def text : Setting → String
  | .written text => text
  | .named name value => settingText name value

/-- A text of settings with one more. -/
def addTo (settings : Option String) : Setting → String
  | .written text =>
    match settings with
    | some s => s ++ " " ++ text
    | none => text
  | .named name value => addSettings settings (settingText name value)

end Setting

/-- The settings of a query, in their order. -/
def querySettings (pairs : List (String × String)) : List Setting := pairs.filterMap Setting.ofPair?

/-- A text of settings with more of them. -/
def addAll (settings : Option String) (more : List Setting) : Option String :=
  more.foldl (fun s setting => some (setting.addTo s)) settings

theorem querySettings_cons (pair : String × String) (pairs : List (String × String)) :
    querySettings (pair :: pairs) = querySettings [pair] ++ querySettings pairs := by
  unfold querySettings
  rw [← List.filterMap_append]
  rfl

theorem querySettings_of_other {key : String} (other : key ≠ "options") (value : String) :
    querySettings [(key, value)] = ((settingName? key).map fun name => Setting.named name value).toList := by
  unfold querySettings Setting.ofPair?
  rw [List.filterMap_cons, if_neg other]
  cases settingName? key <;> rfl

theorem querySettings_of_plain {key : String} (other : key ≠ "options") (plain : settingName? key = none)
    (value : String) : querySettings [(key, value)] = [] := by
  rw [querySettings_of_other other, plain]
  rfl

/-- A name and value of a query add their setting, if they are one. -/
theorem apply_settings {o o' : Options} {key value : String} (h : o.apply key value = .ok o') :
    o'.settings = addAll o.settings (querySettings [(key, value)]) := by
  unfold Options.apply at h
  split at h
  case h_11 =>
    cases h
    rfl
  case h_12 _ _ _ _ _ _ _ _ _ _ other =>
    rw [querySettings_of_other other]
    split at h
    all_goals
      next hname =>
        rw [hname]
        cases h
        rfl
  -- The names that are left set something else.
  all_goals rw [querySettings_of_plain (by decide) (by decide +kernel)]
  case h_1 | h_2 =>
    unfold Options.apply.sslMode at h
    split at h
    · cases h
      rfl
    · cases h
  case h_3 | h_6 =>
    obtain ⟨n, -, rfl⟩ := map_eq_ok h
    rfl
  case h_5 =>
    split at h
    · cases h
      rfl
    · cases h
  all_goals
    cases h
    rfl

/-- The names and values of a query add their settings, one after the other. -/
theorem applyAll_settings {o o' : Options} {pairs : List (String × String)} (h : o.applyAll pairs = .ok o') :
    o'.settings = addAll o.settings (querySettings pairs) := by
  induction pairs generalizing o with
  | nil =>
    cases h
    rfl
  | cons pair pairs ih =>
    obtain ⟨key, value⟩ := pair
    obtain ⟨o1, h1, h⟩ := bind_eq_ok h
    rw [ih h, apply_settings h1, querySettings_cons (key, value) pairs]
    exact (List.foldl_append ..).symm

/-- The parts of a URL in front of its query set nothing. -/
theorem ofAuthority_settings {u : Url} {o : Options} (h : Options.ofAuthority u = .ok o) : o.settings = none := by
  unfold Options.ofAuthority at h
  obtain ⟨user, -, h⟩ := bind_eq_ok h
  obtain ⟨password, -, h⟩ := bind_eq_ok h
  obtain ⟨database, -, h⟩ := bind_eq_ok h
  dsimp only at h
  split at h
  all_goals
    obtain ⟨host, -, h⟩ := bind_eq_ok h
    cases h
    rfl

theorem ofUrl_settings {u : Url} {o : Options} (h : Options.ofUrl u = .ok o) :
    o.settings = addAll none (querySettings (queryPairs (u.query.getD ""))) := by
  obtain ⟨o1, h1, h⟩ := bind_eq_ok h
  rw [applyAll_settings h, ofAuthority_settings h1]

/-! ## Settings as one text -/

/-- Texts with blanks between them, if there are any. -/
def joined (texts : List String) : Option String := if texts = [] then none else some (join " " texts)

/-- Texts of settings with one more. A name with its value takes the place of an empty text. -/
def addText (texts : List String) : Setting → List String
  | .written text => texts ++ [text]
  | .named name value => (if texts = [""] then [] else texts) ++ [settingText name value]

theorem join_concat {texts : List String} (h : texts ≠ []) (text : String) :
    join " " (texts ++ [text]) = join " " texts ++ " " ++ text := by
  unfold join
  rw [String.intercalate_append_of_ne_nil h (by simp), String.intercalate_singleton]

theorem settingText_ne (name value : String) : settingText name value ≠ "" := by
  unfold settingText
  simp [String.append_eq_empty_iff]

/-- Only the empty text has nothing in it. -/
theorem join_ne {texts : List String} (h : texts ≠ []) (h' : texts ≠ [""]) : join " " texts ≠ "" := by
  unfold join
  cases texts with
  | nil => exact absurd rfl h
  | cons text texts =>
    cases texts with
    | nil => simpa using h'
    | cons next texts => simp [String.intercalate_cons_cons]

theorem addTo_joined (texts : List String) (setting : Setting) :
    some (setting.addTo (joined texts)) = joined (addText texts setting) := by
  by_cases empty : texts = []
  · rw [empty]
    cases setting <;> simp [joined, addText, Setting.addTo, addSettings, join]
  have some_join : joined texts = some (join " " texts) := if_neg empty
  rw [some_join]
  cases setting with
  | written text => simp [joined, addText, Setting.addTo, join_concat empty]
  | named name value =>
    by_cases blank : texts = [""]
    · simp [joined, addText, Setting.addTo, addSettings, join, blank]
    · simp [joined, addText, Setting.addTo, addSettings, join_concat empty, join_ne empty blank, blank]

theorem addAll_joined (texts : List String) (more : List Setting) :
    addAll (joined texts) more = joined (more.foldl addText texts) := by
  induction more generalizing texts with
  | nil => rfl
  | cons setting more ih =>
    show addAll (some (setting.addTo (joined texts))) more = _
    rw [addTo_joined, ih]
    rfl

/-- Behind a text that is not empty, every setting gets its text. -/
theorem foldl_addText {texts : List String} (h : texts ≠ []) (h' : texts ≠ [""]) (more : List Setting) :
    more.foldl addText texts = texts ++ more.map Setting.text := by
  induction more generalizing texts with
  | nil => simp
  | cons setting more ih =>
    have added : addText texts setting = texts ++ [setting.text] := by
      cases setting with
      | written text => rfl
      | named name value => simp [addText, h', Setting.text]
    have longer : texts ++ [setting.text] ≠ [""] := by
      intro same
      have length := congrArg List.length same
      cases texts with
      | nil => exact h rfl
      | cons text texts => simp at length
    rw [List.foldl_cons, added, ih (by simp) longer, List.map_cons, List.append_assoc, List.singleton_append]

/-- The texts of the settings of a URL in front of others. An empty text counts only in front of
another text. -/
def ownTexts : List Setting → List String
  | [.written ""] => []
  | .written "" :: .named name value :: more => (Setting.named name value :: more).map Setting.text
  | own => own.map Setting.text

/-- A name with its value comes first if there is no text, or an empty one. -/
theorem foldl_addText_named {texts : List String} (h : texts = [] ∨ texts = [""]) (name value : String)
    (more : List Setting) :
    (Setting.named name value :: more).foldl addText texts = (Setting.named name value :: more).map Setting.text := by
  have first : addText texts (.named name value) = [settingText name value] := by
    rcases h with rfl | rfl <;> rfl
  rw [List.foldl_cons, first, foldl_addText (by simp) (by simpa using settingText_ne name value)]
  rfl

/-- Settings of a URL, with a name and its value behind them and maybe more, get their texts. -/
theorem foldl_addText_own (own : List Setting) (name value : String) (more : List Setting) :
    (own ++ .named name value :: more).foldl addText [] =
      ownTexts own ++ (Setting.named name value :: more).map Setting.text := by
  unfold ownTexts
  split
  case h_1 => exact foldl_addText_named (.inr rfl) name value more
  case h_2 k v rest =>
    rw [← List.map_append]
    exact foldl_addText_named (.inr rfl) k v (rest ++ .named name value :: more)
  case h_3 blank before =>
    rw [← List.map_append]
    cases own with
    | nil => exact foldl_addText_named (.inl rfl) name value more
    | cons setting rest =>
      cases setting with
      | named k v => exact foldl_addText_named (.inl rfl) k v (rest ++ .named name value :: more)
      | written text =>
        by_cases empty : text = ""
        · subst empty
          -- Behind the empty text there is another text.
          cases rest with
          | nil => exact absurd rfl blank
          | cons next rest =>
            cases next with
            | named k v => exact absurd rfl (before k v rest)
            | written next => exact foldl_addText (show ["", next] ≠ [] by simp) (by simp) _
        · exact foldl_addText (show [text] ≠ [] by simp) (by simpa using empty) _

/-! ## What is pinned -/

/-- The texts of the settings that every session gets. -/
def pinnedTexts (seconds : Nat) : List String :=
  ["-c default_transaction_read_only=on", "-c statement_timeout=" ++ toString (1000 * seconds), "-c DateStyle=ISO",
    "-c TimeZone=UTC", "-c IntervalStyle=postgres", "-c extra_float_digits=3"]

theorem flatMap_settingChar {cs : List Char} (h : ∀ c ∈ cs, c ≠ '\\' ∧ c ≠ ' ') : cs.flatMap settingChar = cs := by
  induction cs with
  | nil => rfl
  | cons c cs ih =>
    have plain : settingChar c = [c] := by
      unfold settingChar
      rw [if_neg (by simpa using h c List.mem_cons_self)]
    rw [List.flatMap_cons, plain, ih fun d hd => h d (List.mem_cons_of_mem c hd)]
    rfl

/-- A number needs no escapes. -/
theorem settingText_number (name : String) (plain : ∀ c ∈ name.toList, c ≠ '\\' ∧ c ≠ ' ') (n : Nat) :
    settingText name (toString n) = "-c " ++ name ++ "=" ++ toString n := by
  have digits : ∀ c ∈ (toString n).toList, c ≠ '\\' ∧ c ≠ ' ' := by
    intro c hc
    have digit : isDigit c = true := isDigit_of_mem_toDigits (by simpa [Nat.toString_eq_repr] using hc)
    constructor <;> rintro rfl <;> cases digit
  unfold settingText
  rw [flatMap_settingChar]
  · rw [String.ofList_toList, String.append_assoc, String.append_assoc, String.append_assoc]
  · intro c hc
    rcases List.mem_append.1 (String.toList_append .. ▸ hc) with hc | hc
    · rcases List.mem_append.1 (String.toList_append .. ▸ hc) with hc | hc
      · exact plain c hc
      · obtain rfl : c = '=' := by simpa using hc
        exact ⟨by decide, by decide⟩
    · exact digits c hc

theorem text_pinnedSettings (limits : Limits) :
    (pinnedSettings limits).map (fun pair => settingText pair.1 pair.2) = pinnedTexts limits.statement := by
  have readOnly : settingText "default_transaction_read_only" "on" = "-c default_transaction_read_only=on" := by
    decide +kernel
  have timeout : settingText "statement_timeout" (toString (limits.statement * 1000)) =
      "-c statement_timeout=" ++ toString (1000 * limits.statement) := by
    rw [settingText_number "statement_timeout" (by simp), Nat.mul_comm]
    rfl
  have dates : settingText "DateStyle" "ISO" = "-c DateStyle=ISO" := by decide +kernel
  have zone : settingText "TimeZone" "UTC" = "-c TimeZone=UTC" := by decide +kernel
  have intervals : settingText "IntervalStyle" "postgres" = "-c IntervalStyle=postgres" := by decide +kernel
  have floats : settingText "extra_float_digits" "3" = "-c extra_float_digits=3" := by decide +kernel
  simp only [pinnedSettings, pinnedTexts, List.map_cons, List.map_nil, readOnly, timeout, dates, zone, intervals,
    floats]

theorem pin_settings (limits : Limits) (o : Options) :
    (o.pin limits).settings = addAll o.settings ((pinnedSettings limits).map fun pair => .named pair.1 pair.2) := rfl

/-- Settings of a URL with the pinned ones behind them. -/
theorem settings_of_own (own : List Setting) (limits : Limits) :
    addAll (addAll none own) ((pinnedSettings limits).map fun pair => .named pair.1 pair.2) =
      some (join " " (ownTexts own ++ pinnedTexts limits.statement)) := by
  have texts : ((pinnedSettings limits).map fun pair => Setting.named pair.1 pair.2).map Setting.text =
      pinnedTexts limits.statement := by
    rw [List.map_map]
    exact text_pinnedSettings limits
  have one := addAll_joined [] (own ++ (pinnedSettings limits).map fun pair => .named pair.1 pair.2)
  rw [addAll, List.foldl_append] at one
  refine one.trans ?_
  rw [← texts]
  -- What is pinned begins with a name and its value, so no text behind it takes the place of another.
  unfold pinnedSettings
  rw [List.map_cons, foldl_addText_own]
  exact if_neg (by simp)

theorem startup_settings {o : Options} {text : String} (h : o.settings = some text) :
    (o.startup.filter fun part => part.1 = "options") = [("options", text)] := by
  unfold Options.startup
  rw [h]
  cases o.user <;> cases o.database <;> cases o.applicationName <;> simp

theorem startup_applicationName {o : Options} {name : String} (h : o.applicationName = some name) :
    (o.startup.filter fun part => part.1 = "application_name") = [("application_name", name)] := by
  unfold Options.startup
  rw [h]
  cases o.user <;> cases o.database <;> cases o.settings <;> simp

end QueryGateway.Postgres
