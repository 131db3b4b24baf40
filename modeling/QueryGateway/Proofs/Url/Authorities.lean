import QueryGateway.Proofs.Url.Hosts
import QueryGateway.Url

/-!
# Authorities

Credentials, host and number of a URL that is read are printed so that they are read again as the
same, also when the password has been replaced.
-/

namespace QueryGateway.Url

open Text

variable {kind : Kind}

/-! ## Credentials -/

theorem sparesEscapes_inUserinfo : SparesEscapes inUserinfo := ⟨by decide, by decide⟩

theorem escaped_escape {set : Char → Bool} (h : SparesEscapes set) (cs : List Char) :
    Escaped set (escape set cs).toList := by
  rw [escape, String.toList_ofList]
  exact escaped_percentEncode h cs

theorem escape_of_escaped {set : Char → Bool} {s : String} (h : Escaped set s.toList) : escape set s.toList = s := by
  rw [escape, percentEncode_of_escaped h, String.ofList_toList]

theorem escaped_credentials (cs : List Char) :
    Escaped inUserinfo (credentials cs).1.toList ∧ Escaped inUserinfo (credentials cs).2.toList := by
  unfold credentials
  split
  · exact ⟨escaped_escape sparesEscapes_inUserinfo _, escaped_escape sparesEscapes_inUserinfo _⟩
  · exact ⟨escaped_escape sparesEscapes_inUserinfo _, nofun⟩

/-- What stands in front of the at sign. -/
def infoText (user password : String) : List Char :=
  user.toList ++ (if password == "" then [] else ':' :: password.toList)

/-- Credentials read back. -/
theorem credentials_infoText {user password : String} (hu : Escaped inUserinfo user.toList)
    (hp : Escaped inUserinfo password.toList) : credentials (infoText user password) = (user, password) := by
  have colon : ':' ∉ user.toList := fun h => absurd (hu ':' h).2 (by decide)
  unfold infoText credentials
  by_cases empty : password = ""
  · rw [if_pos (by simpa using empty), List.append_nil, splitFirst_of_not_mem colon, empty]
    dsimp only
    rw [escape_of_escaped hu]
  · rw [if_neg (by simpa using empty), splitFirst_append colon]
    dsimp only
    rw [escape_of_escaped hu, escape_of_escaped hp]

theorem splitLast_append {sep : Char} {after : List Char} (h : sep ∉ after) (before : List Char) :
    splitLast sep (before ++ sep :: after) = some (before, after) := by
  have reversed : sep ∉ after.reverse := mt List.mem_reverse.1 h
  rw [splitLast, List.reverse_append, List.reverse_cons, List.append_assoc, List.singleton_append,
    splitFirst_append reversed]
  show some (before.reverse.reverse, after.reverse.reverse) = some (before, after)
  rw [List.reverse_reverse, List.reverse_reverse]

theorem splitLast_of_not_mem {sep : Char} {cs : List Char} (h : sep ∉ cs) : splitLast sep cs = none := by
  rw [splitLast, splitFirst_of_not_mem (mt List.mem_reverse.1 h)]
  rfl

/-! ## Hosts and numbers -/

/-- A character that hosts and their numbers are written with: none that ends an authority or the
credentials. -/
def isPlaceChar (c : Char) : Bool := 0x20 < c.toNat && !(['/', '?', '#', '\\', '@'].contains c)

theorem isPlaceChar_of_isHexDigit {c : Char} (h : isHexDigit c = true) :
    isPlaceChar c = true ∧ c ≠ '[' ∧ c ≠ ']' :=
  forall_ascii (P := fun c => isHexDigit c = true → isPlaceChar c = true ∧ c ≠ '[' ∧ c ≠ ']')
    (by decide) (ascii_of_isHexDigit h) h

theorem isPlaceChar_of_isDigit {c : Char} (h : isDigit c = true) : isPlaceChar c = true :=
  forall_ascii (P := fun c => isDigit c = true → isPlaceChar c = true) (by decide) (ascii_of_isDigit h) h

/-- What a host's name is written with. -/
theorem isPlaceChar_of_allowed {c : Char} (ascii : c.toNat < 0x80) (control : isControl c = false)
    (allowed : forbiddenInHost c = false) : isPlaceChar c = true ∧ c ≠ ':' ∧ c ≠ '[' ∧ c ≠ ']' :=
  forall_ascii (P := fun c => isControl c = false → forbiddenInHost c = false →
    isPlaceChar c = true ∧ c ≠ ':' ∧ c ≠ '[' ∧ c ≠ ']') (by decide) ascii control allowed

theorem IsHost.chars {cs : List Char} (h : IsHost cs) : ∀ c ∈ cs, isPlaceChar c = true := by
  intro c hc
  cases h with
  | address inside =>
    rcases List.mem_cons.1 hc with rfl | hc
    · decide
    · rcases List.mem_append.1 hc with hc | hc
      · rcases inside c hc with hex | rfl
        · exact (isPlaceChar_of_isHexDigit hex).1
        · decide
      · rw [List.mem_singleton.1 hc]
        decide
  | name escaped allowed _ => exact (isPlaceChar_of_allowed (escaped c hc).1 (escaped c hc).2 (allowed c hc)).1

theorem IsHost.ne_nil {cs : List Char} (h : IsHost cs) : cs ≠ [] := by
  cases h with
  | address _ => exact List.cons_ne_nil _ _
  | name _ _ ne => exact ne

/-- The host ends in front of a colon outside the brackets. -/
theorem IsHost.splitHost {cs : List Char} (h : IsHost cs) {rest : List Char} (stops : ∀ c ∈ rest.head?, c = ':') :
    splitHost false (cs ++ rest) = (cs, rest) := by
  have outside : Url.splitHost false rest = ([], rest) := by
    cases rest with
    | nil => rfl
    | cons c rest =>
      rw [stops c rfl]
      rfl
  cases h with
  | address inside =>
    next inner =>
    have within : ∀ ds : List Char, (∀ c ∈ ds, c ≠ '[' ∧ c ≠ ']') →
        Url.splitHost true (ds ++ ']' :: rest) = (ds ++ [']'], rest) := by
      intro ds hds
      induction ds with
      | nil =>
        rw [List.nil_append, Url.splitHost, if_neg (by decide)]
        show ((']' :: (Url.splitHost false rest).1, (Url.splitHost false rest).2) : List Char × List Char) = _
        rw [outside]
        rfl
      | cons d ds ih =>
        obtain ⟨opening, closing⟩ := hds d List.mem_cons_self
        rw [List.cons_append, Url.splitHost, if_neg (by simp)]
        simp only [beq_iff_eq, if_neg opening, if_neg closing, ih fun c hc => hds c (List.mem_cons_of_mem d hc)]
        rfl
    have plain : ∀ c ∈ inner, c ≠ '[' ∧ c ≠ ']' := by
      intro c hc
      rcases inside c hc with hex | rfl
      · exact (isPlaceChar_of_isHexDigit hex).2
      · decide
    rw [List.cons_append, List.append_assoc, List.singleton_append, Url.splitHost, if_neg (by decide)]
    show (('[' :: (Url.splitHost true (inner ++ ']' :: rest)).1, (Url.splitHost true (inner ++ ']' :: rest)).2) :
      List Char × List Char) = _
    rw [within inner plain]
  | name escaped allowed _ =>
    have plain : ∀ c ∈ cs, c ≠ ':' ∧ c ≠ '[' ∧ c ≠ ']' := fun c hc =>
      (isPlaceChar_of_allowed (escaped c hc).1 (escaped c hc).2 (allowed c hc)).2
    clear escaped allowed
    induction cs with
    | nil => exact outside
    | cons c cs ih =>
      obtain ⟨colon, opening, closing⟩ := plain c List.mem_cons_self
      rw [List.cons_append, Url.splitHost, if_neg (by simpa using colon)]
      by_cases ne : cs = []
      · subst ne
        simp only [beq_iff_eq, if_neg opening, if_neg closing, List.nil_append, outside]
      · simp only [beq_iff_eq, if_neg opening, if_neg closing, ih ne fun d hd => plain d (List.mem_cons_of_mem c hd)]

/-- The number of a host behind its colon. -/
def portText : Option Nat → List Char
  | some p => ':' :: Nat.toDigits 10 p
  | none => []

/-- A number that is kept: it fits, and hosts of the kind do not listen on it anyway. -/
def IsPort (kind : Kind) (port : Option Nat) : Prop := ∀ p, port = some p → p ≤ 65535 ∧ kind.usualNumber ≠ some p

theorem readPort_toDigits {p : Nat} (h : IsPort kind (some p)) :
    readPort kind (Nat.toDigits 10 p) = some (some p, []) := by
  obtain ⟨fits, unusual⟩ := h p rfl
  have digits : ∀ c ∈ Nat.toDigits 10 p, isDigit c = true := fun c hc => isDigit_of_mem_toDigits hc
  have nothing : ∀ c ∈ ([] : List Char).head?, isDigit c = false := nofun
  obtain ⟨take, drop⟩ := takeWhile_stops digits nothing
  rw [List.append_nil] at take drop
  rw [readPort, take, drop, decimal?_toDigits]
  dsimp only
  rw [if_pos (by simpa using fits), if_neg (by simpa using unusual)]

theorem isPort_of_readPort {cs rest : List Char} {port : Option Nat} (h : readPort kind cs = some (port, rest)) :
    IsPort kind port := by
  intro p hp
  unfold readPort at h
  dsimp only at h
  split at h
  · obtain ⟨-, h⟩ := Option.ite_none_right_eq_some.1 h
    cases h
    cases hp
  · next n _ =>
    obtain ⟨fits, h⟩ := Option.ite_none_right_eq_some.1 h
    rw [Bool.and_eq_true, decide_eq_true_eq] at fits
    by_cases usual : kind.usualNumber = some n
    · rw [if_pos (by simpa using usual)] at h
      cases h
      cases hp
    · rw [if_neg (by simpa using usual)] at h
      cases h
      cases hp
      exact ⟨fits.2, usual⟩

/-! ## Authorities -/

/-- The usual form of an authority. Only a scheme without web hosts does without a host, and then
there is nothing at all. -/
structure Authority.Normal (kind : Kind) (a : Authority) : Prop where
  username : Escaped inUserinfo a.username.toList
  password : Escaped inUserinfo a.password.toList
  place : (IsHost a.host.toList ∧ readHost kind a.host.toList = some a.host ∧ IsPort kind a.portNumber) ∨
    (kind.backslash = false ∧ a = ⟨"", "", "", none⟩)

/-- The text of an authority in its parts. -/
theorem Authority.toList_text (a : Authority) :
    a.text.toList = (if a.username == "" && a.password == "" then [] else infoText a.username a.password ++ ['@']) ++
      (a.host.toList ++ portText a.portNumber) := by
  have info : a.userinfo.toList =
      if a.username == "" && a.password == "" then [] else infoText a.username a.password ++ ['@'] := by
    unfold Authority.userinfo infoText
    split
    · rfl
    · split <;> simp
  rw [Authority.text, String.toList_append, String.toList_append, info, List.append_assoc, List.append_right_inj,
    List.append_right_inj]
  cases a.portNumber with
  | none => rfl
  | some p =>
    show (":" ++ toString p).toList = ':' :: Nat.toDigits 10 p
    rw [String.toList_append]
    exact congrArg (':' :: ·) Nat.toList_repr

/-- What stands behind the credentials. -/
theorem Authority.Normal.place_chars {a : Authority} (h : a.Normal kind) :
    ∀ c ∈ a.host.toList ++ portText a.portNumber, isPlaceChar c = true := by
  rcases h.place with ⟨host, -⟩ | ⟨-, rfl⟩
  · intro c hc
    rcases List.mem_append.1 hc with hc | hc
    · exact host.chars c hc
    · cases hport : a.portNumber with
      | none =>
        rw [hport] at hc
        cases hc
      | some p =>
        rw [hport] at hc
        rcases List.mem_cons.1 hc with rfl | hc
        · decide
        · exact isPlaceChar_of_isDigit (isDigit_of_mem_toDigits hc)
  · exact nofun

theorem isPlaceChar_of_inUserinfo {c : Char} (ascii : c.toNat < 0x80) (h : inUserinfo c = false) :
    isPlaceChar c = true :=
  forall_ascii (P := fun c => inUserinfo c = false → isPlaceChar c = true) (by decide) ascii h

/-- No character of an authority ends it. -/
theorem Authority.Normal.text_chars {a : Authority} (h : a.Normal kind) :
    ∀ c ∈ a.text.toList, isPlaceChar c = true ∨ c = '@' := by
  intro c hc
  rw [Authority.toList_text] at hc
  rcases List.mem_append.1 hc with hc | hc
  · split at hc
    · cases hc
    · rcases List.mem_append.1 hc with hc | hc
      · rcases List.mem_append.1 hc with hc | hc
        · exact .inl (isPlaceChar_of_inUserinfo (h.username c hc).1 (h.username c hc).2)
        · split at hc
          · cases hc
          · rcases List.mem_cons.1 hc with rfl | hc
            · exact .inl (by decide)
            · exact .inl (isPlaceChar_of_inUserinfo (h.password c hc).1 (h.password c hc).2)
      · exact .inr (List.mem_singleton.1 hc)
  · exact .inl (h.place_chars c hc)

/-- The credentials and what stands behind them, as an authority is read. -/
def readInfo (cs : List Char) (more : Bool) : Option (String × String × List Char) :=
  match splitLast '@' cs with
  | none => some ("", "", cs)
  | some ([], place) => if place.isEmpty && more then none else some ("", "", place)
  | some (info, place) => some ((credentials info).1, (credentials info).2, place)

/-- The host and its number behind the credentials. -/
def readPlace (kind : Kind) (user password : String) (place : List Char) : Option (Authority × List Char) :=
  let (hostText, rest) := splitHost false place
  if hostText.isEmpty then
    if kind.backslash || !rest.isEmpty || user != "" || password != "" then none
    else some (⟨user, password, "", none⟩, [])
  else do
    let host ← readHost kind hostText
    match rest with
    | ':' :: digits => do
      let (number, rest) ← readPort kind digits
      some (⟨user, password, host, number⟩, rest)
    | rest => some (⟨user, password, host, none⟩, rest)

theorem readAuthority_eq (cs : List Char) (more : Bool) :
    readAuthority kind cs more =
      (readInfo cs more).bind fun (user, password, place) => readPlace kind user password place := by
  unfold readAuthority readInfo
  cases splitLast '@' cs with
  | none => rfl
  | some parts =>
    obtain ⟨info, place⟩ := parts
    cases info with
    | nil =>
      dsimp only
      split <;> rfl
    | cons c info => rfl

theorem readInfo_text {a : Authority} (h : a.Normal kind) (more : Bool) :
    readInfo a.text.toList more = some (a.username, a.password, a.host.toList ++ portText a.portNumber) := by
  have free : '@' ∉ a.host.toList ++ portText a.portNumber := fun hc =>
    absurd (h.place_chars '@' hc) (by decide)
  rw [Authority.toList_text]
  unfold readInfo
  by_cases bare : a.username = "" ∧ a.password = ""
  · rw [if_pos (by simpa using bare), List.nil_append, splitLast_of_not_mem free, bare.1, bare.2]
  · rw [if_neg (by simpa using bare), List.append_assoc, List.singleton_append, splitLast_append free]
    have back := credentials_infoText h.username h.password
    cases info : infoText a.username a.password with
    | nil =>
      rw [info] at back
      exact absurd ⟨(congrArg Prod.fst back).symm, (congrArg Prod.snd back).symm⟩ bare
    | cons c info' =>
      rw [info] at back
      dsimp only
      rw [back]

/-- An authority reads back. -/
theorem readAuthority_text {a : Authority} (h : a.Normal kind) (more : Bool) :
    readAuthority kind a.text.toList more = some (a, []) := by
  rw [readAuthority_eq, readInfo_text h more, Option.bind_some]
  dsimp only
  rcases h.place with ⟨host, back, port⟩ | ⟨unwebby, rfl⟩
  · have colon : ∀ c ∈ (portText a.portNumber).head?, c = ':' := by
      cases a.portNumber with
      | none => exact nofun
      | some p => exact fun c hc => (Option.some.inj hc).symm
    unfold readPlace
    rw [host.splitHost colon]
    dsimp only
    rw [if_neg (by simpa using host.ne_nil), back]
    cases a with
    | mk user password name number =>
      cases number with
      | none => rfl
      | some p =>
        show (readPort kind (Nat.toDigits 10 p)).bind _ = _
        rw [readPort_toDigits port]
        rfl
  · show (if (kind.backslash || _ || _ || _) = true then _ else _) = _
    rw [unwebby]
    rfl

theorem readHost_fixed {cs : List Char} {host : String} (h : readHost kind cs = some host) (ne : cs ≠ []) :
    IsHost host.toList ∧ readHost kind host.toList = some host := by
  unfold readHost at h ⊢
  split at h
  · next web =>
    rw [if_pos web]
    exact webHost?_fixed h
  · next other =>
    rw [if_neg other]
    exact opaqueHost?_fixed h ne

theorem escaped_readInfo {cs place : List Char} {more : Bool} {user password : String}
    (h : readInfo cs more = some (user, password, place)) :
    Escaped inUserinfo user.toList ∧ Escaped inUserinfo password.toList := by
  unfold readInfo at h
  split at h
  · cases h
    exact ⟨nofun, nofun⟩
  · split at h
    · cases h
    · cases h
      exact ⟨nofun, nofun⟩
  · cases h
    exact escaped_credentials _

/-- An authority that is read is in its usual form. -/
theorem Authority.normal_of_readAuthority {cs left : List Char} {more : Bool} {a : Authority}
    (h : readAuthority kind cs more = some (a, left)) : a.Normal kind := by
  rw [readAuthority_eq] at h
  obtain ⟨⟨user, password, place⟩, hinfo, h⟩ := Option.bind_eq_some_iff.1 h
  obtain ⟨hu, hp⟩ := escaped_readInfo hinfo
  dsimp only at h
  unfold readPlace at h
  dsimp only at h
  split at h
  · split at h
    · cases h
    · next plain =>
      cases h
      simp only [Bool.or_eq_true, not_or, Bool.not_eq_true, bne_eq_false_iff_eq] at plain
      obtain ⟨⟨⟨unwebby, -⟩, rfl⟩, rfl⟩ := plain
      exact ⟨hu, hp, .inr ⟨unwebby, rfl⟩⟩
  · next nonempty =>
    obtain ⟨host, hhost, h⟩ := Option.bind_eq_some_iff.1 h
    obtain ⟨isHost, back⟩ := readHost_fixed hhost (by simpa using nonempty)
    split at h
    · obtain ⟨⟨number, rest⟩, hport, h⟩ := Option.bind_eq_some_iff.1 h
      cases h
      exact ⟨hu, hp, .inl ⟨isHost, back, isPort_of_readPort hport⟩⟩
    · cases h
      exact ⟨hu, hp, .inl ⟨isHost, back, nofun⟩⟩

/-- Hiding the password keeps the form. -/
theorem Authority.Normal.redact {a : Authority} (h : a.Normal kind) : a.redact.Normal kind := by
  unfold Authority.redact
  split
  · exact h
  · next secret =>
    have stars : Escaped inUserinfo "***".toList := by
      intro c hc
      have star : c ∈ ['*', '*', '*'] := hc
      obtain rfl : c = '*' := by simpa using star
      decide
    refine ⟨h.username, stars, ?_⟩
    rcases h.place with place | ⟨-, rfl⟩
    · exact .inl place
    · exact absurd (by decide) secret

end QueryGateway.Url
