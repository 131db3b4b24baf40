import QueryGateway.Postgres.Options
import QueryGateway.Proofs.Url.Redaction

/-!
# Where a password may stand

A database takes a password from the credentials of a URL, or from a parameter of its query. What
is shown instead of a URL is the same for all passwords in the credentials. A parameter is shown
as it is, so that there different passwords are always told apart. Both is said of texts around
the password, which are put together again by the characters that count.
-/

namespace QueryGateway.Url

open Text Postgres

/-! ## Passwords as they are written -/

/-- A character that a URL has in a password: an unreserved one, or the percent sign of an escape. -/
def isSecretChar (c : Char) : Bool := isAlnum c || ['-', '.', '_', '~', '%'].contains c

/-- A password as it is written in a URL. -/
structure IsSecret (cs : List Char) : Prop where
  ne_nil : cs ≠ []
  chars : ∀ c ∈ cs, isSecretChar c = true

theorem ascii_of_isSecretChar {c : Char} (h : isSecretChar c = true) : c.toNat < 0x80 := by
  simp only [isSecretChar, isAlnum, Bool.or_eq_true, List.contains_eq_mem, decide_eq_true_eq] at h
  rcases h with (letter | digit) | mark
  · exact ascii_of_isLetter letter
  · exact ascii_of_isDigit digit
  · have marks : ['-', '.', '_', '~', '%'].all (·.toNat < 0x80) = true := by decide
    exact of_decide_eq_true (List.all_eq_true.1 marks c mark)

/-- Nothing in a password ends the part of the URL in which it stands, or is escaped there. -/
theorem isSecretChar_facts {c : Char} (h : isSecretChar c = true) :
    isVisible c = true ∧ endsAuthority .other c = false ∧ c ≠ '#' ∧ c ≠ '&' ∧ inQuery .other c = false :=
  forall_ascii (P := fun c => isSecretChar c = true →
      isVisible c = true ∧ endsAuthority .other c = false ∧ c ≠ '#' ∧ c ≠ '&' ∧ inQuery .other c = false)
    (by decide) (ascii_of_isSecretChar h) h

theorem IsSecret.escaped {cs : List Char} (h : IsSecret cs) : Escaped (inQuery .other) cs :=
  fun c hc => ⟨ascii_of_isSecretChar (h.chars c hc), (isSecretChar_facts (h.chars c hc)).2.2.2.2⟩

/-! ## The characters that count around a password -/

/-- A character that is not dropped from the middle of a text. -/
def isKept (c : Char) : Bool := c != '\t' && c != '\n' && c != '\x0d'

/-- What counts of the characters in front of a visible one. -/
def countedBefore (cs : List Char) : List Char := (cs.dropWhile (!isVisible ·)).filter isKept

/-- What counts of the characters behind a visible one. -/
def countedBehind (cs : List Char) : List Char := (cs.reverse.dropWhile (!isVisible ·)).reverse.filter isKept

theorem significant_def (s : String) :
    significant s = ((s.toList.dropWhile (!isVisible ·)).reverse.dropWhile (!isVisible ·)).reverse.filter isKept := by
  have edge : (fun c : Char => decide (c.toNat ≤ 0x20)) = fun c => !isVisible c := by
    funext c
    simp [isVisible, ← decide_not]
  unfold significant
  dsimp only
  rw [edge]
  rfl

theorem dropWhile_append_of_head {p : Char → Bool} (xs : List Char) {ys : List Char} (h : ∀ c ∈ ys.head?, p c = false) :
    (xs ++ ys).dropWhile p = xs.dropWhile p ++ ys := by
  have stays : ys.dropWhile p = ys := by
    cases ys with
    | nil => rfl
    | cons y ys => exact List.dropWhile_cons_of_neg (by simp [h y rfl])
  rw [List.dropWhile_append]
  split
  · next nothing => rw [stays, List.isEmpty_iff.1 nothing, List.nil_append]
  · rfl

/-- A password counts as it is, and what stands around it counts for itself. -/
theorem significant_around (before behind : String) {p : String} (h : IsSecret p.toList) :
    significant (before ++ p ++ behind) = countedBefore before.toList ++ (p.toList ++ countedBehind behind.toList) := by
  have visible : ∀ c ∈ p.toList, isVisible c = true := fun c hc => (isSecretChar_facts (h.chars c hc)).1
  have first : ∀ ys : List Char, ∀ c ∈ (p.toList ++ ys).head?, (!isVisible c) = false := by
    intro ys c hc
    rw [List.head?_append, List.head?_eq_some_head h.ne_nil, Option.some_or] at hc
    cases hc
    rw [visible _ (List.head_mem _)]
    rfl
  have last : ∀ ys : List Char, ∀ c ∈ (p.toList.reverse ++ ys).head?, (!isVisible c) = false := by
    intro ys c hc
    rw [List.head?_append, List.head?_eq_some_head (mt List.reverse_eq_nil_iff.1 h.ne_nil), Option.some_or] at hc
    cases hc
    rw [visible _ (List.mem_reverse.1 (List.head_mem _))]
    rfl
  have kept : p.toList.filter isKept = p.toList := by
    refine List.filter_eq_self.2 fun c hc => ?_
    have := visible c hc
    simp only [isKept, Bool.and_eq_true, bne_iff_ne]
    refine ⟨⟨?_, ?_⟩, ?_⟩ <;> rintro rfl <;> exact absurd this (by decide)
  rw [significant_def, String.toList_append, String.toList_append, List.append_assoc,
    dropWhile_append_of_head _ (first _), List.reverse_append, List.reverse_append, List.append_assoc,
    dropWhile_append_of_head _ (last _), List.reverse_append, List.reverse_append, List.reverse_reverse,
    List.reverse_reverse, List.append_assoc, List.filter_append, List.filter_append, kept]
  rfl

/-! ## URLs of databases -/

/-- The scheme of a database, in any case. -/
def IsPostgres (scheme : List Char) : Prop :=
  String.ofList (scheme.map lowerChar) ∈ ["postgres", "postgresql"]

theorem isLetter_of_lowerChar {c : Char} (h : isLetter (lowerChar c) = true) : isLetter c = true := by
  rw [lowerChar] at h
  split at h
  · next capital => rw [isLetter, capital, Bool.or_true]
  · exact h

theorem IsPostgres.letters {scheme : List Char} (h : IsPostgres scheme) : ∀ c ∈ scheme, isLetter c = true := by
  have named : ∀ name ∈ ["postgres", "postgresql"], name.toList.all isLetter = true := by decide
  intro c hc
  refine isLetter_of_lowerChar (List.all_eq_true.1 (named _ h) _ ?_)
  rw [String.toList_ofList]
  exact List.mem_map_of_mem hc

theorem IsPostgres.ne_nil {scheme : List Char} (h : IsPostgres scheme) : scheme ≠ [] := by
  rintro rfl
  have nameless : String.ofList ([].map lowerChar) ∉ ["postgres", "postgresql"] := by decide
  exact nameless h

theorem IsPostgres.kindOf {scheme : List Char} (h : IsPostgres scheme) :
    kindOf (String.ofList (scheme.map lowerChar)) = .other := by
  have named : ∀ name ∈ ["postgres", "postgresql"], Url.kindOf name = .other := by decide
  exact named _ h

theorem splitScheme_of_letters {scheme : List Char} (ne : scheme ≠ []) (letters : ∀ c ∈ scheme, isLetter c = true)
    (rest : List Char) :
    splitScheme (scheme ++ ':' :: rest) = some (String.ofList (scheme.map lowerChar), rest) := by
  have chars : ∀ c ∈ scheme, isSchemeChar c = true := fun c hc => (isSchemeChar_of_isLetter (letters c hc)).1
  have colon : ∀ c ∈ (':' :: rest).head?, isSchemeChar c = false := by rintro c ⟨⟩; rfl
  obtain ⟨take, drop⟩ := takeWhile_stops chars colon
  obtain ⟨c, cs, rfl⟩ := List.exists_cons_of_ne_nil ne
  rw [List.cons_append] at take drop ⊢
  unfold splitScheme
  dsimp only
  rw [if_pos (letters c List.mem_cons_self), drop, take]
  rfl

/-- The URL of a database, by what follows the colon behind the scheme. -/
theorem parse_postgres {s : String} {scheme rest : List Char} (h : IsPostgres scheme)
    (hs : significant s = scheme ++ ':' :: rest) :
    parse s = readRest .other (String.ofList (scheme.map lowerChar)) rest := by
  rw [parse_eq, hs, splitScheme_of_letters h.ne_nil h.letters, Option.bind_some]
  dsimp only
  rw [h.kindOf]

/-- A URL with its password hidden. -/
def hide (u : Url) : Url := { u with authority := u.authority.map Authority.redact }

/-- What is shown depends on the URL with its password hidden. -/
theorem redact_eq_hide (s : String) : redact s = (((parse s).map hide).map text).getD unparseable := by
  unfold redact
  cases parse s <;> rfl

/-! ## In the credentials -/

/-- The place of a password in credentials: behind a colon and in front of an at sign. -/
structure UserinfoSpot where
  scheme : List Char
  user : List Char
  rest : List Char
  postgres : IsPostgres scheme
  within : ∀ c ∈ user, endsAuthority .other c = false

namespace UserinfoSpot

/-- What stands in front of the password. -/
def before (s : UserinfoSpot) : List Char := s.scheme ++ ':' :: '/' :: '/' :: (s.user ++ [':'])

/-- What stands behind the password. -/
def behind (s : UserinfoSpot) : List Char := '@' :: s.rest

end UserinfoSpot

/-- The last separator does not depend on what stands in front of another one. -/
theorem splitLast_behind (sep : Char) (rest : List Char) :
    ∃ more after, ∀ front : List Char, splitLast sep (front ++ sep :: rest) = some (front ++ more, after) := by
  by_cases h : sep ∈ rest
  · obtain ⟨later, sooner, heq, free⟩ := List.eq_append_cons_of_mem (List.mem_reverse.2 h)
    have parts : rest = sooner.reverse ++ sep :: later.reverse := by
      rw [← List.reverse_reverse rest, heq]
      simp
    refine ⟨sep :: sooner.reverse, later.reverse, fun front => ?_⟩
    have again := splitLast_append (mt List.mem_reverse.1 free) (front ++ sep :: sooner.reverse)
    rw [parts]
    simpa using again
  · refine ⟨[], rest, fun front => ?_⟩
    rw [splitLast_append h, List.append_nil]

/-- The first colon does not depend on what stands behind another one. -/
theorem credentials_behind (user : List Char) :
    ∃ name front, ∀ rest, credentials (user ++ ':' :: rest) = (name, escape inUserinfo (front ++ rest)) := by
  by_cases h : ':' ∈ user
  · obtain ⟨name, front, rfl, free⟩ := List.eq_append_cons_of_mem h
    refine ⟨escape inUserinfo name, front ++ [':'], fun rest => ?_⟩
    rw [credentials, List.append_assoc, List.cons_append, splitFirst_append free]
    simp
  · refine ⟨escape inUserinfo user, [], fun rest => ?_⟩
    rw [credentials, splitFirst_append h]
    rfl

/-- Host and number are read in the same way behind any two passwords. -/
theorem readPlace_redact {kind : Kind} (user : String) {a b : String} (ha : a ≠ "") (hb : b ≠ "") (place : List Char) :
    (readPlace kind user a place).map (Prod.map Authority.redact id) =
      (readPlace kind user b place).map (Prod.map Authority.redact id) := by
  have masked (host : String) (number : Option Nat) :
      Authority.redact ⟨user, a, host, number⟩ = Authority.redact ⟨user, b, host, number⟩ := by
    rw [Authority.redact_eq, Authority.redact_eq, if_neg ha, if_neg hb]
  unfold readPlace
  generalize splitHost false place = parts
  obtain ⟨hostText, rest⟩ := parts
  dsimp only
  split
  · rw [if_pos (by simp [ha]), if_pos (by simp [hb])]
  · cases readHost kind hostText with
    | none => rfl
    | some host =>
      dsimp only [Option.bind_eq_bind, Option.bind_some]
      split
      · next digits =>
        cases readPort kind digits with
        | none => rfl
        | some found => exact congrArg (fun a => some (a, found.2)) (masked host found.1)
      · exact congrArg (fun a => some (a, rest)) (masked host none)

/-- An authority is read in the same way whatever the password in it is. -/
theorem readAuthority_redact {kind : Kind} (user rest : List Char) (more : Bool) {p q : List Char} (hp : p ≠ [])
    (hq : q ≠ []) :
    (readAuthority kind (user ++ ':' :: (p ++ '@' :: rest)) more).map (Prod.map Authority.redact id) =
      (readAuthority kind (user ++ ':' :: (q ++ '@' :: rest)) more).map (Prod.map Authority.redact id) := by
  -- Where the credentials end and where the user name does is settled outside of the password.
  obtain ⟨tail, place, last⟩ := splitLast_behind '@' rest
  obtain ⟨name, front, first⟩ := credentials_behind user
  have read (secret : List Char) :
      readAuthority kind (user ++ ':' :: (secret ++ '@' :: rest)) more =
        readPlace kind name (escape inUserinfo (front ++ (secret ++ tail))) place := by
    have split : splitLast '@' (user ++ ':' :: (secret ++ '@' :: rest)) = some (user ++ ':' :: (secret ++ tail), place) := by
      have := last (user ++ ':' :: secret)
      simpa using this
    have info : readInfo (user ++ ':' :: (secret ++ '@' :: rest)) more =
        some (name, escape inUserinfo (front ++ (secret ++ tail)), place) := by
      unfold readInfo
      rw [split]
      split
      · next heq => cases heq
      · next heq => exact absurd (Option.some.inj heq) (by simp)
      · next heq =>
        cases heq
        rw [first]
    rw [readAuthority_eq, info]
    rfl
  have escaped {secret : List Char} (h : secret ≠ []) : escape inUserinfo (front ++ (secret ++ tail)) ≠ "" := by
    intro nothing
    have := congrArg String.toList nothing
    rw [escape, String.toList_ofList] at this
    exact percentEncode_ne_nil (by simp [h]) this
  rw [read, read, readPlace_redact name (escaped hp) (escaped hq)]

/-- A URL is hidden in the same way whatever the password in its credentials is. -/
theorem readBehindSlashes_hide (scheme : String) {user : List Char} (within : ∀ c ∈ user, endsAuthority .other c = false)
    (rest : List Char) {p q : List Char} (hp : IsSecret p) (hq : IsSecret q) :
    (readBehindSlashes .other scheme (user ++ ':' :: (p ++ '@' :: rest))).map hide =
      (readBehindSlashes .other scheme (user ++ ':' :: (q ++ '@' :: rest))).map hide := by
  have read {secret : List Char} (h : IsSecret secret) :
      (readBehindSlashes .other scheme (user ++ ':' :: (secret ++ '@' :: rest))).map hide =
        ((readAuthority .other (user ++ ':' :: (secret ++ '@' :: rest.takeWhile (!endsAuthority .other ·)))
            (!(rest.dropWhile (!endsAuthority .other ·)).isEmpty)).map (Prod.map Authority.redact id)).map
          fun found => withRest .other scheme (some found.1) (otherPath .other)
            (found.2 ++ rest.dropWhile (!endsAuthority .other ·)) := by
    have inside : ∀ c ∈ user ++ ':' :: (secret ++ ['@']), (!endsAuthority .other c) = true := by
      intro c hc
      rw [Bool.not_eq_true']
      simp only [List.mem_append, List.mem_cons, List.not_mem_nil, or_false] at hc
      rcases hc with hc | rfl | hc | rfl
      · exact within c hc
      · rfl
      · exact (isSecretChar_facts (h.chars c hc)).2.1
      · rfl
    have text : user ++ ':' :: (secret ++ '@' :: rest) = (user ++ ':' :: (secret ++ ['@'])) ++ rest := by simp
    have take : (user ++ ':' :: (secret ++ '@' :: rest)).takeWhile (!endsAuthority .other ·) =
        user ++ ':' :: (secret ++ '@' :: rest.takeWhile (!endsAuthority .other ·)) := by
      rw [text, List.takeWhile_append_of_pos inside]
      simp
    have drop : (user ++ ':' :: (secret ++ '@' :: rest)).dropWhile (!endsAuthority .other ·) =
        rest.dropWhile (!endsAuthority .other ·) := by
      rw [text, List.dropWhile_append_of_pos inside]
    unfold readBehindSlashes
    dsimp only
    rw [take, drop]
    cases readAuthority .other (user ++ ':' :: (secret ++ '@' :: rest.takeWhile (!endsAuthority .other ·)))
        (!(rest.dropWhile (!endsAuthority .other ·)).isEmpty) with
    | none => rfl
    | some found => rfl
  rw [read hp, read hq, readAuthority_redact user _ _ hp.ne_nil hq.ne_nil]

/-- What is shown is the same whatever the password in the credentials is. -/
theorem redact_userinfo (s : UserinfoSpot) {before behind : String} (hbefore : countedBefore before.toList = s.before)
    (hbehind : countedBehind behind.toList = s.behind) {p q : String} (hp : IsSecret p.toList) (hq : IsSecret q.toList) :
    redact (before ++ p ++ behind) = redact (before ++ q ++ behind) := by
  have read {secret : String} (h : IsSecret secret.toList) :
      parse (before ++ secret ++ behind) =
        readBehindSlashes .other (String.ofList (s.scheme.map lowerChar))
          (s.user ++ ':' :: (secret.toList ++ '@' :: s.rest)) := by
    have counted := significant_around before behind h
    rw [hbefore, hbehind] at counted
    have whole : significant (before ++ secret ++ behind) =
        s.scheme ++ ':' :: '/' :: '/' :: (s.user ++ ':' :: (secret.toList ++ '@' :: s.rest)) := by
      rw [counted]
      simp [UserinfoSpot.before, UserinfoSpot.behind]
    rw [parse_postgres s.postgres whole, readRest_behind]
  rw [redact_eq_hide, redact_eq_hide, read hp, read hq, readBehindSlashes_hide _ s.within _ hp hq]

/-! ## In a parameter -/

/-- The place of a password in a parameter of the query, which the database reads as the password
by its name. Other parameters may stand in front of it and behind it. -/
structure ParameterSpot where
  scheme : List Char
  path : List Char
  params : List Char
  name : List Char
  more : List Char
  fragment : Option (List Char)
  postgres : IsPostgres scheme
  path_plain : ∀ c ∈ path, endsPath c = false
  params_plain : '#' ∉ params
  params_end : params = [] ∨ ∃ others, params = others ++ ['&']
  name_plain : '#' ∉ name ∧ '&' ∉ name ∧ '=' ∉ name
  named : queryText (percentEncode (inQuery .other) name) = "password"
  more_plain : '#' ∉ more
  more_begin : more = [] ∨ ∃ others, more = '&' :: others

namespace ParameterSpot

/-- The query in front of the password. -/
def lead (s : ParameterSpot) : List Char := s.params ++ (s.name ++ ['='])

/-- What stands in front of the password. -/
def before (s : ParameterSpot) : List Char := s.scheme ++ ':' :: (s.path ++ '?' :: s.lead)

/-- What stands behind the password. -/
def behind (s : ParameterSpot) : List Char :=
  s.more ++ match s.fragment with
    | some f => '#' :: f
    | none => []

/-- The query with a password, as the URL keeps it. -/
def query (s : ParameterSpot) (secret : List Char) : String :=
  String.ofList (percentEncode (inQuery .other) s.lead ++ (secret ++ percentEncode (inQuery .other) s.more))

theorem lead_plain (s : ParameterSpot) : '#' ∉ s.lead := by
  simp [lead, s.params_plain, s.name_plain.1]

end ParameterSpot

theorem splitSearch {p : Char → Bool} {c : Char} (hc : p c = false) (cs rest : List Char) :
    (cs ++ c :: rest).takeWhile p = cs.takeWhile p ∧ (cs ++ c :: rest).dropWhile p = cs.dropWhile p ++ c :: rest := by
  induction cs with
  | nil => simp [hc]
  | cons d ds ih =>
    obtain ⟨take, drop⟩ := ih
    rw [List.cons_append, List.takeWhile_cons, List.takeWhile_cons, List.dropWhile_cons, List.dropWhile_cons, take, drop]
    constructor <;> split <;> rfl

theorem splitHost_append (inside : Bool) (cs : List Char) : (splitHost inside cs).1 ++ (splitHost inside cs).2 = cs := by
  induction cs generalizing inside with
  | nil => rfl
  | cons c cs ih =>
    rw [splitHost]
    split
    · rfl
    · exact congrArg (c :: ·) (ih _)

/-- What stands behind a separator is the end of the text. -/
theorem suffix_of_splitLast {sep : Char} {cs front rest : List Char} (h : splitLast sep cs = some (front, rest)) :
    rest <:+ cs := by
  obtain ⟨⟨after, before⟩, hfirst, heq⟩ := Option.map_eq_some_iff.1 h
  cases heq
  have reversed := congrArg List.reverse (mem_of_splitFirst hfirst).1
  rw [List.reverse_reverse, List.reverse_append, List.reverse_cons, List.append_assoc] at reversed
  exact ⟨before.reverse ++ [sep], by rw [reversed, List.append_assoc]⟩

theorem suffix_of_readInfo {cs place : List Char} {more : Bool} {user password : String}
    (h : readInfo cs more = some (user, password, place)) : place <:+ cs := by
  unfold readInfo at h
  split at h
  · cases h
    exact List.suffix_rfl
  · next hlast =>
    obtain ⟨-, h⟩ := Option.ite_none_left_eq_some.1 h
    cases h
    exact suffix_of_splitLast hlast
  · next hlast =>
    cases h
    exact suffix_of_splitLast hlast

theorem suffix_of_readPort {kind : Kind} {cs rest : List Char} {number : Option Nat}
    (h : readPort kind cs = some (number, rest)) : rest <:+ cs := by
  unfold readPort at h
  dsimp only at h
  split at h
  · obtain ⟨-, h⟩ := Option.ite_none_right_eq_some.1 h
    cases h
    exact List.dropWhile_suffix _
  · obtain ⟨-, h⟩ := Option.ite_none_right_eq_some.1 h
    cases h
    exact List.dropWhile_suffix _

theorem suffix_of_readPlace {kind : Kind} {user password : String} {place left : List Char} {a : Authority}
    (h : readPlace kind user password place = some (a, left)) : left <:+ place := by
  have host : (splitHost false place).2 <:+ place := ⟨_, splitHost_append false place⟩
  unfold readPlace at h
  dsimp only at h
  split at h
  · obtain ⟨-, h⟩ := Option.ite_none_left_eq_some.1 h
    cases h
    exact List.nil_suffix
  · obtain ⟨name, _, h⟩ := Option.bind_eq_some_iff.1 h
    split at h
    · next hrest =>
      obtain ⟨⟨number, rest⟩, hport, h⟩ := Option.bind_eq_some_iff.1 h
      cases h
      rw [hrest] at host
      exact ((suffix_of_readPort hport).trans (List.suffix_cons ':' _)).trans host
    · cases h
      exact host

/-- What an authority leaves is the end of its text. -/
theorem suffix_of_readAuthority {kind : Kind} {cs left : List Char} {more : Bool} {a : Authority}
    (h : readAuthority kind cs more = some (a, left)) : left <:+ cs := by
  rw [readAuthority_eq] at h
  obtain ⟨_, hinfo, hplace⟩ := Option.bind_eq_some_iff.1 h
  exact (suffix_of_readPlace hplace).trans (suffix_of_readInfo hinfo)

theorem withRest_question {kind : Kind} (scheme : String) (authority : Option Authority) (path : List Char → Path)
    {cs : List Char} (plain : ∀ c ∈ cs, endsPath c = false) (rest : List Char) :
    withRest kind scheme authority path (cs ++ '?' :: rest) =
      ⟨scheme, authority, path cs, (readTail kind ('?' :: rest)).1, (readTail kind ('?' :: rest)).2⟩ := by
  have inside : ∀ c ∈ cs, (!endsPath c) = true := fun c hc => by rw [plain c hc]; rfl
  have question : ∀ c ∈ ('?' :: rest).head?, (!endsPath c) = false := by rintro c ⟨⟩; rfl
  obtain ⟨take, drop⟩ := takeWhile_stops inside question
  rw [withRest_eq, take, drop]

/-- The URL behind the slashes of an authority, where there is a query. -/
theorem readBehindSlashes_question (scheme : String) {cs : List Char} (plain : ∀ c ∈ cs, endsPath c = false)
    (rest : List Char) :
    readBehindSlashes .other scheme (cs ++ '?' :: rest) =
      (readAuthority .other (cs.takeWhile (!endsAuthority .other ·)) true).map fun found =>
        ⟨scheme, some found.1, otherPath .other (found.2 ++ cs.dropWhile (!endsAuthority .other ·)),
          (readTail .other ('?' :: rest)).1, (readTail .other ('?' :: rest)).2⟩ := by
  obtain ⟨take, drop⟩ := splitSearch (p := (!endsAuthority .other ·)) (c := '?') rfl cs rest
  have more : (!(cs.dropWhile (!endsAuthority .other ·) ++ '?' :: rest).isEmpty) = true := by simp
  unfold readBehindSlashes
  dsimp only
  rw [take, drop, more]
  cases hfound : readAuthority .other (cs.takeWhile (!endsAuthority .other ·)) true with
  | none => rfl
  | some found =>
    have left : ∀ c ∈ found.2 ++ cs.dropWhile (!endsAuthority .other ·), endsPath c = false := by
      intro c hc
      rcases List.mem_append.1 hc with hc | hc
      · exact plain c ((List.takeWhile_prefix _).mem ((suffix_of_readAuthority hfound).mem hc))
      · exact plain c ((List.dropWhile_suffix _).mem hc)
    show some (withRest .other scheme _ (otherPath .other) _) = _
    rw [← List.append_assoc, withRest_question scheme _ _ left]
    rfl

/-- The authority and the path in front of a question mark do not depend on what follows it. -/
theorem readRest_question (scheme : String) {path : List Char} (plain : ∀ c ∈ path, endsPath c = false) :
    ∃ front : Option (Option Authority × Path), ∀ rest, readRest .other scheme (path ++ '?' :: rest) =
      front.map fun found =>
        ⟨scheme, found.1, found.2, (readTail .other ('?' :: rest)).1, (readTail .other ('?' :: rest)).2⟩ := by
  -- The cases are those of `readRest`: an authority, a path from the root, or neither.
  by_cases slashes : ∃ cs, path = '/' :: '/' :: cs
  · obtain ⟨cs, rfl⟩ := slashes
    have inner : ∀ c ∈ cs, endsPath c = false := fun c hc => plain c (by simp [hc])
    refine ⟨(readAuthority .other (cs.takeWhile (!endsAuthority .other ·)) true).map fun found =>
      (some found.1, otherPath .other (found.2 ++ cs.dropWhile (!endsAuthority .other ·))), fun rest => ?_⟩
    rw [List.cons_append, List.cons_append, readRest_behind, readBehindSlashes_question scheme inner, Option.map_map]
    rfl
  · by_cases slash : ∃ cs, path = '/' :: cs
    · obtain ⟨cs, rfl⟩ := slash
      have inner : ∀ c ∈ cs, endsPath c = false := fun c hc => plain c (List.mem_cons_of_mem _ hc)
      refine ⟨some (none, .segments (readSegments .other cs)), fun rest => ?_⟩
      have single : (cs ++ '?' :: rest).head? ≠ some '/' := by
        cases cs with
        | nil => exact by simp
        | cons c cs =>
          rintro ⟨⟩
          exact slashes ⟨cs, rfl⟩
      rw [List.cons_append, readRest_slash single, withRest_question scheme none _ inner]
      rfl
    · refine ⟨some (none, .opaquely (escape isControl path)), fun rest => ?_⟩
      have other : (path ++ '?' :: rest).head? ≠ some '/' := by
        cases path with
        | nil => exact by simp
        | cons c cs =>
          rintro ⟨⟩
          exact slash ⟨cs, rfl⟩
      rw [readRest_plain other, withRest_question scheme none _ plain]
      rfl

/-- A query up to the fragment. -/
theorem readTail_query (kind : Kind) {query : List Char} (plain : '#' ∉ query) (fragment : Option (List Char)) :
    readTail kind ('?' :: (query ++ match fragment with | some f => '#' :: f | none => [])) =
      (some (escape (inQuery kind) query), fragment.map (escape inFragment)) := by
  have front : '#' ∉ '?' :: query := by simp [plain]
  unfold readTail
  cases fragment with
  | none =>
    dsimp only
    rw [List.append_nil, splitFirst_of_not_mem front]
    rfl
  | some f =>
    dsimp only
    rw [← List.cons_append, splitFirst_append front]
    rfl

/-- A URL with a password in a parameter is read, if at all, with the password in its query. -/
theorem parse_parameter (s : ParameterSpot) {before behind : String} (hbefore : countedBefore before.toList = s.before)
    (hbehind : countedBehind behind.toList = s.behind) :
    ∃ front : Option (Option Authority × Path), ∀ p : String, IsSecret p.toList →
      parse (before ++ p ++ behind) = front.map fun found =>
        ⟨String.ofList (s.scheme.map lowerChar), found.1, found.2, some (s.query p.toList),
          s.fragment.map (escape inFragment)⟩ := by
  obtain ⟨front, hfront⟩ := readRest_question (String.ofList (s.scheme.map lowerChar)) s.path_plain
  refine ⟨front, fun p hp => ?_⟩
  have counted := significant_around before behind hp
  rw [hbefore, hbehind] at counted
  have free : '#' ∉ s.lead ++ (p.toList ++ s.more) := by
    have secret : '#' ∉ p.toList := fun hc => (isSecretChar_facts (hp.chars _ hc)).2.2.1 rfl
    simp [s.lead_plain, secret, s.more_plain]
  have query : escape (inQuery .other) (s.lead ++ (p.toList ++ s.more)) = s.query p.toList := by
    rw [escape, percentEncode_append, percentEncode_append, percentEncode_of_escaped hp.escaped]
    rfl
  have tail := readTail_query .other free s.fragment
  rw [query] at tail
  have whole : significant (before ++ p ++ behind) = s.scheme ++ ':' :: (s.path ++ '?' ::
      (s.lead ++ (p.toList ++ s.more) ++ match s.fragment with | some f => '#' :: f | none => [])) := by
    rw [counted]
    simp [ParameterSpot.before, ParameterSpot.behind]
  rw [parse_postgres s.postgres whole, hfront, tail]

theorem query_inj (s : ParameterSpot) {p q : List Char} : s.query p = s.query q ↔ p = q := by
  rw [ParameterSpot.query, ParameterSpot.query, String.ofList_inj, List.append_cancel_left_eq, List.append_cancel_right_eq]

/-- URLs that differ in their queries have different texts. -/
theorem text_inj_query {scheme : String} {authority : Option Authority} {path : Path} {p q : String}
    {fragment : Option String} :
    (⟨scheme, authority, path, some p, fragment⟩ : Url).text = (⟨scheme, authority, path, some q, fragment⟩ : Url).text ↔
      p = q := by
  rw [← String.toList_inj, toList_text, toList_text, ← String.toList_inj]
  simp [tailText]

/-- Different passwords in a parameter are shown as different texts, unless nothing is shown. -/
theorem redact_parameter (s : ParameterSpot) {before behind : String} (hbefore : countedBefore before.toList = s.before)
    (hbehind : countedBehind behind.toList = s.behind) {p q : String} (hp : IsSecret p.toList) (hq : IsSecret q.toList) :
    redact (before ++ p ++ behind) = redact (before ++ q ++ behind) ↔
      p = q ∨ parse (before ++ p ++ behind) = none := by
  obtain ⟨front, read⟩ := parse_parameter s hbefore hbehind
  rw [redact_eq_hide, redact_eq_hide, read p hp, read q hq]
  cases front with
  | none => simp
  | some found =>
    show text _ = text _ ↔ _
    rw [hide, hide, text_inj_query, query_inj, String.toList_inj]
    simp

/-! ## What the database reads of a parameter -/

theorem splitAll_append_separator (sep : Char) (xs ys : List Char) :
    splitAll sep (xs ++ sep :: ys) = splitAll sep xs ++ splitAll sep ys := by
  induction xs with
  | nil => exact splitAll_append List.not_mem_nil ys
  | cons c xs ih =>
    rw [List.cons_append, splitAll, splitAll, ih]
    obtain ⟨part, parts, heq⟩ := List.exists_cons_of_ne_nil (splitAll_ne_nil sep xs)
    rw [heq]
    dsimp only [List.cons_append]
    split <;> rfl

/-- What stands between two separators, or between one and an end, is one of the parts. -/
theorem mem_splitAll_between {sep : Char} {front part back : List Char} (free : sep ∉ part)
    (hfront : front = [] ∨ ∃ xs, front = xs ++ [sep]) (hback : back = [] ∨ ∃ ys, back = sep :: ys) :
    part ∈ splitAll sep (front ++ (part ++ back)) := by
  have first : part ∈ splitAll sep (part ++ back) := by
    rcases hback with rfl | ⟨ys, rfl⟩
    · rw [List.append_nil, splitAll_of_not_mem free]
      exact List.mem_singleton_self part
    · rw [splitAll_append free]
      exact List.mem_cons_self
  rcases hfront with rfl | ⟨xs, rfl⟩
  · exact first
  · rw [List.append_assoc, List.singleton_append, splitAll_append_separator]
    exact List.mem_append_right _ first

/-- A character of no escape stands in an escaped text only where it stood before. -/
theorem not_mem_percentEncode {set : Char → Bool} {cs : List Char} {c : Char} (h : c ∉ cs) (plain : c ≠ '%')
    (digit : ∀ d < 16, c ≠ hexChar true d) : c ∉ percentEncode set cs := by
  intro hc
  rcases mem_percentEncode hc with ⟨hc, -⟩ | rfl | ⟨d, hd, rfl⟩
  · exact h hc
  · exact plain rfl
  · exact digit d hd rfl

/-- The database finds the password among the parameters. -/
theorem password_mem_queryPairs (s : ParameterSpot) {p : List Char} (hp : IsSecret p) :
    ("password", queryText p) ∈ queryPairs (s.query p) := by
  let part := percentEncode (inQuery .other) s.name ++ '=' :: p
  have nameFree : '&' ∉ percentEncode (inQuery .other) s.name ∧ '=' ∉ percentEncode (inQuery .other) s.name :=
    ⟨not_mem_percentEncode s.name_plain.2.1 (by decide) (by decide),
      not_mem_percentEncode s.name_plain.2.2 (by decide) (by decide)⟩
  have free : '&' ∉ part := by
    have secret : '&' ∉ p := fun hc => (isSecretChar_facts (hp.chars _ hc)).2.2.2.1 rfl
    simp [part, nameFree.1, secret]
  have text : (s.query p).toList = percentEncode (inQuery .other) s.params ++
      (part ++ percentEncode (inQuery .other) s.more) := by
    have equals : percentEncode (inQuery .other) ['='] = ['='] := by decide
    rw [ParameterSpot.query, String.toList_ofList, ParameterSpot.lead, percentEncode_append, percentEncode_append, equals]
    simp [part]
  have ampersand : percentEncode (inQuery .other) ['&'] = ['&'] := by decide
  have front : percentEncode (inQuery .other) s.params = [] ∨
      ∃ xs, percentEncode (inQuery .other) s.params = xs ++ ['&'] := by
    rcases s.params_end with h | ⟨others, h⟩
    · exact .inl (by rw [h]; rfl)
    · exact .inr ⟨_, by rw [h, percentEncode_append, ampersand]⟩
  have back : percentEncode (inQuery .other) s.more = [] ∨
      ∃ ys, percentEncode (inQuery .other) s.more = '&' :: ys := by
    rcases s.more_begin with h | ⟨others, h⟩
    · exact .inl (by rw [h]; rfl)
    · exact .inr ⟨percentEncode (inQuery .other) others,
        by rw [h, ← List.singleton_append, percentEncode_append, ampersand]; rfl⟩
  refine List.mem_map.2 ⟨part, List.mem_filter.2 ⟨?_, by simp [part]⟩, ?_⟩
  · rw [text]
    exact mem_splitAll_between free front back
  · rw [splitFirst_append nameFree.2]
    dsimp only
    rw [s.named]

/-- Two texts that differ in a password only are shown as the same text if the password stands in
the credentials. If it stands in a parameter that the database reads as the password, they are shown
as different texts, unless the passwords are the same or the texts are no URLs. -/
theorem redacted_same_iff {before behind p q : String} (hp : IsSecret p.toList) (hq : IsSecret q.toList) :
    (∀ s : UserinfoSpot, countedBefore before.toList = s.before → countedBehind behind.toList = s.behind →
      redact (before ++ p ++ behind) = redact (before ++ q ++ behind)) ∧
    ∀ s : ParameterSpot, countedBefore before.toList = s.before → countedBehind behind.toList = s.behind →
      (redact (before ++ p ++ behind) = redact (before ++ q ++ behind) ↔
        p = q ∨ parse (before ++ p ++ behind) = none) ∧
      ∀ u, parse (before ++ p ++ behind) = some u →
        ("password", queryText p.toList) ∈ queryPairs (u.query.getD "") := by
  refine ⟨fun s hbefore hbehind => redact_userinfo s hbefore hbehind hp hq,
    fun s hbefore hbehind => ⟨redact_parameter s hbefore hbehind hp hq, fun u hu => ?_⟩⟩
  obtain ⟨front, read⟩ := parse_parameter s hbefore hbehind
  rw [read p hp] at hu
  obtain ⟨found, -, rfl⟩ := Option.map_eq_some_iff.1 hu
  exact password_mem_queryPairs s hp

/-- Of two passwords in credentials, one with an escape, nothing is shown. -/
theorem credentials_shown_alike :
    IsSecret "first".toList ∧ IsSecret "sec%20ond".toList ∧
      redact " postgres://me:first@db/app" = redact " postgres://me:sec%20ond@db/app" ∧
      redact " postgres://me:first@db/app" = "postgres://me:***@db/app" := by
  have first : IsSecret "first".toList := ⟨by decide, List.all_eq_true.1 (by decide)⟩
  have second : IsSecret "sec%20ond".toList := ⟨by decide, List.all_eq_true.1 (by decide)⟩
  let spot : UserinfoSpot :=
    ⟨"postgres".toList, "me".toList, "db/app".toList, by unfold IsPostgres; decide,
      List.forall_mem_cons.2 ⟨by decide, List.forall_mem_singleton.2 (by decide)⟩⟩
  have alike : redact (" postgres://me:" ++ "first" ++ "@db/app") = redact (" postgres://me:" ++ "sec%20ond" ++ "@db/app") :=
    (redacted_same_iff first second).1 spot (by decide) (by decide)
  exact ⟨first, second, alike, by decide⟩

/-- A password in a parameter is the one the database gets, and is shown. -/
theorem parameter_password_shown :
    (connectOptions ⟨10, 30⟩ "postgres://me@db/app?password=first").toOption.bind (·.password) = some "first" ∧
      redact "postgres://me@db/app?password=first" = "postgres://me@db/app?password=first" ∧
    (connectOptions ⟨10, 30⟩ "postgres://me@db/app?password=second").toOption.bind (·.password) = some "second" ∧
      redact "postgres://me@db/app?password=second" = "postgres://me@db/app?password=second" := by
  decide +kernel

end QueryGateway.Url
