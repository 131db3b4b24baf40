import QueryGateway.Proofs.Url.Normal

/-!
# Redaction

The text of a URL in its usual form reads back as the URL. So what is shown instead of a URL is a
URL again, with nothing changed but the password, and showing it twice does not change it.
-/

namespace QueryGateway.Url

open Text

variable {kind : Kind} {scheme : String} {authority : Option Authority} {path : Path} {query fragment : Option String}

/-! ## The text of a URL -/

theorem toList_text (u : Url) :
    u.text.toList = u.scheme.toList ++
      ':' :: ((frontText u.authority u.path).toList ++ (u.path.text.toList ++ tailText u.query u.fragment)) := by
  obtain ⟨scheme, authority, path, query, fragment⟩ := u
  cases query <;> cases fragment <;> simp [text, tailText]

theorem segment_chars {s : String} (h : IsSegment kind s) :
    ∀ c ∈ s.toList, isVisible c = true ∧ endsPath c = false := by
  intro c hc
  obtain ⟨ascii, plain⟩ := h.escaped c hc
  exact forall_ascii (P := fun c => inPath c = false → isVisible c = true ∧ endsPath c = false)
    (by decide) ascii plain

theorem segmentsText_chars {parts : List String} (h : ∀ s ∈ parts, IsSegment kind s) :
    ∀ c ∈ segmentsText parts, isVisible c = true ∧ endsPath c = false := by
  intro c hc
  rcases mem_segmentsText hc with rfl | ⟨s, hs, hc⟩
  · decide
  · exact segment_chars (h s hs) c hc

theorem segments_chars {parts : List String} (h : ∀ s ∈ parts, IsSegment kind s) :
    ∀ c ∈ (Path.segments parts).text.toList, isVisible c = true ∧ endsPath c = false := by
  cases parts with
  | nil => exact nofun
  | cons part parts =>
    intro c hc
    rw [toList_segments] at hc
    rcases List.mem_cons.1 hc with rfl | hc
    · decide
    · exact segmentsText_chars h c hc

theorem toList_fileAuthority (host : String) : (Authority.text ⟨"", "", host, none⟩).toList = host.toList := by
  rw [Authority.toList_text]
  exact List.append_nil _

theorem isVisible_of_isPlaceChar {c : Char} (h : isPlaceChar c = true) : isVisible c = true := by
  simp only [isPlaceChar, Bool.and_eq_true] at h
  exact h.1

theorem Authority.Normal.visible {a : Authority} (h : a.Normal kind) : ∀ c ∈ a.text.toList, isVisible c = true := by
  intro c hc
  rcases h.text_chars c hc with place | rfl
  · exact isVisible_of_isPlaceChar place
  · decide

/-- Without an authority there is nothing in front of the path, but a dot in front of two slashes. -/
theorem frontText_none (path : Path) :
    (frontText none path = "" ∧ ∀ next parts, path ≠ .segments ("" :: next :: parts)) ∨
      ((∃ next parts, path = .segments ("" :: next :: parts)) ∧ frontText none path = "/.") := by
  rw [frontText.eq_def]
  split
  · next absent => cases absent
  · exact .inr ⟨⟨_, _, rfl⟩, rfl⟩
  · next other => exact .inl ⟨rfl, fun next parts heq => other next parts heq⟩

/-- What stands between the scheme's colon and the query counts as a whole, if it is not opaque. -/
theorem Fits.chars (h : Fits kind authority path) :
    (∀ c ∈ (frontText authority path).toList ++ path.text.toList, isVisible c = true) ∨
      ∃ text, authority = none ∧ path = .opaquely text ∧ Escaped isControl text.toList := by
  have behind : ∀ {a : Authority} {parts : List String}, (∀ c ∈ a.text.toList, isVisible c = true) →
      (∀ s ∈ parts, IsSegment kind s) →
      ∀ c ∈ (frontText (some a) (.segments parts)).toList ++ (Path.segments parts).text.toList,
        isVisible c = true := by
    intro a parts own segments c hc
    rcases List.mem_append.1 hc with hc | hc
    · rw [frontText, String.toList_append] at hc
      rcases List.mem_append.1 hc with hc | hc
      · have slash : c ∈ ['/', '/'] := hc
        obtain rfl : c = '/' := by simpa using slash
        rfl
      · exact own c hc
    · exact (segments_chars segments c hc).1
  cases h with
  | web normal segments ne => exact .inl (behind normal.visible segments)
  | file isHost segments ne first =>
    refine .inl (behind (fun c hc => ?_) segments)
    rw [toList_fileAuthority] at hc
    rcases isHost with rfl | ⟨isHost, -⟩
    · cases hc
    · exact isVisible_of_isPlaceChar (isHost.chars c hc)
  | behind normal segments => exact .inl (behind normal.visible segments)
  | rooted segments ne =>
    refine .inl fun c hc => ?_
    rcases List.mem_append.1 hc with hc | hc
    · rcases frontText_none (.segments _) with ⟨front, -⟩ | ⟨-, front⟩
      · rw [front] at hc
        cases hc
      · rw [front] at hc
        have dot : c ∈ ['/', '.'] := hc
        obtain rfl | rfl : c = '/' ∨ c = '.' := by simpa using dot
        · rfl
        · rfl
    · exact (segments_chars segments c hc).1
  | opaquely escaped free slash => exact .inr ⟨_, rfl, rfl, escaped⟩

/-! ## Nothing of the text is cut off -/

theorem significant_eq {s : String} (first : ∀ c ∈ s.toList.head?, isVisible c = true)
    (last : ∀ c ∈ s.toList.getLast?, isVisible c = true) (plain : ∀ c ∈ s.toList, 0x20 ≤ c.toNat) :
    significant s = s.toList := by
  have edge : ∀ c, isVisible c = true → decide (c.toNat ≤ 0x20) = false := by
    intro c hc
    simp only [isVisible, decide_eq_true_eq] at hc
    simpa using hc
  have kept : ∀ cs : List Char, (∀ c ∈ cs.head?, isVisible c = true) →
      cs.dropWhile (fun c => decide (c.toNat ≤ 0x20)) = cs := by
    intro cs hcs
    cases cs with
    | nil => rfl
    | cons c cs => exact List.dropWhile_cons_of_neg (by simpa using edge c (hcs c rfl))
  have front := kept s.toList first
  have back := kept s.toList.reverse fun c hc => last c (by rwa [List.head?_reverse] at hc)
  unfold significant
  dsimp only
  rw [front, back, List.reverse_reverse, List.filter_eq_self]
  intro c hc
  have := plain c hc
  simp only [Bool.and_eq_true, bne_iff_ne]
  refine ⟨⟨?_, ?_⟩, ?_⟩ <;> rintro rfl <;> exact absurd this (by decide)

theorem eq_none_of_tailText (h : tailText query fragment = []) : query = none ∧ fragment = none := by
  unfold tailText at h
  cases query with
  | none =>
    cases fragment with
    | none => exact ⟨rfl, rfl⟩
    | some f => cases h
  | some q => cases h

theorem significant_text {u : Url} (h : Normal u) : significant u.text = u.text.toList := by
  have tail := tailText_visible h.tail
  have large : ∀ c, isVisible c = true → 0x20 ≤ c.toNat := fun c hc => by
    simp only [isVisible, decide_eq_true_eq] at hc
    omega
  have scheme : ∀ c ∈ u.scheme.toList, isVisible c = true := fun c hc =>
    (isSchemeChar_facts (h.scheme.chars c hc).1).1
  have first : ∀ c ∈ u.text.toList.head?, isVisible c = true := by
    obtain ⟨c, rest, front, -⟩ := h.scheme.first
    intro d hd
    rw [toList_text, front] at hd
    cases hd
    exact scheme c (by rw [front]; exact List.mem_cons_self)
  rcases h.fits.chars with visible | ⟨text, authority, path, escaped⟩
  · have all : ∀ c ∈ u.text.toList, isVisible c = true := by
      intro c hc
      rw [toList_text, ← List.append_assoc (frontText _ _).toList] at hc
      rcases List.mem_append.1 hc with hc | hc
      · exact scheme c hc
      · rcases List.mem_cons.1 hc with rfl | hc
        · decide
        · rcases List.mem_append.1 hc with hc | hc
          · exact visible c hc
          · exact tail c hc
    exact significant_eq first (fun c hc => all c (List.mem_of_getLast? hc)) fun c hc => large c (all c hc)
  · -- An opaque path may hold blanks, but what ends the text is a character that counts.
    have whole : u.text.toList = (u.scheme.toList ++ ':' :: text.toList) ++ tailText u.query u.fragment := by
      rw [toList_text, authority, path, List.append_assoc]
      rfl
    refine significant_eq first (fun c hc => ?_) fun c hc => ?_
    · rw [whole, List.getLast?_append] at hc
      cases hlast : (tailText u.query u.fragment).getLast? with
      | some d =>
        rw [hlast] at hc
        cases hc
        exact tail c (List.mem_of_getLast? hlast)
      | none =>
        obtain ⟨noQuery, noFragment⟩ := eq_none_of_tailText (List.getLast?_eq_none_iff.1 hlast)
        have last := h.last text path noQuery noFragment
        rw [hlast, Option.none_or, List.getLast?_append, List.getLast?_cons] at hc
        cases htext : text.toList.getLast? with
        | none =>
          rw [htext] at hc
          cases hc
          decide
        | some d =>
          rw [htext] at hc last
          exact last c hc
    · rw [whole] at hc
      rcases List.mem_append.1 hc with hc | hc
      · rcases List.mem_append.1 hc with hc | hc
        · exact large c (scheme c hc)
        · rcases List.mem_cons.1 hc with rfl | hc
          · decide
          · have uncontrolled := (escaped c hc).2
            simp only [isControl, Bool.or_eq_false_iff, decide_eq_false_iff_not] at uncontrolled
            exact Nat.le_of_not_lt uncontrolled.1
      · exact large c (tail c hc)

/-! ## The parts read back -/

/-- A URL behind its scheme, by the kind of the scheme. -/
def readRest (kind : Kind) (scheme : String) (rest : List Char) : Option Url :=
  match kind with
  | .web usual => readBehindSlashes (.web usual) scheme (rest.dropWhile isSlash)
  | .file => readFile rest
  | .other =>
    match rest with
    | '/' :: '/' :: rest => readBehindSlashes .other scheme rest
    | '/' :: rest => some (withRest .other scheme none (fun cs => .segments (readSegments .other cs)) rest)
    | rest => some (withRest .other scheme none (fun cs => .opaquely (escape isControl cs)) rest)

theorem parse_eq (s : String) :
    parse s = (splitScheme (significant s)).bind fun (scheme, rest) => readRest (kindOf scheme) scheme rest := rfl

theorem endsAuthority_of_isPlaceChar {c : Char} (h : isPlaceChar c = true ∨ c = '@') :
    endsAuthority kind c = false := by
  rcases h with h | rfl
  · simp only [isPlaceChar, Bool.and_eq_true, Bool.not_eq_true', List.contains_eq_mem, decide_eq_false_iff_not,
      List.mem_cons, List.not_mem_nil, or_false, not_or] at h
    obtain ⟨-, slash, question, hash, back, -⟩ := h
    simp [endsAuthority, slash, question, hash, back]
  · cases kind <;> rfl

theorem isSlash_of_isPlaceChar {c : Char} (h : isPlaceChar c = true) : isSlash c = false := by
  have ends : endsAuthority .file c = false := endsAuthority_of_isPlaceChar (.inl h)
  simp only [endsAuthority, Kind.backslash, Bool.true_and, Bool.or_eq_false_iff] at ends
  rw [isSlash, ends.1.1.1, ends.2]
  rfl

/-- What follows an authority ends it. -/
theorem path_endsAuthority (parts : List String) :
    ∀ c ∈ ((Path.segments parts).text.toList ++ tailText query fragment).head?, endsAuthority kind c = true := by
  cases parts with
  | nil =>
    intro c hc
    have ends := tailText_stops query fragment c hc
    simp only [endsPath, Bool.or_eq_true, beq_iff_eq] at ends
    rcases ends with rfl | rfl <;> rfl
  | cons part parts =>
    intro c hc
    rw [toList_segments] at hc
    cases hc
    rfl

/-- An authority goes up to the first character that ends it. -/
theorem takeWhile_authority {cs rest : List Char} (inside : ∀ c ∈ cs, endsAuthority kind c = false)
    (behind : ∀ c ∈ rest.head?, endsAuthority kind c = true) :
    (cs ++ rest).takeWhile (!endsAuthority kind ·) = cs ∧ (cs ++ rest).dropWhile (!endsAuthority kind ·) = rest := by
  refine takeWhile_stops (fun c hc => ?_) fun c hc => ?_
  · rw [inside c hc]
    rfl
  · rw [behind c hc]
    rfl

theorem readBehindSlashes_text {a : Authority} (h : a.Normal kind) {rest : List Char}
    (stops : ∀ c ∈ rest.head?, endsAuthority kind c = true) :
    readBehindSlashes kind scheme (a.text.toList ++ rest) =
      some (withRest kind scheme (some a) (if kind.backslash then webPath kind else otherPath kind) rest) := by
  obtain ⟨take, drop⟩ := takeWhile_authority (fun c hc => endsAuthority_of_isPlaceChar (h.text_chars c hc)) stops
  unfold readBehindSlashes
  dsimp only
  rw [take, drop, readAuthority_text h]
  rfl

/-- The path of segments behind an authority. -/
theorem withRest_segments {path : List Char → Path} {parts : List String} (tail : IsTail kind query fragment)
    (segments : ∀ s ∈ parts, IsSegment kind s)
    (back : path (Path.segments parts).text.toList = .segments parts) :
    withRest kind scheme authority path ((Path.segments parts).text.toList ++ tailText query fragment) =
      ⟨scheme, authority, .segments parts, query, fragment⟩ := by
  rw [withRest_append tail fun c hc => (segments_chars segments c hc).2, back]

theorem webPath_text {parts : List String} (segments : ∀ s ∈ parts, IsSegment kind s) (ne : parts ≠ []) :
    webPath kind (Path.segments parts).text.toList = .segments parts := by
  cases parts with
  | nil => exact absurd rfl ne
  | cons part parts =>
    rw [toList_segments]
    exact congrArg Path.segments (readSegments_segmentsText segments ne)

theorem otherPath_text {parts : List String} (segments : ∀ s ∈ parts, IsSegment kind s) :
    otherPath kind (Path.segments parts).text.toList = .segments parts := by
  cases parts with
  | nil => rfl
  | cons part parts =>
    rw [toList_segments]
    exact congrArg Path.segments (readSegments_segmentsText segments (List.cons_ne_nil _ _))

theorem filePath_text {parts : List String} (segments : ∀ s ∈ parts, IsSegment .file s) (ne : parts ≠ [])
    (first : parts = [""] ∨ parts.head? ≠ some "") :
    filePath (Path.segments parts).text.toList = .segments parts := by
  cases parts with
  | nil => exact absurd rfl ne
  | cons part parts =>
    have back := readSegments_segmentsText segments ne
    rw [toList_segments]
    unfold filePath
    dsimp only
    rw [if_pos (by decide), back]
    rcases first with first | first
    · cases first
      rfl
    · have named : (part == "") = false := by
        rw [beq_eq_false_iff_ne]
        exact fun empty => first (congrArg some empty)
      rw [List.dropWhile_cons, named]
      rfl

theorem fileHost_text {host : String} (h : IsFileHost host) : fileHost host.toList = some host := by
  rcases h with rfl | ⟨isHost, back, other⟩
  · rfl
  · unfold fileHost
    rw [if_neg (by simpa using isHost.ne_nil), back, Option.map_some, if_neg (by simpa using other)]

theorem readFile_text {host : String} (h : IsFileHost host) {rest : List Char}
    (stops : ∀ c ∈ rest.head?, endsAuthority .file c = true) :
    readFile ('/' :: '/' :: (host.toList ++ rest)) =
      some (withRest .file "file" (some ⟨"", "", host, none⟩) filePath rest) := by
  have own : ∀ c ∈ host.toList, isPlaceChar c = true := by
    rcases h with rfl | ⟨isHost, -⟩
    · exact nofun
    · exact isHost.chars
  obtain ⟨take, drop⟩ := takeWhile_authority (fun c hc => endsAuthority_of_isPlaceChar (.inl (own c hc))) stops
  unfold readFile
  dsimp only
  rw [if_pos (by decide), take, drop, fileHost_text h]
  rfl

theorem readRest_web (usual : Nat) (rest : List Char) :
    readRest (.web usual) scheme rest = readBehindSlashes (.web usual) scheme (rest.dropWhile isSlash) := rfl

theorem readRest_file (rest : List Char) : readRest .file scheme rest = readFile rest := rfl

theorem readRest_behind (rest : List Char) :
    readRest .other scheme ('/' :: '/' :: rest) = readBehindSlashes .other scheme rest := rfl

theorem readRest_slash {cs : List Char} (h : cs.head? ≠ some '/') :
    readRest .other scheme ('/' :: cs) =
      some (withRest .other scheme none (fun cs => .segments (readSegments .other cs)) cs) := by
  rw [readRest.eq_def]
  dsimp only
  split
  · next heq =>
    cases heq
    exact absurd rfl h
  · next heq =>
    cases heq
    rfl
  · next other => exact absurd rfl (other cs)

theorem readRest_plain {cs : List Char} (h : cs.head? ≠ some '/') :
    readRest .other scheme cs =
      some (withRest .other scheme none (fun cs => .opaquely (escape isControl cs)) cs) := by
  rw [readRest.eq_def]
  dsimp only
  split
  · exact absurd rfl h
  · exact absurd rfl h
  · rfl

/-- Segments behind a scheme without an authority. A dot keeps two slashes in front apart. -/
theorem readRest_rooted {parts : List String} (tail : IsTail .other query fragment)
    (segments : ∀ s ∈ parts, IsSegment .other s) (ne : parts ≠ []) :
    readRest .other scheme ((frontText none (.segments parts)).toList ++
        ((Path.segments parts).text.toList ++ tailText query fragment)) =
      some ⟨scheme, none, .segments parts, query, fragment⟩ := by
  have free : ∀ c ∈ segmentsText parts, endsPath c = false := fun c hc => (segmentsText_chars segments c hc).2
  cases parts with
  | nil => exact absurd rfl ne
  | cons part parts =>
    rw [toList_segments]
    rcases frontText_none (.segments (part :: parts)) with ⟨front, single⟩ | ⟨⟨next, rest, heq⟩, front⟩
    · rw [front]
      show readRest .other scheme ('/' :: (segmentsText (part :: parts) ++ tailText query fragment)) = _
      have slash : (segmentsText (part :: parts) ++ tailText query fragment).head? ≠ some '/' := by
        intro first
        cases hpart : part.toList with
        | nil =>
          cases parts with
          | nil =>
            rw [segmentsText, List.map_singleton, List.intercalate_singleton, hpart] at first
            exact absurd (tailText_stops query fragment _ first) (by decide)
          | cons next rest => exact single next rest (by rw [String.toList_eq_nil_iff.1 hpart])
        | cons c cs =>
          have head : (segmentsText (part :: parts)).head? = some c := by
            cases parts with
            | nil => rw [segmentsText, List.map_singleton, List.intercalate_singleton, hpart]; rfl
            | cons next rest =>
              rw [segmentsText, List.map_cons, List.map_cons, List.intercalate_cons_cons, hpart]
              rfl
          rw [List.head?_append, head] at first
          cases first
          exact (segments part List.mem_cons_self).slash (by rw [hpart]; exact List.mem_cons_self)
      rw [readRest_slash slash, withRest_append tail free, readSegments_segmentsText segments ne]
    · cases heq
      rw [front]
      show readRest .other scheme ('/' :: (segmentsText ("." :: "" :: next :: rest) ++ tailText query fragment)) = _
      have dotted : ∀ c ∈ segmentsText ("." :: "" :: next :: rest), endsPath c = false := by
        intro c hc
        rcases mem_segmentsText hc with rfl | ⟨s, hs, hc⟩
        · rfl
        · rcases List.mem_cons.1 hs with rfl | hs
          · rw [List.mem_singleton.1 hc]
            rfl
          · exact (segment_chars (segments s hs) c hc).2
      have dot : (segmentsText ("." :: "" :: next :: rest) ++ tailText query fragment).head? ≠ some '/' := by
        show some '.' ≠ some '/'
        decide
      rw [readRest_slash dot, withRest_append tail dotted, readSegments_dot segments ne]

/-- An opaque path behind its scheme. -/
theorem readRest_opaquely {text : String} (tail : IsTail .other query fragment) (escaped : Escaped isControl text.toList)
    (free : ∀ c ∈ text.toList, endsPath c = false) (slash : text.toList.head? ≠ some '/') :
    readRest .other scheme (text.toList ++ tailText query fragment) =
      some ⟨scheme, none, .opaquely text, query, fragment⟩ := by
  have first : (text.toList ++ tailText query fragment).head? ≠ some '/' := by
    cases htext : text.toList with
    | nil =>
      intro first
      exact absurd (tailText_stops query fragment _ first) (by decide)
    | cons c cs =>
      rw [htext] at slash
      exact slash
  rw [readRest_plain first, withRest_append tail free, escape_of_escaped escaped]

/-- What stands behind the scheme of a URL in its usual form reads back. -/
theorem Fits.read (h : Fits kind authority path) (tail : IsTail kind query fragment)
    (file : kind = .file → scheme = "file") :
    readRest kind scheme ((frontText authority path).toList ++ (path.text.toList ++ tailText query fragment)) =
      some ⟨scheme, authority, path, query, fragment⟩ := by
  have slashes : ∀ (a : Authority) (path : Path) (cs : List Char),
      (frontText (some a) path).toList ++ cs = '/' :: '/' :: (a.text.toList ++ cs) := by
    intro a path cs
    rw [frontText, String.toList_append]
    rfl
  cases h with
  | @web usual a parts normal segments ne =>
    -- The authority of the web has a host, so the slashes in front of it end there.
    have stops : ∀ c ∈ (a.text.toList ++ ((Path.segments parts).text.toList ++ tailText query fragment)).head?,
        isSlash c = false := by
      intro c hc
      cases htext : a.text.toList with
      | nil =>
        rcases normal.place with ⟨host, -⟩ | ⟨unwebby, -⟩
        · rw [Authority.toList_text] at htext
          exact absurd (List.append_eq_nil_iff.1 (List.append_eq_nil_iff.1 htext).2).1 host.ne_nil
        · cases unwebby
      | cons d ds =>
        rw [htext] at hc
        cases hc
        rcases normal.text_chars c (by rw [htext]; exact List.mem_cons_self) with place | rfl
        · exact isSlash_of_isPlaceChar place
        · rfl
    have two : ∀ c ∈ ['/', '/'], isSlash c = true := by simp [isSlash]
    have drop : ∀ cs : List Char, (∀ c ∈ cs.head?, isSlash c = false) → ('/' :: '/' :: cs).dropWhile isSlash = cs :=
      fun cs hcs => (takeWhile_stops two hcs).2
    rw [slashes, readRest_web, drop _ stops, readBehindSlashes_text normal (path_endsAuthority _)]
    show some (withRest (.web usual) scheme _ (webPath (.web usual)) _) = _
    rw [withRest_segments tail segments (webPath_text segments ne)]
  | file isHost segments ne first =>
    cases file rfl
    rw [slashes, toList_fileAuthority, readRest_file, readFile_text isHost (path_endsAuthority _),
      withRest_segments tail segments (filePath_text segments ne first)]
  | behind normal segments =>
    rw [slashes, readRest_behind, readBehindSlashes_text normal (path_endsAuthority _)]
    show some (withRest .other scheme _ (otherPath .other) _) = _
    rw [withRest_segments tail segments (otherPath_text segments)]
  | rooted segments ne => exact readRest_rooted tail segments ne
  | opaquely escaped free slash => exact readRest_opaquely tail escaped free slash

/-- The text of a URL in its usual form reads back as the URL. -/
theorem parse_text {u : Url} (h : Normal u) : parse u.text = some u := by
  rw [parse_eq, significant_text h, toList_text, splitScheme_append h.scheme, Option.bind_some]
  exact h.fits.read h.tail eq_file_of_kindOf

/-! ## Redaction -/

theorem Authority.redact_eq (a : Authority) :
    a.redact = { a with password := if a.password = "" then "" else "***" } := by
  unfold Authority.redact
  by_cases secret : a.password = ""
  · rw [if_pos (by simpa using secret), if_pos secret, ← secret]
  · rw [if_neg (by simpa using secret), if_neg secret]

/-- What is hidden stays hidden. -/
theorem Authority.redact_redact (a : Authority) : a.redact.redact = a.redact := by
  rw [Authority.redact_eq a, Authority.redact_eq]
  by_cases secret : a.password = ""
  · simp [secret]
  · simp [secret]

/-- What is shown for a URL is the text of the URL with its password hidden, and reads back. -/
theorem parse_redact {raw : String} {u : Url} (h : parse raw = some u) :
    redact raw = { u with authority := u.authority.map Authority.redact }.text ∧
      parse (redact raw) = some { u with authority := u.authority.map Authority.redact } := by
  have shown : redact raw = { u with authority := u.authority.map Authority.redact }.text := by
    rw [redact, h]
  refine ⟨shown, ?_⟩
  rw [shown]
  exact parse_text (normal_of_parse h).redact

/-- A text that is no URL is not shown at all. What is shown for a URL is a URL that differs from it
in the password at most, and redaction does not change what is shown. -/
theorem redact_hides_password_only (raw : String) :
    (parse raw = none → redact raw = "<unparseable url>") ∧
    (∀ u, parse raw = some u → ∃ v, parse (redact raw) = some v ∧
      v.scheme = u.scheme ∧
      v.authority = u.authority.map (fun a => { a with password := if a.password = "" then "" else "***" }) ∧
      v.path = u.path ∧ v.query = u.query ∧ v.fragment = u.fragment) ∧
    redact (redact raw) = redact raw := by
  have masked : Authority.redact = fun a => { a with password := if a.password = "" then "" else "***" } :=
    funext Authority.redact_eq
  have twice : Authority.redact ∘ Authority.redact = Authority.redact := funext Authority.redact_redact
  refine ⟨fun none => ?_, fun u hu => ?_, ?_⟩
  · rw [redact, none]
    rfl
  · refine ⟨_, (parse_redact hu).2, rfl, ?_, rfl, rfl, rfl⟩
    rw [← masked]
  · cases hraw : parse raw with
    | none =>
      have shown : redact raw = unparseable := by rw [redact, hraw]
      rw [shown]
      rfl
    | some u =>
      obtain ⟨shown, back⟩ := parse_redact hraw
      rw [(parse_redact back).1, shown, Option.map_map, twice]

/-- The last at sign ends the credentials, and the first colon the user name. -/
example : redact "postgres://me:p@s:s@db:5432/app#x" = "postgres://me:***@db:5432/app#x" := by decide

end QueryGateway.Url
