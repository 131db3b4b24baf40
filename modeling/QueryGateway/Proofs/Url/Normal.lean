import QueryGateway.Proofs.Url.Authorities
import QueryGateway.Proofs.Url.Paths

/-!
# URLs in their usual form

A URL that is read is in its usual form, and the text of a URL in its usual form reads back as
it. What differs from one kind of scheme to another is how authority and path fit together.
-/

namespace QueryGateway.Url

open Text

variable {kind : Kind}

/-- A character of printed text that counts: none that is cut off at the ends. -/
def isVisible (c : Char) : Bool := 0x20 < c.toNat

/-! ## Query and fragment -/

theorem sparesEscapes_inFragment : SparesEscapes inFragment := ⟨by decide, by decide⟩

/-- Only the apostrophe makes a difference between the kinds. -/
theorem inQuery_cases (kind : Kind) : inQuery kind = inQuery .file ∨ inQuery kind = inQuery .other := by
  cases kind with
  | web usual => exact .inl rfl
  | file => exact .inl rfl
  | other => exact .inr rfl

theorem sparesEscapes_inQuery (kind : Kind) : SparesEscapes (inQuery kind) := by
  rcases inQuery_cases kind with h | h
  · rw [h]
    exact ⟨by decide, by decide⟩
  · rw [h]
    exact ⟨by decide, by decide⟩

/-- What a query leaves unescaped does not end it. -/
theorem isQueryChar {c : Char} (ascii : c.toNat < 0x80) (h : inQuery kind c = false) : isVisible c = true ∧ c ≠ '#' := by
  rcases inQuery_cases kind with heq | heq
  · rw [heq] at h
    exact forall_ascii (P := fun c => inQuery .file c = false → isVisible c = true ∧ c ≠ '#') (by decide) ascii h
  · rw [heq] at h
    exact forall_ascii (P := fun c => inQuery .other c = false → isVisible c = true ∧ c ≠ '#') (by decide) ascii h

/-- The text of query and fragment. -/
def tailText (query fragment : Option String) : List Char :=
  (match query with | some q => '?' :: q.toList | none => []) ++
    (match fragment with | some f => '#' :: f.toList | none => [])

/-- Query and fragment as they are kept. -/
structure IsTail (kind : Kind) (query fragment : Option String) : Prop where
  query : ∀ q, query = some q → Escaped (inQuery kind) q.toList
  fragment : ∀ f, fragment = some f → Escaped inFragment f.toList

theorem isTail_readTail (kind : Kind) (cs : List Char) : IsTail kind (readTail kind cs).1 (readTail kind cs).2 := by
  have query : ∀ cs q, some (escape (inQuery kind) cs) = some q → Escaped (inQuery kind) q.toList := by
    rintro cs q h
    cases h
    exact escaped_escape (sparesEscapes_inQuery kind) cs
  have fragment : ∀ cs f, some (escape inFragment cs) = some f → Escaped inFragment f.toList := by
    rintro cs f h
    cases h
    exact escaped_escape sparesEscapes_inFragment cs
  unfold readTail
  cases splitFirst '#' cs with
  | none =>
    dsimp only
    split
    · exact ⟨query _, nofun⟩
    · exact ⟨nofun, nofun⟩
  | some parts =>
    dsimp only
    split
    · exact ⟨query _, fragment _⟩
    · exact ⟨nofun, fragment _⟩

/-- Query and fragment read back. -/
theorem readTail_tailText {query fragment : Option String} (h : IsTail kind query fragment) :
    readTail kind (tailText query fragment) = (query, fragment) := by
  have queryBack : ∀ q, query = some q → escape (inQuery kind) q.toList = q := fun q hq =>
    escape_of_escaped (h.query q hq)
  have fragmentBack : ∀ f, fragment = some f → escape inFragment f.toList = f := fun f hf =>
    escape_of_escaped (h.fragment f hf)
  have hashless : '#' ∉ (match query with | some q => '?' :: q.toList | none => []) := by
    cases hq : query with
    | none => exact List.not_mem_nil
    | some q =>
      intro hash
      rcases List.mem_cons.1 hash with hash | hash
      · exact absurd hash (by decide)
      · obtain ⟨ascii, plain⟩ := h.query q hq '#' hash
        exact (isQueryChar ascii plain).2 rfl
  unfold tailText readTail
  cases fragment with
  | none =>
    dsimp only
    rw [List.append_nil, splitFirst_of_not_mem hashless]
    cases query with
    | none => rfl
    | some q => exact congrArg (fun t => (some t, none)) (queryBack q rfl)
  | some f =>
    dsimp only
    rw [splitFirst_append hashless]
    dsimp only
    rw [fragmentBack f rfl]
    cases query with
    | none => rfl
    | some q => exact congrArg (fun t => (some t, some f)) (queryBack q rfl)

/-- Query and fragment begin with a character that ends the path. -/
theorem tailText_stops (query fragment : Option String) :
    ∀ c ∈ (tailText query fragment).head?, endsPath c = true := by
  unfold tailText
  cases query <;> cases fragment <;> rintro c hc <;> cases hc <;> rfl

/-- A tail that begins with the end of a path is a query or a fragment, if it is there at all. -/
theorem eq_nil_of_readTail {cs : List Char} (stops : ∀ c ∈ cs.head?, endsPath c = true)
    (h : readTail kind cs = (none, none)) : cs = [] := by
  cases cs with
  | nil => rfl
  | cons c cs =>
    have ends : endsPath c = true := stops c rfl
    simp only [endsPath, Bool.or_eq_true, beq_iff_eq] at ends
    unfold readTail at h
    rcases ends with rfl | rfl
    · rw [splitFirst, if_neg (by decide)] at h
      cases hsplit : splitFirst '#' cs with
      | none =>
        rw [hsplit] at h
        cases h
      | some parts =>
        rw [hsplit] at h
        cases h
    · rw [splitFirst, if_pos (by decide)] at h
      cases h

theorem tailText_visible {query fragment : Option String} (h : IsTail kind query fragment) :
    ∀ c ∈ tailText query fragment, isVisible c = true := by
  intro c hc
  rcases List.mem_append.1 hc with hc | hc
  · cases hq : query with
    | none =>
      rw [hq] at hc
      cases hc
    | some q =>
      rw [hq] at hc
      rcases List.mem_cons.1 hc with rfl | hc
      · decide
      · obtain ⟨ascii, plain⟩ := h.query q hq c hc
        exact (isQueryChar ascii plain).1
  · cases hf : fragment with
    | none =>
      rw [hf] at hc
      cases hc
    | some f =>
      rw [hf] at hc
      rcases List.mem_cons.1 hc with rfl | hc
      · decide
      · obtain ⟨ascii, plain⟩ := h.fragment f hf c hc
        exact forall_ascii (P := fun c => inFragment c = false → isVisible c = true) (by decide) ascii plain

/-- What stands in front of query and fragment is the path. -/
theorem withRest_append {scheme : String} {authority : Option Authority} {path : List Char → Path}
    {query fragment : Option String} (h : IsTail kind query fragment) {cs : List Char}
    (free : ∀ c ∈ cs, endsPath c = false) :
    withRest kind scheme authority path (cs ++ tailText query fragment) =
      ⟨scheme, authority, path cs, query, fragment⟩ := by
  have inside : ∀ c ∈ cs, (!endsPath c) = true := fun c hc => by rw [free c hc]; rfl
  have behind : ∀ c ∈ (tailText query fragment).head?, (!endsPath c) = false := by
    intro c hc
    rw [tailText_stops query fragment c hc]
    rfl
  obtain ⟨take, drop⟩ := takeWhile_stops inside behind
  unfold withRest
  rw [take, drop, readTail_tailText h]

/-! ## Schemes -/

/-- A scheme as it is kept, in lower case. -/
structure IsScheme (cs : List Char) : Prop where
  first : ∃ c rest, cs = c :: rest ∧ isLetter c = true
  chars : ∀ c ∈ cs, isSchemeChar c = true ∧ lowerChar c = c

theorem isScheme_file : IsScheme "file".toList := by
  refine ⟨⟨'f', ['i', 'l', 'e'], rfl, rfl⟩, fun c hc => ?_⟩
  have letter : c ∈ ['f', 'i', 'l', 'e'] := hc
  simp only [List.mem_cons, List.not_mem_nil, or_false] at letter
  rcases letter with rfl | rfl | rfl | rfl <;> decide

theorem isSchemeChar_facts {c : Char} (h : isSchemeChar c = true) :
    isVisible c = true ∧ isSchemeChar (lowerChar c) = true ∧ lowerChar (lowerChar c) = lowerChar c := by
  have ascii : c.toNat < 0x80 := by
    have kinds := h
    simp only [isSchemeChar, isAlnum, Bool.or_eq_true, beq_iff_eq] at kinds
    rcases kinds with (((letter | digit) | rfl) | rfl) | rfl
    · exact ascii_of_isLetter letter
    · exact ascii_of_isDigit digit
    all_goals decide
  have facts := forall_ascii (P := fun c => isSchemeChar c = true →
    isVisible c = true ∧ isSchemeChar (lowerChar c) = true) (by decide) ascii h
  exact ⟨facts.1, facts.2, lowerChar_lowerChar c⟩

theorem isSchemeChar_of_isLetter {c : Char} (h : isLetter c = true) :
    isSchemeChar c = true ∧ isLetter (lowerChar c) = true :=
  forall_ascii (P := fun c => isLetter c = true → isSchemeChar c = true ∧ isLetter (lowerChar c) = true)
    (by decide) (ascii_of_isLetter h) h

/-- A scheme that is read is in lower case, and stands in front of a colon. -/
theorem isScheme_of_splitScheme {cs rest : List Char} {scheme : String} (h : splitScheme cs = some (scheme, rest)) :
    IsScheme scheme.toList ∧ ∃ front, cs = front ++ ':' :: rest := by
  cases cs with
  | nil => cases h
  | cons c cs =>
    rw [splitScheme] at h
    split at h
    · next letter =>
      split at h
      · next behind =>
        cases h
        obtain ⟨own, lowered⟩ := isSchemeChar_of_isLetter letter
        rw [String.toList_ofList]
        refine ⟨⟨⟨lowerChar c, (cs.takeWhile isSchemeChar).map lowerChar, ?_, lowered⟩, fun d hd => ?_⟩, ?_⟩
        · rw [List.takeWhile_cons, if_pos own]
          rfl
        · obtain ⟨e, he, rfl⟩ := List.mem_map.1 hd
          exact (isSchemeChar_facts (List.mem_takeWhile_imp he)).2
        · refine ⟨(c :: cs).takeWhile isSchemeChar, ?_⟩
          rw [← behind, List.takeWhile_append_dropWhile]
      · cases h
    · cases h

/-- A scheme reads back. -/
theorem splitScheme_append {scheme : String} (h : IsScheme scheme.toList) (rest : List Char) :
    splitScheme (scheme.toList ++ ':' :: rest) = some (scheme, rest) := by
  obtain ⟨c, cs, front, letter⟩ := h.first
  have colon : ∀ d ∈ (':' :: rest).head?, isSchemeChar d = false := by
    intro d hd
    cases hd
    decide
  obtain ⟨take, drop⟩ := takeWhile_stops (fun d hd => (h.chars d hd).1) colon
  have lowered : scheme.toList.map lowerChar = scheme.toList :=
    (List.map_congr_left fun d hd => (h.chars d hd).2).trans (List.map_id _)
  have text : scheme.toList ++ ':' :: rest = c :: (cs ++ ':' :: rest) := by rw [front]; rfl
  rw [text, splitScheme, if_pos letter, ← text, drop]
  show some (String.ofList ((List.takeWhile isSchemeChar _).map lowerChar), rest) = _
  rw [take, lowered, String.ofList_toList]

theorem eq_file_of_kindOf {scheme : String} (h : kindOf scheme = .file) : scheme = "file" := by
  unfold kindOf at h
  split at h
  all_goals first | rfl | cases h

/-! ## The usual form -/

/-- A host of a file, as it is kept. -/
def IsFileHost (host : String) : Prop :=
  host = "" ∨ (IsHost host.toList ∧ webHost? host.toList = some host ∧ host ≠ "localhost")

/-- How authority and path go together in a URL of a kind of scheme. -/
inductive Fits : Kind → Option Authority → Path → Prop
  | web {usual : Nat} {a : Authority} {parts : List String} (normal : a.Normal (.web usual))
      (segments : ∀ s ∈ parts, IsSegment (.web usual) s) (ne : parts ≠ []) :
      Fits (.web usual) (some a) (.segments parts)
  | file {host : String} {parts : List String} (isHost : IsFileHost host)
      (segments : ∀ s ∈ parts, IsSegment .file s) (ne : parts ≠ [])
      (first : parts = [""] ∨ parts.head? ≠ some "") :
      Fits .file (some ⟨"", "", host, none⟩) (.segments parts)
  | behind {a : Authority} {parts : List String} (normal : a.Normal .other)
      (segments : ∀ s ∈ parts, IsSegment .other s) : Fits .other (some a) (.segments parts)
  | rooted {parts : List String} (segments : ∀ s ∈ parts, IsSegment .other s) (ne : parts ≠ []) :
      Fits .other none (.segments parts)
  | opaquely {text : String} (escaped : Escaped isControl text.toList)
      (free : ∀ c ∈ text.toList, endsPath c = false) (slash : text.toList.head? ≠ some '/') :
      Fits .other none (.opaquely text)

/-- The usual form of a URL. An opaque path may end in a blank only where something follows it. -/
structure Normal (u : Url) : Prop where
  scheme : IsScheme u.scheme.toList
  fits : Fits (kindOf u.scheme) u.authority u.path
  tail : IsTail (kindOf u.scheme) u.query u.fragment
  last : ∀ text, u.path = .opaquely text → u.query = none → u.fragment = none →
    ∀ c ∈ text.toList.getLast?, isVisible c = true

/-- Hiding the password keeps the form. -/
theorem Normal.redact {u : Url} (h : Normal u) :
    Normal { u with authority := u.authority.map Authority.redact } := by
  refine ⟨h.scheme, ?_, h.tail, h.last⟩
  have fits := h.fits
  show Fits (kindOf u.scheme) (u.authority.map Authority.redact) u.path
  generalize kindOf u.scheme = kind at fits ⊢
  generalize u.authority = authority at fits ⊢
  generalize u.path = path at fits ⊢
  cases fits with
  | web normal segments ne => exact .web normal.redact segments ne
  | file isHost segments ne first => exact .file isHost segments ne first
  | behind normal segments => exact .behind normal.redact segments
  | rooted segments ne => exact .rooted segments ne
  | opaquely escaped free slash => exact .opaquely escaped free slash

/-! ## What is read is in its usual form -/

theorem withRest_eq (kind : Kind) (scheme : String) (authority : Option Authority) (path : List Char → Path)
    (cs : List Char) :
    withRest kind scheme authority path cs =
      ⟨scheme, authority, path (cs.takeWhile (!endsPath ·)), (readTail kind (cs.dropWhile (!endsPath ·))).1,
        (readTail kind (cs.dropWhile (!endsPath ·))).2⟩ := rfl

/-- A URL whose path is segments is normal if authority and path go together. -/
theorem normal_withRest {scheme : String} {authority : Option Authority} {path : List Char → Path} (cs : List Char)
    (isScheme : IsScheme scheme.toList) (hkind : kindOf scheme = kind)
    (fits : ∀ cs, ∃ parts, path cs = .segments parts ∧ Fits kind authority (.segments parts)) :
    Normal (withRest kind scheme authority path cs) := by
  obtain ⟨parts, hpath, hfits⟩ := fits (cs.takeWhile (!endsPath ·))
  rw [withRest_eq, hpath, ← hkind]
  rw [← hkind] at hfits
  exact ⟨isScheme, hfits, isTail_readTail _ _, nofun⟩

theorem webPath_eq (kind : Kind) (cs : List Char) : ∃ ds, webPath kind cs = .segments (readSegments kind ds) := by
  unfold webPath
  split <;> exact ⟨_, rfl⟩

theorem otherPath_eq (kind : Kind) (cs : List Char) :
    ∃ parts, otherPath kind cs = .segments parts ∧ ∀ s ∈ parts, IsSegment kind s := by
  unfold otherPath
  split
  · exact ⟨[], rfl, nofun⟩
  · exact ⟨_, rfl, fun s hs => isSegment_of_mem_readSegments hs⟩
  · exact ⟨_, rfl, fun s hs => isSegment_of_mem_readSegments hs⟩

/-- A URL behind the slashes of its authority, for every kind of scheme that has them. -/
theorem normal_of_readBehindSlashes {scheme : String} {cs : List Char} {u : Url} (isScheme : IsScheme scheme.toList)
    (hkind : kindOf scheme = kind) (notFile : kind ≠ .file) (h : readBehindSlashes kind scheme cs = some u) :
    Normal u := by
  unfold readBehindSlashes at h
  obtain ⟨⟨a, left⟩, ha, h⟩ := Option.bind_eq_some_iff.1 h
  have normal := Authority.normal_of_readAuthority ha
  cases h
  refine normal_withRest _ isScheme hkind fun ds => ?_
  cases kind with
  | web usual =>
    obtain ⟨es, path⟩ := webPath_eq (.web usual) ds
    exact ⟨_, path, .web normal (fun s hs => isSegment_of_mem_readSegments hs) (readSegments_ne_nil _ _)⟩
  | file => exact absurd rfl notFile
  | other =>
    obtain ⟨parts, path, segments⟩ := otherPath_eq .other ds
    exact ⟨parts, path, .behind normal segments⟩

theorem isFileHost_of_fileHost {cs : List Char} {host : String} (h : fileHost cs = some host) : IsFileHost host := by
  unfold fileHost at h
  split at h
  · cases h
    exact .inl rfl
  · obtain ⟨name, hname, rfl⟩ := Option.map_eq_some_iff.1 h
    split
    · exact .inl rfl
    · next other =>
      obtain ⟨isHost, back⟩ := webHost?_fixed hname
      exact .inr ⟨isHost, back, by simpa using other⟩

theorem filePath_eq (cs : List Char) :
    ∃ parts, filePath cs = .segments parts ∧ (∀ s ∈ parts, IsSegment .file s) ∧ parts ≠ [] ∧
      (parts = [""] ∨ parts.head? ≠ some "") := by
  unfold filePath
  dsimp only
  split
  · exact ⟨[""], rfl, fun s hs => List.mem_singleton.1 hs ▸ isSegment_empty, List.cons_ne_nil _ _, .inl rfl⟩
  · next nonempty =>
    refine ⟨_, rfl, fun s hs => ?_, nonempty, .inr fun first => ?_⟩
    · exact isSegment_of_mem_readSegments ((List.dropWhile_suffix _).subset hs)
    · exact absurd (head_dropWhile _ first) (by decide)

/-- The URL of a file. -/
theorem normal_of_readFile {cs : List Char} {u : Url} (h : readFile cs = some u) : Normal u := by
  have spec : ∃ host rest, IsFileHost host ∧
      u = withRest .file "file" (some ⟨"", "", host, none⟩) filePath rest := by
    unfold readFile at h
    split at h
    · split at h
      · obtain ⟨host, hhost, h⟩ := Option.bind_eq_some_iff.1 h
        exact ⟨host, _, isFileHost_of_fileHost hhost, (Option.some.inj h).symm⟩
      · exact ⟨"", _, .inl rfl, (Option.some.inj h).symm⟩
    · exact ⟨"", _, .inl rfl, (Option.some.inj h).symm⟩
  obtain ⟨host, rest, isHost, rfl⟩ := spec
  refine normal_withRest _ isScheme_file rfl fun ds => ?_
  obtain ⟨parts, path, segments, ne, first⟩ := filePath_eq ds
  exact ⟨parts, path, .file isHost segments ne first⟩

/-- What is left of a text ends in a character that counts. -/
theorem last_significant (s : String) : ∀ c ∈ (significant s).getLast?, isVisible c = true := by
  unfold significant
  dsimp only
  generalize hinner : (s.toList.dropWhile fun c => decide (c.toNat ≤ 0x20)).reverse.dropWhile
    (fun c => decide (c.toNat ≤ 0x20)) = inner
  have head : ∀ c ∈ inner.head?, isVisible c = true := by
    intro c hc
    rw [← hinner] at hc
    have := head_dropWhile c hc
    simpa [isVisible] using this
  cases inner with
  | nil => exact nofun
  | cons last inner =>
    have visible : isVisible last = true := head last rfl
    have kept : (last != '\t' && last != '\n' && last != '\x0d') = true := by
      simp only [Bool.and_eq_true, bne_iff_ne]
      refine ⟨⟨?_, ?_⟩, ?_⟩ <;> rintro rfl <;> exact absurd visible (by decide)
    rw [List.reverse_cons, List.filter_append, List.filter_cons, if_pos kept, List.filter_nil, List.getLast?_concat]
    intro c hc
    cases hc
    exact visible

/-- The URL of a scheme with opaque paths. -/
theorem normal_opaquely {scheme : String} {cs : List Char} (isScheme : IsScheme scheme.toList)
    (hkind : kindOf scheme = .other) (slash : cs.head? ≠ some '/') (last : ∀ c ∈ cs.getLast?, isVisible c = true) :
    Normal (withRest .other scheme none (fun cs => .opaquely (escape isControl cs)) cs) := by
  have stops : ∀ c ∈ (cs.dropWhile (!endsPath ·)).head?, endsPath c = true := fun c hc => by
    simpa using head_dropWhile c hc
  rw [withRest_eq]
  refine ⟨isScheme, ?_, ?_, ?_⟩
  · rw [hkind]
    refine .opaquely (escaped_escape sparesEscapes_isControl _) ?_ ?_
    · rw [escape, String.toList_ofList]
      exact spared_percentEncode ⟨by decide, by decide⟩ fun c hc => by simpa using List.mem_takeWhile_imp hc
    · rw [escape, String.toList_ofList]
      cases cs with
      | nil => simp [percentEncode]
      | cons c cs =>
        rw [List.takeWhile_cons]
        split
        · have front : (percentEncode isControl (c :: cs.takeWhile (!endsPath ·))).head? = some c ∨
              (percentEncode isControl (c :: cs.takeWhile (!endsPath ·))).head? = some '%' :=
            head?_percentEncode c (cs.takeWhile (!endsPath ·))
          rcases front with head | head
          · rw [head]
            exact slash
          · rw [head]
            decide
        · simp [percentEncode]
  · rw [hkind]
    exact isTail_readTail _ _
  · rintro text path query fragment
    cases path
    have whole := List.takeWhile_append_dropWhile (p := (!endsPath ·)) (l := cs)
    rw [eq_nil_of_readTail stops (Prod.ext query fragment), List.append_nil] at whole
    rw [escape, String.toList_ofList, whole]
    intro c hc
    have spares : SparesEscapes (fun c => !isVisible c) := ⟨by decide, by decide⟩
    simpa using last_percentEncode spares (fun d hd => by simpa using last d hd) c hc

/-- A URL that is read is in its usual form. -/
theorem normal_of_parse {s : String} {u : Url} (h : parse s = some u) : Normal u := by
  unfold parse at h
  obtain ⟨⟨scheme, rest⟩, hscheme, h⟩ := Option.bind_eq_some_iff.1 h
  obtain ⟨isScheme, front, hfront⟩ := isScheme_of_splitScheme hscheme
  dsimp only at h
  split at h
  · next usual hkind => exact normal_of_readBehindSlashes isScheme hkind nofun h
  · exact normal_of_readFile h
  · next hkind =>
    split at h
    · exact normal_of_readBehindSlashes isScheme hkind nofun h
    · cases h
      refine normal_withRest _ isScheme hkind fun ds => ?_
      exact ⟨_, rfl, .rooted (fun s hs => isSegment_of_mem_readSegments hs) (readSegments_ne_nil _ _)⟩
    · next slash =>
      cases h
      refine normal_opaquely isScheme hkind ?_ fun c hc => ?_
      · intro first
        cases rest with
        | nil => cases first
        | cons c rest => exact slash rest (congrArg (· :: rest) (Option.some.inj first))
      · refine last_significant s c ?_
        rw [hfront, List.getLast?_append, List.getLast?_cons]
        cases hlast : rest.getLast? with
        | none =>
          rw [hlast] at hc
          cases hc
        | some d =>
          rw [hlast] at hc
          exact hc

end QueryGateway.Url
