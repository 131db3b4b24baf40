import QueryGateway.Proofs.Sql.Taking.Queries

/-!
# Where statements end

A statement that is a query is read by the reader of queries, and so takes a semicolon at most
in a `TABLE` body or in front of a period or a closing parenthesis. A script has one statement
just if what the first one leaves are semicolons, or the word `END` with anything behind it.
-/

namespace QueryGateway.Sql

/-! ## Statements that are queries -/

/-- What a parser reads is no query. -/
class NoQuery (p : Parser Statement) : Prop where
  no_query : ∀ {s q t}, p s ≠ .ok (.query q, t)

namespace NoQuery

variable {α : Type}

instance pureCommand (op : Operation) : NoQuery (pure (.command op)) := ⟨nofun⟩

instance pureExplanation : NoQuery (pure .explanation) := ⟨nofun⟩

instance throw (e : ParseError) : NoQuery (throw e) := ⟨nofun⟩

instance bind {p : Parser α} {f : α → Parser Statement} [hf : ∀ a, NoQuery (f a)] : NoQuery (p >>= f) where
  no_query h := by
    obtain ⟨a, r, -, h⟩ := Parser.bind_ok h
    exact (hf a).no_query h

theorem seq {p : Parser α} {f : α → Parser Statement} (hf : ∀ a, NoQuery (f a)) : NoQuery (p >>= f) := bind

instance ite {c : Prop} [Decidable c] {p q : Parser Statement} [NoQuery p] [NoQuery q] :
    NoQuery (if c then p else q) := by
  split <;> infer_instance

instance failAt (message : String) (l : Option Lexeme) : NoQuery (failAt message l) := .throw _

instance expectedAt (what : String) (l : Option Lexeme) : NoQuery (expectedAt what l) := by
  cases l <;> exact .throw _

end NoQuery

set_option synthInstance.maxSize 100000 in
instance noQuery_explain (g : Grammar) (full : Bool) : NoQuery (explain g full) := by
  unfold explain
  extract_lets behind
  have : ∀ u, NoQuery (behind u) := fun _ => .seq fun found => by split <;> infer_instance
  clear_value behind
  infer_instance

/-- No command is a query. -/
instance noQuery_command (g : Grammar) (keyword : String) (l : Option Lexeme) : NoQuery (command g keyword l) := by
  dsimp only [command]
  split <;> infer_instance

/-- A statement that is a query has been read by the reader of queries. -/
theorem query_of_statement {g : Grammar} {s t : Input} {q : Query} (h : statement g s = .ok (.query q, t)) :
    g.query s = .ok (q, t) := by
  have asQuery {r : Input}
      (h : (do MonadState.set s; return .query (← g.query) : Parser Statement) r = .ok (.query q, t)) :
      g.query s = .ok (q, t) := by
    obtain ⟨_, _, hs, h⟩ := Parser.bind_ok h
    cases hs
    obtain ⟨q', r', hq, h⟩ := Parser.bind_ok h
    cases h
    exact hq
  obtain ⟨start, r, hget, h⟩ := Parser.bind_ok h
  cases hget
  obtain ⟨l, r', hnext, h⟩ := Parser.bind_ok h
  generalize l.map Lexeme.token = token at h
  split at h
  · exact asQuery h
  · split at h
    · exact asQuery h
    · exact (NoQuery.no_query h).elim
  · exact (NoQuery.no_query h).elim

/-- A statement starts with a parenthesis or a word. -/
theorem head_of_statement {g : Grammar} {s t : Input} {x : Statement} (h : statement g s = .ok (x, t)) :
    ∃ l, s.rest.head? = some l ∧ (l.isMark "(" ∨ l.isWord) := by
  obtain ⟨start, r, hget, h⟩ := Parser.bind_ok h
  cases hget
  obtain ⟨l, r', hnext, h⟩ := Parser.bind_ok h
  cases hnext
  obtain ⟨rest, inColumn⟩ := s
  cases rest with
  | nil => cases h
  | cons l ls =>
    refine ⟨l, rfl, ?_⟩
    generalize ht : Option.map Lexeme.token _ = token at h
    change some l.token = token at ht
    split at h
    · exact .inl (by simp [Lexeme.isMark, Option.some.inj ht])
    · exact .inr (by simp [Lexeme.isWord, Option.some.inj ht])
    · cases h

/-! ## Across a semicolon -/

/-- Tokens that end in the keyword `TABLE` with a word behind it, and at most one token behind that. -/
def EndsInTable (ts : List Token) : Prop :=
  ∃ front table w back, ts = front ++ .word table :: .word w :: back ∧ table.capitals = "TABLE" ∧ back.length ≤ 1

theorem EndsInTable.of_suffix {ts us : List Token} (h : EndsInTable ts) (suffix : ts <:+ us) : EndsInTable us := by
  obtain ⟨front, table, w, back, rfl, rest⟩ := h
  obtain ⟨more, rfl⟩ := suffix
  exact ⟨more ++ front, table, w, back, List.append_assoc .. ▸ rfl, rest⟩

theorem Lexeme.word_of_isKeyword {l : Lexeme} {k : String} (h : l.isKeyword k) :
    ∃ w, l.token = .word w ∧ w.capitals = k := by
  unfold Lexeme.isKeyword at h
  split at h
  · next w hw => exact ⟨w, hw, beq_iff_eq.1 h⟩
  · cases h

theorem Lexeme.isKeyword_of_token {l : Lexeme} {w : Word} {k : String} (h : l.token = .word w)
    (capitals : w.capitals = k) : l.isKeyword k := by
  unfold Lexeme.isKeyword
  rw [h]
  exact beq_iff_eq.2 capitals

theorem Lexeme.word_of_isWord {l : Lexeme} (h : l.isWord) : ∃ w, l.token = .word w := by
  unfold Lexeme.isWord at h
  split at h
  · next w hw => exact ⟨w, hw⟩
  · cases h

theorem Lexeme.isMark_of_isWord {l : Lexeme} {m : String} (h : l.isWord) : l.isMark m = false := by
  obtain ⟨w, hw⟩ := Lexeme.word_of_isWord h
  exact Lexeme.isMark_of_token hw nofun

theorem EndsInTable.of_lexemes {table w : Lexeme} {back : List Lexeme} (head : table.isKeyword "TABLE")
    (word : w.isWord) (short : back.length ≤ 1) : EndsInTable ((table :: w :: back).map Lexeme.token) := by
  obtain ⟨t, ht, capitals⟩ := Lexeme.word_of_isKeyword head
  obtain ⟨v, hv⟩ := Lexeme.word_of_isWord word
  refine ⟨[], t, v, back.map Lexeme.token, ?_, capitals, by simpa using short⟩
  rw [List.map_cons, List.map_cons, ht, hv]
  rfl

/-- What has been taken from a list with a semicolon in it: either it lies in front of the semicolon, or
a `TABLE` body at the end of the front part took the semicolon. -/
theorem Reaches.across {as bs left : List Lexeme} {j : Lexeme} (h : Reaches (as ++ j :: bs) left)
    (semicolon : j.isMark ";") (opens : ∀ l, bs.head? = some l → ¬ (l.isMark "." ∨ l.isMark ")")) :
    (∃ remaining, remaining <:+ as ∧ left = remaining ++ j :: bs) ∨
      EndsInTable (as.map Lexeme.token) ∧ left <:+ bs := by
  -- One more token in front changes neither case.
  have more {as left : List Lexeme} (l : Lexeme)
      (h : (∃ remaining, remaining <:+ as ∧ left = remaining ++ j :: bs) ∨
        EndsInTable (as.map Lexeme.token) ∧ left <:+ bs) :
      (∃ remaining, remaining <:+ l :: as ∧ left = remaining ++ j :: bs) ∨
        EndsInTable ((l :: as).map Lexeme.token) ∧ left <:+ bs := by
    rcases h with ⟨remaining, suffix, left⟩ | ⟨table, suffix⟩
    · exact .inl ⟨remaining, suffix.trans (List.suffix_cons _ _), left⟩
    · exact .inr ⟨table.of_suffix (List.suffix_cons _ _), suffix⟩
  have contradiction {p : Prop} (h : j.isMark ";" = false) : p := by
    rw [h] at semicolon
    cases semicolon
  generalize hls : as ++ j :: bs = ls at h
  induction h generalizing as with
  | here => exact .inl ⟨as, List.suffix_rfl, hls.symm⟩
  | @step l ls rest other on ih =>
    rcases as with _ | ⟨a, as⟩ <;> cases hls
    · exact contradiction other
    · exact more l (ih rfl)
  | @operatorPart l m ls rest closed on ih =>
    rcases as with _ | ⟨a, _ | ⟨b, as⟩⟩ <;> cases hls
    · exact absurd closed (opens m rfl)
    · rcases closed with closed | closed <;> exact contradiction (Lexeme.isMark_of_isMark closed (by decide))
    · exact more l (ih rfl)
  | @tableBody l w ls rest head word on ih =>
    -- The three tokens of the body end in front of the semicolon, or the second or the third is the semicolon.
    rcases as with _ | ⟨a, _ | ⟨b, _ | ⟨c, _ | ⟨d, as⟩⟩⟩⟩ <;> cases hls
    · exact contradiction (Lexeme.isMark_of_isKeyword head)
    · exact contradiction (Lexeme.isMark_of_isWord word)
    · exact .inr ⟨EndsInTable.of_lexemes head word (Nat.zero_le 1), on.suffix.trans (List.drop_suffix 1 bs)⟩
    · exact .inr ⟨EndsInTable.of_lexemes head word (Nat.le_refl 1), on.suffix⟩
    · exact more l (more w (more c (more d (ih rfl))))

/-! ## Scripts -/

/-- The semicolons in front are gone. -/
def trimmed (ls : List Lexeme) : List Lexeme := ls.dropWhile (·.isMark ";")

theorem Lexeme.isMark_eq (l : Lexeme) (m : String) : l.isMark m = (l.token == .mark m) := by
  unfold Lexeme.isMark
  rw [Bool.eq_iff_iff]
  cases l.token <;> simp

/-- Which semicolons are in front is a matter of the tokens. -/
theorem map_token_trimmed (ls : List Lexeme) :
    (trimmed ls).map Lexeme.token = (ls.map Lexeme.token).dropWhile (· == .mark ";") := by
  rw [List.dropWhile_map, trimmed]
  simp only [Lexeme.isMark_eq]
  rfl

theorem trimmed_append {as bs : List Lexeme} (h : trimmed as ≠ []) : trimmed (as ++ bs) = trimmed as ++ bs := by
  unfold trimmed at *
  rw [List.dropWhile_append, if_neg (by simpa [List.isEmpty_iff] using h)]

/-- Behind a statement, this ends a script: semicolons, or the word `END` and anything behind it. -/
def EndsScript (ls : List Lexeme) : Prop := trimmed ls = [] ∨ ∃ l, ls.head? = some l ∧ l.isKeyword "END"

/-- A parser behind another that succeeds. -/
theorem Parser.bind_of_ok {α β : Type} {p : Parser α} {f : α → Parser β} {s t : Input} {a : α}
    (h : p s = .ok (a, t)) : (p >>= f) s = f a t := by
  show (p s >>= fun r => f r.1 r.2) = _
  rw [h]
  rfl

/-- One round of taking semicolons. -/
def semicolon (_ : Bool) : Parser (Option Bool) := do
  if ← mark? ";" then return some true
  return none

/-- Semicolons are taken, however many; it is remembered whether there was one. -/
theorem semicolons_eq (n : Nat) (found : Bool) (s : Input) (enough : s.rest.length < n) :
    iterateN semicolon n found s =
      .ok (found || s.sees (·.isMark ";"), { s with rest := trimmed s.rest }) := by
  induction n generalizing found s with
  | zero => cases enough
  | succ n ih =>
    rw [iterateN]
    cases seen : s.sees (·.isMark ";") with
    | false =>
      have step : semicolon found s = .ok (none, s) := by
        rw [semicolon, Parser.bind_of_ok (mark?_eq ";" s), seen]
        rfl
      rw [Parser.bind_of_ok step, Bool.or_false]
      obtain ⟨_ | ⟨l, ls⟩, inColumn⟩ := s
      · rfl
      · have : l.isMark ";" = false := seen
        simp [trimmed, List.dropWhile, this]
        rfl
    | true =>
      have step : semicolon found s = .ok (some true, s.behind) := by
        rw [semicolon, Parser.bind_of_ok (mark?_eq ";" s), seen]
        rfl
      rw [Parser.bind_of_ok step]
      dsimp only
      obtain ⟨_ | ⟨l, ls⟩, inColumn⟩ := s
      · cases seen
      · have : l.isMark ";" = true := seen
        rw [ih true _ (by simpa [Input.behind] using enough)]
        simp [trimmed, List.dropWhile, this, Input.behind]

/-- Without the semicolons in front. -/
def Input.trimmed (s : Input) : Input := { s with rest := Sql.trimmed s.rest }

/-- The reader of a statement of a script. -/
def nextStatement : Parser Statement := (grammar nestingLimit).statement

variable {read : List Statement} {s t : Input} {x : Statement}

theorem scriptStep_eq (read : List Statement) (s : Input) :
    scriptStep ⟨read, false⟩ s =
      match s.trimmed.rest with
      | [] => .ok (none, s.trimmed)
      | l :: _ =>
        if read.isEmpty || s.sees (·.isMark ";") then
          (do return some ⟨(← nextStatement) :: read, false⟩ : Parser (Option Progress)) s.trimmed
        else if l.isKeyword "END" then .ok (some ⟨read, true⟩, s.trimmed)
        else (expected "end of statement" : Parser (Option Progress)) s.trimmed := by
  have separated : iterate semicolon read.isEmpty s = .ok (read.isEmpty || s.sees (·.isMark ";"), s.trimmed) :=
    semicolons_eq _ _ _ (Nat.lt_succ_self _)
  show (iterate semicolon read.isEmpty >>= _) s = _
  rw [Parser.bind_of_ok separated]
  generalize s.trimmed = u
  generalize (read.isEmpty || s.sees (·.isMark ";")) = found
  obtain ⟨_ | ⟨l, ls⟩, inColumn⟩ := u
  · rfl
  · cases found
    · -- Nothing stands between this token and the statement before it.
      rw [Parser.bind_of_ok (show peek ⟨l :: ls, inColumn⟩ = .ok (some l, ⟨l :: ls, inColumn⟩) from rfl)]
      simp only [Bool.not_false, if_true, Bool.false_eq_true, if_false]
      cases h : l.isKeyword "END" <;> rfl
    · rfl

/-- What a round of a script does: nothing at the end of the text, or it reads a statement, or it finds
the word `END`. -/
theorem scriptStep_cases {found : Option Progress} (h : scriptStep ⟨read, false⟩ s = .ok (found, t)) :
    found = none ∧ trimmed s.rest = [] ∨
    (∃ x, found = some ⟨x :: read, false⟩ ∧ nextStatement s.trimmed = .ok (x, t)) ∨
    found = some ⟨read, true⟩ ∧ read ≠ [] ∧ t = s.trimmed ∧ ∃ l, s.rest.head? = some l ∧ l.isKeyword "END" := by
  rw [scriptStep_eq] at h
  split at h
  · next ended =>
    cases h
    exact .inl ⟨rfl, ended⟩
  · next l ls there =>
    split at h
    · obtain ⟨x, u, hx, h⟩ := Parser.bind_ok h
      cases h
      exact .inr (.inl ⟨x, rfl, hx⟩)
    · next together =>
      split at h
      · next word =>
        cases h
        simp only [Bool.or_eq_true, not_or, List.isEmpty_iff] at together
        refine .inr (.inr ⟨rfl, together.1, rfl, l, ?_, word⟩)
        -- Without a semicolon in front nothing has been trimmed.
        obtain ⟨_ | ⟨m, ms⟩, inColumn⟩ := s
        · cases there
        · have : m.isMark ";" = false := by simpa [Input.sees] using together.2
          simp only [Input.trimmed, trimmed, List.dropWhile, this] at there
          exact congrArg List.head? there
      · obtain ⟨e, he⟩ := expected_fails (α := Option Progress) "end of statement" s.trimmed
        rw [he] at h
        cases h

/-- Behind the word `END` nothing is read. -/
theorem rounds_ended (n : Nat) (s : Input) : iterateN scriptStep n ⟨read, true⟩ s = .ok (⟨read, true⟩, s) := by
  cases n <;> rfl

/-- Statements that have been read stay. -/
theorem suffix_of_rounds {n : Nat} {p : Progress} (h : iterateN scriptStep n ⟨read, false⟩ s = .ok (p, t)) :
    read <:+ p.read := by
  induction n generalizing read s with
  | zero => cases h; exact List.suffix_rfl
  | succ n ih =>
    obtain ⟨found, r, hp, h⟩ := Parser.bind_ok h
    rcases scriptStep_cases hp with ⟨rfl, -⟩ | ⟨x, rfl, -⟩ | ⟨rfl, -⟩
    · cases h; exact List.suffix_rfl
    · exact (List.suffix_cons _ _).trans (ih h)
    · cases (rounds_ended n r).symm.trans h
      exact List.suffix_rfl

/-- Rounds behind one statement leave it alone just if what it leaves ends the script. -/
theorem rounds_single_iff (n : Nat) (u : Input) :
    (∃ p t, iterateN scriptStep (n + 1) ⟨[x], false⟩ u = .ok (p, t) ∧ p.read = [x]) ↔ EndsScript u.rest := by
  constructor
  · rintro ⟨p, t, h, single⟩
    obtain ⟨found, r, hp, h⟩ := Parser.bind_ok h
    rcases scriptStep_cases hp with ⟨-, ended⟩ | ⟨y, rfl, -⟩ | ⟨-, -, -, word⟩
    · exact .inl ended
    · -- A second statement would have stayed.
      have := (suffix_of_rounds h).length_le
      rw [single] at this
      exact absurd this (by simp)
    · exact .inr word
  · rintro (ended | ⟨l, there, word⟩)
    · have step : scriptStep ⟨[x], false⟩ u = .ok (none, u.trimmed) := by
        rw [scriptStep_eq]
        simp only [Input.trimmed, ended]
      exact ⟨⟨[x], false⟩, u.trimmed, Parser.bind_of_ok step, rfl⟩
    · obtain ⟨_ | ⟨m, ms⟩, inColumn⟩ := u
      · cases there
      · obtain rfl : m = l := Option.some.inj there
        have other : m.isMark ";" = false := Lexeme.isMark_of_isKeyword word
        have step : scriptStep ⟨[x], false⟩ ⟨m :: ms, inColumn⟩ = .ok (some ⟨[x], true⟩, ⟨m :: ms, inColumn⟩) := by
          rw [scriptStep_eq]
          simp [Input.trimmed, trimmed, Input.sees, List.dropWhile, other, word]
        exact ⟨_, _, (Parser.bind_of_ok step).trans (rounds_ended n _), rfl⟩

theorem script_eq_ok {s : Input} {ss : List Statement} (h : script s = .ok (ss, t)) :
    ∃ p, iterateN scriptStep (s.rest.length + 1) ⟨[], false⟩ s = .ok (p, t) ∧ ss = p.read.reverse := by
  obtain ⟨p, u, hp, h⟩ := Parser.bind_ok h
  cases h
  exact ⟨p, hp, rfl⟩

/-- A script of any statements has a first one. -/
theorem first_of_script {ss : List Statement} (h : script s = .ok (ss, t)) (some : ss ≠ []) :
    ∃ x u, nextStatement s.trimmed = .ok (x, u) ∧
      ∃ p, iterateN scriptStep s.rest.length ⟨[x], false⟩ u = .ok (p, t) ∧ ss = p.read.reverse := by
  obtain ⟨p, hp, rfl⟩ := script_eq_ok h
  obtain ⟨found, u, step, hp⟩ := Parser.bind_ok hp
  rcases scriptStep_cases step with ⟨rfl, -⟩ | ⟨x, rfl, hx⟩ | ⟨-, none, -⟩
  · cases hp
    exact absurd rfl some
  · exact ⟨x, u, hx, p, hp, rfl⟩
  · exact absurd rfl none

theorem trimmed_length (ls : List Lexeme) : (trimmed ls).length ≤ ls.length := (List.dropWhile_suffix _).length_le

/-- A statement takes a token. -/
theorem rest_of_nextStatement {u : Input} (h : nextStatement s.trimmed = .ok (x, u)) :
    ∃ l ls, s.trimmed.rest = l :: ls ∧ (l.isMark "(" ∨ l.isWord) := by
  obtain ⟨l, there, opens⟩ := head_of_statement h
  obtain ⟨ls, hls⟩ := List.head?_eq_some_iff.1 there
  exact ⟨l, ls, hls, opens⟩

/-- A script is one statement just if what the statement leaves ends the script. -/
theorem script_single_iff (s : Input) :
    (∃ t, script s = .ok ([x], t)) ↔ ∃ u, nextStatement s.trimmed = .ok (x, u) ∧ EndsScript u.rest := by
  have rounds {y : Statement} {u : Input} (h : nextStatement s.trimmed = .ok (y, u)) :
      ∃ n, s.rest.length = n + 1 := by
    obtain ⟨l, ls, rest, -⟩ := rest_of_nextStatement h
    have := trimmed_length s.rest
    rw [show trimmed s.rest = l :: ls from rest] at this
    exact ⟨s.rest.length - 1, by simp only [List.length_cons] at this; omega⟩
  constructor
  · rintro ⟨t, h⟩
    obtain ⟨y, u, hy, p, hp, read⟩ := first_of_script h (by simp)
    have read : p.read = [x] := by rw [← List.reverse_reverse p.read, ← read]; rfl
    have kept := suffix_of_rounds hp
    rw [read] at kept
    cases kept.eq_of_length rfl
    obtain ⟨n, hn⟩ := rounds hy
    rw [hn] at hp
    exact ⟨u, hy, (rounds_single_iff n u).1 ⟨p, t, hp, read⟩⟩
  · rintro ⟨u, hx, ends⟩
    obtain ⟨n, hn⟩ := rounds hx
    obtain ⟨l, ls, rest, -⟩ := rest_of_nextStatement hx
    obtain ⟨p, t, hp, read⟩ := (rounds_single_iff n u).2 ends
    have step : scriptStep ⟨[], false⟩ s = .ok (some ⟨[x], false⟩, u) := by
      rw [scriptStep_eq, rest]
      exact (Parser.bind_of_ok hx).trans rfl
    have all : iterate scriptStep ⟨[], false⟩ s = .ok (p, t) := by
      show iterateN scriptStep (s.rest.length + 1) _ s = _
      rw [hn]
      exact (Parser.bind_of_ok step).trans hp
    exact ⟨t, (Parser.bind_of_ok all).trans (by rw [read]; rfl)⟩

end QueryGateway.Sql
