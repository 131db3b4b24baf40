import QueryGateway.Proofs.Outcome
import QueryGateway.Sql.Parser

/-!
# What readers take off the front

A semicolon ends a statement, so no reader of queries is to take one. Two of them may take any
token all the same: a `TABLE` body takes three tokens and looks at the first, and the name of an
operator takes any token in front of a period or a closing parenthesis. `Reaches` says how far a
reader can get if it takes no semicolon but in these two ways, and `Advances` that a reader gets
no further. It is a class, so that what the parsers are made of decides it.
-/

namespace QueryGateway.Sql

/-! ## Getting ahead -/

/-- A lexeme is a word, in quotes or not. -/
def Lexeme.isWord (l : Lexeme) : Bool :=
  match l.token with
  | .word _ => true
  | _ => false

/-- What is left when tokens have been taken off the front, none of them a semicolon unless it
stands in a `TABLE` body or in front of a period or a closing parenthesis. -/
inductive Reaches : List Lexeme → List Lexeme → Prop
  | here (ls) : Reaches ls ls
  | step {l ls rest} (other : l.isMark ";" = false) (on : Reaches ls rest) : Reaches (l :: ls) rest
  | operatorPart {l m ls rest} (closed : m.isMark "." ∨ m.isMark ")") (on : Reaches (m :: ls) rest) :
      Reaches (l :: m :: ls) rest
  | tableBody {l w ls rest} (head : l.isKeyword "TABLE") (word : w.isWord)
      (on : Reaches (ls.drop 2) rest) : Reaches (l :: w :: ls) rest

theorem Reaches.trans {ls ms ns : List Lexeme} (h : Reaches ls ms) (k : Reaches ms ns) : Reaches ls ns := by
  induction h with
  | here => exact k
  | step other _ ih => exact .step other (ih k)
  | operatorPart closed _ ih => exact .operatorPart closed (ih k)
  | tableBody head word _ ih => exact .tableBody head word (ih k)

theorem Reaches.suffix {ls rest : List Lexeme} (h : Reaches ls rest) : rest <:+ ls := by
  induction h with
  | here => exact List.suffix_rfl
  | step _ _ ih => exact ih.trans (List.suffix_cons _ _)
  | operatorPart _ _ ih => exact ih.trans (List.suffix_cons _ _)
  | tableBody _ _ _ ih =>
    exact (ih.trans (List.drop_suffix _ _)).trans ((List.suffix_cons _ _).trans (List.suffix_cons _ _))

theorem Lexeme.isMark_of_token {l : Lexeme} {t : Token} {m : String} (h : l.token = t)
    (other : ∀ s, t = .mark s → s ≠ m) : l.isMark m = false := by
  unfold Lexeme.isMark
  split
  · next s hs => simpa using other s (h.symm.trans hs)
  · rfl

theorem Lexeme.isMark_of_isKeyword {l : Lexeme} {k m : String} (h : l.isKeyword k) : l.isMark m = false := by
  unfold Lexeme.isKeyword at h
  split at h
  · next w hw => exact Lexeme.isMark_of_token hw nofun
  · cases h

theorem Lexeme.isMark_of_isOneOf {l : Lexeme} {ks : List String} {m : String} (h : l.isOneOf ks) :
    l.isMark m = false := by
  unfold Lexeme.isOneOf at h
  split at h
  · next w hw => exact Lexeme.isMark_of_token hw nofun
  · cases h

theorem Lexeme.isMark_of_isMark {l : Lexeme} {a b : String} (h : l.isMark a) (ne : a ≠ b) : l.isMark b = false := by
  unfold Lexeme.isMark at h
  split at h
  · next s hs =>
    obtain rfl := beq_iff_eq.1 h
    exact Lexeme.isMark_of_token hs fun _ hs => Token.mark.inj hs ▸ ne
  · cases h

/-! ## Readers that get no further -/

/-- The next token satisfies a test. -/
def Input.sees (s : Input) (test : Lexeme → Bool) : Bool := s.rest.head?.any test

/-- What is left behind the next token. -/
def Input.behind (s : Input) : Input := { s with rest := s.rest.tail }

variable {α β : Type} {p : Parser α} {f : α → Parser β}

/-- A reader gets no further than `Reaches` says. -/
class Advances {α : Type} (p : Parser α) : Prop where
  reaches : ∀ {s a t}, p s = .ok (a, t) → Reaches s.rest t.rest

/-- The same of a reader where it starts. -/
def AdvancesAt {α : Type} (s : Input) (p : Parser α) : Prop :=
  ∀ a t, p s = .ok (a, t) → Reaches s.rest t.rest

/-- Two parsers, one behind the other, succeed one behind the other. -/
theorem Parser.bind_ok {s t : Input} {b : β} (h : (p >>= f) s = .ok (b, t)) :
    ∃ a r, p s = .ok (a, r) ∧ f a r = .ok (b, t) := by
  obtain ⟨⟨a, r⟩, hp, hf⟩ := bind_eq_ok (x := p s) h
  exact ⟨a, r, hp, hf⟩

namespace Advances

theorem start [Advances p] (s : Input) : AdvancesAt s p := fun _ _ => reaches

theorem of_start (h : ∀ s, AdvancesAt s p) : Advances p := ⟨h _ _ _⟩

instance pure (a : α) : Advances (pure a : Parser α) where
  reaches h := by cases h; exact .here _

instance throw (e : ParseError) : Advances (throw e : Parser α) where
  reaches h := by cases h

instance (priority := high) throwThen (e : ParseError) {f : α → Parser β} : Advances (MonadExcept.throw e >>= f) where
  reaches h := by cases h

instance get : Advances (get : Parser Input) where
  reaches h := by cases h; exact .here _

instance bind [hp : Advances p] [hf : ∀ a, Advances (f a)] : Advances (p >>= f) where
  reaches h := by
    obtain ⟨a, r, hp', hf'⟩ := Parser.bind_ok h
    exact (hp.reaches hp').trans ((hf a).reaches hf')

/-- Whatever is read first, the reader behind it may depend on it. -/
theorem andThen [Advances p] (h : ∀ a, Advances (f a)) : Advances (p >>= f) := bind

theorem seq (hp : Advances p) (hf : ∀ a, Advances (f a)) : Advances (p >>= f) := bind

-- Tried before `bind`, so that the choice behind `p` is made on a constructor.
/-- A choice by whether something was found. -/
instance (priority := high) bindOption {p : Parser (Option α)} {f : Option α → Parser β} [Advances p]
    [∀ a, Advances (f (some a))] [Advances (f none)] : Advances (p >>= f) :=
  andThen fun found => by cases found <;> infer_instance

instance (priority := high) bindProd {γ : Type} {p : Parser (α × γ)} {f : α × γ → Parser β} [Advances p]
    [∀ a c, Advances (f (a, c))] : Advances (p >>= f) :=
  andThen fun _ => inferInstance

instance map {f : α → β} [Advances p] : Advances (f <$> p) :=
  inferInstanceAs (Advances (p >>= fun a => Pure.pure (f a)))

instance ite {c : Prop} [Decidable c] {p q : Parser α} [Advances p] [Advances q] :
    Advances (if c then p else q) := by
  split <;> infer_instance

/-- A choice both sides of which are known. -/
theorem ite' {c : Prop} [Decidable c] {p q : Parser α} (hp : Advances p) (hq : Advances q) :
    Advances (if c then p else q) := ite

/-- The second of two tests is made only if the first fails. -/
instance orElse {p q : Parser Bool} [Advances p] [Advances q] : Advances (p <||> q) :=
  andThen fun _ => by split <;> infer_instance

end Advances

theorem AdvancesAt.bind {s : Input} (hp : AdvancesAt s p) (hf : ∀ a, Advances (f a)) :
    AdvancesAt s (p >>= f) := by
  intro b t h
  obtain ⟨a, r, hp', hf'⟩ := Parser.bind_ok h
  exact (hp a r hp').trans ((hf a).reaches hf')

/-- A reader gets no further than `Reaches` says from where another reader started, which may
be remembered and gone back to. -/
class AdvancesFrom {α : Type} (start : Input) (p : Parser α) : Prop where
  reaches : ∀ {s a t}, Reaches start.rest s.rest → p s = .ok (a, t) → Reaches start.rest t.rest

namespace AdvancesFrom

variable {start : Input}

theorem at_start (h : AdvancesFrom start p) : AdvancesAt start p := fun _ _ => h.reaches (.here _)

instance of_advances [hp : Advances p] : AdvancesFrom start p where
  reaches hs h := hs.trans (hp.reaches h)

instance (priority := low) bind [hp : AdvancesFrom start p] [hf : ∀ a, AdvancesFrom start (f a)] :
    AdvancesFrom start (p >>= f) where
  reaches hs h := by
    obtain ⟨a, r, hp', hf'⟩ := Parser.bind_ok h
    exact (hf a).reaches (hp.reaches hs hp') hf'

theorem andThen [AdvancesFrom start p] (h : ∀ a, AdvancesFrom start (f a)) : AdvancesFrom start (p >>= f) := bind

theorem seq (hp : AdvancesFrom start p) (hf : ∀ a, AdvancesFrom start (f a)) : AdvancesFrom start (p >>= f) := bind

instance (priority := low) bindOption {p : Parser (Option α)} {f : Option α → Parser β} [AdvancesFrom start p]
    [∀ a, AdvancesFrom start (f (some a))] [AdvancesFrom start (f none)] : AdvancesFrom start (p >>= f) :=
  andThen fun found => by cases found <;> infer_instance

instance (priority := low) ite {c : Prop} [Decidable c] {p q : Parser α} [AdvancesFrom start p]
    [AdvancesFrom start q] : AdvancesFrom start (if c then p else q) := by
  split <;> infer_instance

theorem ite' {c : Prop} [Decidable c] {p q : Parser α} (hp : AdvancesFrom start p) (hq : AdvancesFrom start q) :
    AdvancesFrom start (if c then p else q) := ite

/-- Going back to a place that was reached. -/
theorem set {back : Input} (h : Reaches start.rest back.rest) : AdvancesFrom start (set back : Parser PUnit) where
  reaches _ hp := by cases hp; exact h

instance set_start : AdvancesFrom start (MonadStateOf.set start : Parser PUnit) := set (.here _)

/-- Remembering a place that was reached. -/
theorem getThen {k : Input → Parser α} (h : ∀ s, Reaches start.rest s.rest → AdvancesFrom start (k s)) :
    AdvancesFrom start (MonadState.get >>= k) where
  reaches hs hk := (h _ hs).reaches hs hk

end AdvancesFrom

/-! ## Tokens looked at and taken -/

instance advances_peekAt (n : Nat) : Advances (peekAt n) := by unfold peekAt; infer_instance
instance advances_peek : Advances peek := by unfold peek; infer_instance
instance advances_failAt (message : String) (l : Option Lexeme) : Advances (failAt message l : Parser α) := .throw _
instance advances_expectedAt (what : String) (l : Option Lexeme) : Advances (expectedAt what l : Parser α) := by
  cases l <;> exact .throw _
instance advances_expected (what : String) : Advances (expected what : Parser α) := by
  unfold expected; infer_instance
theorem expected_fails (what : String) (s : Input) : ∃ e, (expected what : Parser α) s = .error e := by
  obtain ⟨rest, inColumn⟩ := s
  cases rest <;> exact ⟨_, rfl⟩

instance advances_inColumn : Advances inColumn := by unfold inColumn; infer_instance
instance advances_seesMarkAt (n : Nat) (k : String) : Advances (seesMarkAt n k) := by
  unfold seesMarkAt; infer_instance
instance advances_seesMark (k : String) : Advances (seesMark k) := by unfold seesMark; infer_instance
instance advances_seesAt (n : Nat) (ks : List String) : Advances (seesAt n ks) := by unfold seesAt; infer_instance
instance advances_sees (k : String) : Advances (sees k) := by unfold sees; infer_instance

/-- Taking a token that is no semicolon. -/
theorem reaches_tail {ls : List Lexeme} (h : ∀ l, ls.head? = some l → l.isMark ";" = false) :
    Reaches ls ls.tail := by
  cases ls with
  | nil => exact .here _
  | cons l ls => exact .step (h l rfl) (.here _)

/-- A reader behind the next token, where the token is known to be no semicolon. -/
theorem AdvancesAt.next {k : Option Lexeme → Parser α} {s : Input}
    (h : ∀ l, s.rest.head? = some l → l.isMark ";" = false)
    (on : ∀ l, AdvancesFrom s (k l)) : AdvancesAt s (next >>= k) :=
  fun _ _ hk => (on s.rest.head?).reaches (reaches_tail h) hk

/-- The same if the reader behind the token is known just there. -/
theorem AdvancesAt.nextAt {k : Option Lexeme → Parser α} {s : Input}
    (h : ∀ l, s.rest.head? = some l → l.isMark ";" = false) (on : AdvancesAt s.behind (k s.rest.head?)) :
    AdvancesAt s (QueryGateway.Sql.next >>= k) :=
  fun a t hk => (reaches_tail h).trans (on a t hk)

/-- A reader behind another that only looks. -/
theorem AdvancesAt.lookThen {a : α} {s : Input} (h : p s = .ok (a, s)) (on : AdvancesAt s (f a)) :
    AdvancesAt s (p >>= f) := by
  intro b t hk
  obtain ⟨a', r, hp, hf⟩ := Parser.bind_ok hk
  cases h.symm.trans hp
  exact on b t hf

/-- A reader behind the next token, where what the token is has been looked at. -/
theorem AdvancesAt.nextOf {k : Option Lexeme → Parser α} {s : Input} {t : Token}
    (h : s.rest.head?.map Lexeme.token = some t) (other : t ≠ .mark ";")
    (on : ∀ l, AdvancesFrom s (k l)) : AdvancesAt s (QueryGateway.Sql.next >>= k) := by
  refine .next (fun l hl => ?_) on
  have token : l.token = t := by simpa [hl] using h
  exact Lexeme.isMark_of_token token fun _ hs he => other (he ▸ hs)

theorem AdvancesAt.nextWord {k : Option Lexeme → Parser α} {s : Input} {w : Word}
    (h : s.rest.head?.map Lexeme.token = some (.word w)) (on : ∀ l, AdvancesFrom s (k l)) :
    AdvancesAt s (QueryGateway.Sql.next >>= k) :=
  .nextOf h Token.noConfusion on

/-- A reader that takes the next token and fails if that is a semicolon. -/
theorem AdvancesAt.nextThen {k : Option Lexeme → Parser α} {s : Input} (on : ∀ l, AdvancesFrom s (k l))
    (refuses : ∀ place blank u, ∃ e, k (some ⟨.mark ";", place, blank⟩) u = .error e) :
    AdvancesAt s (QueryGateway.Sql.next >>= k) := by
  intro a t hk
  -- Had a semicolon been taken, the reader behind it would have failed.
  refine AdvancesAt.next (fun l hl => Bool.eq_false_iff.2 fun semicolon => ?_) on a t hk
  change k s.rest.head? s.behind = .ok (a, t) at hk
  obtain ⟨token, place, blank⟩ := l
  have : token = .mark ";" := by
    cases token <;> simp_all [Lexeme.isMark]
  subst this
  obtain ⟨e, he⟩ := refuses place blank s.behind
  rw [hl, he] at hk
  cases hk

theorem Advances.nextThen {k : Option Lexeme → Parser α} (on : ∀ l, Advances (k l))
    (refuses : ∀ place blank s, ∃ e, k (some ⟨.mark ";", place, blank⟩) s = .error e) :
    Advances (QueryGateway.Sql.next >>= k) :=
  .of_start fun _ => .nextThen (fun _ => inferInstance) refuses

/-- A reader that looks at the next token first. -/
theorem Advances.peekThen {k : Option Lexeme → Parser α} (h : ∀ s : Input, AdvancesAt s (k s.rest.head?)) :
    Advances (peek >>= k) :=
  ⟨h _ _ _⟩

theorem AdvancesAt.getThen {k : Input → Parser α} {s : Input} (h : AdvancesAt s (k s)) :
    AdvancesAt s (MonadState.get >>= k) :=
  h

/-- A reader that remembers where it starts. -/
theorem Advances.getThen {k : Input → Parser α} (h : ∀ s : Input, AdvancesAt s (k s)) :
    Advances (MonadState.get >>= k) :=
  ⟨h _ _ _⟩

/-! ## Marks and keywords -/

theorem mark?_eq (k : String) (s : Input) :
    mark? k s = .ok (if s.sees (·.isMark k) then (true, s.behind) else (false, s)) := by
  obtain ⟨rest, inColumn⟩ := s
  cases rest with
  | nil => rfl
  | cons l ls =>
    show (if l.isMark k then (do let _ ← next; return true) else return false : Parser Bool) _ = _
    cases h : l.isMark k <;> simp only [Input.sees, List.head?_cons, Option.any_some, h] <;> rfl

theorem kw?_eq (k : String) (s : Input) :
    kw? k s = .ok (if s.sees (·.isKeyword k) then (true, s.behind) else (false, s)) := by
  obtain ⟨rest, inColumn⟩ := s
  cases rest with
  | nil => rfl
  | cons l ls =>
    show (if l.isKeyword k then (do let _ ← next; return true) else return false : Parser Bool) _ = _
    cases h : l.isKeyword k <;> simp only [Input.sees, List.head?_cons, Option.any_some, h] <;> rfl

/-- The next token passed a test that no semicolon passes. -/
theorem Input.other_of_sees {s : Input} {test : Lexeme → Bool} (h : s.sees test)
    (other : ∀ l, test l → l.isMark ";" = false) (l : Lexeme) (hl : s.rest.head? = some l) :
    l.isMark ";" = false :=
  other l (by simpa [Input.sees, hl] using h)

/-- A reader that takes two tokens that passed tests that no semicolon passes. -/
theorem AdvancesAt.nextTwo {first second : Lexeme → Bool} {k : Option Lexeme → Option Lexeme → Parser α} {s : Input}
    (seen : (s.sees first && s.behind.sees second) = true) (hfirst : ∀ l, first l → l.isMark ";" = false)
    (hsecond : ∀ l, second l → l.isMark ";" = false) (on : ∀ l m, AdvancesFrom s.behind (k l m)) :
    AdvancesAt s (QueryGateway.Sql.next >>= fun l => QueryGateway.Sql.next >>= k l) := by
  obtain ⟨head, after⟩ := (Bool.and_eq_true _ _).mp seen
  exact .nextAt (s.other_of_sees head hfirst) (.next (s.behind.other_of_sees after hsecond) (on _))

theorem Input.sees_behind (s : Input) (test : Lexeme → Bool) : s.behind.sees test = s.rest[1]?.any test := by
  obtain ⟨rest, inColumn⟩ := s
  rcases rest with _ | ⟨l, _ | ⟨m, ms⟩⟩ <;> rfl

theorem sees_eq (k : String) (s : Input) : sees k s = .ok (s.sees (·.isKeyword k), s) := rfl

theorem seesMark_eq (k : String) (s : Input) : seesMark k s = .ok (s.sees (·.isMark k), s) := by
  show Except.ok (s.rest[0]?.any (·.isMark k), s) = _
  rw [Input.sees, List.head?_eq_getElem?]

theorem seesMarkAt_one_eq (k : String) (s : Input) : seesMarkAt 1 k s = .ok (s.behind.sees (·.isMark k), s) := by
  rw [s.sees_behind]
  rfl

theorem seesAt_one_eq (ks : List String) (s : Input) : seesAt 1 ks s = .ok (s.behind.sees (·.isOneOf ks), s) := by
  rw [s.sees_behind]
  rfl

theorem Input.reaches_behind {s : Input} {test : Lexeme → Bool} (h : s.sees test)
    (other : ∀ l, test l → l.isMark ";" = false) : Reaches s.rest s.behind.rest :=
  reaches_tail (s.other_of_sees h other)

/-- A mark is not the semicolon. -/
class NotSemicolon (spelling : String) : Prop where
  ne : spelling ≠ ";"

instance : NotSemicolon "(" := ⟨by decide⟩
instance : NotSemicolon ")" := ⟨by decide⟩
instance : NotSemicolon "[" := ⟨by decide⟩
instance : NotSemicolon "]" := ⟨by decide⟩
instance : NotSemicolon "\x7d" := ⟨by decide⟩
instance : NotSemicolon "<" := ⟨by decide⟩
instance : NotSemicolon ">" := ⟨by decide⟩
instance : NotSemicolon ">>" := ⟨by decide⟩
instance : NotSemicolon "+" := ⟨by decide⟩
instance : NotSemicolon "-" := ⟨by decide⟩
instance : NotSemicolon "=" := ⟨by decide⟩
instance : NotSemicolon "=>" := ⟨by decide⟩
instance : NotSemicolon "." := ⟨by decide⟩
instance : NotSemicolon "," := ⟨by decide⟩
instance : NotSemicolon ":" := ⟨by decide⟩

instance advances_mark? (k : String) [hk : NotSemicolon k] : Advances (mark? k) := by
  refine .of_start fun s a t h => ?_
  rw [mark?_eq] at h
  split at h
  · next seen =>
    cases h
    exact Input.reaches_behind seen fun l hl => Lexeme.isMark_of_isMark hl hk.ne
  · cases h
    exact .here _

instance advances_mark (k : String) [NotSemicolon k] : Advances (mark k) := by unfold mark; infer_instance

theorem sees_of_mark {k : String} {s t : Input} (h : mark k s = .ok ((), t)) : s.sees (·.isMark k) := by
  obtain ⟨found, r, hm, h⟩ := Parser.bind_ok h
  rw [mark?_eq] at hm
  split at hm
  · next seen => exact seen
  · cases hm
    obtain ⟨e, he⟩ := expected_fails (α := Unit) k s
    change expected k s = _ at h
    rw [he] at h
    cases h

instance advances_kw? (k : String) : Advances (kw? k) := by
  refine .of_start fun s a t h => ?_
  rw [kw?_eq] at h
  split at h
  · next seen =>
    cases h
    exact Input.reaches_behind seen fun l hl => Lexeme.isMark_of_isKeyword hl
  · cases h
    exact .here _

instance advances_kw (k : String) : Advances (kw k) := by unfold kw; infer_instance

theorem reaches_keywords {ks : List String} {ls : List Lexeme} (h : startsWithKeywords ks ls) :
    Reaches ls (ls.drop ks.length) := by
  fun_induction startsWithKeywords ks ls with
  | case1 => exact .here _
  | case2 => cases h
  | case3 k ks l ls ih =>
    obtain ⟨hl, hls⟩ := (Bool.and_eq_true _ _).mp h
    exact .step (Lexeme.isMark_of_isKeyword hl) (ih hls)

instance advances_kws? (ks : List String) : Advances (kws? ks) := by
  refine .getThen fun s => ?_
  split
  · next h =>
    intro a t ht
    cases ht
    exact reaches_keywords h
  · exact Advances.start s

instance advances_kws : ∀ ks, Advances (kws ks)
  | [] => .pure ()
  | k :: ks => by
    have := advances_kws ks
    unfold kws
    infer_instance

instance advances_oneOf? (ks : List String) : Advances (oneOf? ks) := by
  refine .peekThen fun s => ?_
  split
  · next w place blank h =>
    split
    · exact .nextWord (w := w) (by rw [h]; rfl) fun _ => inferInstance
    · exact Advances.start s
  · exact Advances.start s

instance advances_oneOf (ks : List String) : Advances (oneOf ks) := by unfold oneOf; infer_instance

/-! ## Alternatives and loops -/

instance advances_attempt [hp : Advances p] : Advances (attempt p) := by
  refine .of_start fun s a t h => ?_
  unfold attempt at h
  split at h
  · next b u hb =>
    cases h
    exact hp.reaches hb
  · cases h
  · cases h
    exact .here _

instance advances_outcome [hp : Advances p] : Advances (outcome p) := by
  refine .of_start fun s a t h => ?_
  unfold outcome at h
  split at h
  · next b u hb =>
    cases h
    exact hp.reaches hb
  · cases h
    exact .here _

instance advances_optionally (k : String) [Advances p] : Advances (optionally k p) := by
  unfold optionally; infer_instance

instance advances_iterateN {step : α → Parser (Option α)} [∀ a, Advances (step a)] :
    ∀ n a, Advances (iterateN step n a)
  | 0, a => .pure a
  | n + 1, a => by
    have : ∀ a, Advances (iterateN step n a) := advances_iterateN n
    unfold iterateN
    infer_instance

instance advances_iterate {step : α → Parser (Option α)} [∀ a, Advances (step a)] (a : α) :
    Advances (iterate step a) := by
  unfold iterate; infer_instance

theorem Advances.loop {step : α → Parser (Option α)} {a : α} (h : ∀ a, Advances (step a)) :
    Advances (iterate step a) := inferInstance

instance advances_sepByN {separator : Parser Bool} [Advances separator] [Advances p] :
    ∀ n, Advances (sepByN separator p n)
  | 0 => by unfold sepByN; infer_instance
  | n + 1 => by
    have : Advances (sepByN separator p n) := advances_sepByN n
    unfold sepByN
    infer_instance

instance advances_sepBy [Advances p] : Advances (sepBy p) := by unfold sepBy; infer_instance

instance advances_sepBy0 [Advances p] (closing : String) : Advances (sepBy0 p closing) := by
  unfold sepBy0; infer_instance

instance advances_many {item : Parser (Option α)} [Advances item] : Advances (many item) := by
  unfold many; infer_instance

instance advances_parenthesized [Advances p] : Advances (parenthesized p) := by
  unfold parenthesized; infer_instance

/-! ## Nesting -/

/-- The readers of nested expressions and queries get no further. -/
class Grammar.Advances (g : Grammar) : Prop where
  subexpr : ∀ least, Sql.Advances (g.subexpr least)
  query : Sql.Advances g.query

attribute [instance] Grammar.Advances.subexpr Grammar.Advances.query

instance advances_expr {g : Grammar} [g.Advances] : Advances g.expr := by unfold Grammar.expr; infer_instance
instance advances_phrase {g : Grammar} [g.Advances] : Advances g.phrase := by unfold Grammar.phrase; infer_instance

end QueryGateway.Sql
