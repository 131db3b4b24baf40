import QueryGateway.Proofs.Sql.Taking.Types
import QueryGateway.Sql.Expression

/-!
# What the readers of expressions take

An operator is taken only if the token binds, and a semicolon does not. Of the tokens of a
qualified operator, each has a period or the closing parenthesis behind it.
-/

namespace QueryGateway.Sql

-- A long reader makes a large instance; it is found at once all the same.
set_option synthInstance.maxSize 100000

variable {g : Grammar} [g.Advances] {reader : Parser Operand} [Advances reader]

/-! ## Orderings, dates and windows -/

instance advances_orderOptions : Advances orderOptions := by dsimp only [orderOptions]; infer_instance

instance advances_orderItem : Advances (orderItem g) := by unfold orderItem; infer_instance

instance advances_orderItems : Advances (orderItems g) := by unfold orderItems; infer_instance

instance advances_datePart : Advances datePart := by
  refine .nextThen (fun l => ?_) fun _ _ _ => ⟨_, rfl⟩
  split <;> infer_instance

instance advances_interval : Advances (interval reader) := by dsimp only [interval]; infer_instance

instance advances_frameBound : Advances (frameBound g reader) := by
  dsimp only [frameBound]
  refine .andThen fun row => .ite' inferInstance <| .andThen fun unbounded => .ite' inferInstance <|
    .andThen fun l => ?_
  split <;> infer_instance

instance advances_windowFrame : Advances (windowFrame g reader) := by
  refine .nextThen (fun l => ?_) fun _ _ _ => ⟨_, rfl⟩
  split <;> infer_instance

instance advances_windowSpec : Advances (windowSpec g reader) := by
  unfold windowSpec
  refine .andThen fun l => ?_
  extract_lets clauses
  have : ∀ base, Advances (clauses base) := fun _ => by dsimp only [clauses]; infer_instance
  clear_value clauses
  split <;> infer_instance

/-! ## Wildcards -/

instance advances_wildcardHead : Advances wildcardHead := by
  refine .peekThen fun s => ?_
  split
  · next h => exact .nextOf h nofun fun _ => inferInstance
  · next t _ h =>
    split
    · exact Advances.start s
    · next first hf =>
      have other : t ≠ .mark ";" := fun ht => by subst ht; cases hf
      -- Names that do not end in `.*` are left where they stand, so the reader goes back.
      refine .getThen <| .nextOf h other fun l => .andThen fun dot =>
        .ite' (.seq ?_ fun _ => inferInstance) inferInstance
      refine @AdvancesFrom.of_advances _ _ _ <| .loop fun state => ?_
      refine .ite' inferInstance <| .andThen fun dot => .ite' ?_ inferInstance
      refine .nextThen (fun l => ?_) fun _ _ _ => ⟨_, rfl⟩
      split
      · infer_instance
      · split <;> infer_instance
  · exact Advances.start s

instance advances_wildcardExpr : Advances (wildcardExpr g) := by unfold wildcardExpr; infer_instance

instance advances_argumentOperator : Advances argumentOperator := by unfold argumentOperator; infer_instance

instance advances_namedArgument (argument : Operand) : Advances (namedArgument g argument) := by
  unfold namedArgument; infer_instance

instance advances_callArgument : Advances (callArgument g) := by
  refine .getThen fun s => AdvancesFrom.at_start ?_
  refine .andThen fun read => ?_
  split
  · infer_instance
  · infer_instance
  · refine .andThen fun named => ?_
    split
    · infer_instance
    · refine .getThen fun behind reached => .andThen fun _ => .andThen fun wildcard => ?_
      split
      · infer_instance
      · exact .seq (.set reached) fun _ => inferInstance

/-! ## Calls -/

instance advances_jsonNullClause : Advances jsonNullClause := by unfold jsonNullClause; infer_instance

instance advances_jsonReturningClause : Advances jsonReturningClause := by
  unfold jsonReturningClause; infer_instance

instance advances_overflowClause : Advances (overflowClause g) := by
  unfold overflowClause
  refine .andThen fun found => .ite' (.andThen fun error => .ite' inferInstance <| .andThen fun _ => ?_) inferInstance
  extract_lets side
  have : ∀ filler, Advances (side filler) := fun _ => by dsimp only [side]; infer_instance
  clear_value side
  refine .andThen fun l => ?_
  split <;> infer_instance

instance advances_duplicateTreatment : Advances duplicateTreatment := by unfold duplicateTreatment; infer_instance

instance advances_callArguments : Advances (callArguments g) := by dsimp only [callArguments]; infer_instance

instance advances_nullTreatment : Advances nullTreatment := by unfold nullTreatment; infer_instance

instance advances_filterClause : Advances (filterClause g) := by dsimp only [filterClause]; infer_instance

instance advances_call (function : String) : Advances (call g reader function) := by
  dsimp only [call]; infer_instance

/-! ## Forms that start with a keyword -/

instance advances_caseForm : Advances (caseForm g) := by dsimp only [caseForm]; infer_instance

instance advances_convertForm : Advances (convertForm g) := by dsimp only [convertForm]; infer_instance

instance advances_castForm (keyword : String) : Advances (castForm g keyword) := by
  dsimp only [castForm]; infer_instance

instance advances_existsForm : Advances (existsForm g) := by unfold existsForm; infer_instance

instance advances_extractForm : Advances (extractForm g) := by unfold extractForm; infer_instance

instance advances_roundForm (keyword : String) : Advances (roundForm g keyword) := by
  dsimp only [roundForm]
  refine .andThen fun _ => .andThen fun e => .andThen fun _ => .ite' inferInstance <|
    .andThen fun comma => .ite' (.andThen fun l => .andThen fun v => ?_) inferInstance
  split <;> infer_instance

instance advances_positionForm (function : String) : Advances (positionForm g reader function) := by
  unfold positionForm; infer_instance

instance advances_substringForm (keyword : String) : Advances (substringForm g keyword) := by
  dsimp only [substringForm]; infer_instance

instance advances_overlayForm : Advances (overlayForm g) := by unfold overlayForm; infer_instance

instance advances_trimForm : Advances (trimForm g) := by dsimp only [trimForm]; infer_instance

instance advances_arrayForm (keyword : String) : Advances (arrayForm g keyword) := by unfold arrayForm; infer_instance

instance advances_notForm : Advances (notForm g) := by unfold notForm; infer_instance

instance advances_keywordForm (w : Word) : Advances (keywordForm g reader w) := by
  dsimp only [keywordForm]
  refine .ite' inferInstance ?_
  split
  case h_21 =>
    refine .ite' inferInstance <| .ite' inferInstance ?_
    split <;> infer_instance
  all_goals infer_instance

instance advances_nameForm (w : Word) : Advances (nameForm g reader w) := by
  refine .peekThen fun s => ?_
  split
  · exact Advances.start s
  · next h =>
    split
    · exact .nextOf h nofun fun _ => inferInstance
    · exact Advances.start s
  · exact Advances.start s

instance advances_wordForm (w : Word) : Advances (wordForm g reader w) := by
  unfold wordForm
  refine .andThen fun read => ?_
  split
  · infer_instance
  · infer_instance
  · refine .ite' inferInstance <| .andThen fun again => ?_
    split <;> infer_instance

instance advances_typedValue : Advances (typedValue reader) := by unfold typedValue; infer_instance

/-! ## Other forms -/

instance advances_parenForm : Advances (parenForm g) := by unfold parenForm; infer_instance

instance advances_braceForm (brace : Option Lexeme) : Advances (braceForm g reader brace) := by
  unfold braceForm
  refine .andThen fun function => ?_
  split
  · infer_instance
  · refine .seq (@advances_attempt _ _ ?_) fun time => ?_
    · refine .nextThen (fun l => ?_) fun _ _ _ => ⟨_, rfl⟩
      infer_instance
    · split <;> infer_instance

instance advances_prefixed : ∀ n, Advances (prefixed g n)
  | 0 => .throw _
  | n + 1 => by
    have inner : Advances (prefixed g n) := advances_prefixed n
    unfold prefixed
    refine .andThen fun typed => ?_
    split
    · infer_instance
    · refine .getThen fun s => .nextThen (fun l => ?_) fun _ _ _ => ⟨_, rfl⟩
      split
      case h_5 => split <;> infer_instance
      all_goals infer_instance

instance advances_operand : Advances (operand g) := by unfold operand; infer_instance

/-! ## Fields and subscripts -/

instance advances_subscript : Advances (subscript g) := by
  dsimp only [subscript]
  infer_instance

instance advances_access (chain : Chain) : Advances (access g chain) := by
  unfold access
  refine .ite' inferInstance <| .andThen fun dot => .ite' ?_ inferInstance
  refine .peekThen fun s => ?_
  split
  · next h => exact .nextOf h nofun fun _ => inferInstance
  · next h => exact .nextOf h nofun fun _ => inferInstance
  · exact Advances.start s

instance advances_accesses (e : Operand) : Advances (accesses g e) := by unfold accesses; infer_instance

/-! ## Right sides of operators -/

instance advances_binaryRight (prec : Nat) (left : Phrase) (op : String) (l : Option Lexeme) :
    Advances (binaryRight g prec left op l) := by
  dsimp only [binaryRight]
  refine .andThen fun quantifier => ?_
  split
  · refine .getThen fun s => AdvancesFrom.at_start ?_
    infer_instance
  · infer_instance

instance advances_escapeClause : Advances escapeClause := by unfold escapeClause; infer_instance

instance advances_inList : Advances (inList g) := by dsimp only [inList]; infer_instance

instance advances_isTest : Advances (isTest g) := by dsimp only [isTest]; infer_instance

instance advances_likeTest (left : Phrase) : Advances (likeTest g left) := by dsimp only [likeTest]; infer_instance

/-! ## Operators -/

/-- A token in front of a period or a closing parenthesis may be any. -/
theorem reaches_of_behind {s : Input} {rest : List Lexeme} {k : String} (closed : k = "." ∨ k = ")")
    (h : s.behind.sees (·.isMark k)) (on : Reaches s.behind.rest rest) : Reaches s.rest rest := by
  obtain ⟨ls, inColumn⟩ := s
  match ls, h, on with
  | _ :: m :: ms, h, on =>
    refine .operatorPart ?_ on
    rcases closed with rfl | rfl
    · exact .inl h
    · exact .inr h

theorem reaches_operatorParts {part : Parser String} (hpart : ∀ s, ∃ a, part s = .ok (a, s.behind)) {t : Input}
    (closed : t.sees (·.isMark ")")) : ∀ (n : Nat) (s : Input) (names : List String),
      sepByN (mark? ".") part n s = .ok (names, t) → Reaches s.rest t.rest
  | 0, s, names, h => by
    obtain ⟨a, r, hp, h⟩ := Parser.bind_ok h
    obtain ⟨_, hpart⟩ := hpart s
    cases hpart.symm.trans hp
    cases h
    exact reaches_of_behind (.inr rfl) closed (.here _)
  | n + 1, s, names, h => by
    obtain ⟨a, r, hp, h⟩ := Parser.bind_ok h
    obtain ⟨_, atPart⟩ := hpart s
    cases atPart.symm.trans hp
    obtain ⟨period, r, hm, h⟩ := Parser.bind_ok h
    rw [mark?_eq] at hm
    -- Behind this part stands a period, or it is the last and the parenthesis closes behind it.
    split at hm
    · next period =>
      cases hm
      obtain ⟨more, r, hn, h⟩ := Parser.bind_ok h
      cases h
      refine reaches_of_behind (.inl rfl) period (Reaches.trans ?_ (reaches_operatorParts hpart closed n _ more hn))
      exact Input.reaches_behind period fun l hl => Lexeme.isMark_of_isMark hl (by decide)
    · cases hm
      cases h
      exact reaches_of_behind (.inr rfl) closed (.here _)

instance advances_qualifiedOperator : Advances qualifiedOperator := by
  refine .andThen fun _ => .getThen fun s names t h => ?_
  obtain ⟨parts, r, hparts, h⟩ := Parser.bind_ok h
  obtain ⟨_, r', hclose, h⟩ := Parser.bind_ok h
  cases h
  have inside := reaches_operatorParts (fun s => ⟨_, rfl⟩) (sees_of_mark hclose) _ _ _ hparts
  exact inside.trans (Advances.reaches hclose)

theorem advancesAt_operatorStep (left : Operand) (prec : Nat) {s : Input}
    (other : ∀ l, s.rest.head? = some l → l.isMark ";" = false) : AdvancesAt s (operatorStep g left prec) := by
  unfold operatorStep
  refine .getThen <| .next other fun l => ?_
  split
  case h_7 =>
    split
    case h_6 =>
      refine .ite' inferInstance <| .ite' inferInstance inferInstance
    all_goals infer_instance
  all_goals infer_instance

instance advances_collation (e : Operand) : Advances (collation e) := by unfold collation; infer_instance

/-! ## Expressions -/

/-- A reader only looks at the tokens. -/
class Looks {α : Type} (p : Parser α) : Prop where
  stays : ∀ {s a t}, p s = .ok (a, t) → t = s

namespace Looks

variable {α β : Type} {p : Parser α} {f : α → Parser β}

instance pure (a : α) : Looks (Pure.pure a : Parser α) where
  stays h := by cases h; rfl

instance get : Looks (get : Parser Input) where
  stays h := by cases h; rfl

instance bind [hp : Looks p] [hf : ∀ a, Looks (f a)] : Looks (p >>= f) where
  stays h := by
    obtain ⟨a, r, hp', hf'⟩ := Parser.bind_ok h
    exact ((hf a).stays hf').trans (hp.stays hp')

theorem andThen [Looks p] (h : ∀ a, Looks (f a)) : Looks (p >>= f) := bind

end Looks

instance looks_nextPrecedence : Looks nextPrecedence := by
  unfold nextPrecedence peek seesAt peekAt Sql.inColumn
  refine .andThen fun l => ?_
  split
  case h_3 => split <;> infer_instance
  all_goals infer_instance

/-- A semicolon does not bind. -/
theorem nextPrecedence_semicolon {s : Input} (h : s.sees (·.isMark ";")) {prec : Nat} {t : Input}
    (hp : nextPrecedence s = .ok (prec, t)) : prec = 0 := by
  obtain ⟨rest, inColumn⟩ := s
  match rest, h with
  | ⟨.mark k, place, blank⟩ :: ls, h =>
    obtain rfl : k = ";" := beq_iff_eq.1 h
    cases hp
    rfl

instance advances_expression (least : Nat) : Advances (expression g least) := by
  unfold expression
  refine .andThen fun _ => .andThen fun _ => .andThen fun start => .loop fun left => .of_start fun s found t h => ?_
  obtain ⟨prec, r, hprec, round⟩ := Parser.bind_ok h
  obtain rfl := Looks.stays hprec
  split at round
  · cases round
    exact .here _
  · next binds =>
    -- An operator step takes its token whatever that is, so it matters that the token binds.
    have other (l : Lexeme) (hl : r.rest.head? = some l) : l.isMark ";" = false := by
      refine Bool.eq_false_iff.2 fun semicolon => ?_
      have := nextPrecedence_semicolon (by simp [Input.sees, hl, semicolon]) hprec
      simp [this] at binds
    exact (advancesAt_operatorStep left prec other).bind (fun _ => inferInstance) _ _ round

end QueryGateway.Sql
