import QueryGateway.Proofs.Sql.Taking.Expressions
import QueryGateway.Sql.Script

/-!
# What the readers of queries take

A query is read without taking a semicolon, except as one of the tokens of a `TABLE` body or in
the name of an operator.
-/

namespace QueryGateway.Sql

-- A long reader makes a large instance; it is found at once all the same.
set_option synthInstance.maxSize 100000

variable {g : Grammar} [g.Advances]

/-! ## Aliases -/

instance advances_aliasWord (refused : List String) : Advances (aliasWord refused) := by
  refine .andThen fun explicit => .peekThen fun s => ?_
  split
  · next h =>
    split
    · exact .nextOf h nofun fun _ => inferInstance
    · exact Advances.start s
  · next h => exact .nextOf h nofun fun _ => inferInstance
  · exact Advances.start s

instance advances_aliasColumns : Advances aliasColumns := by unfold aliasColumns; infer_instance

instance advances_tableAlias : Advances tableAlias := by unfold tableAlias; infer_instance

instance advances_aliased (e : Phrase) : Advances (aliased e) := by unfold aliased; infer_instance

/-! ## Samples and pivots -/

instance advances_numberValue : Advances numberValue := by
  refine .andThen fun l => .andThen fun v => ?_
  split <;> infer_instance

instance advances_sampleSize (inParens : Bool) : Advances (sampleSize g inParens) := by
  dsimp only [sampleSize]
  refine .andThen fun found => ?_
  split
  · infer_instance
  · refine .nextThen (fun l => ?_) fun _ _ _ => ⟨_, rfl⟩
    split <;> infer_instance

instance advances_sampleSeed : Advances sampleSeed := by unfold sampleSeed; infer_instance

instance advances_sampleClause : Advances (sampleClause g) := by dsimp only [sampleClause]; infer_instance

instance advances_columnList {α : Type} {item : Parser α} [Advances item] : Advances (columnList item) := by
  unfold columnList; infer_instance

instance advances_pivotAggregate : Advances (pivotAggregate g) := by
  refine .nextThen (fun l => ?_) fun _ _ _ => ?_
  · split <;> infer_instance
  · exact expected_fails _ _

instance advances_pivotValues : Advances (pivotValues g) := by unfold pivotValues; infer_instance

instance advances_pivotClause (table : Phrase) : Advances (pivotClause g table) := by
  unfold pivotClause
  refine .andThen fun _ => .andThen fun aggregates => .andThen fun _ => .andThen fun several => ?_
  extract_lets behind
  have : ∀ column, Advances (behind column) := fun _ => by dsimp only [behind]; infer_instance
  clear_value behind
  refine .ite' (.andThen fun columns => ?_) inferInstance
  split <;> infer_instance

instance advances_unpivotClause (table : Phrase) : Advances (unpivotClause g table) := by
  dsimp only [unpivotClause]; infer_instance

instance advances_pivots (table : Phrase) : Advances (pivots g table) := by
  refine .loop fun t => .andThen fun keyword => ?_
  split <;> infer_instance

/-! ## JSON and XML -/

instance advances_jsonFallbacks : Advances jsonFallbacks := by
  dsimp only [jsonFallbacks]
  refine .loop fun found => .andThen fun keyword => ?_
  split <;> infer_instance

instance advances_jsonColumn : ∀ depth, Advances (jsonColumn depth)
  | 0 => .throw _
  | depth + 1 => by
    have inner : Advances (jsonColumn depth) := advances_jsonColumn depth
    unfold jsonColumn
    infer_instance

instance advances_jsonTable : Advances (jsonTable g) := by unfold jsonTable; infer_instance

instance advances_openJsonColumn : Advances openJsonColumn := by
  unfold openJsonColumn
  refine .andThen fun column => .andThen fun t => ?_
  extract_lets behind
  have : ∀ path, Advances (behind path) := fun _ => by dsimp only [behind]; infer_instance
  clear_value behind
  refine .peekThen fun s => ?_
  split
  · next h => exact .nextOf h nofun fun _ => inferInstance
  · exact Advances.start s

instance advances_openJson : Advances (openJson g) := by dsimp only [openJson]; infer_instance

instance advances_xmlColumn : Advances (xmlColumn g) := by dsimp only [xmlColumn]; infer_instance

instance advances_xmlArgument : Advances (xmlArgument g) := by dsimp only [xmlArgument]; infer_instance

instance advances_xmlTable : Advances (xmlTable g) := by dsimp only [xmlTable]; infer_instance

/-! ## Table factors and joins -/

instance advances_derivedTable (before : String) : Advances (derivedTable g before) := by
  unfold derivedTable; infer_instance

instance advances_tableArguments : Advances (tableArguments g) := by unfold tableArguments; infer_instance

instance advances_unnestTable : Advances (unnestTable g) := by dsimp only [unnestTable]; infer_instance

instance advances_tableHints : Advances (tableHints g) := by
  refine .of_start fun s => .lookThen (sees_eq _ s) <| .lookThen (seesMarkAt_one_eq _ s) ?_
  split
  · next seen =>
    have head : s.sees (·.isKeyword "WITH") := (Bool.and_eq_true _ _ ▸ seen).1
    exact .next (s.other_of_sees head fun l => Lexeme.isMark_of_isKeyword) fun _ => inferInstance
  · exact Advances.start s

instance advances_namedTable : Advances (namedTable g) := by dsimp only [namedTable]; infer_instance

instance advances_lateralTable : Advances (lateralTable g) := by unfold lateralTable; infer_instance

instance advances_formStart? (keyword : String) : Advances (formStart? keyword) := by
  refine .of_start fun s => .lookThen (sees_eq _ s) <| .lookThen (seesMarkAt_one_eq _ s) ?_
  split
  · next seen =>
    exact .nextTwo seen (fun _ => Lexeme.isMark_of_isKeyword) (fun _ hl => Lexeme.isMark_of_isMark hl (by decide))
      fun _ _ => inferInstance
  · exact Advances.start s

instance advances_joinCondition (natural : Bool) : Advances (joinCondition g natural) := by
  unfold joinCondition; infer_instance

instance advances_joinKind (natural : Bool) : Advances (joinKind natural) := by
  unfold joinKind
  refine .andThen fun keyword => ?_
  split
  case h_7 =>
    refine .andThen fun next => ?_
    split <;> infer_instance
  all_goals infer_instance

instance advances_join {factor : Parser TableRef} [Advances factor] : Advances (join g factor) := by
  dsimp only [join]; infer_instance

instance advances_joinedTable {factor : Parser TableRef} [Advances factor] : Advances (joinedTable g factor) := by
  unfold joinedTable; infer_instance

instance advances_tableFactor : ∀ depth, Advances (tableFactor g depth)
  | 0 => .throw _
  | depth + 1 => by
    have inner : Advances (tableFactor g depth) := advances_tableFactor depth
    unfold tableFactor
    infer_instance

instance advances_tableAndJoins : Advances (tableAndJoins g) := by unfold tableAndJoins; infer_instance

instance advances_tables : Advances (tables g) := by unfold tables; infer_instance

/-! ## Selects -/

instance advances_selectItem : Advances (selectItem g) := by
  unfold selectItem
  refine .andThen fun e => ?_
  split <;> infer_instance

instance advances_distinctClause : Advances (distinctClause g) := by dsimp only [distinctClause]; infer_instance

instance advances_topClause : Advances (topClause g) := by dsimp only [topClause]; infer_instance

instance advances_intoTarget : Advances intoTarget := by unfold intoTarget; infer_instance

instance advances_lateralView : Advances (lateralView g) := by unfold lateralView; infer_instance

instance advances_tuple : Advances (tuple g) := by unfold tuple; infer_instance

instance advances_tupleOrOne : Advances (tupleOrOne g) := by unfold tupleOrOne; infer_instance

instance advances_groupItem : Advances (groupItem g) := by
  unfold groupItem
  refine .andThen fun sets => .ite' inferInstance <| .andThen fun k => ?_
  split
  · infer_instance
  · refine .of_start fun s => .lookThen (seesMark_eq _ s) <| .lookThen (seesMarkAt_one_eq _ s) ?_
    split
    · next seen =>
      exact .nextTwo seen (fun _ hl => Lexeme.isMark_of_isMark hl (by decide))
        (fun _ hl => Lexeme.isMark_of_isMark hl (by decide)) fun _ _ => inferInstance
    · exact Advances.start s

instance advances_groupClause : Advances (groupClause g) := by dsimp only [groupClause]; infer_instance

instance advances_listClause (first second : String) {item : Parser Phrase} [Advances item] :
    Advances (listClause first second item) := by
  unfold listClause; infer_instance

instance advances_namedWindow : Advances (namedWindow g) := by unfold namedWindow; infer_instance

instance advances_windowClause : Advances (windowClause g) := by unfold windowClause; infer_instance

instance advances_qualifyClause : Advances (qualifyClause g) := by unfold qualifyClause; infer_instance

instance advances_windowAndQualify : Advances (windowAndQualify g) := by unfold windowAndQualify; infer_instance

instance advances_selectTail : Advances (selectTail g) := by unfold selectTail; infer_instance

instance advances_select : Advances (select g) := by dsimp only [select]; infer_instance

/-! ## Changes -/

instance advances_conflictClause : Advances conflictClause := by
  refine .of_start fun s => .lookThen (sees_eq _ s) <| .lookThen (seesAt_one_eq _ s) ?_
  split
  · next seen =>
    exact .nextTwo seen (fun _ => Lexeme.isMark_of_isKeyword) (fun _ => Lexeme.isMark_of_isOneOf)
      fun _ _ => inferInstance
  · exact Advances.start s

instance advances_assignment : Advances (assignment g) := by dsimp only [assignment]; infer_instance

instance advances_assignments : Advances (assignments g) := by unfold assignments; infer_instance

instance advances_skipClause (keyword : String) : Advances (skipClause g keyword) := by
  unfold skipClause; infer_instance

instance advances_returningClause : Advances (returningClause g) := by unfold returningClause; infer_instance

instance advances_optionalColumns : Advances optionalColumns := by unfold optionalColumns; infer_instance

instance advances_valueRows : Advances (valueRows g) := by unfold valueRows; infer_instance

instance advances_onConflict : Advances (onConflict g) := by dsimp only [onConflict]; infer_instance

instance advances_insert : Advances (insert g) := by
  dsimp only [insert]
  refine .andThen fun _ => .andThen fun _ => .andThen fun _ => .andThen fun _ => .andThen fun directory =>
    .ite' inferInstance <| .andThen fun _ => .andThen fun _ => .andThen fun named => .ite' ?_ ?_
  · exact .andThen fun _ => inferInstance
  · infer_instance

instance advances_update : Advances (update g) := by dsimp only [update]; infer_instance

instance advances_delete : Advances (delete g) := by dsimp only [delete]; infer_instance

instance advances_mergeAction (clause : String) (absent : Bool) : Advances (mergeAction g clause absent) := by
  dsimp only [mergeAction]
  refine .andThen fun action => ?_
  split <;> infer_instance

instance advances_mergeClause : Advances (mergeClause g) := by dsimp only [mergeClause]; infer_instance

instance advances_merge : Advances (merge g) := by unfold merge; infer_instance

/-! ## Queries -/

instance advances_cte : Advances (cte g) := by dsimp only [cte]; infer_instance

instance advances_withClause : Advances (withClause g) := by unfold withClause; infer_instance

instance advances_setQuantifier : Advances setQuantifier := by unfold setQuantifier; infer_instance

instance advances_setOperation (operators : List String) {right : String → Parser Body} [∀ op, Advances (right op)]
    (left : Body) : Advances (setOperation operators right left) := by
  unfold setOperation; infer_instance

/-- The three tokens of a `TABLE` body, of which the first is a word. -/
theorem tableBody_takes {s t : Input} {b : Body} (h : tableBody s = .ok (b, t)) :
    ∃ w ls, s.rest = w :: ls ∧ w.isWord ∧ t.rest = ls.drop 2 := by
  obtain ⟨rest, inColumn⟩ := s
  cases rest with
  | nil => cases h
  | cons w ls =>
    have left : ls.tail.tail = ls.drop 2 := by rw [List.drop_one.symm, List.drop_one.symm, List.drop_drop]
    -- The three tokens are taken before any of them is looked at.
    obtain ⟨first, _, h1, h⟩ := Parser.bind_ok h
    obtain ⟨second, _, h2, h⟩ := Parser.bind_ok h
    obtain ⟨third, u, h3, h⟩ := Parser.bind_ok h
    have hfirst : first.map Lexeme.token = some w.token := by cases h1; rfl
    have hu : u.rest = ls.drop 2 := by cases h1; cases h2; cases h3; exact left
    have isWord {v : Word} (hv : some w.token = some (.word v)) : w.isWord := by
      simp only [Lexeme.isWord, Option.some.inj hv]
    have fails {what : String} {l : Option Lexeme} (hb : (expectedAt what l : Parser Body) u = .ok (b, t)) : False := by
      cases l <;> cases hb
    generalize first.map Lexeme.token = head at h hfirst
    generalize second.any (·.isMark ".") = dotted at h
    generalize third.map Lexeme.token = after at h
    split at h
    · exact ⟨w, ls, rfl, isWord hfirst.symm, by cases h; exact hu⟩
    · exact (fails h).elim
    · exact (fails h).elim
    · exact ⟨w, ls, rfl, isWord hfirst.symm, by cases h; exact hu⟩
    · exact (fails h).elim

instance advances_simpleBody : Advances (simpleBody g) := by
  unfold simpleBody
  refine .andThen fun _ => .ite' inferInstance <| .andThen fun _ => .ite' inferInstance <|
    .andThen fun _ => .ite' inferInstance <| .andThen fun _ => .ite' inferInstance <| .of_start fun s b t h => ?_
  obtain ⟨head, r, hk, h⟩ := Parser.bind_ok h
  rw [kw?_eq] at hk
  split at hk
  · next seen =>
    cases hk
    obtain ⟨w, ls, rest, word, left⟩ := tableBody_takes h
    obtain ⟨ms, inColumn⟩ := s
    match ms, seen, rest with
    | _ :: _, seen, rfl => exact .tableBody seen word (left ▸ .here _)
  · cases hk
    exact Advances.reaches (p := expected _) h

instance advances_intersections : Advances (intersections g) := by unfold intersections; infer_instance

instance advances_queryBody : Advances (queryBody g) := by dsimp only [queryBody]; infer_instance

instance advances_offsetClause : Advances (offsetClause g) := by unfold offsetClause; infer_instance

instance advances_limitClause : Advances (limitClause g) := by
  unfold limitClause
  refine .andThen fun early => .andThen fun found => ?_
  extract_lets behind
  have : ∀ limit, Advances (behind limit) := fun limit => by
    refine .ite' (.andThen fun offset => ?_) (.andThen fun offset => ?_) <;>
    · dsimp only
      split <;> infer_instance
  clear_value behind
  infer_instance

instance advances_fetchClause : Advances fetchClause := by dsimp only [fetchClause]; infer_instance

instance advances_elementName : Advances elementName := by unfold elementName; infer_instance

instance advances_formatOptions {option : Parser (List String)} [Advances option] :
    Advances (formatOptions option) := by
  unfold formatOptions; infer_instance

instance advances_xmlFormat : Advances xmlFormat := by
  dsimp only [xmlFormat]
  refine .andThen fun head => ?_
  split <;> infer_instance

instance advances_jsonFormat : Advances jsonFormat := by dsimp only [jsonFormat]; infer_instance

instance advances_lock : Advances lock := by dsimp only [lock]; infer_instance

instance advances_forClauses : Advances forClauses := by
  refine .loop fun found => .ite' inferInstance <| .andThen fun more => .ite' (.andThen fun kind => ?_) inferInstance
  split <;> infer_instance

instance advances_changeBody : Advances (changeBody g) := by
  unfold changeBody
  refine .andThen fun kind => ?_
  split <;> infer_instance

instance advances_query : Advances (query g) := by unfold query; infer_instance

/-- However deep queries may nest, their readers get no further. -/
instance grammar_advances : ∀ depth, (grammar depth).Advances
  | 0 => ⟨fun _ => .throw _, .throw _⟩
  | depth + 1 => by
    have inner : (grammar depth).Advances := grammar_advances depth
    exact ⟨fun least => advances_expression least, advances_query⟩

end QueryGateway.Sql
