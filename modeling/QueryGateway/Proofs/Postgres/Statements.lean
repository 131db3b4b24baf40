import Mathlib.Data.List.Forall2
import QueryGateway.Postgres.Session
import QueryGateway.Proofs.Outcome
import QueryGateway.Proofs.Text.Utf8

/-!
# Statements and their results

The simple protocol would run several statements where one is meant, so a statement goes that way
only behind its own preparation. Main statement: a server is sent a statement once, as it is, and only
if it prepared it; and its answer is shown column by column, row by row and cell by cell.
-/

namespace QueryGateway.Postgres

open Text

/-! ## How far a session gets -/

/-- A session ends before a statement could be sent. -/
inductive StopsEarly (limits : Limits) (url : String) : Reach → Prop
  | unaccepted {e : RemoteError} {reach : Reach} (h : connectOptions limits url = .error e) :
      StopsEarly limits url reach
  | noRoute : StopsEarly limits url .noRoute
  | refused : StopsEarly limits url .refused
  | hangs {script : Script} (h : script.hangs = true) : StopsEarly limits url (.server script)
  | failure {script : Script} {f : ServerFailure} (h : script.failure = some f)
      (early : f.point = .startup ∨ f.point = .hangup ∨ f.point = .prepare) : StopsEarly limits url (.server script)

variable {limits : Limits} {url : String} {reach : Reach} {script : Script}

theorem failsAt_eq_some {p : FailurePoint} {f : ServerFailure} (h : script.failsAt p = some f) :
    script.failure = some f ∧ f.point = p := by
  obtain ⟨hf, point⟩ := Option.filter_eq_some_iff.1 h
  exact ⟨hf, by simpa using point⟩

theorem failsAt_eq_none {p : FailurePoint} (h : script.failsAt p = none) {f : ServerFailure}
    (hf : script.failure = some f) : f.point ≠ p := by
  intro point
  unfold Script.failsAt at h
  rw [hf] at h
  simp [Option.filter, point] at h

/-- A session is opened, or it stops early. -/
theorem openSession_cases (limits : Limits) (url : String) (reach : Reach) :
    (StopsEarly limits url reach ∧ ∃ e, openSession limits url reach = .error e) ∨
      ∃ o script, reach = .server script ∧ connectOptions limits url = .ok o ∧ script.hangs = false ∧
        (∀ f, script.failure = some f → f.point ≠ .startup ∧ f.point ≠ .hangup) ∧
        openSession limits url reach = .ok (o, script) := by
  unfold openSession
  cases accepted : connectOptions limits url with
  | error e => exact .inl ⟨.unaccepted accepted, e, rfl⟩
  | ok o =>
    simp only [bind, Except.bind]
    cases reach with
    | noRoute => exact .inl ⟨.noRoute, _, rfl⟩
    | refused => exact .inl ⟨.refused, _, rfl⟩
    | server script =>
      dsimp only
      cases hangs : script.hangs with
      | true => exact .inl ⟨.hangs hangs, _, rfl⟩
      | false =>
        rw [if_neg (by decide)]
        cases hangup : script.failsAt .hangup with
        | some f =>
          obtain ⟨hf, point⟩ := failsAt_eq_some hangup
          exact .inl ⟨.failure hf (.inr (.inl point)), _, rfl⟩
        | none =>
          cases startup : script.failsAt .startup with
          | some f =>
            obtain ⟨hf, point⟩ := failsAt_eq_some startup
            exact .inl ⟨.failure hf (.inl point), _, rfl⟩
          | none =>
            exact .inr ⟨o, script, rfl, rfl, hangs,
              fun f hf => ⟨failsAt_eq_none startup hf, failsAt_eq_none hangup hf⟩, rfl⟩

/-- A statement is run as far as the session gets: not at all, up to its preparation, or to the end. -/
theorem execute_cases (limits : Limits) (reach : Reach) (url sql : String) :
    (StopsEarly limits url reach ∧ ∃ e, execute limits reach url sql = (.error e, [])) ∨
    (StopsEarly limits url reach ∧ ∃ e o, execute limits reach url sql =
      (.error e, [⟨.start o, true⟩, ⟨.prepare sql, false⟩])) ∨
    (¬ StopsEarly limits url reach ∧ ∃ o script, reach = .server script ∧ execute limits reach url sql =
      ((script.send limits).map fun rows => ⟨script.columns.map describe, rows.map (decodeRow script.columns)⟩,
        [⟨.start (Options.startup o), true⟩, ⟨.prepare sql, true⟩, ⟨.send sql, (script.send limits).isOk⟩])) := by
  unfold execute
  rcases openSession_cases limits url reach with ⟨early, e, he⟩ | ⟨o, script, rfl, accepted, hangs, late, hs⟩
  · exact .inl ⟨early, e, by rw [he]⟩
  · right
    rw [hs]
    dsimp only
    unfold Script.prepare
    cases prepare : script.failsAt .prepare with
    | some f =>
      obtain ⟨hf, point⟩ := failsAt_eq_some prepare
      exact .inl ⟨.failure hf (.inr (.inr point)), _, _, rfl⟩
    | none =>
      refine .inr ⟨?_, o, script, rfl, ?_⟩
      · intro early
        cases early with
        | unaccepted h => cases h.symm.trans accepted
        | hangs h => cases h.symm.trans hangs
        | failure hf early =>
          obtain ⟨startup, hangup⟩ := late _ hf
          exact early.elim startup fun early => early.elim hangup (failsAt_eq_none prepare hf)
      · cases script.send limits <;> rfl

/-! ## What is shown of a result -/

/-- What is shown of a cell in a column of a type, in one format or the other. -/
inductive Shows (type : String) (binary : Bool) : Option (List Nat) → Json.Value → Prop
  | absent : Shows type binary none .null
  | binary {bytes : List Nat} (h : binary = true) : Shows type binary (some bytes) .null
  | noText {bytes : List Nat} (h : ∀ text : String, utf8 text.toList ≠ bytes) : Shows type binary (some bytes) .null
  | text (h : binary = false) (text : String) :
      Shows type binary (some (utf8 text.toList)) (cellValue (upper type) text)

/-- What is shown of a column: its name, and that of its type, if the type is built in. -/
def ShowsColumn (c : ScriptColumn) (shown : QueryColumn) : Prop :=
  shown.name = c.name ∧ ∀ type, typeNames.lookup c.oid = some type → shown.type = some type

/-- What is shown of a row: every cell in its column. -/
def ShowsRow (columns : List ScriptColumn) (row : List (Option (List Nat))) (shown : List Json.Value) : Prop :=
  shown.length = min columns.length row.length ∧
    ∀ (i : Nat) (c : ScriptColumn) (cell : Option (List Nat)) (type : String),
      columns[i]? = some c → row[i]? = some cell → typeNames.lookup c.oid = some type →
        ∃ v, shown[i]? = some v ∧ Shows type c.binary cell v

/-- A result shows all columns and all rows of a script, in their order. -/
structure Answers (script : Script) (rs : ResultSet) : Prop where
  columns : List.Forall₂ ShowsColumn script.columns rs.columns
  rows : List.Forall₂ (ShowsRow script.columns) script.rows rs.rows

theorem shows_decodeCell {c : ScriptColumn} {type : String} (h : typeNames.lookup c.oid = some type)
    (cell : Option (List Nat)) : Shows type c.binary cell (decodeCell c cell) := by
  have name : typeName c.oid = type := by
    unfold typeName
    rw [h]
    rfl
  cases cell with
  | none => exact .absent
  | some bytes =>
    unfold decodeCell
    dsimp only
    cases binary : c.binary with
    | true => exact .binary rfl
    | false =>
      rw [if_neg (by decide), name]
      cases decoded : decodeUtf8 bytes with
      | ok cs =>
        have text : Shows type false _ _ := .text rfl (String.ofList cs)
        rwa [String.toList_ofList, decodeUtf8_eq_ok_iff.1 decoded] at text
      | error f =>
        refine .noText fun text same => ?_
        cases decoded.symm.trans (decodeUtf8_eq_ok_iff.2 same)

theorem showsColumn_describe (c : ScriptColumn) : ShowsColumn c (describe c) := by
  refine ⟨rfl, fun type h => ?_⟩
  show some (typeName c.oid) = _
  unfold typeName
  rw [h]
  rfl

theorem showsRow_decodeRow (columns : List ScriptColumn) (row : List (Option (List Nat))) :
    ShowsRow columns row (decodeRow columns row) := by
  refine ⟨by simp [decodeRow], fun i c cell type hc hcell h => ⟨decodeCell c cell, ?_, shows_decodeCell h cell⟩⟩
  simp [decodeRow, List.getElem?_zip_eq_some, hc, hcell]

theorem answers_script (script : Script) :
    Answers script ⟨script.columns.map describe, script.rows.map (decodeRow script.columns)⟩ where
  columns := List.forall₂_map_right_iff.2 (List.forall₂_same.2 fun c _ => showsColumn_describe c)
  rows := List.forall₂_map_right_iff.2 (List.forall₂_same.2 fun row _ => showsRow_decodeRow script.columns row)

/-! ## Messages -/

/-- A statement is sent behind its preparation, which was accepted, and nothing else is sent. -/
def SentPrepared (sql : String) (told : Exchange) : Prop :=
  ∀ before text accepted after, told = before ++ ⟨.send text, accepted⟩ :: after →
    text = sql ∧ ⟨.prepare sql, true⟩ ∈ before ∧ Exchange.simple before = [] ∧ Exchange.simple after = []

theorem sentPrepared_of_simple {sql : String} {told : Exchange} (h : told.simple = []) : SentPrepared sql told := by
  rintro before text accepted after rfl
  simp [Exchange.simple] at h

theorem sentPrepared_whole (parameters : List (String × String)) (sql : String) (answered : Bool) :
    SentPrepared sql [⟨.start parameters, true⟩, ⟨.prepare sql, true⟩, ⟨.send sql, answered⟩] := by
  intro before text accepted after h
  -- The message to send is the third.
  match before, h with
  | [_, _], h =>
    simp only [List.cons_append, List.nil_append, List.cons.injEq, Told.mk.injEq, Message.send.injEq] at h
    obtain ⟨rfl, rfl, ⟨rfl, -⟩, rfl⟩ := h
    exact ⟨rfl, List.mem_cons_of_mem _ List.mem_cons_self, rfl, rfl⟩
  | [], h => simp at h
  | [_], h => simp at h
  | _ :: _ :: _ :: before, h => simp at h

theorem not_stopsEarly {o : Options} (accepted : connectOptions limits url = .ok o) (hangs : script.hangs = false)
    (none : script.failure = none) : ¬ StopsEarly limits url (.server script) := by
  intro early
  cases early with
  | unaccepted h => cases h.symm.trans accepted
  | hangs h => cases h.symm.trans hangs
  | failure h => cases h.symm.trans none

theorem send_eq_ok (none : script.failure = none) : script.send limits = .ok script.rows := by
  unfold Script.send Script.failsAt
  rw [none]
  rfl

theorem execute_of_whole {o : Options} (accepted : connectOptions limits url = .ok o) (hangs : script.hangs = false)
    (none : script.failure = none) (sql : String) : (execute limits (.server script) url sql).1 =
      .ok ⟨script.columns.map describe, script.rows.map (decodeRow script.columns)⟩ := by
  have late := not_stopsEarly accepted hangs none
  rcases execute_cases limits (.server script) url sql with ⟨early, -⟩ | ⟨early, -⟩ | ⟨-, o', script', same, h⟩
  · exact absurd early late
  · exact absurd early late
  · cases same
    rw [h, send_eq_ok none]
    rfl

end QueryGateway.Postgres
