import Mathlib.Data.List.TakeWhile
import QueryGateway.Http.Route
import QueryGateway.Proofs.Outcome
import QueryGateway.Proofs.Text.Escapes
import QueryGateway.Proofs.Text.Numerals
import QueryGateway.Proofs.Text.Splits

/-!
# Paths

The path of a connection ends with its id, which may be written in several ways; the digits
that a client usually writes are one of them.
-/

namespace QueryGateway

open Text

namespace Http

/-! ## Ids -/

/-- A character that goes on with a path. -/
def isPathChar (c : Char) : Bool := c != '?' && c != '#'

theorem mem_toString_int {n : Int} {c : Char} (h : c ∈ (toString n).toList) : c = '-' ∨ isDigit c = true := by
  rw [toList_toString_int] at h
  rcases List.mem_append.1 h with h | h
  · split at h
    · exact .inl (List.mem_singleton.1 h)
    · cases h
  · exact .inr (isDigit_of_mem_toDigits h)

/-- The digits of an id of 64 bits read as it. -/
theorem readId_toString {id : Int} (h : IsInt64 id) : readId (toString id).toList = .ok id := by
  have plain : ∀ c ∈ (toString id).toList, c.toNat < 0x80 ∧ c ≠ '%' := by
    intro c hc
    rcases mem_toString_int hc with rfl | digit
    · decide
    · have high : c.toNat ≤ 57 := by
        have bounds : '0' ≤ c ∧ c ≤ '9' := by simpa [isDigit] using digit
        exact UInt32.le_iff_toNat_le.1 bounds.2
      exact ⟨by omega, fun percent => by rw [percent] at digit; cases digit⟩
  rw [readId, percentDecode_plain plain]
  dsimp only
  rw [int64?_toString h]

theorem slash_not_mem_toString (id : Int) : '/' ∉ (toString id).toList := by
  intro h
  rcases mem_toString_int h with slash | digit
  · cases slash
  · cases digit

/-- There is no query in an id. -/
theorem all_isPathChar_toString (id : Int) : (toString id).toList.all isPathChar = true := by
  refine List.all_eq_true.2 fun c hc => ?_
  rcases mem_toString_int hc with rfl | digit
  · rfl
  · have notQuery : c ≠ '?' := ne_of_apply_ne isDigit (by rw [digit]; decide)
    have notFragment : c ≠ '#' := ne_of_apply_ne isDigit (by rw [digit]; decide)
    simp [isPathChar, notQuery, notFragment]

/-! ## Routes -/

/-- A target without a query is a path. -/
theorem path_of_target {r : Request} {path : List Char} (h : r.target.toList = path)
    (plain : path.all isPathChar = true) : r.path = path := by
  subst h
  exact List.takeWhile_eq_self_iff.2 (List.all_eq_true.1 plain)

/-- The path of a connection. -/
def connectionPath (segment : List Char) : List Char := "/api/metadata/".toList ++ segment

theorem all_isPathChar_connectionPath {segment : List Char} (h : segment.all isPathChar = true) :
    (connectionPath segment).all isPathChar = true := by
  have front : "/api/metadata/".toList.all isPathChar = true := by decide
  unfold connectionPath
  rw [List.all_append, h, front]
  rfl

theorem ofPath?_connectionPath {segment : List Char} {id : Int} (hid : readId segment = .ok id) (h : '/' ∉ segment) :
    Resource.ofPath? (connectionPath segment) = some (.connection segment) := by
  have parts : splitAll '/' (connectionPath segment) = ["".toList, "api".toList, "metadata".toList, segment] := by
    show splitAll '/' ("".toList ++ '/' :: ("api".toList ++ '/' :: ("metadata".toList ++ '/' :: segment))) = _
    rw [splitAll_append (by decide), splitAll_append (by decide), splitAll_append (by decide), splitAll_of_not_mem h]
  unfold Resource.ofPath?
  rw [parts]
  have notSync : String.ofList segment ≠ "sync" := by
    intro sync
    have read : segment = "sync".toList := by rw [← sync, String.toList_ofList]
    rw [read] at hid
    cases hid
  have nonempty : String.ofList segment ≠ "" := by
    intro empty
    have read : segment = "".toList := by rw [← empty, String.toList_ofList]
    rw [read] at hid
    cases hid
  simp [nonempty]

end Http

end QueryGateway
