import QueryGateway.Postgres.Cell
import QueryGateway.Proofs.Json.Grammar
import QueryGateway.Proofs.Json.Members

/-!
# JSON of the server

A cell of a JSON column is the value that its text writes. Main statement: this is so whatever text
of the value the server has chosen, and a text that is no JSON stays as it is.
-/

namespace QueryGateway.Postgres

open Json Text

/-- Both JSON types are read alike. -/
theorem cellValue_json {type : String} (h : type = "JSON" ∨ type = "JSONB") (text : String) :
    cellValue type text = orVerbatim text (jsonCell text) := by
  rcases h with rfl | rfl <;> rfl

theorem jsonCell_of_parse {text : String} {v : Json.Value} (h : Json.Value.parse text = .ok v) :
    jsonCell text = some v := by
  rw [jsonCell, h]
  rfl

theorem jsonCell_eq_none {text : String} (h : ¬ IsJson text.toList) : jsonCell text = none := by
  unfold jsonCell
  cases read : Json.Value.parse text with
  | error => rfl
  | ok v => exact absurd (isJson_of_parse read) h

/-- (1) Of a value up to 127 deep, in which integers have 64 bits, signed or not, every text becomes
the value: with any white space between its parts, any escapes in its strings and any order of
members. (2) The value is kept with members in the order of their keys, and every value in which no
object has a key twice can be kept so. (3) A text that is no JSON becomes itself, as a string. -/
theorem json_cells_kept (type : String) (h : type = "JSON" ∨ type = "JSONB") :
    (∀ v : Json.Value, v.Ordered → v.depth ≤ 127 → ∀ text : String, v.Spelled text.toList →
      cellValue type text = v) ∧
    (∀ v : Json.Value, v.Distinct → ∃ w : Json.Value, w.Ordered ∧ w.Same v) ∧
    ∀ text : String, ¬ IsJson text.toList → cellValue type text = .string text := by
  refine ⟨fun v ordered depth text spelled => ?_, fun v distinct => ?_, fun text no => ?_⟩
  · have read : Json.Value.parse text = .ok v := parse_spelled ordered (Nat.lt_succ_of_le depth) spelled
    rw [cellValue_json h, jsonCell_of_parse read]
    rfl
  · exact ⟨v.sorted, v.ordered_sorted, distinct.same_sorted⟩
  · rw [cellValue_json h, jsonCell_eq_none no]
    rfl

/-- White space, escapes and the order of members make no difference; `Infinity` is no JSON. -/
theorem spaced_document_kept :
    let v : Json.Value := .object [("a", .string "😀/"), ("b", .array [.int 1, .int (-2)])]
    cellValue "JSONB" " \x7b\"b\" : [1,\n-2 ],\"a\":\"\\ud83D\\uDE00\\/\"\x7d" = v ∧
      cellValue "JSONB" "Infinity" = .string "Infinity" := by
  intro v
  obtain ⟨kept, -, verbatim⟩ := json_cells_kept "JSONB" (.inr rfl)
  refine ⟨kept v ?_ (by decide) _ ?_, verbatim _ fun json => ?_⟩
  · have keys : ("a" : String) < "b" := by decide
    exact ⟨List.pairwise_pair.2 keys, trivial, ⟨trivial, trivial, trivial⟩, trivial⟩
  · have space : Blank [' '] := List.forall_mem_singleton.2 rfl
    have line : Blank ['\n'] := List.forall_mem_singleton.2 rfl
    have a : Spells ['a'] ['a'] := .plain (by decide) (by decide) (by decide) .nil
    have b : Spells ['b'] ['b'] := .plain (by decide) (by decide) (by decide) .nil
    have emoji : Spells "\\ud83D\\uDE00\\/".toList [pairChar 0xD83D 0xDE00, '/'] :=
      .pair (by decide) (by decide) (by decide) (by decide) (.escaped (by decide) .nil)
    have numbers : (Json.Value.array [.int 1, .int (-2)]).Written "[1,\n-2 ]".toList :=
      ⟨[], "1,\n-2 ".toList, rfl, blank_nil, [], ['1'], [], ",\n-2 ".toList, rfl, rfl, ⟨by decide, by decide, rfl⟩, blank_nil,
        [',', '\n'], ['-', '2'], [' '], [], rfl, ⟨['\n'], rfl, line⟩, ⟨by decide, by decide, rfl⟩, space, rfl⟩
    have text : (Json.Value.string "😀/").Written "\"\\ud83D\\uDE00\\/\"".toList := ⟨_, rfl, emoji⟩
    have document : (Json.Value.object [("b", .array [.int 1, .int (-2)]), ("a", .string "😀/")]).Written
        "\x7b\"b\" : [1,\n-2 ],\"a\":\"\\ud83D\\uDE00\\/\"\x7d".toList :=
      ⟨[], "\"b\" : [1,\n-2 ],\"a\":\"\\ud83D\\uDE00\\/\"".toList, rfl, blank_nil,
        [], ['b'], [' '], [' '], _, [], ",\"a\":\"\\ud83D\\uDE00\\/\"".toList, rfl, rfl, b, space, space, numbers, blank_nil,
        [','], ['a'], [], [], _, [], [], rfl, ⟨[], rfl, blank_nil⟩, a, blank_nil, blank_nil, text, blank_nil, rfl⟩
    have same : v.Same (.object [("b", .array [.int 1, .int (-2)]), ("a", .string "😀/")]) :=
      ⟨[("a", .string "😀/"), ("b", .array [.int 1, .int (-2)])], ⟨rfl, rfl, rfl, ⟨rfl, rfl, trivial⟩, trivial⟩, .swap _ _ _⟩
    exact ⟨_, [' '], _, [], same, rfl, space, document, blank_nil⟩
  · have first : isSpace 'I' = false := by decide
    have infinity : IsJson ('I' :: "nfinity".toList) := json
    exact absurd (infinity.starts first) (by decide)

end QueryGateway.Postgres
