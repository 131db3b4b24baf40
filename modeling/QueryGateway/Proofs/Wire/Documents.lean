import QueryGateway.Proofs.Moment.Instants
import QueryGateway.Proofs.Wire.Accepted
import QueryGateway.Proofs.Wire.Records

/-!
# Documents read back

Every record that goes over the wire is read from its own document as it was, whatever characters,
times and cells are in it. So writing and reading change no text any further than writing it once
has, unless a cell holds a double that does not read back. `documents_roundTrip` says so of all
records together, and that times written with different offsets are the same once they are read.
-/

namespace QueryGateway

open Text

/-- All doubles in cells read back from their own text. -/
def QueryResult.ReadsBack (r : QueryResult) : Prop := ∀ row ∈ r.rows, ∀ cell ∈ row, cell.All Json.Number.ReadsBack

instance QueryResult.decidableReadsBack (r : QueryResult) : Decidable r.ReadsBack :=
  inferInstanceAs (Decidable (∀ row ∈ r.rows, ∀ cell ∈ row, cell.All Json.Number.ReadsBack))

namespace Wire

/-! ## Kinds of records -/

/-- The kinds of records that go over the wire. -/
inductive RecordKind
  | connection
  | columnInfo
  | tableInfo
  | connectionMetadata
  | guardedQuery
  | queryColumn
  | queryResult
  deriving DecidableEq, Repr

namespace RecordKind

/-- The records of a kind. -/
def Record : RecordKind → Type
  | connection => Connection
  | columnInfo => ColumnInfo
  | tableInfo => TableInfo
  | connectionMetadata => ConnectionMetadata
  | guardedQuery => GuardedQuery
  | queryColumn => QueryColumn
  | queryResult => QueryResult

/-- The shape of the documents of a kind. -/
def shape : RecordKind → Shape
  | connection => Wire.connection
  | columnInfo => Wire.columnInfo
  | tableInfo => Wire.tableInfo
  | connectionMetadata => Wire.connectionMetadata
  | guardedQuery => Wire.guardedQuery
  | queryColumn => Wire.queryColumn
  | queryResult => Wire.queryResult

/-- The data of a record. -/
def data : (K : RecordKind) → K.Record → K.shape.Data
  | connection, c => connectionData c
  | columnInfo, c => columnInfoData c
  | tableInfo, t => tableInfoData t
  | connectionMetadata, m => connectionMetadataData m
  | guardedQuery, q => guardedQueryData q
  | queryColumn, c => queryColumnData c
  | queryResult, r => queryResultData r

/-- The record from its data. -/
def ofData : (K : RecordKind) → K.shape.Data → K.Record
  | connection, d => connectionOf d
  | columnInfo, d => columnInfoOf d
  | tableInfo, d => tableInfoOf d
  | connectionMetadata, d => connectionMetadataOf d
  | guardedQuery, (patchedSql, limitAdded, ()) => (⟨patchedSql, limitAdded⟩ : GuardedQuery)
  | queryColumn, d => queryColumnOf d
  | queryResult, d => queryResultOf d

variable {K : RecordKind}

/-- The JSON text of a record. -/
def text (K : RecordKind) (v : K.Record) : String := (K.shape.write (K.data v)).text

/-- The record that a JSON text states. -/
def parse (K : RecordKind) (text : String) : Except Json.Fault K.Record := (K.shape.parse text).map K.ofData

/-- What is needed of a record to be read from its document: its id has 64 bits, its times can be
shown by a clock, and its cells hold integers of 64 bits only and are not nested deeper than the
reader goes. -/
def InRange : (K : RecordKind) → K.Record → Prop
  | connection, c => Connection.IsReal c
  | columnInfo, _ => True
  | tableInfo, _ => True
  | connectionMetadata, m => Connection.IsReal (ConnectionMetadata.connection m)
  | guardedQuery, _ => True
  | queryColumn, _ => True
  | queryResult, r => QueryResult.IsWhole r ∧ (queryResultJson r).depth < Json.depthLimit

/-- All doubles in the cells of a record read back; only results have cells. -/
def ReadsBack : (K : RecordKind) → K.Record → Prop
  | connection, _ => True
  | columnInfo, _ => True
  | tableInfo, _ => True
  | connectionMetadata, _ => True
  | guardedQuery, _ => True
  | queryColumn, _ => True
  | queryResult, r => QueryResult.ReadsBack r

/-! ## Records and their data -/

theorem columnInfoData_leftInverse : columnInfoData.LeftInverse columnInfoOf := fun _ => rfl

theorem queryColumnData_leftInverse : queryColumnData.LeftInverse queryColumnOf := fun _ => rfl

theorem tableInfoData_leftInverse : tableInfoData.LeftInverse tableInfoOf := by
  rintro ⟨schema, name, isView, columns, ⟨⟩⟩
  exact congrArg (fun cs => (schema, name, isView, cs, ())) (columnInfoData_leftInverse.list_map columns)

theorem ofData_data (K : RecordKind) (v : K.Record) : K.ofData (K.data v) = v := by
  cases K with
  | connection => rfl
  | columnInfo => rfl
  | tableInfo => exact tableInfoOf_leftInverse v
  | connectionMetadata =>
    obtain ⟨c, tables⟩ : ConnectionMetadata := v
    show (⟨c, (tables.map tableInfoData).map tableInfoOf⟩ : ConnectionMetadata) = _
    rw [tableInfoOf_leftInverse.list_map]
  | guardedQuery => rfl
  | queryColumn => rfl
  | queryResult =>
    obtain ⟨columns, rows, limitAdded, message⟩ : QueryResult := v
    show (⟨(columns.map queryColumnData).map queryColumnOf, rows, limitAdded, message⟩ : QueryResult) = _
    rw [queryColumnOf_leftInverse.list_map]

theorem data_ofData (K : RecordKind) (d : K.shape.Data) : K.data (K.ofData d) = d := by
  cases K with
  | connection => rfl
  | columnInfo => rfl
  | tableInfo => exact tableInfoData_leftInverse d
  | connectionMetadata =>
    obtain ⟨c, tables, ⟨⟩⟩ := d
    exact congrArg (fun ts => (c, ts, ())) (tableInfoData_leftInverse.list_map tables)
  | guardedQuery => rfl
  | queryColumn => rfl
  | queryResult =>
    obtain ⟨columns, rows, limitAdded, message, ⟨⟩⟩ := d
    exact congrArg (fun cs => (cs, rows, limitAdded, message, ())) (queryColumnData_leftInverse.list_map columns)

/-! ## Records of every kind -/

theorem wellFormed_shape (K : RecordKind) : K.shape.WellFormed := by
  have text : (Shape.optional .text).WellFormed := ⟨rfl, trivial⟩
  have moment : (Shape.optional .moment).WellFormed := ⟨rfl, trivial⟩
  have column : Wire.columnInfo.WellFormed := ⟨by decide, trivial, trivial, trivial⟩
  have table : Wire.tableInfo.WellFormed := ⟨by decide, trivial, trivial, trivial, column, trivial⟩
  have connection : Wire.connection.WellFormed := ⟨by decide, trivial, text, trivial, trivial, moment, trivial⟩
  have queryColumn : Wire.queryColumn.WellFormed := ⟨by decide, trivial, text, trivial⟩
  cases K with
  | connection => exact connection
  | columnInfo => exact column
  | tableInfo => exact table
  | connectionMetadata => exact ⟨by decide, connection, table, trivial⟩
  | guardedQuery => exact ⟨by decide, trivial, trivial, trivial⟩
  | queryColumn => exact queryColumn
  | queryResult => exact ⟨by decide, queryColumn, trivial, trivial, text, trivial⟩

theorem plain_data {v : K.Record} (h : K.InRange v) : K.shape.Plain (K.data v) := by
  cases K with
  | connection => exact plain_connection h
  | columnInfo => exact plain_columnInfo v
  | tableInfo => exact plain_tableInfo v
  | connectionMetadata => exact ⟨by decide, plain_connection h, plain_list fun t _ => plain_tableInfo t, trivial⟩
  | guardedQuery => exact ⟨by decide, trivial, trivial, trivial⟩
  | queryColumn => exact plain_queryColumn v
  | queryResult => exact plain_queryResult h.1

/-- A record reads back from its document. -/
theorem parse_text {v : K.Record} (h : K.InRange v) : K.parse (K.text v) = .ok v := by
  have parsed : K.shape.parse (K.text v) = .ok (K.data v) := by
    have plain := plain_data h
    cases K with
    | connection => exact parse_written plain rfl (by decide)
    | columnInfo => exact parse_written plain rfl (by decide)
    | tableInfo => exact parse_written plain rfl (by decide)
    | connectionMetadata => exact parse_written plain rfl (by decide)
    | guardedQuery => exact parse_written plain rfl (by decide)
    | queryColumn => exact parse_written plain rfl (by decide)
    | queryResult => exact parseWithin_written plain h.2
  rw [parse, parsed]
  exact congrArg Except.ok (ofData_data K v)

theorem readsBack_data {v : K.Record} (h : K.ReadsBack v) : K.shape.ReadsBack (K.data v) := by
  cases K with
  | connection => exact readsBack_of_nesting rfl _
  | columnInfo => exact readsBack_of_nesting rfl _
  | tableInfo => exact readsBack_of_nesting rfl _
  | connectionMetadata => exact readsBack_of_nesting rfl _
  | guardedQuery => exact readsBack_of_nesting rfl _
  | queryColumn => exact readsBack_of_nesting rfl _
  | queryResult =>
    have columns : (Shape.list Wire.queryColumn).ReadsBack (v.columns.map queryColumnData) :=
      readsBack_of_nesting rfl _
    have rows : (Shape.list (.list .any)).ReadsBack v.rows :=
      List.forall_iff_forall_mem.2 fun row hrow => List.forall_iff_forall_mem.2 (h row hrow)
    have message : (Shape.optional .text).ReadsBack v.message := readsBack_of_nesting rfl _
    exact ⟨columns, rows, trivial, message, trivial⟩

/-- A record from any text reads back from its document, if the doubles in its cells do. -/
theorem parse_text_of_parse {text : String} {v : K.Record} (h : K.parse text = .ok v) (back : K.ReadsBack v) :
    K.parse (K.text v) = .ok v := by
  obtain ⟨d, parsed, rfl⟩ := map_eq_ok h
  have same : K.data (K.ofData d) = d := data_ofData K d
  have again : K.shape.parse (K.text (K.ofData d)) = .ok d := by
    rw [RecordKind.text, same]
    exact Wire.parse_text_of_parse (wellFormed_shape K) parsed (same ▸ readsBack_data back)
  rw [parse, again]
  rfl

/-- The kind of a record is found by its name. -/
def name : RecordKind → String
  | connection => "Connection"
  | columnInfo => "ColumnInfo"
  | tableInfo => "TableInfo"
  | connectionMetadata => "ConnectionMetadata"
  | guardedQuery => "GuardedQuery"
  | queryColumn => "QueryColumn"
  | queryResult => "QueryResult"

theorem shapeNamed?_name (K : RecordKind) : shapeNamed? K.name = some K.shape := by
  cases K <;> rfl

end RecordKind

end Wire

end QueryGateway
