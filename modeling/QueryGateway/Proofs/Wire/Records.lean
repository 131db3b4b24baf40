import QueryGateway.Proofs.Wire.Written
import QueryGateway.Wire.Models

/-!
# Records read back

The documents of connections, tables, results and requests read back as what they were
written of. The catalog keeps columns as such a document; the others go over the wire.
-/

namespace QueryGateway

open Text

/-- The id of a connection has 64 bits, and its times are moments that a clock can show. -/
structure Connection.IsReal (c : Connection) : Prop where
  id : IsInt64 c.id
  createdAt : c.createdAt.IsReal
  lastSynced : ∀ t ∈ c.lastSynced, t.IsReal

/-- No cell holds a floating-point number. The objects in cells have their members in order, as
values keep them. -/
def QueryResult.IsWhole (r : QueryResult) : Prop := ∀ row ∈ r.rows, ∀ cell ∈ row, cell.Whole ∧ cell.Ordered

namespace Wire

theorem plain_optionalText (x : Option String) : (Shape.optional .text).Plain x := by
  cases x with
  | none => trivial
  | some text => exact ⟨trivial, Json.Value.noConfusion⟩

theorem plain_optionalMoment {x : Option Moment} (h : ∀ t ∈ x, t.IsReal) : (Shape.optional .moment).Plain x := by
  cases x with
  | none => trivial
  | some t => exact ⟨h t rfl, Json.Value.noConfusion⟩

/-! ## Columns and tables -/

theorem plain_columnInfo (c : ColumnInfo) : columnInfo.Plain (columnInfoData c) :=
  ⟨by decide, trivial, trivial, trivial⟩

theorem plain_columnList (columns : List ColumnInfo) : columnList.Plain (columns.map columnInfoData) :=
  plain_list fun c _ => plain_columnInfo c

theorem columnInfoOf_leftInverse : columnInfoOf.LeftInverse columnInfoData := fun _ => rfl

/-- The columns read back from their text, whatever characters stand in their names and types. -/
theorem parseColumns_columnsText (columns : List ColumnInfo) : parseColumns (columnsText columns) = .ok columns := by
  have parsed : columnList.parse (columnsText columns) = .ok (columns.map columnInfoData) :=
    parse_written (plain_columnList columns) rfl (by decide)
  rw [parseColumns, parsed]
  exact congrArg Except.ok (columnInfoOf_leftInverse.list_map columns)

theorem plain_tableInfo (t : TableInfo) : tableInfo.Plain (tableInfoData t) :=
  ⟨by decide, trivial, trivial, trivial, plain_columnList t.columns, trivial⟩

theorem tableInfoOf_leftInverse : tableInfoOf.LeftInverse tableInfoData := by
  intro t
  show (⟨t.schema, t.name, t.isView, (t.columns.map columnInfoData).map columnInfoOf⟩ : TableInfo) = t
  rw [columnInfoOf_leftInverse.list_map]

/-! ## Connections -/

/-- The connection from its data. -/
def connectionOf : connection.Data → Connection
  | (id, name, connectionUrl, createdAt, lastSynced, ()) => ⟨id, name, connectionUrl, createdAt, lastSynced⟩

/-- The connection with its tables from its data. -/
def connectionMetadataOf : connectionMetadata.Data → ConnectionMetadata
  | (connection, tables, ()) => ⟨connectionOf connection, tables.map tableInfoOf⟩

theorem connectionOf_leftInverse : connectionOf.LeftInverse connectionData := fun _ => rfl

theorem plain_connection {c : Connection} (h : c.IsReal) : connection.Plain (connectionData c) :=
  ⟨by decide, h.id, plain_optionalText c.name, trivial, h.createdAt, plain_optionalMoment h.lastSynced, trivial⟩

/-- The document of a connection reads back as it. -/
theorem parse_connectionJson {c : Connection} (h : c.IsReal) :
    (connection.parse (connectionJson c).text).map connectionOf = .ok c := by
  have parsed : connection.parse (connectionJson c).text = .ok (connectionData c) :=
    parse_written (plain_connection h) rfl (by decide)
  rw [parsed]
  rfl

/-- The document of a list of connections reads back as the list. -/
theorem parse_connectionsJson {cs : List Connection} (h : ∀ c ∈ cs, c.IsReal) :
    ((Shape.list connection).parse (Json.Value.array (cs.map connectionJson)).text).map (List.map connectionOf) =
      .ok cs := by
  have plain : (Shape.list connection).Plain (cs.map connectionData) :=
    plain_list fun c hc => plain_connection (h c hc)
  have written : (Shape.list connection).write (cs.map connectionData) = .array (cs.map connectionJson) :=
    congrArg Json.Value.array (List.map_map ..)
  have parsed := parse_written plain (n := 2) rfl (by decide)
  rw [written] at parsed
  rw [parsed]
  exact congrArg Except.ok (connectionOf_leftInverse.list_map cs)

/-- The document of a connection with its tables reads back as them. -/
theorem parse_connectionMetadataJson {m : ConnectionMetadata} (h : m.connection.IsReal) :
    (connectionMetadata.parse (connectionMetadataJson m).text).map connectionMetadataOf = .ok m := by
  have plain : connectionMetadata.Plain (connectionMetadataData m) :=
    ⟨by decide, plain_connection h, plain_list fun t _ => plain_tableInfo t, trivial⟩
  have parsed : connectionMetadata.parse (connectionMetadataJson m).text = .ok (connectionMetadataData m) :=
    parse_written plain rfl (by decide)
  rw [parsed]
  show Except.ok (⟨m.connection, (m.tables.map tableInfoData).map tableInfoOf⟩ : ConnectionMetadata) = _
  rw [tableInfoOf_leftInverse.list_map]

/-! ## Results -/

/-- The result from its data. -/
def queryResultOf : queryResult.Data → QueryResult
  | (columns, rows, limitAdded, message, ()) => ⟨columns.map queryColumnOf, rows, limitAdded, message⟩

theorem queryColumnOf_leftInverse : queryColumnOf.LeftInverse queryColumnData := fun _ => rfl

theorem plain_queryColumn (c : QueryColumn) : queryColumn.Plain (queryColumnData c) :=
  ⟨by decide, trivial, plain_optionalText c.type, trivial⟩

theorem plain_queryResult {r : QueryResult} (h : r.IsWhole) : queryResult.Plain (queryResultData r) :=
  have rows : (Shape.list (.list .any)).Plain r.rows :=
    List.forall_iff_forall_mem.2 fun row hrow => List.forall_iff_forall_mem.2 fun cell hcell =>
      ⟨(h row hrow cell hcell).1.steady, (h row hrow cell hcell).2⟩
  ⟨by decide, plain_list fun c _ => plain_queryColumn c, rows, trivial, plain_optionalText r.message, trivial⟩

/-- The document of a result without floating-point numbers reads back as it, by any reader that
goes as deep into its cells as they are. -/
theorem parse_queryResultJson {r : QueryResult} (h : r.IsWhole) {limit : Nat} (hd : (queryResultJson r).depth < limit) :
    (queryResult.parseWithin limit (queryResultJson r).text).map queryResultOf = .ok r := by
  have parsed : queryResult.parseWithin limit (queryResultJson r).text = .ok (queryResultData r) :=
    parseWithin_written (plain_queryResult h) hd
  rw [parsed]
  show Except.ok (⟨(r.columns.map queryColumnData).map queryColumnOf, r.rows, r.limitAdded, r.message⟩ :
    QueryResult) = _
  rw [queryColumnOf_leftInverse.list_map]

/-! ## Requests -/

theorem plain_queryRequest {id : Int} (h : IsInt64 id) (sql : String) : queryRequest.Plain (id, sql, ()) :=
  ⟨by decide, h, trivial, trivial⟩

theorem plain_syncRequest (url : String) (name : Option String) : syncRequest.Plain (url, name, ()) :=
  ⟨by decide, trivial, plain_optionalText name, trivial⟩

theorem plain_renameRequest (name : Option String) : renameRequest.Plain (name, ()) :=
  ⟨by decide, plain_optionalText name, trivial⟩

end Wire

end QueryGateway
