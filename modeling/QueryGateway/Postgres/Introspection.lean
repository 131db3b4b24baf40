import QueryGateway.Model
import QueryGateway.Text

/-!
# Introspection

How the tables of a database are found: the statement that lists them, one row for
every column and one for a table without columns, and the grouping of its rows into
tables.
-/

namespace QueryGateway.Postgres

/-- The statement that lists tables and columns. -/
def introspectionSql : String :=
  "
    select
      t.table_schema::text as table_schema,
      t.table_name::text as table_name,
      t.table_type::text as table_type,
      c.column_name::text as column_name,
      c.data_type::text as data_type
    from information_schema.tables t
    left join information_schema.columns c
      on c.table_schema = t.table_schema
     and c.table_name = t.table_name
    where t.table_schema not in ('pg_catalog', 'information_schema')
      and t.table_schema not like 'pg_toast%'
      and t.table_schema not like 'pg_temp%'
      and t.table_type in ('BASE TABLE', 'VIEW', 'FOREIGN')
    order by t.table_schema, t.table_name, c.ordinal_position
"

/-- A row of the list. -/
structure IntrospectionRow where
  schema : String
  table : String
  kind : String
  column : Option String
  dataType : Option String
  deriving DecidableEq, Repr

/-- The column of a row, if it has a name and a type. -/
def IntrospectionRow.columns (r : IntrospectionRow) : List ColumnInfo :=
  match r.column, r.dataType with
  | some name, some dataType => [⟨name, dataType⟩]
  | _, _ => []

/-- A row and a table have one schema and name. -/
def IntrospectionRow.belongsTo (r : IntrospectionRow) (t : TableInfo) : Bool :=
  t.schema == r.schema && t.name == r.table

/-- The table that a row begins. -/
def IntrospectionRow.begin (r : IntrospectionRow) : TableInfo :=
  ⟨r.schema, r.table, Text.upper r.kind == "VIEW", r.columns⟩

/-- The tables of rows, of which the table `t` is begun. -/
def groupFrom (t : TableInfo) : List IntrospectionRow → List TableInfo
  | [] => [t]
  | r :: rs =>
    if r.belongsTo t then groupFrom { t with columns := t.columns ++ r.columns } rs
    else t :: groupFrom r.begin rs

/-- The tables of rows. Rows of one table that follow each other are one table; the
first of them says whether it is a view. -/
def groupRows : List IntrospectionRow → List TableInfo
  | [] => []
  | r :: rs => groupFrom r.begin rs

end QueryGateway.Postgres
