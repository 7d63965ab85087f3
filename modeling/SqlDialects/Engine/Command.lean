import SqlDialects.Error
import SqlDialects.Relationship
import SqlDialects.Value

/-!
# What is said to an engine, and what it tells

## Main definitions

* `Command` — a statement or query with its parameters.
* `TableRef` — where a table is.
* `ColumnInfo`, `TableInfo` — what the catalog of an engine says.
* `BulkInsert` — rows to be loaded.
-/

set_option autoImplicit false

namespace SqlDialects

/-- The seconds that a command may take unless another limit is set. -/
def defaultTimeout : UInt32 := 30

/-- A statement or query with named parameters. -/
structure Command where
  text : String
  parameters : List (String × SqlValue) := []
  /-- The limit in seconds. -/
  timeout : UInt32 := defaultTimeout
deriving DecidableEq, Repr, Inhabited

/-- Where a table is. -/
structure TableRef where
  database : String
  schema : Option String
  table : String
  tableType : TableType
deriving DecidableEq, Repr, Inhabited

/-- A column as the catalog describes it. -/
structure ColumnInfo where
  name : String
  sqlType : String
  nullable : Bool
  isPrimaryKey : Bool := false
  isAutoIncrement : Bool := false
  collation : Option String := none
  /-- Whatever else the catalog says of the column. -/
  attributes : SortedPairs String := []
deriving DecidableEq, Repr, Inhabited

/-- A table as the catalog lists it. -/
structure TableInfo where
  name : String
  schema : Option String := none
  tableType : TableType
deriving DecidableEq, Repr, Inhabited

/-- Rows to be loaded into a table, in the order of its named columns. -/
structure BulkInsert where
  /-- The qualified name of the table. -/
  table : String
  /-- The names of the columns, without quotes. -/
  columns : List String
  /-- The statement that inserts a single row. -/
  insertSql : String
  /-- The parameters of that statement, one for each column. -/
  parameters : List String
  rows : List (List SqlValue)
  timeout : UInt32
deriving DecidableEq, Repr, Inhabited

/-- The command that inserts one of the rows. -/
def BulkInsert.rowCommand (b : BulkInsert) (row : List SqlValue) : Command :=
  { text := b.insertSql, parameters := b.parameters.zip row, timeout := b.timeout }

end SqlDialects
