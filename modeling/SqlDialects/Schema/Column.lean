import SqlDialects.Dialect.Statement
import SqlDialects.Schema.Server
import SqlDialects.TypeName.Read

/-!
# Tables and columns

A `Table` names a table, view or function in a database, whether or not there is one.  A `Column` is
a column as the catalog of the engine describes it.  Its type is kept by name, and everything else
about the type is read out of the name.

## Main definitions

* `Table`, `Column`, `ColumnType` — the handles.
* `Table.same` — whether two handles name the same table.
* `ColumnType.alterTo` — gives the column another type.
* `ColumnType.resize`, `ColumnType.resizeDecimal` — makes the column wider;
  `ColumnType.resizeDecimal?` counts the digits.
-/

set_option autoImplicit false

namespace SqlDialects

open Text

/-! ## Tables -/

/-- A table-like object of a database. -/
structure Table where
  database : Database
  name : String
  schema : Option String := none
  tableType : TableType := .table

/-- The table of the given name. -/
def Database.table (d : Database) (name : String) (schema : Option String)
    (tableType : TableType) : Table :=
  ⟨d, name, schema, tableType⟩

namespace Table

/-- The dialect of the server. -/
def dialect (t : Table) : Dialect := t.database.dialect

/-- The name of the table with all its parts. -/
def qualifiedName (t : Table) : Except SqlError String :=
  t.dialect.style.qualifyTable t.database.name t.schema t.name

/-- Where the table is. -/
def ref (t : Table) : TableRef := ⟨t.database.name, t.schema, t.name, t.tableType⟩

/-- Whether two schemas are the same, where a missing one is the default one. -/
def sameSchema (style : QueryStyle) (a b : Option String) : Bool :=
  match a.or style.defaultSchema?, b.or style.defaultSchema? with
  | some a, some b => sameName a b
  | none, none => true
  | _, _ => false

/-- Whether two handles name the same table: database, schema and table agree, whatever their
case. -/
def same (t u : Table) : Bool :=
  sameName t.database.name u.database.name && sameName t.name u.name &&
    sameSchema t.dialect.style t.schema u.schema

end Table

/-! ## Columns -/

/-- The type of a column of a table. -/
structure ColumnType where
  table : Table
  /-- The name of the column. -/
  column : String
  sqlType : String
  nullable : Bool
  attributes : SortedPairs String := []

/-- A column of a table. -/
structure Column where
  name : String
  nullable : Bool
  isPrimaryKey : Bool
  isAutoIncrement : Bool
  collation : Option String
  type : ColumnType

namespace Column

/-- The column that an entry of the catalog describes. -/
def ofInfo (t : Table) (info : ColumnInfo) : Column :=
  { name := info.name, nullable := info.nullable, isPrimaryKey := info.isPrimaryKey
    isAutoIncrement := info.isAutoIncrement, collation := info.collation
    type := ⟨t, info.name, info.sqlType, info.nullable, info.attributes⟩ }

/-- The table that the column belongs to. -/
def table (c : Column) : Table := c.type.table

/-- The name between quotes. -/
def wrappedName (c : Column) : Except SqlError String := c.table.dialect.style.wrap c.name

/-- The name with all its parts. -/
def qualifiedName (c : Column) : Except SqlError String :=
  c.table.dialect.style.qualifyColumn c.table.database.name c.table.schema c.table.name c.name

/-- Whether two handles name the same column. -/
def same (c d : Column) : Bool := c.table.same d.table && sameName c.name d.name

end Column

/-! ## Types -/

namespace ColumnType

/-- The dialect of the server. -/
def dialect (ct : ColumnType) : Dialect := ct.table.dialect

/-- The request that the type answers. -/
def request (ct : ColumnType) : Except SqlError TypeRequest := ct.dialect.request ct.sqlType

/-- The kind of the type, if the dialect knows it. -/
def kind? (ct : ColumnType) : Option TypeKind := ct.dialect.kindOf ct.sqlType

/-- The length of a string type. -/
def length (ct : ColumnType) : Int := ct.dialect.stringLength ct.sqlType

/-- The digits of a fixed-point type. -/
def decimalSize (ct : ColumnType) : Option DecimalSize := ct.dialect.decimalSizeOf ct.sqlType

/-- Executes statements up to the first that fails. -/
def runAlterations (c : Connection) : List String → Action Unit
  | [] => pure ()
  | sql :: rest => do
    match ← (Action.execute c { text := sql }).attempt with
    | .ok _ => runAlterations c rest
    | .error e => throw (.alterFailed sql e)

/-- The statements that give the column another type, in order. -/
def alterations (ct : ColumnType) (newType : String) : Except SqlError (List String) := do
  let table ← ct.table.qualifiedName
  let column ← ct.dialect.style.wrap ct.column
  ct.dialect.alterColumn table column ct.sqlType newType ct.nullable

/-- Gives the column another type.  The new type is remembered once all statements have succeeded;
if one of them fails, the column is remembered as it was. -/
def alterTo (ct : ColumnType) (newType : String) (transaction : Option Transaction) :
    Program (Except SqlError Unit × ColumnType) :=
  match ct.alterations newType with
  | .error e => .done (.error e, ct)
  | .ok statements =>
    (withConnection (some ct.table.database.name) transaction fun c =>
      runAlterations c statements).run.andThen fun
    | .error e => .done (.error e, ct)
    | .ok () => .done (.ok (), { ct with sqlType := newType })

/-- Makes a string column wider.  The present width is left as it is, and a smaller one refused. -/
def resize (ct : ColumnType) (width : UInt32) (transaction : Option Transaction) :
    Program (Except SqlError Unit × ColumnType) :=
  let current := ct.length
  let requested : Int := width.toNat
  if current = notAString then .done (.error (.resize (.notString ct.column ct.sqlType)), ct)
  else if requested = current then .done (.ok (), ct)
  else if requested < current then
    .done (.error (.resize (.narrower ct.column current requested)), ct)
  else
    let unicode := ct.dialect.isUnicode ct.sqlType
    ct.alterTo (ct.dialect.declare { TypeRequest.string width with unicode }) transaction

/-- Gives a decimal column more digits.  The present size is left as it is, and one with fewer
digits on either side is refused. -/
def resizeDecimal (ct : ColumnType) (before after : UInt32) (transaction : Option Transaction) :
    Program (Except SqlError Unit × ColumnType) :=
  match ct.decimalSize with
  | none => .done (.error (.resize (.notDecimal ct.column ct.sqlType)), ct)
  | some current =>
    let requested : DecimalSize := ⟨some before, some after⟩
    if before < current.beforeDigits || after < current.scale then
      .done (.error (.resize (.losesDigits ct.column current requested)), ct)
    else if requested.same current then .done (.ok (), ct)
    else ct.alterTo (ct.dialect.declare (.decimal requested)) transaction

/-- The same; nothing if digits cannot be counted.  A new type has its digits counted, and a refusal
tells those of both sizes. -/
def resizeDecimal? (ct : ColumnType) (before after : UInt32) (transaction : Option Transaction) :
    Option (Program (Except SqlError Unit × ColumnType)) :=
  match ct.decimalSize with
  | none => some (.done (.error (.resize (.notDecimal ct.column ct.sqlType)), ct))
  | some current => do
    let requested : DecimalSize := ⟨some before, some after⟩
    if before < current.beforeDigits || after < current.scale then
      let _ ← current.precision?
      let _ ← requested.precision?
      return .done (.error (.resize (.losesDigits ct.column current requested)), ct)
    if requested.same current then return .done (.ok (), ct)
    return ct.alterTo (← ct.dialect.declare? (.decimal requested)) transaction

end ColumnType

end SqlDialects
