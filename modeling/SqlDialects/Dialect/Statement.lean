import SqlDialects.Error
import SqlDialects.Relationship
import SqlDialects.TypeName.Family

/-!
# Statements on tables

The text of the statements that change a table or ask about it.  All names are quoted and qualified
by the caller, and nothing is executed here.

## Main definitions

* `Dialect.alterColumn` — the statements that change the type of a column, in order.
* `Dialect.makeDistinct` — the statements that leave each row of a table once.
* `Dialect.lastIdentity` — the query for the value that the engine has just counted up.
-/

set_option autoImplicit false

namespace SqlDialects

open Text

/-- The clause that says whether a column may be null. -/
def nullClause (nullable : Bool) : String := if nullable then "NULL" else "NOT NULL"

/-- A list of names or parameters, as it stands between parentheses. -/
def commaList (items : List String) : String := ",".intercalate items

/-- The definition of a foreign key within a statement. -/
def foreignKeyClause (constraint : String) (columns : List String) (primaryTable : String)
    (primaryColumns : List String) (cascade : Bool) : String :=
  "CONSTRAINT " ++ constraint ++ " FOREIGN KEY (" ++ commaList columns ++ ") REFERENCES " ++
    primaryTable ++ "(" ++ commaList primaryColumns ++ ")" ++
    if cascade then " ON DELETE CASCADE" else ""

/-- The definition of a primary key within a statement. -/
def primaryKeyClause (constraint : String) (columns : List String) : String :=
  "CONSTRAINT " ++ constraint ++ " PRIMARY KEY (" ++ commaList columns ++ ")"

/-- The name with its apostrophes doubled, as it stands between apostrophes. -/
def escapeApostrophes (name : String) : String :=
  String.ofList (replaceAll ['\x27'] ['\x27', '\x27'] name.toList)

namespace Dialect

/-! ## Columns -/

/-- Adds a column. -/
def addColumn (table column sqlType : String) (nullable : Bool) : String :=
  "ALTER TABLE " ++ table ++ " ADD " ++ column ++ " " ++ sqlType ++ " " ++ nullClause nullable

/-- Removes a column. -/
def dropColumn (table column : String) : String :=
  "ALTER TABLE " ++ table ++ " DROP COLUMN " ++ column

/-- Gives a column a type, in the dialects that have one clause for it. -/
def alterWith (verb table column sqlType : String) (nullable : Bool) : String :=
  "ALTER TABLE " ++ table ++ " " ++ verb ++ " " ++ column ++ " " ++ sqlType ++ " " ++
    nullClause nullable

/-- The types that a column passes through on its way from one type to another, the last of them
the new one.  Truth values of MySQL become something else only by way of text. -/
def alterationPath (dialect : Dialect) (oldType newType : String) : List String :=
  if dialect = mysql ∧ dialect.kindOf oldType = some .bool ∧ dialect.kindOf newType ≠ some .bool
  then ["varchar(10)", newType]
  else [newType]

/-- The statement that gives a column one type. -/
def alterStatement (dialect : Dialect) (table column sqlType : String) (nullable : Bool) :
    Except SqlError String :=
  match dialect with
  | mssql => .ok (alterWith "ALTER COLUMN" table column sqlType nullable)
  | mysql => .ok (alterWith "MODIFY COLUMN" table column sqlType nullable)
  | oracle => .ok (alterWith "MODIFY" table column sqlType nullable)
  | postgres =>
    .ok ("ALTER TABLE " ++ table ++ " ALTER COLUMN " ++ column ++ " TYPE " ++ sqlType ++
      ", ALTER COLUMN " ++ column ++ " " ++ if nullable then "DROP NOT NULL" else "SET NOT NULL")
  | sqlite => .error (dialect.refuses "ALTER COLUMN type change")

/-- The statements that change the type of a column, in order. -/
def alterColumn (dialect : Dialect) (table column oldType newType : String) (nullable : Bool) :
    Except SqlError (List String) :=
  (dialect.alterationPath oldType newType).mapM fun sqlType =>
    dialect.alterStatement table column sqlType nullable

/-! ## Tables -/

/-- Renames a table.  The new name is given plain, quoted and qualified. -/
def renameTable (dialect : Dialect) (old newName newWrapped newQualified : String) : String :=
  match dialect with
  | mssql =>
    "exec sp_rename '" ++ escapeApostrophes old ++ "', '" ++ escapeApostrophes newName ++ "'"
  | mysql => "RENAME TABLE " ++ old ++ " TO " ++ newQualified
  | _ => "ALTER TABLE " ++ old ++ " RENAME TO " ++ newWrapped

/-- Removes all rows. -/
def truncate (dialect : Dialect) (table : String) : String :=
  match dialect with
  | sqlite => "DELETE FROM " ++ table
  | _ => "TRUNCATE TABLE " ++ table

/-- Copies the different rows of a table to another table, and back again. -/
def makeDistinct (dialect : Dialect) (table scratch : String) : List String :=
  [match dialect with
    | mssql => "SELECT DISTINCT * INTO " ++ scratch ++ " FROM " ++ table
    | _ => "CREATE TABLE " ++ scratch ++ " AS SELECT DISTINCT * FROM " ++ table,
    "DELETE FROM " ++ table,
    "INSERT INTO " ++ table ++ " SELECT * FROM " ++ scratch,
    "DROP TABLE " ++ scratch]

/-- Removes a table-like object. -/
def dropTable (name : String) : TableType → String
  | .table => "DROP TABLE " ++ name
  | .view => "DROP VIEW " ++ name
  | .tableValuedFunction => "DROP FUNCTION " ++ name

/-! ## Rows -/

/-- Counts the rows. -/
def rowCount (table : String) : String := "SELECT COUNT(*) FROM " ++ table

/-- Inserts one row of parameters. -/
def insertRow (table : String) (columns parameters : List String) : String :=
  "INSERT INTO " ++ table ++ "(" ++ commaList columns ++ ") VALUES (" ++ commaList parameters ++ ")"

/-- The query for the value that the engine last counted up on this connection.  Oracle has none,
and the greatest value of the column has to do. -/
def lastIdentity (dialect : Dialect) (table : String) (column : Option String) : Option String :=
  match dialect with
  | mssql => some "SELECT SCOPE_IDENTITY()"
  | mysql => some "SELECT LAST_INSERT_ID()"
  | postgres => some "SELECT lastval()"
  | oracle => column.map fun column => "SELECT MAX(" ++ column ++ ") FROM " ++ table
  | sqlite => some "SELECT last_insert_rowid()"

/-! ## Keys -/

/-- Gives an existing table its primary key. -/
def addPrimaryKey (dialect : Dialect) (table constraint : String) (columns : List String) :
    Except SqlError String :=
  match dialect with
  | sqlite => .error (dialect.refuses "ADD PRIMARY KEY on an existing table")
  | _ => .ok ("ALTER TABLE " ++ table ++ " ADD " ++ primaryKeyClause constraint columns)

/-- Gives an existing table a foreign key. -/
def addForeignKey (dialect : Dialect) (table constraint : String) (columns : List String)
    (primaryTable : String) (primaryColumns : List String) (cascade : Bool) :
    Except SqlError String :=
  match dialect with
  | sqlite => .error (dialect.refuses "ADD FOREIGN KEY on an existing table")
  | _ =>
    .ok ("ALTER TABLE " ++ table ++ " ADD " ++
      foreignKeyClause constraint columns primaryTable primaryColumns cascade)

/-- Whether a column that the engine counts up is by that alone the primary key. -/
def countsUpPrimaryKey : Dialect → Bool
  | sqlite => true
  | _ => false

/-- The type of a column that the engine counts up, where another one was asked for. -/
def autoIncrementType (dialect : Dialect) (requested : String) : String :=
  match dialect with
  | sqlite => "INTEGER"
  | _ => requested

end Dialect

end SqlDialects
