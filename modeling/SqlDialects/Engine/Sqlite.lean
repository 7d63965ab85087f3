import SqlDialects.Dialect.Quotes
import SqlDialects.Dialect.Statement
import SqlDialects.Engine.Program
import SqlDialects.Identifier
import SqlDialects.Keyword

/-!
# SQLite

SQLite stores values in five classes only, keeps its catalog in tables that are queried like any
others, and undoes part of a transaction by means of a savepoint.

## Main definitions

* `Sqlite.Stored` — the storage classes; `Sqlite.stored` — what a value is read back as.
* `Sqlite.listTables`, `describeColumns`, `listRelationships`, `dropTable` — the catalog.
* `Sqlite.bulkInsert`, `investigate` — loading rows, all or none, and looking for the faulty one.
* `Sqlite.foreignKeysEnforced` — what the settings of a new connection amount to.
-/

set_option autoImplicit false

namespace SqlDialects

open Text

/-! ## Inserting rows one by one -/

/-- Executes the insert statement for each row, and sums up the affected rows. -/
def insertRows (c : Connection) (b : BulkInsert) : List (List SqlValue) → Action Nat
  | [] => pure 0
  | row :: rows => do
    let affected ← Action.execute c (b.rowCommand row)
    let more ← insertRows c b rows
    pure (affected + more)

namespace Sqlite

/-! ## Values -/

/-- The name of the one database. -/
def mainDatabase : String := "main"

/-- What is stored in one place of a table: a value of one of the five storage classes. -/
inductive Stored where
  | null
  | integer (n : Int64)
  | real (x : Binary64)
  | text (s : String)
  | blob (b : List UInt8)
deriving DecidableEq, Repr, Inhabited

namespace Stored

/-- The form in which a value is stored: whole numbers as integers, doubles and bytes as they are,
and everything else as text.  A NaN is stored as null. -/
def ofValue : SqlValue → Stored
  | .null => null
  | .bool b => integer (if b then 1 else 0)
  | .byte n => integer (Int64.ofInt n.toNat)
  | .int16 n => integer (Int64.ofInt n.toInt)
  | .int32 n => integer (Int64.ofInt n.toInt)
  | .int64 n => integer n
  | .double x => if x.isNaN then null else real x
  | .decimal d => text d.render
  | .text s => text s
  | .bytes b => blob b
  | .guid g => text g.render
  | .dateTime dt => text (String.ofList dt.render)
  | .date d => text (String.ofList d.render)
  | .time t => text (String.ofList t.render)

/-- The value that is read back.  Its form is that of the storage class. -/
def value : Stored → SqlValue
  | null => .null
  | integer n => .int64 n
  | real x => .double x
  | text s => .text s
  | blob b => .bytes b

/-- The name of the storage class. -/
def className : Stored → String
  | null => "null"
  | integer _ => "integer"
  | real _ => "real"
  | text _ => "text"
  | blob _ => "blob"

end Stored

/-- The form in which a value is stored and read back. -/
def stored (v : SqlValue) : SqlValue := (Stored.ofValue v).value

/-- The name of the class in which a value is stored. -/
def storageClass (v : SqlValue) : String := (Stored.ofValue v).className

/-- The text in a cell of the catalog; an integer counts as its numeral. -/
def textAt (row : List SqlValue) (index : Nat) : String :=
  match row[index]? with
  | some (.text s) => s
  | some (.int64 n) => toString n.toInt
  | _ => ""

/-- The integer in a cell of the catalog. -/
def integerAt (row : List SqlValue) (index : Nat) : Int :=
  ((row[index]?).bind SqlValue.integer?).getD 0

/-! ## The catalog -/

/-- The marks around a name. -/
def marks : Quotes := ⟨'\x22', '\x22'⟩

/-- The name between quotes. -/
def quoteName (name : String) : String := String.ofList (marks.quote name.toList)

/-- The name of a database, which is the main one if none is named. -/
def databaseOrMain (database : String) : String :=
  if isBlankText database then mainDatabase else database

/-- The names of the databases. -/
def listDatabases (c : Connection) : Action (List String) := do
  let rows ← Action.query c { text := "SELECT name FROM pragma_database_list ORDER BY seq" }
  pure (rows.map fun row => textAt row 0)

/-- The entry for a row of the list of tables. -/
def tableOfRow (includeViews : Bool) (row : List SqlValue) : Option TableInfo :=
  match textAt row 1 with
  | "table" => some { name := textAt row 0, tableType := .table }
  | "view" => if includeViews then some { name := textAt row 0, tableType := .view } else none
  | _ => none

/-- The tables of a database, and its views too if asked. -/
def listTables (c : Connection) (database : String) (includeViews : Bool) :
    Action (List TableInfo) := do
  let rows ← Action.query c
    { text := "SELECT name, type FROM " ++ quoteName (databaseOrMain database) ++
        ".sqlite_master WHERE type IN ('table', 'view') AND name NOT LIKE 'sqlite\\_%' " ++
        "ESCAPE '\\' ORDER BY name" }
  pure (rows.filterMap (tableOfRow includeViews))

/-- The entry for a row of the list of columns. -/
def columnOfRow (countsUp : Bool) (row : List SqlValue) : ColumnInfo :=
  let sqlType := textAt row 1
  let isPrimaryKey := 0 < integerAt row 3
  { name := textAt row 0
    sqlType
    nullable := integerAt row 2 = 0
    isPrimaryKey
    isAutoIncrement := countsUp && isPrimaryKey && sameName sqlType "integer"
    attributes := match (row[4]?).bind SqlValue.text? with
      | some value => [("default", value)]
      | none => [] }

/-- The columns of a table.  Whether one of them counts up shows only in the statement that created
the table. -/
def describeColumns (c : Connection) (table : TableRef) : Action (List ColumnInfo) := do
  let trimmedName := trimmed table.database
  let schema := if trimmedName.isEmpty then mainDatabase else trimmedName
  let created ← Action.scalar c
    { text := "SELECT sql FROM " ++ quoteName schema ++ ".sqlite_master WHERE name = @table"
      parameters := [("@table", .text table.table)] }
  let countsUp :=
    contains "AUTOINCREMENT".toList (upper (created.text?.getD "").toList)
  let rows ← Action.query c
    { text := "SELECT name, type, \"notnull\", pk, dflt_value FROM " ++
        "pragma_table_info(@table, @schema) ORDER BY cid"
      parameters := [("@table", .text table.table), ("@schema", .text schema)] }
  pure (rows.map (columnOfRow countsUp))

/-- The rows of a list that have the same key as the first, and the others. -/
def groupByKey : List (Int × List SqlValue) → List (Int × List (List SqlValue))
  | [] => []
  | (key, row) :: rest =>
    let groups := groupByKey rest
    match groups.find? fun group => group.1 = key with
    | some group => (key, row :: group.2) :: groups.filter fun group => group.1 ≠ key
    | none => (key, [row]) :: groups

/-- The foreign keys of a child table that refer to the given table, by ascending number. -/
def relationshipsOfRows (tokens : TokenSource) (table child : String)
    (rows : List (List SqlValue)) : List Relationship :=
  let matching := rows.filter fun row => sameName (textAt row 1) table
  let groups := (groupByKey (matching.map fun row => (integerAt row 0, row))).mergeSort
    fun a b => a.1 ≤ b.1
  groups.mapIdx fun i (_, rows) =>
    { name := foreignKeyName (tokens (2 * i)) (tokens (2 * i + 1)) child table
      primaryTable := table
      foreignTable := child
      keys := rows.map fun row => (textAt row 3, textAt row 2)
      rule := CascadeRule.ofAction (textAt (rows.headD []) 4) }

/-- The foreign keys of the given children that refer to a table. -/
def relationshipsOf (c : Connection) (schema table : String) :
    TokenSource → List TableInfo → Action (List Relationship)
  | _, [] => pure []
  | tokens, child :: children => do
    let rows ← Action.query c
      { text := "SELECT id, \"table\", \"from\", \"to\", on_delete FROM " ++
          "pragma_foreign_key_list(@table, @schema) ORDER BY id, seq"
        parameters := [("@table", .text child.name), ("@schema", .text schema)] }
    let found := relationshipsOfRows tokens table child.name rows
    let more ← relationshipsOf c schema table (fun n => tokens (2 * found.length + n)) children
    pure (found ++ more)

/-- The foreign keys that refer to a table. -/
def listRelationships (tokens : TokenSource) (c : Connection) (table : TableRef) :
    Action (List Relationship) := do
  let schema := databaseOrMain table.database
  let children ← listTables c schema false
  relationshipsOf c schema table.table tokens children

/-- Removes a table or view. -/
def dropTable (c : Connection) (table : TableRef) : Action Unit := do
  if table.tableType = .tableValuedFunction then
    throw (Dialect.sqlite.refuses "table-valued functions")
  let name := quoteName (databaseOrMain table.database) ++ "." ++ quoteName table.table
  let _ ← Action.execute c { text := Dialect.dropTable name table.tableType }
  pure ()

/-! ## Loading rows -/

/-- The name of the savepoint. -/
def savepoint : String := "dialectkit_bulk"

/-- Sets the savepoint. -/
def setSavepoint (c : Connection) : Action Unit := do
  let _ ← Action.execute c { text := "SAVEPOINT " ++ savepoint }

/-- Gives up the savepoint and keeps what was done since. -/
def releaseSavepoint (c : Connection) : Action Unit := do
  let _ ← Action.execute c { text := "RELEASE " ++ savepoint }

/-- Undoes what was done since the savepoint, and gives it up. -/
def undoToSavepoint (c : Connection) : Action Unit := do
  let _ ← Action.execute c { text := "ROLLBACK TO " ++ savepoint }
  releaseSavepoint c

/-- Inserts all rows, or none. -/
def bulkInsert (c : Connection) (b : BulkInsert) : Action Nat := do
  setSavepoint c
  match ← (insertRows c b b.rows).attempt with
  | .ok affected =>
    releaseSavepoint c
    pure affected
  | .error fault =>
    undoToSavepoint c
    throw fault

/-- What is said of a row that was rejected. -/
def rejection (b : BulkInsert) (index : Nat) (row : List SqlValue) (fault : SqlError) : String :=
  let cells := (b.columns.zip row).map fun (column, value) => column ++ "=" ++ value.describe
  "row " ++ toString (index + 1) ++ " (" ++ ", ".intercalate cells ++ ") was rejected: " ++
    fault.message

/-- Inserts the rows from the given place on, up to the first that is rejected. -/
def findRejected (c : Connection) (b : BulkInsert) :
    (index : Nat) → List (List SqlValue) → Action (Option String)
  | _, [] => pure none
  | index, row :: rows => do
    match ← (Action.execute c (b.rowCommand row)).attempt with
    | .ok _ => findRejected c b (index + 1) rows
    | .error fault => pure (some (rejection b index row fault))

/-- Looks for the first row that is rejected, and leaves the table as it was. -/
def investigate (c : Connection) (b : BulkInsert) : Action (Option String) := do
  setSavepoint c
  let finding ← findRejected c b 0 b.rows
  undoToSavepoint c
  pure finding

/-- An engine that is busy or locked was too slow; it has not rejected anything. -/
def isTimeout (e : SqlError) : Bool :=
  match e.adapterFault? with
  | some fault => fault.code == some .busy || fault.code == some .locked
  | none => false

/-! ## Settings of a connection -/

/-- The settings that every connection has unless stronger ones replace them. -/
def defaultKeywords : KeywordSet := [⟨"foreign_keys", "ON", .systemDefaultLow⟩]

/-- Whether the engine takes the text for the name of a setting. -/
def isSettingName (name : String) : Bool :=
  match name.toList with
  | [] => false
  | c :: rest => (c.isAlpha || c == '_') && rest.all isPlain

/-- The value of a numeral at the front of a text, in base sixteen after `0x` and in base ten
otherwise; 0 if it is too large for 31 bits. -/
def readLeadingNumeral (s : Chars) : Nat :=
  let value := match s with
    | '0' :: x :: rest =>
      let digits := rest.takeWhile fun c => (digitIn? 16 c).isSome
      if (x == 'x' || x == 'X') && !digits.isEmpty then (readInBase 16 digits).getD 0
      else Nat.ofDigitChars 10 (s.takeWhile Char.isDigit) 0
    | _ => Nat.ofDigitChars 10 (s.takeWhile Char.isDigit) 0
  if value < Nat.pow 2 31 then value else 0

/-- How the engine reads the value of a switch: a numeral whose value, in 8 bits, is not zero, or
one of the words for true. -/
def readSwitch (value : String) : Bool :=
  if (value.toList.head?).any Char.isDigit then readLeadingNumeral value.toList % 256 != 0
  else ["on", "yes", "true"].any (sameName value)

/-- Whether a new connection with the given settings enforces foreign keys.  A setting whose name
the engine cannot take is an error. -/
def foreignKeysEnforced : (sofar : Bool) → KeywordSet → Except SqlError Bool
  | sofar, [] => .ok sofar
  | sofar, k :: rest =>
    if !k.name.toList.all isPlain then .error (.config (.connectionKeyword k.name))
    else if !isSettingName k.name then
      .error (.adapter { text := "Invalid keyword \"" ++ k.name ++ "\"" })
    else
      let sofar := if sameName k.name "foreign_keys" then readSwitch k.value else sofar
      foreignKeysEnforced sofar rest

end Sqlite

end SqlDialects
