import SqlDialects.DateCoercion
import SqlDialects.Dialect.Parameter
import SqlDialects.Schema.Column

/-!
# Operations on tables

Everything that can be asked of a table or done to it.  Each operation runs within the transaction
of its caller if there is one, and otherwise on a connection of its own.

## Main definitions

* `Table.columns`, `Table.column`, `Table.relationships` — what the catalog says.
* `Table.addColumn`, `Table.renameTo`, `Table.addForeignKey`, and others — changes of the schema.
* `Table.makeDistinct` — leaves each row once.
* `Table.insert` — inserts one row.
-/

set_option autoImplicit false

namespace SqlDialects

open Text

/-- The tables of a database, and its views too if asked. -/
def Database.tables (d : Database) (includeViews : Bool) (transaction : Option Transaction) :
    Action (List Table) := do
  let infos ← withConnection (some d.name) transaction fun c =>
    (Action.ask (.listTables c d.name includeViews) rfl : Action (List TableInfo))
  pure (infos.map fun info => d.table info.name info.schema info.tableType)

namespace Table

/-! ## Asking -/

/-- Runs an action on a connection to the database of the table. -/
def onConnection {α : Type} (t : Table) (transaction : Option Transaction)
    (action : Connection → Action α) : Action α :=
  withConnection (some t.database.name) transaction action

/-- Executes one statement. -/
def execute (t : Table) (transaction : Option Transaction) (sql : String) : Action Unit := do
  let _ ← t.onConnection transaction fun c => Action.execute c { text := sql }

/-- Whether an entry of the catalog is the given table.  A schema that either side does not know is
of no account. -/
def isListedAs (ref : TableRef) (info : TableInfo) : Bool :=
  sameName info.name ref.table && info.tableType == ref.tableType &&
    match info.schema, ref.schema with
    | some a, some b => sameName a b
    | _, _ => true

/-- Whether there is such a table. -/
def exists? (t : Table) (transaction : Option Transaction) : Action Bool :=
  t.onConnection transaction fun c => do
    let infos : List TableInfo ←
      Action.ask (.listTables c t.database.name (t.tableType != .table)) rfl
    pure (infos.any (isListedAs t.ref))

/-- The columns of the table, asked on the given connection. -/
def columnsOn (t : Table) (c : Connection) : Action (List Column) := do
  let infos ← Action.describeColumns c t.ref
  pure (infos.map (Column.ofInfo t))

/-- The columns of the table. -/
def columns (t : Table) (transaction : Option Transaction) : Action (List Column) :=
  t.onConnection transaction t.columnsOn

/-- The first column of the given name, whatever its case. -/
def column (t : Table) (name : String) (transaction : Option Transaction) : Action Column := do
  let columns ← t.columns transaction
  match columns.find? fun column => sameName column.name name with
  | some column => pure column
  | none => throw (.invalidArgument (.noSuchColumn name t.name))

/-- The foreign keys that refer to the table. -/
def relationships (t : Table) (transaction : Option Transaction) : Action (List Relationship) :=
  t.onConnection transaction fun c => Action.ask (.listRelationships c t.ref) rfl

/-- The count of rows. -/
def rowCount (t : Table) (transaction : Option Transaction) : Action Nat := do
  let sql := Dialect.rowCount (← t.qualifiedName)
  let count ← t.onConnection transaction fun c => Action.scalar c { text := sql }
  pure (count.integer?.getD 0).toNat

/-- The query for the first `n` rows. -/
def selectTop (t : Table) (n : Nat) : Except SqlError String :=
  t.qualifiedName.map fun name => t.dialect.style.selectTop name "*" n

/-! ## Changing the schema -/

/-- Removes the table. -/
def drop (t : Table) (transaction : Option Transaction) : Action Unit :=
  t.onConnection transaction fun c => Action.ask (.dropTable c t.ref) rfl

/-- Adds a column of the named type. -/
def addColumnOfType (t : Table) (name sqlType : String) (nullable : Bool)
    (transaction : Option Transaction) : Action Unit := do
  t.dialect.style.checkObjectName .column name
  let table ← t.qualifiedName
  let column ← t.dialect.style.wrap name
  t.execute transaction (Dialect.addColumn table column sqlType nullable)

/-- Adds a column of the requested type. -/
def addColumn (t : Table) (name : String) (r : TypeRequest) (nullable : Bool)
    (transaction : Option Transaction) : Action Unit :=
  t.addColumnOfType name (t.dialect.declare r) nullable transaction

/-- The same; nothing if the digits of a decimal cannot be counted. -/
def addColumn? (t : Table) (name : String) (r : TypeRequest) (nullable : Bool)
    (transaction : Option Transaction) : Option (Action Unit) :=
  (t.dialect.declare? r).map fun sqlType => t.addColumnOfType name sqlType nullable transaction

/-- Removes a column. -/
def dropColumn (t : Table) (name : String) (transaction : Option Transaction) : Action Unit := do
  let table ← t.qualifiedName
  let column ← t.dialect.style.wrap name
  t.execute transaction (Dialect.dropColumn table column)

/-- Renames the table, and gives the handle for it under its new name. -/
def rename (t : Table) (newName : String) (transaction : Option Transaction) : Action Table := do
  if t.tableType ≠ .table then
    throw (t.dialect.refuses ("renaming a " ++ t.tableType.label))
  let style := t.dialect.style
  style.checkObjectName .table newName
  let newQualified ← style.qualifyTable t.database.name t.schema newName
  let old ← t.qualifiedName
  let newWrapped ← style.wrap newName
  t.execute transaction (t.dialect.renameTable old newName newWrapped newQualified)
  pure { t with name := newName }

/-- Renames the table.  The handle follows the new name once the statement has succeeded, and is
left as it was if anything fails. -/
def renameTo (t : Table) (newName : String) (transaction : Option Transaction) :
    Program (Except SqlError Unit × Table) :=
  (t.rename newName transaction).run.andThen fun
    | .error e => .done (.error e, t)
    | .ok renamed => .done (.ok (), renamed)

/-- Removes all rows. -/
def truncate (t : Table) (transaction : Option Transaction) : Action Unit := do
  let table ← t.qualifiedName
  t.execute transaction (t.dialect.truncate table)

/-- Executes statements in order, up to the first that fails. -/
def runStatements (c : Connection) (timeout : UInt32) : List String → Action Unit
  | [] => pure ()
  | sql :: rest => do
    let _ ← Action.execute c { text := sql, timeout }
    runStatements c timeout rest

/-- Leaves each row of the table once.  The rows go through a scratch table, all in one
transaction. -/
def makeDistinct (t : Table) (timeout : UInt32) (transaction : Option Transaction) :
    Action Unit := do
  let style := t.dialect.style
  let scratchName := t.name ++ "_DistinctingTemp"
  style.checkObjectName .table scratchName
  let scratch ← style.qualifyTable t.database.name t.schema scratchName
  let table ← t.qualifiedName
  withTransaction (some t.database.name) transaction fun c =>
    runStatements c timeout (t.dialect.makeDistinct table scratch)

/-- Makes columns the primary key. -/
def addPrimaryKey (t : Table) (columns : List String) (transaction : Option Transaction) :
    Action Unit := do
  if columns.isEmpty then throw (.invalidArgument (.noKeyColumns t.name))
  let wrapped ← (columns.mapM t.dialect.style.wrap : Except SqlError _)
  let table ← t.qualifiedName
  let keyName := primaryKeyName (t.database.server.tokens 0) t.name
  let sql ← t.dialect.addPrimaryKey table keyName wrapped
  t.execute transaction sql

/-- The one table that the primary columns of a foreign key belong to. -/
def primaryTable (pairs : List (Column × Column)) : Except SqlError Table :=
  match pairs with
  | [] => .error (.invalidArgument .noKeyPairs)
  | (_, first) :: _ =>
    if pairs.all fun pair => pair.2.table.same first.table then .ok first.table
    else
      .error (.invalidArgument (.severalPrimaryTables (pairs.map fun pair => pair.2.table.name)))

/-- Makes columns of the table refer to columns of another.  The pairs are of a column of this table
and the column that it refers to. -/
def addForeignKey (t : Table) (pairs : List (Column × Column)) (cascade : Bool)
    (transaction : Option Transaction) : Action Relationship := do
  let primary ← primaryTable pairs
  match pairs.find? fun pair => !pair.1.table.same t with
  | some (foreign, _) => throw (.invalidArgument (.foreignTable foreign.name t.name))
  | none => pure ()
  let tokens := t.database.server.tokens
  let constraint := foreignKeyName (tokens 0) (tokens 1) t.name primary.name
  let foreignColumns ← ((pairs.map Prod.fst).mapM Column.wrappedName : Except SqlError _)
  let primaryColumns ← ((pairs.map Prod.snd).mapM Column.wrappedName : Except SqlError _)
  let table ← t.qualifiedName
  let primaryName ← primary.qualifiedName
  let sql ← t.dialect.addForeignKey table constraint foreignColumns primaryName primaryColumns
    cascade
  t.execute transaction sql
  pure
    { name := constraint, primaryTable := primary.name, foreignTable := t.name
      keys := pairs.map fun (foreign, primary) => (primary.name, foreign.name)
      rule := CascadeRule.ofCascade cascade }

/-! ## Inserting -/

/-- The value that is bound for a column: text that goes to a date or time column is read as
such. -/
def boundValue (reader : DateReader) (column : Column) (value : SqlValue) : SqlValue :=
  match column.type.kind? with
  | some kind => if kind.isDateLike then (coerceCell reader kind value).1 else value
  | none => value

/-- The columns that values go to, each with the name between quotes and the value that is bound. -/
def bindValues (t : Table) (columns : List Column) (reader : DateReader) :
    List (String × SqlValue) → Except SqlError (List (String × String × SqlValue))
  | [] => .ok []
  | (name, value) :: rest => do
    match columns.find? fun column => sameName column.name name with
    | none => throw (.columnMapping name t.name)
    | some column =>
      let wrapped ← column.wrappedName
      let bound ← t.bindValues columns reader rest
      pure ((column.name, wrapped, boundValue reader column value) :: bound)

/-- Inserts a row, and gives the value that the engine has counted up for it; 0 if there is none. -/
def insert (t : Table) (values : List (String × SqlValue)) (culture : Culture)
    (transaction : Option Transaction) : Action Int := do
  let table ← t.qualifiedName
  t.onConnection transaction fun c => do
    let columns ← t.columnsOn c
    let bound ← t.bindValues columns (DateReader.ofCulture culture) values
    let parameters := t.dialect.style.parametersFor (bound.map fun entry => entry.1)
    let _ ← Action.execute c
      { text := Dialect.insertRow table (bound.map fun entry => entry.2.1) parameters
        parameters := parameters.zip (bound.map fun entry => entry.2.2) }
    -- asked on the same connection, which alone remembers the value
    match columns.find? Column.isAutoIncrement with
    | none => pure 0
    | some identity =>
      let wrapped ← identity.wrappedName
      match t.dialect.lastIdentity table (some wrapped) with
      | none => pure 0
      | some sql =>
        let value ← Action.scalar c { text := sql }
        pure (value.integer?.getD 0)

end Table

end SqlDialects
