import SqlDialects.ColumnMapping
import SqlDialects.Schema.Table

/-!
# Loading datasets

A `BulkSession` loads datasets into one table.  It works within the transaction of its caller, or on
a connection of its own, on which every upload is a transaction.  The columns of the table are asked
for once and remembered.

When the engine rejects the rows, it is asked to find the one at fault, unless it was merely too
slow.

## Main definitions

* `BulkSession`, `Table.beginBulkLoad`, `BulkSession.finish` — a session from beginning to end.
* `BulkSession.map` — how the columns of an input go to those of the table.
* `BulkSession.rowsFor` — the rows of a dataset, as they are handed to the engine.
* `BulkSession.upload` — loads a dataset.
-/

set_option autoImplicit false

namespace SqlDialects

open Text

/-- The count of texts that settle the order of a date column unless another one is set. -/
def defaultSampleSize : Nat := 500

/-- The settings of bulk loads. -/
structure BulkLoadSettings where
  timeout : UInt32 := defaultTimeout
  /-- Columns of the input that go nowhere are left out. -/
  allowUnmatched : Bool := false
  /-- The count of texts that settle the order of a date column. -/
  sampleSize : Nat := defaultSampleSize
  culture : Culture := .enUS
deriving DecidableEq, Repr, Inhabited

/-- A series of uploads to one table. -/
structure BulkSession where
  table : Table
  connection : Connection
  /-- Whether the connection was opened for the session. -/
  ownsConnection : Bool
  settings : BulkLoadSettings
  /-- The columns of the table, once they have been asked for. -/
  columns : Option (List Column) := none

/-- What an upload did. -/
structure UploadStats where
  rows : Nat := 0
  /-- The texts that could not be read as dates and were loaded as null. -/
  nulled : Nat := 0
deriving DecidableEq, Repr, Inhabited

/-- Begins a session. -/
def Table.beginBulkLoad (t : Table) (culture : Culture) (transaction : Option Transaction) :
    Action BulkSession := do
  match transaction with
  | some tx => pure ⟨t, tx.connection, false, { culture }, none⟩
  | none =>
    let c ← Action.openConnection (some t.database.name)
    pure ⟨t, c, true, { culture }, none⟩

namespace BulkSession

/-- Ends the session, and gives up a connection of its own. -/
def finish (s : BulkSession) : Program Unit :=
  if s.ownsConnection then closeConnection s.connection else .done ()

/-! ## Settings -/

/-- Sets the time limit. -/
def withTimeout (s : BulkSession) (timeout : UInt32) : BulkSession :=
  { s with settings := { s.settings with timeout } }

/-- Says whether columns of the input may go nowhere. -/
def withAllowUnmatched (s : BulkSession) (allowUnmatched : Bool) : BulkSession :=
  { s with settings := { s.settings with allowUnmatched } }

/-- Sets the count of texts that settle the order of a date column, which is at least 1. -/
def withSampleSize (s : BulkSession) (size : Nat) : BulkSession :=
  { s with settings := { s.settings with sampleSize := max size 1 } }

/-- Sets everything at once. -/
def withSettings (s : BulkSession) (settings : BulkLoadSettings) : BulkSession :=
  { s with settings := { settings with sampleSize := max settings.sampleSize 1 } }

/-! ## Columns -/

/-- The session with the columns of the table, which are asked for if they are not known. -/
def withColumns (s : BulkSession) : Action BulkSession :=
  match s.columns with
  | some _ => pure s
  | none => do
    let columns ← s.table.columnsOn s.connection
    pure { s with columns := some columns }

/-- Forgets the columns of the table. -/
def forgetColumns (s : BulkSession) : BulkSession := { s with columns := none }

/-- The columns of the table, as far as they are known. -/
def knownColumns (s : BulkSession) : List Column := s.columns.getD []

/-- How the named columns of an input go to the columns of the table. -/
def map (s : BulkSession) (input : List String) : Except SqlError ColumnMapping :=
  mapColumns input (s.knownColumns.map Column.name) s.table.name s.settings.allowUnmatched

/-! ## Rows -/

/-- The columns of the table that the pairs of a mapping lead to. -/
def destinations (s : BulkSession) (m : ColumnMapping) : List Column :=
  m.pairs.filterMap fun pair => s.knownColumns[pair.2]?

/-- The columns of the input with the kinds of the columns that they go to. -/
def targets (s : BulkSession) (m : ColumnMapping) : List (Nat × TypeKind) :=
  m.pairs.filterMap fun pair => do
    let column ← s.knownColumns[pair.2]?
    let kind ← column.type.kind?
    pure (pair.1, kind)

/-- The rows of a dataset in the order of a mapping, dates read, with the count of texts that could
not be read. -/
def rowsFor (s : BulkSession) (m : ColumnMapping) (data : DataSet) :
    Except SqlError (BulkInsert × Nat) := do
  let (data, nulled) ←
    coerceColumns s.settings.culture s.settings.sampleSize data (s.targets m)
  let table ← s.table.qualifiedName
  let columns := (s.destinations m).map Column.name
  let wrapped ← (s.destinations m).mapM Column.wrappedName
  let parameters := s.table.dialect.style.parametersFor columns
  pure
    ({ table, columns, parameters
       insertSql := Dialect.insertRow table wrapped parameters
       rows := data.rows.map fun row => m.pairs.map fun pair => row.getD pair.1 .null
       timeout := s.settings.timeout }, nulled)

/-! ## Uploading -/

/-- What is to be said of rows that the engine rejected. -/
def explain (s : BulkSession) (b : BulkInsert) (fault : SqlError) : Action SqlError := do
  if s.table.database.server.isTimeout fault then pure fault
  else
    let answer : Except SqlError (Option String) ←
      (Action.ask (.investigate s.connection b fault) rfl : Action (Option String)).attempt
    match answer with
    | .ok (some finding) => pure (.bulkInsertFailed finding fault)
    | .ok none => pure fault
    | .error diagnosis => pure (.bulkDiagnosisFailed fault diagnosis)

/-- Hands rows to the engine, in a transaction if the connection is the session's own. -/
def insertAll (s : BulkSession) (b : BulkInsert) : Action Nat := do
  if s.ownsConnection then Action.ask (.beginTransaction s.connection) rfl
  let outcome : Except SqlError Nat ←
    (Action.ask (.bulkInsert s.connection b) rfl : Action Nat).attempt
  match outcome with
  | .ok rows =>
    if s.ownsConnection then Action.ask (.commit s.connection) rfl
    pure rows
  | .error fault =>
    if s.ownsConnection then
      -- the fault is told even if the rollback fails
      let _ ← (Action.ask (.rollback s.connection) rfl : Action Unit).attempt
    throw (← s.explain b fault)

/-- Loads a dataset, the columns of the table being known. -/
def uploadMapped (s : BulkSession) (data : DataSet) : Action UploadStats := do
  let m ← s.map (data.columns.map DataColumn.name)
  if data.rows.isEmpty then pure {}
  else
    let (b, nulled) ← s.rowsFor m data
    let rows ← s.insertAll b
    pure { rows, nulled }

/-- Loads a dataset.  Whether or not that succeeds, the session goes on with what it has learnt of
the columns. -/
def upload (s : BulkSession) (data : DataSet) :
    Program (Except SqlError UploadStats × BulkSession) :=
  s.withColumns.run.andThen fun
    | .error e => .done (.error e, s)
    | .ok s => (s.uploadMapped data).run.andThen fun outcome => .done (outcome, s)

end BulkSession

end SqlDialects
