import SqlDialects.BulkLoad
import SqlDialects.CreateTable.Plan

/-!
# Creating a table

A table is planned, its statement executed in batches, and the data loaded into it.  Once the table
is there, an error says so and carries the report of what was done.
-/

set_option autoImplicit false

namespace SqlDialects

namespace CreateTableArgs

/-- The data to be loaded, if there is any. -/
def dataToLoad (args : CreateTableArgs) : Option DataSet :=
  args.data.filter fun data => !args.createEmpty && !data.rows.isEmpty

end CreateTableArgs

/-- Executes a script on a connection of its own. -/
def Database.runScript (d : Database) (script separator : String) (timeout : UInt32) :
    Action (List BatchTiming) :=
  withConnection (some d.name) none fun c => runBatches c script separator timeout

/-- Loads data in a session of its own, and gives the count of rows. -/
def Table.load (t : Table) (data : DataSet) (culture : Culture) (timeout : UInt32) :
    Action Nat := do
  let session ← t.beginBulkLoad culture none
  let session := session.withTimeout timeout
  ExceptT.mk ((session.upload data).andThen fun (outcome, session) =>
    session.finish.andThen fun _ => .done (outcome.map UploadStats.rows))

/-- Creates the planned table and loads the data into it. -/
def Database.createPlanned (d : Database) (args : CreateTableArgs) (plan : CreateTablePlan) :
    Action (Table × CreateTableReport) := do
  let table := d.table args.table args.schema .table
  let batches ← d.runScript plan.sql args.batchSeparator args.timeout
  let report : CreateTableReport :=
    { table := table.name, sql := plan.sql, inferredTypes := plan.inferredTypes, batches }
  match args.dataToLoad with
  | none => pure (table, report)
  | some data =>
    match ← (table.load data args.culture args.timeout).attempt with
    | .ok rows => pure (table, { report with rowsUploaded := rows })
    | .error cause => throw (.uploadAfterCreateFailed report cause)

/-- Creates a table. -/
def Database.createTable (d : Database) (args : CreateTableArgs) :
    Action (Table × CreateTableReport) := do
  let plan ← planCreateTable d args
  d.createPlanned args plan

/-- The same; nothing if no plan is made for a count that is too great. -/
def Database.createTable? (d : Database) (args : CreateTableArgs) :
    Option (Action (Table × CreateTableReport)) :=
  (planCreateTable? d args).map fun (planned : Except SqlError CreateTablePlan) => do
    let plan ← planned
    d.createPlanned args plan

end SqlDialects
