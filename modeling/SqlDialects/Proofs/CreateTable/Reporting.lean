import SqlDialects.Proofs.CreateTable.Execution

/-!
# What the creation of a table reports

A table is created in two parts: its statement is executed, batch by batch, on one connection, and
then the data, if there is any, is loaded on another.  Either part may fail at any of its steps, and
the engine decides on nearly all of them.  What is reported depends on the part.

* **`Database.RunsScript`** — commands are executed on a connection that is opened for them.
* **`Database.Creates`** — the ways in which the creation of a planned table ends.
* **`createTable_reports`** — it ends in no other way, whatever the engine answers.

An error that the engine gives while the statement is executed is passed on as it is, also when it
looks like an error of loading.  An error that comes afterwards finds the table in place, and is
wrapped with a report of it.  Where a count that the plan rests on is too great there is neither a
plan nor an error, and nothing is reported; `SqlDialects.Proofs.CreateTable.Counting` says when this
cannot be.
-/

set_option autoImplicit false

namespace SqlDialects

/-! ## The statement -/

/-- **Commands are executed on a connection of their own**, which is closed in any case. -/
inductive Database.RunsScript (d : Database) (commands : List Command) :
    Except SqlError Unit → List Exchange → Prop
  | notOpened (e : SqlError) :
      RunsScript d commands (.error e) [⟨.openConnection (some d.name), .error e⟩]
  | opened (c : Connection) {outcome : Except SqlError Unit} {trace : List Exchange}
      (h : Executes c commands outcome trace) :
      RunsScript d commands outcome
        (⟨.openConnection (some d.name), .ok c⟩ :: trace ++ [⟨.close c, ()⟩])

theorem Database.runScript_ensures (d : Database) (script separator : String) (timeout : UInt32) :
    (d.runScript script separator timeout).run.Ensures fun outcome trace =>
      d.RunsScript ((splitBatches script separator).map fun b => b.command timeout)
          (outcome.map fun _ => ()) trace ∧
        ∀ timings, outcome = .ok timings →
          timings = (splitBatches script separator).map Batch.timing := by
  rw [runScript, run_withConnection_none]
  refine .ask fun answer => ?_
  cases answer with
  | error e => exact .done ⟨.notOpened e, fun _ h => by contradiction⟩
  | ok c =>
    refine .andThen (executeBatches_executes c timeout (splitBatches script separator)) ?_
    rintro outcome trace ⟨hexecutes, htimings⟩
    exact .ask fun _ => .done ⟨.opened c hexecutes, htimings⟩

/-- The engine itself has answered with the given error: it has opened no connection, or it has
executed no command. -/
def IsAnswered (e : SqlError) (trace : List Exchange) : Prop :=
  (∃ database, ⟨.openConnection database, Except.error e⟩ ∈ trace) ∨
    ∃ c command, ⟨.execute c command, Except.error e⟩ ∈ trace

theorem Executes.error_answered {c : Connection} {commands : List Command} {e : SqlError}
    {trace : List Exchange} (h : Executes c commands (.error e) trace) :
    ∃ command, ⟨.execute c command, Except.error e⟩ ∈ trace := by
  generalize houtcome : (Except.error e : Except SqlError Unit) = outcome at h
  induction h with
  | nothing => contradiction
  | failed command rest fault =>
    obtain rfl := Except.error.inj houtcome
    exact ⟨command, List.mem_singleton_self _⟩
  | passed _ count _ ih =>
    obtain ⟨command, hmem⟩ := ih houtcome
    exact ⟨command, List.mem_cons_of_mem _ hmem⟩

/-- The error of a script is an answer of the engine. -/
theorem Database.RunsScript.error_answered {d : Database} {commands : List Command} {e : SqlError}
    {trace : List Exchange} (h : d.RunsScript commands (.error e) trace) : IsAnswered e trace := by
  cases h with
  | notOpened _ => exact .inl ⟨some d.name, List.mem_singleton_self _⟩
  | opened c hexecutes =>
    obtain ⟨command, hmem⟩ := hexecutes.error_answered
    exact .inr ⟨c, command, List.mem_append_left _ (List.mem_cons_of_mem _ hmem)⟩

/-! ## The data -/

/-- **Data is to be loaded** just if it is given, has rows, and is not there for the types only. -/
def CreateTableArgs.AsksToLoad (args : CreateTableArgs) (data : DataSet) : Prop :=
  args.data = some data ∧ data.rows ≠ [] ∧ args.createEmpty = false

namespace CreateTableArgs

variable {args : CreateTableArgs}

theorem dataToLoad_eq_some_iff {data : DataSet} :
    args.dataToLoad = some data ↔ args.AsksToLoad data := by
  simp [dataToLoad, AsksToLoad, Option.filter_eq_some_iff, and_comm]

theorem dataToLoad_eq_none_iff : args.dataToLoad = none ↔ ∀ data, ¬ args.AsksToLoad data := by
  simp [← dataToLoad_eq_some_iff, Option.eq_none_iff_forall_ne_some]

end CreateTableArgs

/-! ## The whole -/

namespace CreateTablePlan

/-- The commands for the statement of a plan. -/
def commands (plan : CreateTablePlan) (args : CreateTableArgs) : List Command :=
  (splitBatches plan.sql args.batchSeparator).map fun b => b.command args.timeout

/-- What is reported of a table that is there and has no rows: the statement, the types that have
been settled, and a timing for each batch. -/
def report (plan : CreateTablePlan) (args : CreateTableArgs) : CreateTableReport where
  table := args.table
  sql := plan.sql
  inferredTypes := plan.inferredTypes
  batches := (splitBatches plan.sql args.batchSeparator).map Batch.timing

end CreateTablePlan

/-- There is one timing for each command that has been given, if all of them have passed. -/
theorem Database.RunsScript.batches_length {d : Database} {plan : CreateTablePlan}
    {args : CreateTableArgs} {trace : List Exchange}
    (h : d.RunsScript (plan.commands args) (.ok ()) trace) :
    (plan.report args).batches.length = (givenCommands trace).length := by
  generalize houtcome : (Except.ok () : Except SqlError Unit) = outcome at h
  cases h with
  | notOpened e => contradiction
  | opened c hexecutes =>
    obtain rfl := houtcome
    simp [CreateTablePlan.report, givenCommands_cons, command?, hexecutes.givenCommands_eq,
      CreateTablePlan.commands]

/-- The table that is asked for. -/
def Database.newTable (d : Database) (args : CreateTableArgs) : Table :=
  d.table args.table args.schema .table

/-- **The creation of a planned table ends** in one of these ways. -/
inductive Database.Creates (d : Database) (args : CreateTableArgs) (plan : CreateTablePlan) :
    Except SqlError (Table × CreateTableReport) → List Exchange → Prop
  /-- The statement has not been executed as a whole, and nothing else is done. -/
  | notExecuted {e : SqlError} {trace : List Exchange}
      (h : d.RunsScript (plan.commands args) (.error e) trace) :
      Creates d args plan (.error e) trace
  /-- There is nothing to be loaded. -/
  | created {trace : List Exchange} (hdata : ∀ data, ¬ args.AsksToLoad data)
      (h : d.RunsScript (plan.commands args) (.ok ()) trace) :
      Creates d args plan (.ok (d.newTable args, plan.report args)) trace
  | loaded {data : DataSet} {rows : Nat} {creating loading : List Exchange}
      (hdata : args.AsksToLoad data)
      (hcreating : d.RunsScript (plan.commands args) (.ok ()) creating)
      (hloading : (d.newTable args).Loads data args.culture args.timeout (.ok rows) loading)
      (hrows : ∃ c b, ⟨.bulkInsert c b, Except.ok rows⟩ ∈ loading) :
      Creates d args plan
        (.ok (d.newTable args, { plan.report args with rowsUploaded := rows }))
        (creating ++ loading)
  | notLoaded {data : DataSet} {cause : SqlError} {creating loading : List Exchange}
      (hdata : args.AsksToLoad data)
      (hcreating : d.RunsScript (plan.commands args) (.ok ()) creating)
      (hloading : (d.newTable args).Loads data args.culture args.timeout (.error cause) loading) :
      Creates d args plan (.error (.uploadAfterCreateFailed (plan.report args) cause))
        (creating ++ loading)

theorem Database.createPlanned_ensures (d : Database) (args : CreateTableArgs)
    (plan : CreateTablePlan) :
    (d.createPlanned args plan).run.Ensures (d.Creates args plan) := by
  refine .bind (d.runScript_ensures plan.sql args.batchSeparator args.timeout) ?_ ?_
  · rintro timings creating ⟨hcreating, htimings⟩
    obtain rfl := htimings timings rfl
    cases hload : args.dataToLoad with
    | none =>
      refine .done ?_
      rw [List.append_nil]
      exact .created (CreateTableArgs.dataToLoad_eq_none_iff.mp hload) hcreating
    | some data =>
      have hdata := CreateTableArgs.dataToLoad_eq_some_iff.mp hload
      refine .attempt_bind (Table.load_ensures _ data args.culture args.timeout) ?_
      intro outcome loading hloading
      cases outcome with
      | ok rows =>
        refine .done ?_
        rw [List.append_nil]
        exact .loaded hdata hcreating hloading (hloading.rows_answered hdata.2.1)
      | error cause =>
        refine .done ?_
        rw [List.append_nil]
        exact .notLoaded hdata hcreating hloading
  · rintro e trace ⟨hcreating, -⟩
    exact .notExecuted hcreating

/-- A plan for which all counts can be taken is the plan. -/
theorem planCreateTable?_eq_some {d : Database} {args : CreateTableArgs}
    {planned : Except SqlError CreateTablePlan} (h : planCreateTable? d args = some planned) :
    planCreateTable d args = planned := by
  rw [planCreateTable?, Option.map_eq_some_iff] at h
  obtain ⟨_, -, hplanned⟩ := h
  exact hplanned

/-- Then the creation of the table goes ahead. -/
theorem Database.createTable?_eq_some {d : Database} {args : CreateTableArgs}
    {planned : Except SqlError CreateTablePlan} (h : planCreateTable? d args = some planned) :
    d.createTable? args = some (d.createTable args) := by
  rw [createTable?, h, Option.map_some, createTable, planCreateTable?_eq_some h]

/-- **The creation of a table reports exactly what has happened**, whatever the engine answers, if
all counts can be taken that its plan rests on.  A table that cannot be planned is not asked for.
An error is one of loading, with the report of the table that is there, only if loading has been
begun and has failed, unless the engine itself says so while the statement is executed. -/
theorem createTable_reports (d : Database) (args : CreateTableArgs)
    {planned : Except SqlError CreateTablePlan} (h : planCreateTable? d args = some planned) :
    ∃ action, d.createTable? args = some action ∧ action.run.Ensures fun outcome trace =>
      match planned with
      | .error e => outcome = .error e ∧ trace = []
      | .ok plan =>
        d.Creates args plan outcome trace ∧
          ∀ report cause, outcome = .error (.uploadAfterCreateFailed report cause) →
            ¬ IsAnswered (.uploadAfterCreateFailed report cause) trace →
            report = plan.report args ∧ report.batches.length = (givenCommands trace).length ∧
              ∃ data creating loading, args.AsksToLoad data ∧ trace = creating ++ loading ∧
                (d.newTable args).Loads data args.culture args.timeout (.error cause) loading := by
  refine ⟨d.createTable args, Database.createTable?_eq_some h, ?_⟩
  have hplan := planCreateTable?_eq_some h
  rw [Database.createTable]
  cases planned with
  | error e =>
    rw [hplan]
    exact .done ⟨rfl, rfl⟩
  | ok plan =>
    rw [hplan]
    show Program.Ensures (d.createPlanned args plan).run _
    refine (d.createPlanned_ensures args plan).mono fun outcome trace hcreates => ⟨hcreates, ?_⟩
    rintro report cause houtcome hnot
    cases hcreates with
    | notExecuted hcreating =>
      obtain rfl := Except.error.inj houtcome
      exact absurd hcreating.error_answered hnot
    | created _ _ | loaded _ _ _ _ => contradiction
    | notLoaded hdata hcreating hloading =>
      obtain ⟨rfl, rfl⟩ := SqlError.uploadAfterCreateFailed.inj (Except.error.inj houtcome)
      refine ⟨rfl, ?_, _, _, _, hdata, rfl, hloading⟩
      rw [givenCommands_append, hloading.givenCommands_eq_nil, List.append_nil]
      exact hcreating.batches_length

/-! ## A table of notes -/

/-- One note. -/
def oneNote : DataSet where
  name := "notes"
  columns := [{ name := "note" }]
  rows := [[.text "late"]]

/-- A table of notes, with one to be loaded. -/
def notesTable : CreateTableArgs where
  table := "notes"
  data := some oneNote

/-- The plan of that table. -/
def notesPlan : CreateTablePlan where
  columns := [.ofType "note" (.string 4)]
  inferredTypes := [("note", .string 4)]
  sql := "CREATE TABLE [shop]..[notes](\n[note] varchar(4) NULL\n)"

/-- What an engine says of a note that it has already. -/
def duplicateNote : AdapterFault := ⟨"duplicate note", some .constraint⟩

/-- An engine that makes the table and then rejects the note twice. -/
def rejectingScript : Script where
  tables := [{ info := ⟨"notes", none, .table⟩
               columns := [{ name := "note", sqlType := "varchar(4)", nullable := true }] }]
  failRules := [{ on := .executed, contains := "INSERT", times := 2
                  fault := .adapter duplicateNote }]

/-- The table is there, and the error of the row is reported with it. -/
theorem createTable_reports_duplicate :
    planCreateTable? (shop .mssql) notesTable = some (.ok notesPlan) ∧
      ∃ action, (shop .mssql).createTable? notesTable = some action ∧
        let run := action.run.run (Script.engine.expand .plainRows) rejectingScript
        run.1 = .error
            (.uploadAfterCreateFailed (notesPlan.report notesTable) (.adapter duplicateNote)) ∧
          (shop .mssql).Creates notesTable notesPlan run.1 run.2.1 := by
  have hplan : planCreateTable? (shop .mssql) notesTable = some (.ok notesPlan) := rfl
  obtain ⟨action, haction, hreports⟩ := createTable_reports (shop .mssql) notesTable hplan
  obtain ⟨hcreates, -⟩ := hreports Script (Script.engine.expand .plainRows) rejectingScript
  refine ⟨hplan, action, haction, ?_, hcreates⟩
  obtain rfl := Option.some.inj ((Database.createTable?_eq_some hplan).symm.trans haction)
  rfl

/-- An engine that opens no connection, and says of it what is only to be said of data. -/
def blamingScript : Script where
  failRules :=
    [{ on := .opened
       fault := .uploadAfterCreateFailed (notesPlan.report notesTable) (.adapter duplicateNote) }]

/-- A table with a column of more digits than can be counted. -/
def longDecimalTable : CreateTableArgs where
  table := "t"
  explicitColumns := [.ofType "a" (.decimal (.ofDigits 4294967295 1))]

/-- An error of loading may be the engine's own, though nothing has been executed; and where digits
cannot be counted, there is neither a plan nor an error. -/
theorem createTable_reports_loading_unloaded :
    (∃ action, (shop .mssql).createTable? notesTable = some action ∧
      let run := action.run.run Script.engine blamingScript
      (∃ report cause, run.1 = .error (.uploadAfterCreateFailed report cause)) ∧
        givenCommands run.2.1 = [] ∧ run.2.1.length = 1) ∧
      planCreateTable? (shop .mssql) longDecimalTable = none ∧
      (shop .mssql).createTable? longDecimalTable = none :=
  ⟨⟨_, rfl, ⟨_, _, rfl⟩, rfl, rfl⟩, rfl, rfl⟩

end SqlDialects
